import Mathlib.Tactic.Common

namespace Base64

/-- The character of a number below 64, in the standard alphabet. -/
def symbol (n : Nat) : UInt8 :=
  if n < 26 then UInt8.ofNat (n + 65)
  else if n < 52 then UInt8.ofNat (n + 71)
  else if n < 62 then UInt8.ofNat (n - 4)
  else if n = 62 then 43
  else 47

def pad : UInt8 := 61

def value (c : UInt8) : Option Nat :=
  if 65 ≤ c.toNat ∧ c.toNat ≤ 90 then some (c.toNat - 65)
  else if 97 ≤ c.toNat ∧ c.toNat ≤ 122 then some (c.toNat - 71)
  else if 48 ≤ c.toNat ∧ c.toNat ≤ 57 then some (c.toNat + 4)
  else if c = 43 then some 62
  else if c = 47 then some 63
  else none

/-- Four characters for three bytes, with padding at the end. -/
def encode : List UInt8 → List UInt8
  | [] => []
  | [a] => [symbol (a.toNat / 4), symbol (a.toNat % 4 * 16), pad, pad]
  | [a, b] =>
    [symbol (a.toNat / 4), symbol (a.toNat % 4 * 16 + b.toNat / 16), symbol (b.toNat % 16 * 4), pad]
  | a :: b :: c :: rest =>
    symbol (a.toNat / 4) :: symbol (a.toNat % 4 * 16 + b.toNat / 16) ::
      symbol (b.toNat % 16 * 4 + c.toNat / 64) :: symbol (c.toNat % 64) :: encode rest

def firstByte (x y : Nat) : UInt8 := UInt8.ofNat (x * 4 + y / 16)

def secondByte (y z : Nat) : UInt8 := UInt8.ofNat (y * 16 + z / 4)

def thirdByte (z w : Nat) : UInt8 := UInt8.ofNat (z * 64 + w)

/-- The bytes of groups of four characters; padding ends the last group, and the bits it leaves over are not
looked at. -/
def quanta : List UInt8 → Option (List UInt8)
  | [] => some []
  | a :: b :: c :: d :: rest =>
    match value a, value b with
    | some x, some y =>
      match value c, value d with
      | some z, some w =>
        (quanta rest).map (fun bs => firstByte x y :: secondByte y z :: thirdByte z w :: bs)
      | some z, none => if d = pad ∧ rest = [] then some [firstByte x y, secondByte y z] else none
      | none, _ => if c = pad ∧ d = pad ∧ rest = [] then some [firstByte x y] else none
    | _, _ => none
  | _ => none

/-- Line breaks are left out. -/
def decode (s : List UInt8) : Option (List UInt8) := quanta (s.filter (fun c => c ≠ 10 && c ≠ 13))

theorem value_symbol : ∀ n < 64, value (symbol n) = some n := by decide

theorem value_pad : value pad = none := rfl

theorem firstByte_encode (a : UInt8) {high : Nat} (h : high < 16) :
    firstByte (a.toNat / 4) (a.toNat % 4 * 16 + high) = a := by
  apply UInt8.toNat_inj.mp
  have ha := UInt8.toNat_lt a
  simp only [firstByte, UInt8.toNat_ofNat']
  omega

theorem secondByte_encode (above : Nat) (b : UInt8) {high : Nat} (h : high < 4) :
    secondByte (above * 16 + b.toNat / 16) (b.toNat % 16 * 4 + high) = b := by
  apply UInt8.toNat_inj.mp
  have hb := UInt8.toNat_lt b
  simp only [secondByte, UInt8.toNat_ofNat']
  omega

theorem thirdByte_encode (above : Nat) (c : UInt8) :
    thirdByte (above * 4 + c.toNat / 64) (c.toNat % 64) = c := by
  apply UInt8.toNat_inj.mp
  have hc := UInt8.toNat_lt c
  simp only [thirdByte, UInt8.toNat_ofNat']
  omega

theorem quanta_encode (bs : List UInt8) : quanta (encode bs) = some bs := by
  induction bs using encode.induct with
  | case1 => rfl
  | case2 a =>
    have ha := UInt8.toNat_lt a
    have hfirst := firstByte_encode a (Nat.zero_lt_succ 15)
    rw [Nat.add_zero] at hfirst
    simp only [encode, quanta, value_symbol (a.toNat / 4) (by omega),
      value_symbol (a.toNat % 4 * 16) (by omega), value_pad, and_self, if_true, hfirst]
  | case3 a b =>
    have ha := UInt8.toNat_lt a
    have hb := UInt8.toNat_lt b
    have hfirst := firstByte_encode a (show b.toNat / 16 < 16 by omega)
    have hsecond := secondByte_encode (a.toNat % 4) b (Nat.zero_lt_succ 3)
    rw [Nat.add_zero] at hsecond
    simp only [encode, quanta, value_symbol (a.toNat / 4) (by omega),
      value_symbol (a.toNat % 4 * 16 + b.toNat / 16) (by omega), value_symbol (b.toNat % 16 * 4) (by omega),
      value_pad, and_self, if_true, hfirst, hsecond]
  | case4 a b c rest ih =>
    have ha := UInt8.toNat_lt a
    have hb := UInt8.toNat_lt b
    have hc := UInt8.toNat_lt c
    have hfirst := firstByte_encode a (show b.toNat / 16 < 16 by omega)
    have hsecond := secondByte_encode (a.toNat % 4) b (show c.toNat / 64 < 4 by omega)
    simp only [encode, quanta, value_symbol (a.toNat / 4) (by omega),
      value_symbol (a.toNat % 4 * 16 + b.toNat / 16) (by omega),
      value_symbol (b.toNat % 16 * 4 + c.toNat / 64) (by omega), value_symbol (c.toNat % 64) (by omega),
      ih, Option.map_some, hfirst, hsecond, thirdByte_encode]

/-- All that is encoded is made of the alphabet and the padding. -/
theorem encode_forall {P : UInt8 → Prop} (hsymbol : ∀ n < 64, P (symbol n)) (hpad : P pad)
    (bs : List UInt8) : ∀ c ∈ encode bs, P c := by
  induction bs using encode.induct with
  | case1 => exact nofun
  | case2 a =>
    have ha := UInt8.toNat_lt a
    simp only [encode, List.forall_mem_cons]
    exact ⟨hsymbol _ (by omega), hsymbol _ (by omega), hpad, hpad, nofun⟩
  | case3 a b =>
    have ha := UInt8.toNat_lt a
    have hb := UInt8.toNat_lt b
    simp only [encode, List.forall_mem_cons]
    exact ⟨hsymbol _ (by omega), hsymbol _ (by omega), hsymbol _ (by omega), hpad, nofun⟩
  | case4 a b c rest ih =>
    have ha := UInt8.toNat_lt a
    have hb := UInt8.toNat_lt b
    have hc := UInt8.toNat_lt c
    simp only [encode, List.forall_mem_cons]
    exact ⟨hsymbol _ (by omega), hsymbol _ (by omega), hsymbol _ (by omega), hsymbol _ (by omega), ih⟩

theorem decode_encode (bs : List UInt8) : decode (encode bs) = some bs := by
  have hkept : ∀ c ∈ encode bs, (c ≠ 10 && c ≠ 13) = true :=
    encode_forall (by decide) (by decide) bs
  unfold decode
  rw [List.filter_eq_self.mpr hkept, quanta_encode]

end Base64
