import Mathlib.Data.Fin.Basic
import SupplyPlatform.Lib.Separators

namespace Ipv4

open Separators (numeral_append_inj stopsDigits_cons toDigits_injective isDigit_of_mem_numeral)

structure Addr where
  a : Fin 256
  b : Fin 256
  c : Fin 256
  d : Fin 256
  deriving DecidableEq

def Addr.value (x : Addr) : Nat := ((x.a.val * 256 + x.b.val) * 256 + x.c.val) * 256 + x.d.val

def decimal (n : Nat) : List Char := Nat.toDigits 10 n

def Addr.chars (x : Addr) : List Char :=
  decimal x.a ++ '.' :: (decimal x.b ++ '.' :: (decimal x.c ++ '.' :: decimal x.d))

def Addr.text (x : Addr) : String := String.ofList x.chars

/-- One address, or those that share the first bits with a base. -/
inductive Network
  | address (x : Addr)
  | cidr (base : Addr) (bits : Fin 33)
  deriving DecidableEq

namespace Network

def base : Network → Addr
  | address x => x
  | cidr x _ => x

def text : Network → String
  | address x => x.text
  | cidr x bits => x.text ++ "/" ++ String.ofList (decimal bits)

def Contains : Network → Addr → Prop
  | address x, y => y = x
  | cidr x bits, y => y.value / 2 ^ (32 - bits.val) = x.value / 2 ^ (32 - bits.val)

instance decidableContains : (n : Network) → (y : Addr) → Decidable (n.Contains y)
  | address x, y => inferInstanceAs (Decidable (y = x))
  | cidr x bits, y =>
    inferInstanceAs (Decidable (y.value / 2 ^ (32 - bits.val) = x.value / 2 ^ (32 - bits.val)))

end Network

theorem contains_eight (x y : Addr) : (Network.cidr x 8).Contains y ↔ y.a = x.a := by
  have hx := x.b.isLt
  have hx' := x.c.isLt
  have hx'' := x.d.isLt
  have hy := y.b.isLt
  have hy' := y.c.isLt
  have hy'' := y.d.isLt
  rw [Fin.ext_iff]
  change y.value / 16777216 = x.value / 16777216 ↔ _
  unfold Addr.value
  omega

theorem contains_sixteen (x y : Addr) : (Network.cidr x 16).Contains y ↔ y.a = x.a ∧ y.b = x.b := by
  have hx := x.b.isLt
  have hx' := x.c.isLt
  have hx'' := x.d.isLt
  have hy := y.b.isLt
  have hy' := y.c.isLt
  have hy'' := y.d.isLt
  rw [Fin.ext_iff, Fin.ext_iff]
  change y.value / 65536 = x.value / 65536 ↔ _
  unfold Addr.value
  omega

theorem stops_dot (l : List Char) : Separators.StopsDigits ('.' :: l) := stopsDigits_cons (by decide) l

theorem decimal_append_inj {m n : Nat} {x y : List Char} (h : decimal m ++ '.' :: x = decimal n ++ '.' :: y) :
    m = n ∧ x = y := by
  obtain ⟨hnum, hrest⟩ := numeral_append_inj (stops_dot x) (stops_dot y) h
  exact ⟨hnum, (List.cons.inj hrest).2⟩

theorem Addr.chars_injective {x y : Addr} (h : x.chars = y.chars) : x = y := by
  obtain ⟨ha, h⟩ := decimal_append_inj h
  obtain ⟨hb, h⟩ := decimal_append_inj h
  obtain ⟨hc, h⟩ := decimal_append_inj h
  have hd := toDigits_injective h
  cases x
  cases y
  simp_all [Fin.ext_iff]

theorem Addr.text_inj {x y : Addr} : x.text = y.text ↔ x = y := by
  constructor
  · intro h
    refine chars_injective ?_
    rw [← String.toList_ofList (l := x.chars), ← String.toList_ofList (l := y.chars)]
    exact congrArg String.toList h
  · rintro rfl
    rfl

theorem Addr.slash_notMem (x : Addr) : '/' ∉ x.chars := by
  have hdigits : ∀ n, '/' ∉ decimal n := fun n h => absurd (isDigit_of_mem_numeral h) (by decide)
  unfold chars
  simp [hdigits]

/-- The text of a prefix is no address's. -/
theorem Network.cidr_text_ne (x base : Addr) (bits : Fin 33) : x.text ≠ (Network.cidr base bits).text := by
  intro h
  have hslash : '/' ∈ x.text.toList := by
    rw [h]
    simp [Network.text]
  exact x.slash_notMem (by simpa [Addr.text] using hslash)

/-- A text of octets starts with an octet and a dot if that is its first octet. -/
theorem octet_isPrefix_iff (m : Nat) {n : Nat} {rest : List Char} :
    (decimal m ++ ['.']).isPrefixOf (decimal n ++ '.' :: rest) = true ↔ n = m := by
  rw [List.isPrefixOf_iff_prefix]
  constructor
  · rintro ⟨tail, h⟩
    rw [List.append_assoc] at h
    exact (decimal_append_inj h).1.symm
  · rintro rfl
    exact ⟨rest, by rw [List.append_assoc]; rfl⟩

theorem two_octets_isPrefix_iff (m m' : Nat) {n n' : Nat} {rest : List Char} :
    (decimal m ++ '.' :: (decimal m' ++ ['.'])).isPrefixOf
        (decimal n ++ '.' :: (decimal n' ++ '.' :: rest)) = true ↔
      n = m ∧ n' = m' := by
  rw [List.isPrefixOf_iff_prefix]
  constructor
  · rintro ⟨tail, h⟩
    rw [List.append_assoc, List.cons_append, List.append_assoc] at h
    obtain ⟨hfirst, h⟩ := decimal_append_inj h
    exact ⟨hfirst.symm, (decimal_append_inj h).1.symm⟩
  · rintro ⟨rfl, rfl⟩
    exact ⟨rest, by simp⟩

end Ipv4
