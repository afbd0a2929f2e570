import Mathlib.Algebra.Group.Nat.Defs
import Mathlib.Tactic.Common
import SupplyPlatform.Lib.Separators

namespace Decimals

inductive NumError
  | syntaxError
  | rangeError
  deriving DecidableEq

/-- Digits are read until one takes the number over `bound` or something else stands in their place. -/
def readFrom (bound : Nat) : Nat → List Char → Except NumError Nat
  | n, [] => .ok n
  | n, c :: cs =>
    if c.isDigit then
      if bound < 10 * n + (c.toNat - '0'.toNat) then .error .rangeError
      else readFrom bound (10 * n + (c.toNat - '0'.toNat)) cs
    else .error .syntaxError

def parseUint (bound : Nat) (cs : List Char) : Except NumError Nat :=
  if cs = [] then .error .syntaxError else readFrom bound 0 cs

/-- A sign, if there is one, and what follows it. -/
def cutSign : List Char → Bool × List Char
  | '+' :: cs => (false, cs)
  | '-' :: cs => (true, cs)
  | cs => (false, cs)

def signed (negative : Bool) (n : Nat) : Int := if negative then -n else n

def maxUint64 : Nat := 18446744073709551615

def maxInt64 : Int := 9223372036854775807

def minInt64 : Int := -9223372036854775808

/-- The nearest number of 64 bits. -/
def clampInt64 (n : Int) : Int := max minInt64 (min n maxInt64)

/-- `ParseInt` once the digits are read: out of range, the number comes with the error. -/
def toInt64 (negative : Bool) : Except NumError Nat → Int × Option NumError
  | .error .syntaxError => (0, some .syntaxError)
  | .error .rangeError => (if negative then minInt64 else maxInt64, some .rangeError)
  | .ok n =>
    if maxInt64 < signed negative n then (maxInt64, some .rangeError)
    else if signed negative n < minInt64 then (minInt64, some .rangeError)
    else (signed negative n, none)

/-- `strconv.ParseInt(s, 10, 64)`. -/
def parseInt (cs : List Char) : Int × Option NumError :=
  toInt64 (cutSign cs).1 (parseUint maxUint64 (cutSign cs).2)

/-- The number at the start of a text. -/
def leading (cs : List Char) : Nat := Nat.ofDigitChars 10 (cs.takeWhile Char.isDigit) 0

/-- What a text stands for as a number of 64 bits: nothing but a numeral counts, except that digits
which leave 64 bits behind them are not read to the end. -/
def int64Of (cs : List Char) : Int :=
  if ((cutSign cs).2 ≠ [] ∧ (cutSign cs).2.all Char.isDigit) ∨ maxUint64 < leading (cutSign cs).2 then
    clampInt64 (signed (cutSign cs).1 (leading (cutSign cs).2))
  else 0

theorem le_ofDigitChars (n : Nat) (cs : List Char) : n ≤ Nat.ofDigitChars 10 cs n := by
  induction cs generalizing n with
  | nil => exact Nat.le_of_eq Nat.ofDigitChars_nil.symm
  | cons c cs ih =>
    rw [Nat.ofDigitChars_cons]
    have h := ih (10 * n + (c.toNat - '0'.toNat))
    omega

/-- Reading ends with the number, or at the first thing that is wrong. -/
theorem readFrom_eq (bound n : Nat) (cs : List Char) (hn : n ≤ bound) :
    readFrom bound n cs =
      if bound < Nat.ofDigitChars 10 (cs.takeWhile Char.isDigit) n then .error .rangeError
      else if cs.all Char.isDigit then .ok (Nat.ofDigitChars 10 (cs.takeWhile Char.isDigit) n)
      else .error .syntaxError := by
  induction cs generalizing n with
  | nil => simp [readFrom, hn]
  | cons c cs ih =>
    by_cases hc : c.isDigit
    · rw [readFrom, if_pos hc, List.takeWhile_cons_of_pos hc, Nat.ofDigitChars_cons, List.all_cons, hc,
        Bool.true_and]
      by_cases hb : bound < 10 * n + (c.toNat - '0'.toNat)
      · have hle := le_ofDigitChars (10 * n + (c.toNat - '0'.toNat)) (cs.takeWhile Char.isDigit)
        rw [if_pos hb, if_pos (by omega)]
      · rw [if_neg hb, ih _ (by omega)]
    · rw [readFrom, if_neg hc, List.takeWhile_cons_of_neg hc, Nat.ofDigitChars_nil,
        if_neg (by omega)]
      simp [hc]

theorem parseUint_eq {bound : Nat} {cs : List Char} (hcs : cs ≠ []) :
    parseUint bound cs =
      if bound < leading cs then .error .rangeError
      else if cs.all Char.isDigit then .ok (leading cs)
      else .error .syntaxError := by
  rw [parseUint, if_neg hcs]
  exact readFrom_eq bound 0 cs (Nat.zero_le bound)

theorem toInt64_ok (negative : Bool) (n : Nat) :
    (toInt64 negative (.ok n)).1 = clampInt64 (signed negative n) := by
  unfold toInt64 clampInt64
  by_cases hmax : maxInt64 < signed negative n
  · simp only [if_pos hmax]
    unfold maxInt64 minInt64 at *
    omega
  · by_cases hmin : signed negative n < minInt64
    · simp only [if_neg hmax, if_pos hmin]
      unfold maxInt64 minInt64 at *
      omega
    · simp only [if_neg hmax, if_neg hmin]
      omega

theorem toInt64_range {n : Nat} (negative : Bool) (hn : maxUint64 < n) :
    (toInt64 negative (.error .rangeError)).1 = clampInt64 (signed negative n) := by
  unfold maxUint64 at hn
  cases negative with
  | false =>
    simp only [toInt64, clampInt64, signed, maxInt64, minInt64, if_neg Bool.false_ne_true]
    omega
  | true =>
    simp only [toInt64, clampInt64, signed, maxInt64, minInt64, if_pos]
    omega

theorem parseInt_eq (cs : List Char) : (parseInt cs).1 = int64Of cs := by
  unfold parseInt int64Of
  by_cases hb : (cutSign cs).2 = []
  · rw [hb]
    rfl
  · rw [parseUint_eq hb]
    by_cases hn : maxUint64 < leading (cutSign cs).2
    · rw [if_pos hn, if_pos (Or.inr hn)]
      exact toInt64_range _ hn
    · rw [if_neg hn]
      by_cases hall : (cutSign cs).2.all Char.isDigit = true
      · rw [if_pos hall, if_pos (Or.inl ⟨hb, hall⟩)]
        exact toInt64_ok _ _
      · have hnot : ¬(((cutSign cs).2 ≠ [] ∧ (cutSign cs).2.all Char.isDigit = true) ∨
            maxUint64 < leading (cutSign cs).2) := by
          rintro (h | h)
          · exact hall h.2
          · exact hn h
        rw [if_neg hall, if_neg hnot]
        rfl

/-- The last `width` digits of a number. -/
def fixed : Nat → Nat → List Char
  | 0, _ => []
  | width + 1, n => fixed width (n / 10) ++ [Nat.digitChar (n % 10)]

@[simp] theorem length_fixed (width n : Nat) : (fixed width n).length = width := by
  induction width generalizing n with
  | zero => rfl
  | succ width ih => rw [fixed, List.length_append, ih, List.length_singleton]

theorem fixed_zero (width : Nat) : fixed width 0 = List.replicate width '0' := by
  induction width with
  | zero => rfl
  | succ width ih =>
    rw [fixed, Nat.zero_div, ih, List.replicate_succ']
    rfl

/-- Filled up with zeros, a number that fits has just these digits. -/
theorem padded_eq_fixed {width n : Nat} (hw : 0 < width) (hn : n < 10 ^ width) :
    Separators.padded width n = fixed width n := by
  unfold Separators.padded
  induction width generalizing n with
  | zero => omega
  | succ width ih =>
    by_cases hsmall : n < 10
    · rw [Nat.toDigits_of_lt_base hsmall, fixed, Nat.div_eq_of_lt hsmall, Nat.mod_eq_of_lt hsmall,
        fixed_zero]
      rfl
    · have hle : 10 ≤ n := by omega
      have hpos : 0 < width := by
        rcases Nat.eq_zero_or_pos width with rfl | h
        · rw [Nat.zero_add, Nat.pow_one] at hn
          omega
        · exact h
      have hdiv : n / 10 < 10 ^ width := by
        rw [Nat.pow_succ] at hn
        omega
      rw [Nat.toDigits_of_base_le (by omega) hle, List.length_append, List.length_singleton,
        Nat.add_sub_add_right, ← List.append_assoc, ih hpos hdiv, fixed]

/-- Where the beginnings are equally long, they decide first. -/
theorem append_lt_append_iff {l₁ l₂ s t : List Char} (h : l₁.length = l₂.length) :
    l₁ ++ s < l₂ ++ t ↔ l₁ < l₂ ∨ l₁ = l₂ ∧ s < t := by
  induction l₁ generalizing l₂ with
  | nil =>
    cases l₂ with
    | nil => simp
    | cons => simp at h
  | cons a l₁ ih =>
    cases l₂ with
    | nil => simp at h
    | cons b l₂ =>
      rw [List.cons_append, List.cons_append, List.cons_lt_cons_iff, List.cons_lt_cons_iff,
        ih (Nat.succ.inj h), List.cons.injEq]
      constructor
      · rintro (hab | ⟨hab, hlt | ⟨hl, hst⟩⟩)
        · exact .inl (.inl hab)
        · exact .inl (.inr ⟨hab, hlt⟩)
        · exact .inr ⟨⟨hab, hl⟩, hst⟩
      · rintro ((hab | ⟨hab, hlt⟩) | ⟨⟨hab, hl⟩, hst⟩)
        · exact .inl hab
        · exact .inr ⟨hab, .inl hlt⟩
        · exact .inr ⟨hab, .inr ⟨hl, hst⟩⟩

theorem digitChar_lt_iff {a b : Nat} (ha : a < 10) (hb : b < 10) :
    Nat.digitChar a < Nat.digitChar b ↔ a < b := by
  have hall : ∀ a b : Fin 10, Nat.digitChar a < Nat.digitChar b ↔ a.val < b.val := by
    decide
  exact hall ⟨a, ha⟩ ⟨b, hb⟩

/-- Numerals of one width are in the order of their numbers. -/
theorem fixed_cmp (width : Nat) {a b : Nat} (ha : a < 10 ^ width) (hb : b < 10 ^ width) :
    (fixed width a < fixed width b ↔ a < b) ∧ (fixed width a = fixed width b ↔ a = b) := by
  induction width generalizing a b with
  | zero =>
    rw [Nat.pow_zero] at ha hb
    obtain ⟨rfl, rfl⟩ : a = 0 ∧ b = 0 := by omega
    exact ⟨by simp [fixed], by simp⟩
  | succ width ih =>
    rw [Nat.pow_succ] at ha hb
    obtain ⟨hlt, heq⟩ := ih (a := a / 10) (b := b / 10) (by omega) (by omega)
    have ha10 : a % 10 < 10 := Nat.mod_lt _ (by omega)
    have hb10 : b % 10 < 10 := Nat.mod_lt _ (by omega)
    have hdigit := digitChar_lt_iff ha10 hb10
    have hdigit' := digitChar_lt_iff hb10 ha10
    constructor
    · rw [fixed, fixed, append_lt_append_iff (by simp), hlt, heq, List.cons_lt_cons_iff, hdigit]
      simp only [List.not_lt_nil, and_false, or_false]
      omega
    · rw [fixed, fixed]
      constructor
      · intro h
        obtain ⟨hl, hr⟩ := List.append_inj h (by simp)
        have hc := (List.cons.inj hr).1
        rw [hc] at hdigit
        have hdiv := heq.mp hl
        have hnot : ¬a % 10 < b % 10 := fun hh => Char.lt_irrefl _ (hdigit.mpr hh)
        have hnot' : ¬b % 10 < a % 10 := fun hh => by
          rw [← hdigit', hc] at hh
          exact Char.lt_irrefl _ hh
        omega
      · rintro rfl
        rfl

end Decimals
