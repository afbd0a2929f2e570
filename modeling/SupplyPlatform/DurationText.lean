import Mathlib.Algebra.Group.Nat.Defs
import SupplyPlatform.Lib.Separators
import SupplyPlatform.Request

namespace SupplyPlatform

open Separators

section Fraction

variable {v w prec : Nat}

theorem fmtFrac_toList (v prec : Nat) :
    (fmtFrac v prec).toList = [] ∧ stripZeros (padded prec (v % 10 ^ prec)) = [] ∨
      (fmtFrac v prec).toList = '.' :: stripZeros (padded prec (v % 10 ^ prec)) ∧
        stripZeros (padded prec (v % 10 ^ prec)) ≠ [] := by
  cases hkept : stripZeros (padded prec (v % 10 ^ prec)) with
  | nil =>
    unfold stripZeros padded at hkept
    left
    simp only [fmtFrac, hkept]
    exact ⟨rfl, trivial⟩
  | cons c kept =>
    unfold stripZeros padded at hkept
    right
    simp only [fmtFrac, hkept]
    exact ⟨by simp, List.cons_ne_nil c kept⟩

theorem fmtFrac_injective (hprec : 0 < prec) (h : (fmtFrac v prec).toList = (fmtFrac w prec).toList) :
    v % 10 ^ prec = w % 10 ^ prec := by
  have hkept : stripZeros (padded prec (v % 10 ^ prec)) = stripZeros (padded prec (w % 10 ^ prec)) := by
    rcases fmtFrac_toList v prec with ⟨hv, hv'⟩ | ⟨hv, -⟩ <;>
      rcases fmtFrac_toList w prec with ⟨hw, hw'⟩ | ⟨hw, -⟩
    · rw [hv', hw']
    · rw [hv, hw] at h
      cases h
    · rw [hv, hw] at h
      cases h
    · rw [hv, hw] at h
      exact (List.cons.inj h).2
  have hlength : ∀ n, (padded prec (n % 10 ^ prec)).length = prec := fun n =>
    length_padded hprec (Nat.mod_lt _ (Nat.pow_pos (by decide)))
  have hsame := stripZeros_injective ((hlength v).trans (hlength w).symm) hkept
  rw [← ofDigitChars_padded prec (v % 10 ^ prec), hsame, ofDigitChars_padded]

/-- A number with its fraction, as it is printed. -/
def printed (q v prec : Nat) : List Char := Nat.toDigits 10 q ++ (fmtFrac v prec).toList

theorem stopsDigits_fmtFrac {rest : List Char} (h : StopsDigits rest) (v prec : Nat) :
    StopsDigits ((fmtFrac v prec).toList ++ rest) := by
  rcases fmtFrac_toList v prec with ⟨hv, -⟩ | ⟨hv, -⟩
  · rw [hv]
    exact h
  · rw [hv]
    rfl

theorem printed_inj {q q' : Nat} (hprec : 0 < prec) (h : printed q v prec = printed q' w prec) :
    q = q' ∧ v % 10 ^ prec = w % 10 ^ prec := by
  have hstop : ∀ n, StopsDigits ((fmtFrac n prec).toList) := fun n => by
    have hnil : StopsDigits [] := rfl
    rw [← List.append_nil (fmtFrac n prec).toList]
    exact stopsDigits_fmtFrac hnil n prec
  obtain ⟨hq, hfrac⟩ := numeral_append_inj (hstop v) (hstop w) h
  exact ⟨hq, fmtFrac_injective hprec hfrac⟩

/-- It ends in a digit. -/
theorem isDigit_getLast_printed {q : Nat} {c : Char} (hlast : (printed q v prec).getLast? = some c) :
    c.isDigit = true := by
  unfold printed at hlast
  rcases fmtFrac_toList v prec with ⟨hv, -⟩ | ⟨hv, hkept⟩
  · rw [hv, List.append_nil] at hlast
    exact isDigit_of_mem_numeral (List.mem_of_getLast? hlast)
  · rw [hv, ← List.singleton_append, ← List.append_assoc, List.getLast?_append_of_ne_nil _ hkept] at hlast
    exact isDigit_of_mem_stripZeros (List.mem_of_getLast? hlast)

theorem printed_ne_nil (q v prec : Nat) : printed q v prec ≠ [] :=
  List.append_ne_nil_of_left_ne_nil Nat.toDigits_ne_nil _

end Fraction

/-- The hours and the minutes of a number of seconds, where there are any. -/
def hoursText (s : Nat) : List Char := if 3600 ≤ s then Nat.toDigits 10 (s / 3600) ++ ['h'] else []

def minutesText (s : Nat) : List Char := if 60 ≤ s then Nat.toDigits 10 (s / 60 % 60) ++ ['m'] else []

theorem toString_toList (n : Nat) : (toString n).toList = Nat.toDigits 10 n := by
  rw [Nat.toString_eq_ofList_toDigits, String.toList_ofList]

section Forms

variable {d : Nat}

theorem durationString_ns (hpos : 0 < d) (h : d < 1000) :
    (durationString d).toList = Nat.toDigits 10 d ++ ['n', 's'] := by
  rw [durationString, if_neg (by omega), if_pos h, String.toList_append, toString_toList]
  rfl

theorem durationString_us (hlow : 1000 ≤ d) (h : d < 1000000) :
    (durationString d).toList = printed (d / 1000) d 3 ++ ['µ', 's'] := by
  rw [durationString, if_neg (by omega), if_neg (by omega), if_pos h, String.toList_append,
    String.toList_append, toString_toList]
  rfl

theorem durationString_ms (hlow : 1000000 ≤ d) (h : d < 1000000000) :
    (durationString d).toList = printed (d / 1000000) d 6 ++ ['m', 's'] := by
  rw [durationString, if_neg (by omega), if_neg (by omega), if_neg (by omega), if_pos h,
    String.toList_append, String.toList_append, toString_toList]
  rfl

theorem durationString_s (h : 1000000000 ≤ d) :
    (durationString d).toList = hoursText (d / 1000000000) ++ (minutesText (d / 1000000000) ++
      (printed (d / 1000000000 % 60) d 9 ++ ['s'])) := by
  have hhours : (if 3600 ≤ d / 1000000000 then toString (d / 1000000000 / 3600) ++ "h" else "").toList =
      hoursText (d / 1000000000) := by
    unfold hoursText
    split
    next => rw [String.toList_append, toString_toList]; rfl
    next => rfl
  have hminutes : (if 60 ≤ d / 1000000000 then toString (d / 1000000000 / 60 % 60) ++ "m" else "").toList =
      minutesText (d / 1000000000) := by
    unfold minutesText
    split
    next => rw [String.toList_append, toString_toList]; rfl
    next => rfl
  rw [durationString, if_neg (by omega), if_neg (by omega), if_neg (by omega), if_neg (by omega)]
  simp only [String.toList_append, hhours, hminutes, toString_toList, printed, List.append_assoc]
  rfl

end Forms

/-- The unit, where it is smaller than a second. -/
def smallUnit (d : Nat) : Option Char :=
  if d < 1000 then some 'n' else if d < 1000000 then some 'µ' else if d < 1000000000 then some 'm' else none

/-- The character before the last. -/
def penultimate (l : List Char) : Option Char := l.dropLast.getLast?

theorem penultimate_unit (l : List Char) (c : Char) : penultimate (l ++ [c, 's']) = some c := by
  have hsplit : l ++ [c, 's'] = (l ++ [c]) ++ ['s'] := by simp
  rw [penultimate, hsplit, List.dropLast_concat, List.getLast?_concat]

/-- It tells the unit: of seconds it is a digit. -/
theorem penultimate_durationString {d : Nat} (hpos : 0 < d) :
    ∃ c, penultimate (durationString d).toList = some c ∧
      (smallUnit d = some c ∨ smallUnit d = none ∧ c.isDigit = true) := by
  by_cases hns : d < 1000
  · rw [durationString_ns hpos hns]
    exact ⟨'n', penultimate_unit _ _, .inl (if_pos hns)⟩
  by_cases hus : d < 1000000
  · rw [durationString_us (by omega) hus]
    exact ⟨'µ', penultimate_unit _ _, .inl (by rw [smallUnit, if_neg hns, if_pos hus])⟩
  by_cases hms : d < 1000000000
  · rw [durationString_ms (by omega) hms]
    exact ⟨'m', penultimate_unit _ _, .inl (by rw [smallUnit, if_neg hns, if_neg hus, if_pos hms])⟩
  · rw [durationString_s (by omega), ← List.append_assoc, ← List.append_assoc]
    have hne := printed_ne_nil (d / 1000000000 % 60) d 9
    rw [penultimate, List.dropLast_concat, List.getLast?_append_of_ne_nil _ hne]
    obtain ⟨c, hc⟩ := Option.ne_none_iff_exists'.mp (mt List.getLast?_eq_none_iff.mp hne)
    exact ⟨c, hc, .inr ⟨by rw [smallUnit, if_neg hns, if_neg hus, if_neg hms], isDigit_getLast_printed hc⟩⟩

theorem smallUnit_not_digit {d : Nat} {c : Char} (h : smallUnit d = some c) : c.isDigit = false := by
  unfold smallUnit at h
  split at h
  · cases h; rfl
  · split at h
    · cases h; rfl
    · split at h
      · cases h; rfl
      · cases h

theorem smallUnit_of_durationString {a b : Nat} (ha : 0 < a) (hb : 0 < b)
    (h : durationString a = durationString b) : smallUnit a = smallUnit b := by
  obtain ⟨c, hc, hca⟩ := penultimate_durationString ha
  obtain ⟨c', hc', hcb⟩ := penultimate_durationString hb
  rw [h] at hc
  cases Option.some.inj (hc.symm.trans hc')
  rcases hca with hca | ⟨hca, hdigit⟩ <;> rcases hcb with hcb | ⟨hcb, hdigit'⟩
  · rw [hca, hcb]
  · rw [smallUnit_not_digit hca] at hdigit'
    cases hdigit'
  · rw [smallUnit_not_digit hcb] at hdigit
    cases hdigit
  · rw [hca, hcb]

section Clock

variable {s s' v w : Nat}

/-- What follows a number of seconds is neither an `h` nor an `m`. -/
theorem fmtFrac_ne_cons {c : Char} (hpoint : c ≠ '.') (hunit : c ≠ 's') (v prec : Nat) (rest : List Char) :
    (fmtFrac v prec).toList ++ ['s'] ≠ c :: rest := by
  intro h
  rcases fmtFrac_toList v prec with ⟨hv, -⟩ | ⟨hv, -⟩
  · rw [hv] at h
    exact hunit (List.cons.inj h).1.symm
  · rw [hv] at h
    exact hpoint (List.cons.inj h).1.symm

theorem stopsDigits_seconds (v : Nat) : StopsDigits ((fmtFrac v 9).toList ++ ['s']) :=
  stopsDigits_fmtFrac (stopsDigits_cons (by decide) []) v 9

/-- The minutes and the seconds are read off the text. -/
theorem minutes_inj (h : minutesText s ++ (printed (s % 60) v 9 ++ ['s']) =
      minutesText s' ++ (printed (s' % 60) w 9 ++ ['s'])) :
    (60 ≤ s ↔ 60 ≤ s') ∧ (60 ≤ s → s / 60 % 60 = s' / 60 % 60) ∧ s % 60 = s' % 60 ∧
      v % 10 ^ 9 = w % 10 ^ 9 := by
  unfold minutesText at h
  by_cases hs : 60 ≤ s <;> by_cases hs' : 60 ≤ s'
  · rw [if_pos hs, if_pos hs', List.append_assoc, List.append_assoc] at h
    obtain ⟨hminutes, hrest⟩ :=
      numeral_append_inj (stopsDigits_cons (by decide) _) (stopsDigits_cons (by decide) _) h
    obtain ⟨hseconds, hfrac⟩ := printed_inj (by decide)
      (List.append_cancel_right (List.cons.inj hrest).2)
    exact ⟨iff_of_true hs hs', fun _ => hminutes, hseconds, hfrac⟩
  · rw [if_pos hs, if_neg hs', List.append_assoc, List.nil_append, printed, printed,
      List.append_assoc (Nat.toDigits 10 (s' % 60))] at h
    obtain ⟨-, hrest⟩ := numeral_append_inj (stopsDigits_cons (by decide) _) (stopsDigits_seconds w) h
    exact absurd hrest.symm (fmtFrac_ne_cons (by decide) (by decide) _ _ _)
  · rw [if_neg hs, if_pos hs', List.append_assoc (Nat.toDigits 10 (s' / 60 % 60)), List.nil_append,
      printed, List.append_assoc] at h
    obtain ⟨-, hrest⟩ := numeral_append_inj (stopsDigits_seconds v) (stopsDigits_cons (by decide) _) h
    exact absurd hrest (fmtFrac_ne_cons (by decide) (by decide) _ _ _)
  · rw [if_neg hs, if_neg hs', List.nil_append, List.nil_append] at h
    obtain ⟨hseconds, hfrac⟩ := printed_inj (by decide) (List.append_cancel_right h)
    exact ⟨iff_of_false hs hs', fun hle => absurd hle hs, hseconds, hfrac⟩

/-- What follows the first number of a text without hours is not an `h`. -/
theorem minutes_ne_hours (s v n : Nat) (rest : List Char) :
    minutesText s ++ (printed (s % 60) v 9 ++ ['s']) ≠ Nat.toDigits 10 n ++ 'h' :: rest := by
  intro h
  unfold minutesText at h
  split at h
  · rw [List.append_assoc] at h
    obtain ⟨-, hrest⟩ :=
      numeral_append_inj (stopsDigits_cons (by decide) _) (stopsDigits_cons (by decide) _) h
    exact absurd (List.cons.inj hrest).1 (by decide)
  · rw [List.nil_append, printed, List.append_assoc] at h
    obtain ⟨-, hrest⟩ := numeral_append_inj (stopsDigits_seconds v) (stopsDigits_cons (by decide) _) h
    exact absurd hrest (fmtFrac_ne_cons (by decide) (by decide) _ _ _)

theorem clock_inj (h : hoursText s ++ (minutesText s ++ (printed (s % 60) v 9 ++ ['s'])) =
      hoursText s' ++ (minutesText s' ++ (printed (s' % 60) w 9 ++ ['s']))) :
    s = s' ∧ v % 10 ^ 9 = w % 10 ^ 9 := by
  unfold hoursText at h
  by_cases hs : 3600 ≤ s <;> by_cases hs' : 3600 ≤ s'
  · rw [if_pos hs, if_pos hs', List.append_assoc, List.append_assoc] at h
    obtain ⟨hhours, hrest⟩ :=
      numeral_append_inj (stopsDigits_cons (by decide) _) (stopsDigits_cons (by decide) _) h
    obtain ⟨-, hminutes, hseconds, hfrac⟩ := minutes_inj (List.cons.inj hrest).2
    have := hminutes (by omega)
    exact ⟨by omega, hfrac⟩
  · rw [if_pos hs, if_neg hs', List.append_assoc, List.nil_append] at h
    exact absurd h.symm (minutes_ne_hours _ _ _ _)
  · rw [if_neg hs, if_pos hs', List.append_assoc, List.nil_append] at h
    exact absurd h (minutes_ne_hours _ _ _ _)
  · rw [if_neg hs, if_neg hs', List.nil_append, List.nil_append] at h
    obtain ⟨hboth, hminutes, hseconds, hfrac⟩ := minutes_inj h
    refine ⟨?_, hfrac⟩
    by_cases hm : 60 ≤ s
    · have := hminutes hm
      omega
    · omega

end Clock

/-- Durations of one unit lie in one range. -/
theorem smallUnit_inj {a b : Nat} (h : smallUnit a = smallUnit b) :
    (a < 1000 ↔ b < 1000) ∧ (a < 1000000 ↔ b < 1000000) ∧ (a < 1000000000 ↔ b < 1000000000) := by
  unfold smallUnit at h
  split_ifs at h <;> first | omega | simp at h

/-- A duration is read off its text. -/
theorem durationString_injective {a b : Nat} (ha : 0 < a) (hb : 0 < b)
    (h : durationString a = durationString b) : a = b := by
  obtain ⟨hns, hus, hms⟩ := smallUnit_inj (smallUnit_of_durationString ha hb h)
  have htext := congrArg String.toList h
  by_cases hna : a < 1000
  · rw [durationString_ns ha hna, durationString_ns hb (hns.mp hna)] at htext
    exact toDigits_injective (List.append_cancel_right htext)
  have hnb := mt hns.mpr hna
  by_cases hua : a < 1000000
  · rw [durationString_us (by omega) hua, durationString_us (by omega) (hus.mp hua)] at htext
    obtain ⟨hq, hfrac⟩ := printed_inj (by decide) (List.append_cancel_right htext)
    omega
  have hub := mt hus.mpr hua
  by_cases hma : a < 1000000000
  · rw [durationString_ms (by omega) hma, durationString_ms (by omega) (hms.mp hma)] at htext
    obtain ⟨hq, hfrac⟩ := printed_inj (by decide) (List.append_cancel_right htext)
    omega
  have hmb := mt hms.mpr hma
  rw [durationString_s (by omega), durationString_s (by omega)] at htext
  obtain ⟨hs, hfrac⟩ := clock_inj htext
  omega

theorem bar_not_mem_toDigits (n : Nat) : '|' ∉ Nat.toDigits 10 n := by
  intro h
  exact absurd (isDigit_of_mem_numeral h) (by decide)

theorem bar_not_mem_printed (q v prec : Nat) : '|' ∉ printed q v prec := by
  intro h
  rcases List.mem_append.mp h with h | h
  · exact bar_not_mem_toDigits q h
  · rcases fmtFrac_toList v prec with ⟨hv, -⟩ | ⟨hv, -⟩
    · rw [hv] at h
      cases h
    · rw [hv] at h
      rcases List.mem_cons.mp h with h | h
      · exact absurd h (by decide)
      · exact absurd (isDigit_of_mem_stripZeros h) (by decide)

theorem bar_not_mem_clock (s : Nat) : '|' ∉ hoursText s ∧ '|' ∉ minutesText s := by
  constructor
  · unfold hoursText
    split
    · simp [bar_not_mem_toDigits]
    · exact List.not_mem_nil
  · unfold minutesText
    split
    · simp [bar_not_mem_toDigits]
    · exact List.not_mem_nil

/-- No text of a duration holds the character `|`. -/
theorem bar_not_mem_durationString {d : Nat} (hpos : 0 < d) : '|' ∉ (durationString d).toList := by
  by_cases hns : d < 1000
  · rw [durationString_ns hpos hns]
    simp [bar_not_mem_toDigits]
  by_cases hus : d < 1000000
  · rw [durationString_us (by omega) hus]
    simp [bar_not_mem_printed]
  by_cases hms : d < 1000000000
  · rw [durationString_ms (by omega) hms]
    simp [bar_not_mem_printed]
  · rw [durationString_s (by omega)]
    obtain ⟨hhours, hminutes⟩ := bar_not_mem_clock (d / 1000000000)
    simp [hhours, hminutes, bar_not_mem_printed]

end SupplyPlatform
