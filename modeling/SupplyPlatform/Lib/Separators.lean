import Mathlib.Algebra.Group.Nat.Defs
import Mathlib.Data.List.TakeWhile
import Mathlib.Tactic.Common

namespace Separators

section Cuts

variable {α : Type*}

/-- The last separator is found from the end. -/
theorem append_sep_inj {sep : α} {a b x y : List α} (hx : sep ∉ x) (hy : sep ∉ y)
    (h : a ++ sep :: x = b ++ sep :: y) : a = b ∧ x = y := by
  rcases List.append_eq_append_iff.mp h with ⟨mid, rfl, hmid⟩ | ⟨mid, rfl, hmid⟩
  · cases mid with
    | nil =>
      rw [List.nil_append] at hmid
      exact ⟨(List.append_nil a).symm, (List.cons.inj hmid).2⟩
    | cons c mid =>
      refine absurd ?_ hx
      rw [(List.cons.inj hmid).2]
      simp
  · cases mid with
    | nil =>
      rw [List.nil_append] at hmid
      exact ⟨List.append_nil b, (List.cons.inj hmid).2.symm⟩
    | cons c mid =>
      refine absurd ?_ hy
      rw [(List.cons.inj hmid).2]
      simp

variable [DecidableEq α]

/-- Every way to cut a list at a separator: what stands before it and after it. -/
def cuts (sep : α) : List α → List (List α × List α)
  | [] => []
  | a :: rest =>
    (if a = sep then [([], rest)] else []) ++ (cuts sep rest).map (fun cut => (a :: cut.1, cut.2))

theorem mem_cuts {sep : α} {l before rest : List α} :
    (before, rest) ∈ cuts sep l ↔ l = before ++ sep :: rest := by
  induction l generalizing before with
  | nil => simp [cuts]
  | cons a l ih =>
    simp only [cuts, List.mem_append, List.mem_map, Prod.mk.injEq]
    constructor
    · rintro (hhere | ⟨⟨before', rest'⟩, hmem, rfl, rfl⟩)
      · by_cases ha : a = sep
        · rw [if_pos ha, List.mem_singleton, Prod.mk.injEq] at hhere
          obtain ⟨rfl, rfl⟩ := hhere
          rw [ha]
          rfl
        · rw [if_neg ha] at hhere
          cases hhere
      · rw [ih.mp hmem]
        rfl
    · intro heq
      cases before with
      | nil =>
        obtain ⟨rfl, rfl⟩ := List.cons.inj heq
        left
        rw [if_pos rfl]
        exact List.mem_singleton_self _
      | cons b before =>
        obtain ⟨rfl, rfl⟩ := List.cons.inj heq
        exact .inr ⟨(before, rest), ih.mpr rfl, rfl, rfl⟩

/-- No piece between separators has one. -/
theorem sep_not_mem_of_mem_splitOn {sep : α} {l piece : List α} (h : piece ∈ l.splitOn sep) : sep ∉ piece := by
  induction l generalizing piece with
  | nil =>
    rw [List.splitOn_nil, List.mem_singleton] at h
    rw [h]
    exact List.not_mem_nil
  | cons a l ih =>
    rw [List.splitOn_cons_eq_if_modifyHead] at h
    split at h
    next =>
      rcases List.mem_cons.mp h with rfl | hrest
      · exact List.not_mem_nil
      · exact ih hrest
    next hne =>
      obtain ⟨first, rest, hpieces⟩ := List.exists_cons_of_ne_nil (List.splitOn_ne_nil sep l)
      rw [hpieces, List.modifyHead_cons] at h
      rcases List.mem_cons.mp h with rfl | hrest
      · have hfirst : sep ∉ first := ih (by rw [hpieces]; exact List.mem_cons_self)
        intro hmem
        rcases List.mem_cons.mp hmem with rfl | hmem
        · exact hne (beq_self_eq_true sep)
        · exact hfirst hmem
      · exact ih (by rw [hpieces]; exact List.mem_cons_of_mem _ hrest)

end Cuts

section Numerals

/-- A text that does not go on with a digit. -/
def StopsDigits (l : List Char) : Prop := l.takeWhile Char.isDigit = []

theorem stopsDigits_cons {c : Char} (h : c.isDigit = false) (rest : List Char) : StopsDigits (c :: rest) :=
  List.takeWhile_cons_of_neg (by simp [h])

theorem isDigit_of_mem_numeral {c : Char} {n : Nat} (h : c ∈ Nat.toDigits 10 n) : c.isDigit = true :=
  Nat.isDigit_of_mem_toDigits (by decide) (by decide) h

theorem takeWhile_numeral (n : Nat) {rest : List Char} (h : StopsDigits rest) :
    (Nat.toDigits 10 n ++ rest).takeWhile Char.isDigit = Nat.toDigits 10 n := by
  rw [List.takeWhile_append_of_pos (fun _ => isDigit_of_mem_numeral), h, List.append_nil]

theorem toDigits_injective {a b : Nat} (h : Nat.toDigits 10 a = Nat.toDigits 10 b) : a = b := by
  rw [← Nat.ofDigitChars_ten_toDigits (n := a), h, Nat.ofDigitChars_ten_toDigits]

/-- A numeral ends where the digits do. -/
theorem numeral_append_inj {a b : Nat} {x y : List Char} (hx : StopsDigits x) (hy : StopsDigits y)
    (h : Nat.toDigits 10 a ++ x = Nat.toDigits 10 b ++ y) : a = b ∧ x = y := by
  have hsame : Nat.toDigits 10 a = Nat.toDigits 10 b := by
    rw [← takeWhile_numeral a hx, h, takeWhile_numeral b hy]
  rw [hsame] at h
  exact ⟨toDigits_injective hsame, List.append_cancel_left h⟩

/-- The digits of a number below `10 ^ width`, with zeros in front. -/
def padded (width n : Nat) : List Char :=
  List.replicate (width - (Nat.toDigits 10 n).length) '0' ++ Nat.toDigits 10 n

theorem ofDigitChars_padded (width n : Nat) : Nat.ofDigitChars 10 (padded width n) 0 = n := by
  rw [padded, Nat.ofDigitChars_append, Nat.ofDigitChars_replicate_zero, Nat.mul_zero,
    Nat.ofDigitChars_ten_toDigits]

theorem length_padded {width n : Nat} (hwidth : 0 < width) (h : n < 10 ^ width) :
    (padded width n).length = width := by
  have hle := (Nat.length_toDigits_le_iff (by decide) hwidth).mpr h
  rw [padded, List.length_append, List.length_replicate]
  omega

theorem isDigit_of_mem_padded {c : Char} {width n : Nat} (h : c ∈ padded width n) : c.isDigit = true := by
  rcases List.mem_append.mp h with hzero | hdigit
  · rw [List.eq_of_mem_replicate hzero]
    rfl
  · exact isDigit_of_mem_numeral hdigit

/-- A list without the zeros at its end. -/
def stripZeros (l : List Char) : List Char := (l.reverse.dropWhile (fun c => c = '0')).reverse

theorem eq_stripZeros_append (l : List Char) :
    l = stripZeros l ++ List.replicate (l.length - (stripZeros l).length) '0' := by
  have hall : l = stripZeros l ++ (l.reverse.takeWhile (fun c => c = '0')).reverse := by
    rw [stripZeros, ← List.reverse_append, List.takeWhile_append_dropWhile, List.reverse_reverse]
  have hzeros : (l.reverse.takeWhile (fun c => c = '0')).reverse =
      List.replicate (l.length - (stripZeros l).length) '0' := by
    rw [List.eq_replicate_iff]
    constructor
    · have hlength := congrArg List.length hall
      rw [List.length_append] at hlength
      omega
    · intro c hc
      simpa using List.mem_takeWhile_imp (List.mem_reverse.mp hc)
  rw [← hzeros]
  exact hall

/-- Of lists of one length, what is left without those zeros tells them apart. -/
theorem stripZeros_injective {l l' : List Char} (hlength : l.length = l'.length)
    (h : stripZeros l = stripZeros l') : l = l' := by
  rw [eq_stripZeros_append l, eq_stripZeros_append l', h, hlength]

theorem isDigit_of_mem_stripZeros {c : Char} {width n : Nat} (h : c ∈ stripZeros (padded width n)) :
    c.isDigit = true := by
  have hmem : c ∈ padded width n := by
    rw [eq_stripZeros_append (padded width n)]
    exact List.mem_append_left _ h
  exact isDigit_of_mem_padded hmem

end Numerals

end Separators
