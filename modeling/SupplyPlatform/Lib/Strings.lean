import Mathlib.Data.List.Infix
import Mathlib.Tactic.Common

namespace Strings

def hasPrefix (s start : String) : Bool := start.toList.isPrefixOf s.toList

def hasSuffix (s tail : String) : Bool := tail.toList.isSuffixOf s.toList

/-- `s` without `tail` at its end, and `s` itself where it does not end so. -/
def trimSuffix (s tail : String) : String :=
  if hasSuffix s tail then String.ofList (s.toList.take (s.toList.length - tail.toList.length)) else s

/-- The characters of Unicode's White_Space property. -/
def isSpace (c : Char) : Bool :=
  (9 ≤ c.toNat && c.toNat ≤ 13) || c.toNat = 32 || c.toNat = 0x85 || c.toNat = 0xA0 ||
    c.toNat = 0x1680 || (0x2000 ≤ c.toNat && c.toNat ≤ 0x200A) || c.toNat = 0x2028 ||
    c.toNat = 0x2029 || c.toNat = 0x202F || c.toNat = 0x205F || c.toNat = 0x3000

def trimSpace (s : String) : String :=
  String.ofList ((s.toList.dropWhile isSpace).reverse.dropWhile isSpace).reverse

/-- The text before the first `sep`. -/
def firstPart (s : String) (sep : Char) : String := String.ofList (s.toList.takeWhile (· ≠ sep))

def contains (s part : String) : Bool := s.toList.tails.any (part.toList.isPrefixOf ·)

/-- The same characters up to letter case; `fold` takes a character to what all its cases have in common. -/
def equalFold (fold : Char → Char) (s t : String) : Bool := s.toList.map fold = t.toList.map fold

theorem contains_iff {s part : String} : contains s part = true ↔ part.toList <:+: s.toList := by
  unfold contains
  rw [List.any_eq_true]
  constructor
  · rintro ⟨tail, htail, hpart⟩
    exact (List.isPrefixOf_iff_prefix.mp hpart).isInfix.trans ((List.mem_tails _ _).mp htail).isInfix
  · rintro ⟨before, rest, h⟩
    refine ⟨part.toList ++ rest, (List.mem_tails _ _).mpr ⟨before, ?_⟩,
      List.isPrefixOf_iff_prefix.mpr (List.prefix_append _ _)⟩
    rw [← List.append_assoc, h]

theorem hasPrefix_iff {s start : String} :
    hasPrefix s start = true ↔ ∃ rest, s = start ++ rest := by
  unfold hasPrefix
  rw [List.isPrefixOf_iff_prefix]
  constructor
  · rintro ⟨rest, h⟩
    exact ⟨String.ofList rest, String.toList_inj.mp (by simp [h])⟩
  · rintro ⟨rest, rfl⟩
    exact ⟨rest.toList, by simp⟩

/-- What starts with `start` is `start` and what is left after as many characters. -/
theorem append_drop_of_hasPrefix {s start : String} (h : hasPrefix s start = true) :
    start ++ String.ofList (s.toList.drop start.toList.length) = s := by
  obtain ⟨rest, rfl⟩ := hasPrefix_iff.mp h
  exact String.toList_inj.mp (by simp)

theorem hasSuffix_iff {s tail : String} :
    hasSuffix s tail = true ↔ ∃ head, s = head ++ tail := by
  unfold hasSuffix
  rw [List.isSuffixOf_iff_suffix]
  constructor
  · rintro ⟨head, h⟩
    exact ⟨String.ofList head, String.toList_inj.mp (by simp [h])⟩
  · rintro ⟨head, rfl⟩
    exact ⟨head.toList, by simp⟩

/-- Of two texts that start `s`, one starts the other. -/
theorem hasPrefix_or_hasPrefix {s a b : String} (ha : hasPrefix s a = true)
    (hb : hasPrefix s b = true) : hasPrefix a b = true ∨ hasPrefix b a = true := by
  simp only [hasPrefix, List.isPrefixOf_iff_prefix] at ha hb ⊢
  exact (List.prefix_or_prefix_of_prefix ha hb).symm

theorem hasPrefix_of_longer {s base longer : String} {c : Char}
    (hl : longer = base ++ String.singleton c) (h : s = base ∨ hasPrefix s longer = true) :
    hasPrefix s base = true := by
  rcases h with rfl | h
  · exact hasPrefix_iff.mpr ⟨"", by simp⟩
  · obtain ⟨rest, rfl⟩ := hasPrefix_iff.mp h
    exact hasPrefix_iff.mpr ⟨String.singleton c ++ rest, by rw [hl, String.append_assoc]⟩

/-- A text that `base` starts goes on with `c`, or ends there, when no other character follows. -/
theorem eq_or_hasPrefix_iff {s base longer : String} {c : Char}
    (hl : longer = base ++ String.singleton c) (h : hasPrefix s base = true) :
    (s = base ∨ hasPrefix s longer = true) ↔
      ∀ d rest, s = base ++ String.ofList (d :: rest) → d = c := by
  subst hl
  have next : ∀ d rest, base ++ String.ofList (d :: rest) =
      base ++ String.singleton d ++ String.ofList rest := fun d rest =>
    String.toList_inj.mp (by simp)
  constructor
  · rintro (rfl | longer) d rest hs
    · have := congrArg String.toList hs
      simp at this
    · obtain ⟨rest', hs'⟩ := hasPrefix_iff.mp longer
      have := congrArg String.toList (hs.symm.trans hs')
      simp only [String.toList_append, String.toList_ofList, String.toList_singleton,
        List.append_assoc, List.append_cancel_left_eq, List.cons_append, List.nil_append] at this
      exact (List.cons.inj this).1
  · intro only
    obtain ⟨tail, rfl⟩ := hasPrefix_iff.mp h
    cases ht : tail.toList with
    | nil => exact .inl (String.toList_inj.mp (by simp [ht]))
    | cons d rest =>
      have hd : tail = String.ofList (d :: rest) := String.toList_inj.mp (by simp [ht])
      have : d = c := only d rest (by rw [hd])
      subst this
      exact .inr (hasPrefix_iff.mpr ⟨String.ofList rest, by rw [hd, next]⟩)

theorem trimSuffix_append (head tail : String) : trimSuffix (head ++ tail) tail = head := by
  have h : hasSuffix (head ++ tail) tail = true := hasSuffix_iff.mpr ⟨head, rfl⟩
  apply String.toList_inj.mp
  simp [trimSuffix, h]

end Strings
