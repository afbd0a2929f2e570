import Mathlib.Data.List.Infix
import Mathlib.Tactic.Common

namespace Like

/-- What a LIKE pattern is made of. -/
inductive Token
  | any
  | one
  | char (c : Char)
  deriving DecidableEq

/-- A pattern as it is read. One that ends in the escape character is an error in SQL; here that
character is then taken as itself. -/
def tokens : List Char → List Token
  | [] => []
  | '%' :: rest => .any :: tokens rest
  | '_' :: rest => .one :: tokens rest
  | '\\' :: c :: rest => .char c :: tokens rest
  | c :: rest => .char c :: tokens rest

def matchTokens : List Token → List Char → Bool
  | [], text => text.isEmpty
  | .any :: pattern, text => text.tails.any (matchTokens pattern)
  | .one :: _, [] => false
  | .one :: pattern, _ :: text => matchTokens pattern text
  | .char _ :: _, [] => false
  | .char c :: pattern, d :: text => c = d && matchTokens pattern text

/-- `text LIKE pattern`. -/
def like (text pattern : String) : Bool := matchTokens (tokens pattern.toList) text.toList

/-- A character that is not read as itself. -/
def Special (c : Char) : Prop := c = '%' ∨ c = '_' ∨ c = '\\'

instance (c : Char) : Decidable (Special c) := inferInstanceAs (Decidable (_ ∨ _ ∨ _))

theorem tokens_cons_of_not_special {c : Char} (h : ¬Special c) (rest : List Char) :
    tokens (c :: rest) = .char c :: tokens rest := by
  obtain ⟨hany, hone, hescape⟩ : c ≠ '%' ∧ c ≠ '_' ∧ c ≠ '\\' := by
    simpa only [Special, not_or] using h
  rw [tokens.eq_def]
  split
  next heq => cases heq
  next heq => exact absurd (List.cons.inj heq).1 hany
  next heq => exact absurd (List.cons.inj heq).1 hone
  next heq => exact absurd (List.cons.inj heq).1 hescape
  next heq =>
    obtain ⟨rfl, rfl⟩ := List.cons.inj heq
    rfl

theorem tokens_append_of_not_special {word : List Char} (h : ∀ c ∈ word, ¬Special c)
    (rest : List Char) : tokens (word ++ rest) = word.map Token.char ++ tokens rest := by
  induction word with
  | nil => rfl
  | cons c word ih =>
    rw [List.cons_append, tokens_cons_of_not_special (h c List.mem_cons_self),
      ih (fun d hd => h d (List.mem_cons_of_mem c hd))]
    rfl

theorem matchTokens_chars_append (word : List Char) (pattern : List Token) (text : List Char) :
    matchTokens (word.map Token.char ++ pattern) text = true ↔
      ∃ rest, text = word ++ rest ∧ matchTokens pattern rest = true := by
  induction word generalizing text with
  | nil => exact ⟨fun h => ⟨text, rfl, h⟩, fun ⟨_, heq, h⟩ => heq ▸ h⟩
  | cons c word ih =>
    cases text with
    | nil =>
      constructor
      · intro h
        cases h
      · rintro ⟨rest, heq, -⟩
        cases heq
    | cons d text =>
      simp only [List.map_cons, List.cons_append, matchTokens, Bool.and_eq_true, decide_eq_true_eq,
        ih, List.cons.injEq]
      constructor
      · rintro ⟨rfl, rest, rfl, h⟩
        exact ⟨rest, ⟨rfl, rfl⟩, h⟩
      · rintro ⟨rest, ⟨rfl, rfl⟩, h⟩
        exact ⟨rfl, rest, rfl, h⟩

theorem matchTokens_any_singleton (text : List Char) : matchTokens [.any] text = true := by
  refine List.any_eq_true.mpr ⟨[], ?_, rfl⟩
  exact (List.mem_tails _ _).mpr (List.nil_suffix)

/-- A word without special characters between two `%` is looked for anywhere in the text. -/
theorem matchTokens_substring {word : List Char} (h : ∀ c ∈ word, ¬Special c) (text : List Char) :
    matchTokens (tokens ('%' :: (word ++ ['%']))) text = true ↔ word <:+: text := by
  have htokens : tokens ('%' :: (word ++ ['%'])) = .any :: (word.map Token.char ++ [.any]) := by
    rw [tokens, tokens_append_of_not_special h]
    rfl
  rw [htokens, matchTokens, List.any_eq_true]
  constructor
  · rintro ⟨tail, htail, hmatch⟩
    obtain ⟨rest, rfl, -⟩ := (matchTokens_chars_append _ _ _).mp hmatch
    obtain ⟨before, rfl⟩ := (List.mem_tails _ _).mp htail
    exact ⟨before, rest, List.append_assoc _ _ _⟩
  · rintro ⟨before, rest, rfl⟩
    refine ⟨word ++ rest, (List.mem_tails _ _).mpr ⟨before, (List.append_assoc _ _ _).symm⟩, ?_⟩
    exact (matchTokens_chars_append _ _ _).mpr ⟨rest, rfl, matchTokens_any_singleton rest⟩

/-- A word of characters that nothing else is mapped to is what is mapped to it. -/
theorem map_eq_iff {f : Char → Char} {word : List Char} (h : ∀ c ∈ word, ∀ d, f d = c ↔ d = c)
    (part : List Char) : part.map f = word ↔ part = word := by
  induction word generalizing part with
  | nil => exact List.map_eq_nil_iff
  | cons c word ih =>
    cases part with
    | nil => exact ⟨nofun, nofun⟩
    | cons d part =>
      rw [List.map_cons, List.cons.injEq, List.cons.injEq, h c List.mem_cons_self d,
        ih (fun e he => h e (List.mem_cons_of_mem c he))]

theorem infix_map_iff {f : Char → Char} {word : List Char} (h : ∀ c ∈ word, ∀ d, f d = c ↔ d = c)
    (text : List Char) : word <:+: text.map f ↔ word <:+: text := by
  constructor
  · rintro ⟨before, rest, heq⟩
    obtain ⟨start, rest', rfl, hstart, -⟩ := List.map_eq_append_iff.mp heq.symm
    obtain ⟨before', part, rfl, -, hpart⟩ := List.map_eq_append_iff.mp hstart
    rw [(map_eq_iff h part).mp hpart]
    exact ⟨before', rest', rfl⟩
  · rintro ⟨before, rest, rfl⟩
    refine ⟨before.map f, rest.map f, ?_⟩
    rw [List.map_append, List.map_append, (map_eq_iff h word).mpr rfl]

end Like
