import SupplyPlatform.Lib.Bytes
import SupplyPlatform.Lib.Maps

namespace UrlQuery

open Bytes

def unhex (b : UInt8) : UInt8 :=
  if between '0' '9' b then b - 48 else if between 'a' 'f' b then b - 97 + 10 else b - 65 + 10

/-- A plus is a blank, and a percent sign takes two hex digits. -/
def unescape : Text → Option Text
  | [] => some []
  | b :: rest =>
    if b = 37 then
      match rest with
      | x :: y :: rest =>
        if isHexDigit x && isHexDigit y then (unescape rest).map ((unhex x * 16 + unhex y) :: ·) else none
      | _ => none
    else (unescape rest).map ((if b = 43 then 32 else b) :: ·)

/-- The text before the first `sep` and the text behind it. -/
def cut (sep : UInt8) (s : Text) : Text × Text :=
  (s.takeWhile (· ≠ sep), (s.dropWhile (· ≠ sep)).drop 1)

def parsePair (piece : Text) : Option (Text × Text) :=
  if piece.contains 59 then none
  else
    (unescape (cut 61 piece).1).bind (fun key =>
      (unescape (cut 61 piece).2).map (fun value => (key, value)))

/-- The names and values in the order of the query; `none` where one of its pieces is malformed. -/
def pairs (query : Text) : Option (List (Text × Text)) :=
  ((query.splitOn 38).filter (· ≠ [])).mapM parsePair

/-- The values of each name, in the order of the query. -/
abbrev Values := Finmap (fun _ : Text => List Text)

def add (values : Values) (pair : Text × Text) : Values :=
  values.insert pair.1 ((values.lookup pair.1).getD [] ++ [pair.2])

def collect (ps : List (Text × Text)) : Values := ps.foldl add ∅

def parseQuery (query : Text) : Option Values := (pairs query).map collect

/-- `Values.Get`: the first value of a name. -/
def get (values : Values) (key : Text) : Text := ((values.lookup key).getD []).headD []

theorem has_add (values : Values) (pair : Text × Text) (key : Text) :
    (∃ vs, (add values pair).lookup key = some vs) ↔ key = pair.1 ∨ ∃ vs, values.lookup key = some vs := by
  rw [add, Maps.lookup_insert]
  by_cases hkey : key = pair.1
  · simp [hkey]
  · simp [hkey]

/-- The names that have values are those the query gives. -/
theorem has_collect (ps : List (Text × Text)) (key : Text) :
    (∃ vs, (collect ps).lookup key = some vs) ↔ ∃ value, (key, value) ∈ ps := by
  have hfold : ∀ values : Values, (∃ vs, (ps.foldl add values).lookup key = some vs) ↔
      (∃ value, (key, value) ∈ ps) ∨ ∃ vs, values.lookup key = some vs := by
    induction ps with
    | nil => simp
    | cons p ps ih =>
      intro values
      rw [List.foldl_cons, ih, has_add]
      obtain ⟨name, value⟩ := p
      constructor
      · rintro (⟨value', h⟩ | rfl | h)
        · exact .inl ⟨value', List.mem_cons_of_mem _ h⟩
        · exact .inl ⟨value, List.mem_cons_self⟩
        · exact .inr h
      · rintro (⟨value', h⟩ | h)
        · rcases List.mem_cons.mp h with h | h
          · exact .inr (.inl (Prod.mk.inj h).1)
          · exact .inl ⟨value', h⟩
        · exact .inr (.inr h)
  have hempty : ¬∃ vs, (∅ : Values).lookup key = some vs := by
    rw [Finmap.lookup_empty]
    simp
  rw [collect, hfold ∅, or_iff_left hempty]

end UrlQuery
