import SupplyPlatform.QueryKeys
import SupplyPlatform.Sanitizer

namespace SupplyPlatform.Sanitizer

def getSensitiveFields : List String :=
  ["api_key", "apikey", "secret", "secret_key", "password", "passwd", "pwd", "token", "access_key",
   "access_key_id", "private_key", "session_id", "authorization", "bearer", "client_secret", "credentials"]

/-- `lower` is `unicode.ToLower`. -/
def isSensitiveField (lower : Char → Char) (fieldName : String) : Bool :=
  getSensitiveFields.any (fun field => Strings.contains (toLower lower fieldName) field)

section

-- the values of all types that the type switches have no case for
variable (σ : Type)

/-- A value of type `interface{}`; a map or a slice refers to an object. -/
inductive Value
  | nil
  | other (value : σ)
  | str (text : Text)
  | strs (ref : Nat)
  | slice (ref : Nat)
  | map (ref : Nat)

/-- What a map or a slice refers to; a map has its entries in the order that `range` goes over them. -/
inductive Object
  | strs (items : List Text)
  | slice (items : List (Value σ))
  | map (entries : List (String × Value σ))

abbrev Heap := List (Object σ)

end

variable {σ β ι τ : Type}

/-- `result[key] = value` -/
def Object.setKey (key : String) (value : Value σ) : Object σ → Object σ
  | .map entries =>
    if key ∈ entries.map Prod.fst then
      .map (entries.map (fun e => if e.1 = key then (key, value) else e))
    else .map (entries ++ [(key, value)])
  | object => object

/-- `result[i] = value` -/
def Object.setItem (i : Nat) (value : Value σ) : Object σ → Object σ
  | .slice items => .slice (items.set i value)
  | object => object

def Object.setText (i : Nat) (text : Text) : Object σ → Object σ
  | .strs items => .strs (items.set i text)
  | object => object

/-- A loop that puts what becomes of each element into the object it has made. -/
def fill (item : ι → Heap σ → Option (β × Heap σ)) (put : ι → β → Object σ → Object σ) (result : Nat) :
    List ι → Heap σ → Option (Heap σ)
  | [], h => some h
  | x :: xs, h => (item x h).bind (fun out => fill item put result xs (out.2.modify result (put x out.1)))

def maskSlice (data : Nat) (h : Heap σ) : Option (Nat × Heap σ) :=
  match h[data]? with
  | some (.strs items) =>
    (fill (fun item h => some (mask item.1, h)) (fun item text => .setText item.2 text) h.length items.zipIdx
      (h ++ [.strs (List.replicate items.length [])])).map (fun h' => (h.length, h'))
  | _ => none

/-- The loop of `maskSliceInterface`, which `maskValue` repeats. -/
def maskItems (maskValue : Value σ → Heap σ → Option (Value σ × Heap σ)) (data : Nat) (h : Heap σ) :
    Option (Nat × Heap σ) :=
  match h[data]? with
  | some (.slice items) =>
    (fill (fun item h => maskValue item.1 h) (fun item value => .setItem item.2 value) h.length items.zipIdx
      (h ++ [.slice (List.replicate items.length .nil)])).map (fun h' => (h.length, h'))
  | _ => none

/-- The switch in the loop of `MaskMap`. -/
def maskEntry (lower : Char → Char) (maskSliceInterface : Nat → Heap σ → Option (Nat × Heap σ))
    (maskValue : Value σ → Heap σ → Option (Value σ × Heap σ)) (e : String × Value σ) (h : Heap σ) :
    Option (Value σ × Heap σ) :=
  if isSensitiveField lower e.1 then
    match e.2 with
    | .str text => some (.str (mask text), h)
    | .strs ref => (maskSlice ref h).map (fun out => (.strs out.1, out.2))
    | .slice ref => (maskSliceInterface ref h).map (fun out => (.slice out.1, out.2))
    | value => some (value, h)
  else maskValue e.2 h

-- the number is how deep calls may be nested; a value that holds itself would run Go out of stack
mutual

def maskMap (lower : Char → Char) : Nat → Nat → Heap σ → Option (Nat × Heap σ)
  | 0, _, _ => none
  | depth + 1, data, h =>
    match h[data]? with
    | some (.map entries) =>
      (fill (maskEntry lower (maskSliceInterface lower depth) (maskValue lower depth))
        (fun e value => .setKey e.1 value) h.length entries (h ++ [.map []])).map (fun h' => (h.length, h'))
    | _ => none

def maskSliceInterface (lower : Char → Char) : Nat → Nat → Heap σ → Option (Nat × Heap σ)
  | 0, _, _ => none
  | depth + 1, data, h => maskItems (maskValue lower depth) data h

def maskValue (lower : Char → Char) : Nat → Value σ → Heap σ → Option (Value σ × Heap σ)
  | 0, _, _ => none
  | _ + 1, .str text, h => some (.str (mask text), h)
  | depth + 1, .map ref, h => (maskMap lower depth ref h).map (fun out => (.map out.1, out.2))
  | depth + 1, .slice ref, h =>
    (maskItems (maskValue lower depth) ref h).map (fun out => (.slice out.1, out.2))
  | _ + 1, .strs ref, h => (maskSlice ref h).map (fun out => (.strs out.1, out.2))
  | _ + 1, value, h => some (value, h)

end

/-- A value with all it holds. -/
inductive Tree (σ : Type)
  | nil
  | other (value : σ)
  | str (text : Text)
  | strs (items : List Text)
  | slice (items : List (Tree σ))
  | map (entries : List (String × Tree σ))

/-- The value holds these values, nested no deeper than the number says, in objects that can be seen. -/
def Reads : Nat → (Nat → Option (Object σ)) → Value σ → Tree σ → Prop
  | _, _, .nil, .nil => True
  | _, _, .other x, .other y => x = y
  | _, _, .str text, .str text' => text = text'
  | _, seen, .strs ref, .strs items => seen ref = some (.strs items)
  | n + 1, seen, .slice ref, .slice ts =>
    ∃ items, seen ref = some (.slice items) ∧ List.Forall₂ (Reads n seen) items ts
  | n + 1, seen, .map ref, .map ts =>
    ∃ entries, seen ref = some (.map entries) ∧ (entries.map Prod.fst).Nodup ∧
      List.Forall₂ (fun e t => e.1 = t.1 ∧ Reads n seen e.2 t.2) entries ts
  | _, _, _, _ => False

mutual

/-- The same shape with every string at every depth put through `f`. -/
def Tree.mapText (f : Text → Text) : Tree σ → Tree σ
  | .nil => .nil
  | .other x => .other x
  | .str text => .str (f text)
  | .strs items => .strs (items.map f)
  | .slice items => .slice (mapItems f items)
  | .map entries => .map (mapEntries f entries)

def Tree.mapItems (f : Text → Text) : List (Tree σ) → List (Tree σ)
  | [] => []
  | t :: ts => t.mapText f :: mapItems f ts

def Tree.mapEntries (f : Text → Text) : List (String × Tree σ) → List (String × Tree σ)
  | [] => []
  | (key, t) :: es => (key, t.mapText f) :: mapEntries f es

end

mutual

def Tree.texts : Tree σ → List Text
  | .str text => [text]
  | .strs items => items
  | .slice items => itemTexts items
  | .map entries => entryTexts entries
  | _ => []

def Tree.itemTexts : List (Tree σ) → List Text
  | [] => []
  | t :: ts => t.texts ++ itemTexts ts

def Tree.entryTexts : List (String × Tree σ) → List Text
  | [] => []
  | (_, t) :: es => t.texts ++ entryTexts es

end

mutual

/-- What becomes of a value, right under a sensitive key or not: there a map stays as it is. -/
def Tree.masked (lower : Char → Char) (sensitive : Bool) : Tree σ → Tree σ
  | .nil => .nil
  | .other x => .other x
  | .str text => .str (mask text)
  | .strs items => .strs (items.map mask)
  | .slice items => .slice (maskedItems lower items)
  | .map entries => .map (if sensitive then entries else maskedEntries lower entries)

def Tree.maskedItems (lower : Char → Char) : List (Tree σ) → List (Tree σ)
  | [] => []
  | t :: ts => t.masked lower false :: maskedItems lower ts

def Tree.maskedEntries (lower : Char → Char) : List (String × Tree σ) → List (String × Tree σ)
  | [] => []
  | (key, t) :: es => (key, t.masked lower (isSensitiveField lower key)) :: maskedEntries lower es

end

mutual

/-- The strings within the maps that are right under a sensitive key. -/
def Tree.exposed (lower : Char → Char) (sensitive : Bool) : Tree σ → List Text
  | .slice items => exposedItems lower items
  | .map entries => if sensitive then entryTexts entries else exposedEntries lower entries
  | _ => []

def Tree.exposedItems (lower : Char → Char) : List (Tree σ) → List Text
  | [] => []
  | t :: ts => t.exposed lower false ++ exposedItems lower ts

def Tree.exposedEntries (lower : Char → Char) : List (String × Tree σ) → List Text
  | [] => []
  | (key, t) :: es => t.exposed lower (isSensitiveField lower key) ++ exposedEntries lower es

end

theorem map_eq_self_iff (f : Text → Text) (items : List Text) :
    items.map f = items ↔ ∀ x ∈ items, f x = x := by
  have hsame := List.map_inj_left (f := f) (g := id) (l := items)
  rwa [List.map_id] at hsame

mutual

theorem Tree.mapText_eq_self_iff (f : Text → Text) : ∀ t : Tree σ, t.mapText f = t ↔ ∀ x ∈ t.texts, f x = x
  | .nil => by simp [Tree.mapText, Tree.texts]
  | .other x => by simp [Tree.mapText, Tree.texts]
  | .str text => by simp [Tree.mapText, Tree.texts]
  | .strs items => by
    simp only [Tree.mapText, Tree.texts, Tree.strs.injEq]
    exact map_eq_self_iff f items
  | .slice items => by
    simp only [Tree.mapText, Tree.texts, Tree.slice.injEq]
    exact Tree.mapItems_eq_self_iff f items
  | .map entries => by
    simp only [Tree.mapText, Tree.texts, Tree.map.injEq]
    exact Tree.mapEntries_eq_self_iff f entries

theorem Tree.mapItems_eq_self_iff (f : Text → Text) :
    ∀ ts : List (Tree σ), Tree.mapItems f ts = ts ↔ ∀ x ∈ Tree.itemTexts ts, f x = x
  | [] => by simp [Tree.mapItems, Tree.itemTexts]
  | t :: ts => by
    simp only [Tree.mapItems, Tree.itemTexts, List.cons.injEq, List.forall_mem_append]
    rw [Tree.mapText_eq_self_iff f t, Tree.mapItems_eq_self_iff f ts]

theorem Tree.mapEntries_eq_self_iff (f : Text → Text) :
    ∀ es : List (String × Tree σ), Tree.mapEntries f es = es ↔ ∀ x ∈ Tree.entryTexts es, f x = x
  | [] => by simp [Tree.mapEntries, Tree.entryTexts]
  | (key, t) :: es => by
    simp only [Tree.mapEntries, Tree.entryTexts, List.cons.injEq, Prod.mk.injEq, true_and,
      List.forall_mem_append]
    rw [Tree.mapText_eq_self_iff f t, Tree.mapEntries_eq_self_iff f es]

end

mutual

theorem Tree.masked_eq_iff (lower : Char → Char) (sensitive : Bool) : ∀ t : Tree σ,
    t.masked lower sensitive = t.mapText mask ↔ ∀ x ∈ t.exposed lower sensitive, mask x = x
  | .nil => by simp [Tree.masked, Tree.mapText, Tree.exposed]
  | .other x => by simp [Tree.masked, Tree.mapText, Tree.exposed]
  | .str text => by simp [Tree.masked, Tree.mapText, Tree.exposed]
  | .strs items => by simp [Tree.masked, Tree.mapText, Tree.exposed]
  | .slice items => by
    simp only [Tree.masked, Tree.mapText, Tree.exposed, Tree.slice.injEq]
    exact Tree.maskedItems_eq_iff lower items
  | .map entries => by
    simp only [Tree.masked, Tree.mapText, Tree.exposed, Tree.map.injEq]
    cases sensitive with
    | false => exact Tree.maskedEntries_eq_iff lower entries
    | true => exact eq_comm.trans (Tree.mapEntries_eq_self_iff mask entries)

theorem Tree.maskedItems_eq_iff (lower : Char → Char) : ∀ ts : List (Tree σ),
    Tree.maskedItems lower ts = Tree.mapItems mask ts ↔ ∀ x ∈ Tree.exposedItems lower ts, mask x = x
  | [] => by simp [Tree.maskedItems, Tree.mapItems, Tree.exposedItems]
  | t :: ts => by
    simp only [Tree.maskedItems, Tree.mapItems, Tree.exposedItems, List.cons.injEq, List.forall_mem_append]
    rw [Tree.masked_eq_iff lower false t, Tree.maskedItems_eq_iff lower ts]

theorem Tree.maskedEntries_eq_iff (lower : Char → Char) : ∀ es : List (String × Tree σ),
    Tree.maskedEntries lower es = Tree.mapEntries mask es ↔
      ∀ x ∈ Tree.exposedEntries lower es, mask x = x
  | [] => by simp [Tree.maskedEntries, Tree.mapEntries, Tree.exposedEntries]
  | (key, t) :: es => by
    simp only [Tree.maskedEntries, Tree.mapEntries, Tree.exposedEntries, List.cons.injEq, Prod.mk.injEq,
      true_and, List.forall_mem_append]
    rw [Tree.masked_eq_iff lower _ t, Tree.maskedEntries_eq_iff lower es]

end

end SupplyPlatform.Sanitizer
