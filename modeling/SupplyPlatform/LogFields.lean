import Mathlib.Data.List.Forall2
import SupplyPlatform.Database

namespace SupplyPlatform.Logging

inductive LogLevel
  | debug
  | info
  | warn
  | error
  | fatal
  deriving DecidableEq

/-- The map `levels` of `shouldLog`. -/
def LogLevel.rank : LogLevel → Int
  | .debug => 0
  | .info => 1
  | .warn => 2
  | .error => 3
  | .fatal => 4

section

-- the values that are neither texts nor of type `map[string]interface{}`; slices are among them
variable (σ : Type)

/-- A value of a field; a map has its entries in the order of their keys, which is that of the JSON text. -/
inductive Value
  | str (text : String)
  | other (value : σ)
  | map (entries : List (String × Value))

abbrev Fields := List (String × Value σ)

end

variable {σ : Type}

def sensitiveKeys : List String :=
  ["password", "secret", "token", "api_key", "apikey", "credential", "authorization", "private_key",
   "credit_card", "ssn", "passport"]

def lowerChar (c : Char) : Char := if 'A' ≤ c ∧ c ≤ 'Z' then Char.ofNat (c.toNat + 32) else c

def toLower (s : List Char) : List Char := s.map lowerChar

/-- The loop of `contains`: `i` goes up to the last place where `substr` fits. -/
def contains (s substr : List Char) : Bool :=
  (List.range (s.length + 1 - substr.length)).any (fun i => (s.drop i).take substr.length = substr)

def isSensitive (k : String) : Bool :=
  sensitiveKeys.any (fun sensitive => contains (toLower k.toList) sensitive.toList)

mutual

def sanitizeFields : Fields σ → Fields σ
  | [] => []
  | (k, v) :: fields =>
    (k, if isSensitive k then .str "[REDACTED]" else sanitizeValue v) :: sanitizeFields fields

/-- A nested map is sanitized, any other value is kept. -/
def sanitizeValue : Value σ → Value σ
  | .map nestedMap => .map (sanitizeFields nestedMap)
  | v => v

end

/-- `LogEntry` without the fields that `formatEntry` leaves empty; no fields stand for a nil map and for
an empty one, which the JSON text leaves out alike. -/
structure LogEntry (σ : Type) where
  timestamp : Time
  level : LogLevel
  service : String
  message : String
  fields : Fields σ

structure JsonLogger where
  service : String
  minLevel : LogLevel

/-- A call of a method of the logger, with the first of its field maps. -/
structure Call (σ : Type) where
  level : LogLevel
  msg : String
  fields : Fields σ
  now : Time

namespace JsonLogger

def shouldLog (l : JsonLogger) (level : LogLevel) : Bool := l.minLevel.rank ≤ level.rank

def formatEntry (l : JsonLogger) (c : Call σ) : LogEntry σ :=
  ⟨c.now, c.level, l.service, c.msg, sanitizeFields c.fields⟩

/-- `log`: what is written, if anything is; `marshal` is `json.Marshal`. -/
def log {Line : Type} (marshal : LogEntry σ → Option Line) (l : JsonLogger) (c : Call σ) : Option Line :=
  if l.shouldLog c.level then marshal (l.formatEntry c) else none

/-- The lines that a sequence of calls writes. -/
def written {Line : Type} (marshal : LogEntry σ → Option Line) (l : JsonLogger) (calls : List (Call σ)) :
    List Line :=
  calls.filterMap (l.log marshal)

end JsonLogger

mutual

/-- The same keys, with values that differ under sensitive keys only, at every depth of nested maps. -/
inductive AlikeFields : Fields σ → Fields σ → Prop
  | nil : AlikeFields [] []
  | sensitive {k : String} {v v' : Value σ} {fields fields' : Fields σ} (hk : isSensitive k = true)
    (hrest : AlikeFields fields fields') : AlikeFields ((k, v) :: fields) ((k, v') :: fields')
  | plain {k : String} {v v' : Value σ} {fields fields' : Fields σ} (hv : AlikeValue v v')
    (hrest : AlikeFields fields fields') : AlikeFields ((k, v) :: fields) ((k, v') :: fields')

inductive AlikeValue : Value σ → Value σ → Prop
  | same (v : Value σ) : AlikeValue v v
  | map {fields fields' : Fields σ} (h : AlikeFields fields fields') :
    AlikeValue (.map fields) (.map fields')

end

theorem contains_iff {s substr : List Char} : contains s substr = true ↔ substr <:+: s := by
  rw [contains, List.any_eq_true]
  constructor
  · rintro ⟨i, -, htake⟩
    rw [← of_decide_eq_true htake]
    exact (List.take_prefix _ _).isInfix.trans (List.drop_suffix i s).isInfix
  · rintro ⟨before, rest, rfl⟩
    refine ⟨before.length, List.mem_range.mpr ?_, decide_eq_true ?_⟩
    · simp only [List.length_append]
      omega
    · rw [List.append_assoc, List.drop_left, List.take_left]

/-- A key is sensitive with one of the words anywhere in it, in capitals or not. -/
theorem isSensitive_iff {k : String} :
    isSensitive k = true ↔ ∃ sensitive ∈ sensitiveKeys, sensitive.toList <:+: toLower k.toList := by
  simp only [isSensitive, List.any_eq_true, contains_iff]

mutual

theorem AlikeFields.sanitized {fields fields' : Fields σ} (h : AlikeFields fields fields') :
    sanitizeFields fields = sanitizeFields fields' := by
  cases h with
  | nil => rfl
  | sensitive hk hrest => rw [sanitizeFields, sanitizeFields, if_pos hk, if_pos hk, hrest.sanitized]
  | plain hv hrest => rw [sanitizeFields, sanitizeFields, hv.sanitized, hrest.sanitized]

theorem AlikeValue.sanitized {v v' : Value σ} (h : AlikeValue v v') : sanitizeValue v = sanitizeValue v' := by
  cases h with
  | same => rfl
  | map h => rw [sanitizeValue, sanitizeValue, h.sanitized]

end

mutual

theorem alike_of_sanitizeFields :
    ∀ {fields fields' : Fields σ}, sanitizeFields fields = sanitizeFields fields' → AlikeFields fields fields'
  | [], [], _ => .nil
  | [], _ :: _, h => by
    rw [sanitizeFields, sanitizeFields] at h
    cases h
  | _ :: _, [], h => by
    rw [sanitizeFields, sanitizeFields] at h
    cases h
  | (k, v) :: fields, (k', v') :: fields', h => by
    rw [sanitizeFields, sanitizeFields, List.cons.injEq, Prod.mk.injEq] at h
    obtain ⟨⟨rfl, hvalue⟩, hrest⟩ := h
    have halike := alike_of_sanitizeFields hrest
    by_cases hk : isSensitive k = true
    · exact .sensitive hk halike
    · rw [if_neg hk, if_neg hk] at hvalue
      exact .plain (alike_of_sanitizeValue hvalue) halike

theorem alike_of_sanitizeValue :
    ∀ {v v' : Value σ}, sanitizeValue v = sanitizeValue v' → AlikeValue v v'
  | .map fields, .map fields', h => by
    rw [sanitizeValue, sanitizeValue, Value.map.injEq] at h
    exact .map (alike_of_sanitizeFields h)
  | .str text, .str text', h => by
    cases h
    exact .same _
  | .other x, .other x', h => by
    cases h
    exact .same _
  | .str _, .other _, h => by cases h
  | .other _, .str _, h => by cases h
  | .str _, .map _, h => by simp only [sanitizeValue, reduceCtorEq] at h
  | .other _, .map _, h => by simp only [sanitizeValue, reduceCtorEq] at h
  | .map _, .str _, h => by simp only [sanitizeValue, reduceCtorEq] at h
  | .map _, .other _, h => by simp only [sanitizeValue, reduceCtorEq] at h

end

/-- The sanitized fields tell apart just what differs outside the sensitive keys. -/
theorem sanitizeFields_eq_iff {fields fields' : Fields σ} :
    sanitizeFields fields = sanitizeFields fields' ↔ AlikeFields fields fields' :=
  ⟨alike_of_sanitizeFields, AlikeFields.sanitized⟩

/-- Two calls that the log is not to tell apart. -/
structure Call.Alike (c c' : Call σ) : Prop where
  level : c.level = c'.level
  msg : c.msg = c'.msg
  now : c.now = c'.now
  fields : AlikeFields c.fields c'.fields

theorem formatEntry_eq_iff {l : JsonLogger} {c c' : Call σ} :
    l.formatEntry c = l.formatEntry c' ↔ c.Alike c' := by
  rw [JsonLogger.formatEntry, JsonLogger.formatEntry, LogEntry.mk.injEq, sanitizeFields_eq_iff]
  exact ⟨fun h => ⟨h.2.1, h.2.2.2.1, h.1, h.2.2.2.2⟩, fun h => ⟨h.now, h.level, rfl, h.msg, h.fields⟩⟩

/-- The calls that are not below the level of the logger. -/
def JsonLogger.logged (l : JsonLogger) (calls : List (Call σ)) : List (Call σ) :=
  calls.filter (fun c => l.shouldLog c.level)

theorem written_eq {Line : Type} (marshal : LogEntry σ → Option Line) (l : JsonLogger) (calls : List (Call σ)) :
    l.written marshal calls = ((l.logged calls).map l.formatEntry).filterMap marshal := by
  rw [JsonLogger.logged, List.filterMap_map, List.filterMap_filter]
  rfl

/-- Whatever the entries are marshalled to, two sequences of calls write the same lines exactly when the
calls that are logged differ under sensitive keys only. -/
theorem written_eq_iff (l : JsonLogger) (calls calls' : List (Call σ)) :
    (∀ (Line : Type) (marshal : LogEntry σ → Option Line), l.written marshal calls = l.written marshal calls') ↔
      List.Forall₂ Call.Alike (l.logged calls) (l.logged calls') := by
  have hentries : (l.logged calls).map l.formatEntry = (l.logged calls').map l.formatEntry ↔
      List.Forall₂ Call.Alike (l.logged calls) (l.logged calls') := by
    rw [← List.forall₂_eq_eq_eq, List.forall₂_map_left_iff, List.forall₂_map_right_iff]
    simp only [formatEntry_eq_iff]
  rw [← hentries]
  constructor
  · intro h
    have hall := h (LogEntry σ) some
    rwa [written_eq, written_eq, List.filterMap_some, List.filterMap_some] at hall
  · intro h Line marshal
    rw [written_eq, written_eq, h]

end SupplyPlatform.Logging
