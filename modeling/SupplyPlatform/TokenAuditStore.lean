import Mathlib.Algebra.Group.Int.Defs
import SupplyPlatform.Lib.Slices
import SupplyPlatform.TokenRuntime
import SupplyPlatform.WebRequest

namespace SupplyPlatform.TokenAudit

open Settlements (zeroTime)
open Strings

/-- An audit event with the id under which it is stored. -/
structure StoredEvent extends AuditEvent where
  eventID : String
  deriving DecidableEq

structure AuditEventFilter where
  requestID : String
  tokenID : String
  subjectID : String
  eventName : String
  resultCode : String
  limit : Int
  deriving DecidableEq

/-- One field of `matchAuditFilter`: a blank text asks for nothing. -/
def matchField (wanted found : String) : Bool := wanted = "" || found = wanted

def matchAuditFilter (ev : StoredEvent) (filter : AuditEventFilter) : Bool :=
  matchField filter.requestID ev.requestID && matchField filter.tokenID ev.tokenID &&
    matchField filter.subjectID ev.subjectID && matchField filter.eventName ev.eventName &&
    matchField filter.resultCode ev.resultCode

/-- `generateEventID`, of what `rand.Read` gives. -/
def generateEventID (entropy : Except String (List UInt8)) : Except String String :=
  entropy.map (fun bytes => "evt_" ++ TokenRuntime.encodeToString bytes)

structure MemoryAuditStore where
  events : Array StoredEvent

/-- A call of `Emit`, with what `rand.Read` and the clock give it. -/
structure Emission where
  event : StoredEvent
  entropy : Except String (List UInt8)
  now : Time

/-- The event that `Emit` stores. -/
def Emission.stored (call : Emission) : Except String StoredEvent := do
  let eventID ← if call.event.eventID = "" then generateEventID call.entropy else .ok call.event.eventID
  let createdAt := if call.event.createdAt = zeroTime then call.now else call.event.createdAt
  return { call.event with eventID := eventID, createdAt := createdAt }

/-- The limit that `QueryEvents` keeps to. -/
def effectiveLimit (limit : Int) : Int :=
  let limit := if limit ≤ 0 then 100 else limit
  if limit > 500 then 500 else limit

namespace MemoryAuditStore

/-- `NewMemoryAuditStore`. -/
def new : MemoryAuditStore := ⟨#[]⟩

def emit (s : MemoryAuditStore) (call : Emission) : MemoryAuditStore × Except String Unit :=
  match call.stored with
  | .error err => (s, .error err)
  | .ok event => (⟨s.events.push event⟩, .ok ())

/-- The first loop of `QueryEvents`, from the index below `n` down. -/
def scan (events : Array StoredEvent) (filter : AuditEventFilter) (limit : Int) :
    (n : Nat) → n ≤ events.size → Array StoredEvent → Array StoredEvent
  | 0, _, result => result
  | idx + 1, h, result =>
    let ev := events[idx]
    if !matchAuditFilter ev filter then scan events filter limit idx (Nat.le_of_succ_le h) result
    else
      let result := result.push ev
      if (result.size : Int) ≥ limit then result
      else scan events filter limit idx (Nat.le_of_succ_le h) result

def queryEvents (s : MemoryAuditStore) (filter : AuditEventFilter) : Array StoredEvent :=
  let result := scan s.events filter (effectiveLimit filter.limit) s.events.size (Nat.le_refl _) #[]
  Slices.swapEnds result 0 (result.size - 1)

/-- The store after a sequence of calls of `Emit`. -/
def emitAll (s : MemoryAuditStore) (calls : List Emission) : MemoryAuditStore :=
  calls.foldl (fun s call => (s.emit call).1) s

end MemoryAuditStore

/-- `strconv.Atoi`; `none` is an error. -/
def atoi (s : String) : Option Int :=
  match s.toList with
  | '-' :: digits => magnitude digits |>.bind (fun n => fits (-n))
  | '+' :: digits => magnitude digits |>.bind fits
  | digits => magnitude digits |>.bind fits
where
  magnitude (digits : List Char) : Option Int :=
    if digits ≠ [] ∧ digits.all Char.isDigit then
      some (digits.foldl (fun n c => 10 * n + (c.toNat - 48 : Nat)) 0)
    else none
  fits (n : Int) : Option Int := if -2 ^ 63 ≤ n ∧ n < 2 ^ 63 then some n else none

def parseLimit (raw : String) : Int :=
  if trimSpace raw = "" then 100
  else
    match atoi (trimSpace raw) with
    | none => 100
    | some n => if n ≤ 0 then 100 else if n > 500 then 500 else n

inductive AuditEventsResponse
  | error (status : Nat) (code message : String)
  | listed (requestID : String) (total : Nat) (items : Array StoredEvent)

/-- The filter that `handleAuditEvents` reads from the query. -/
def requestFilter (r : WebRequest) : AuditEventFilter where
  requestID := trimSpace (r.get "request_id")
  tokenID := trimSpace (r.get "token_id")
  subjectID := trimSpace (r.get "subject_id")
  eventName := trimSpace (r.get "event_name")
  resultCode := trimSpace (r.get "result_code")
  limit := parseLimit (r.get "limit")

/-- `handleAuditEvents`; without a store it is the `emptyAuditQuerier` that answers. -/
def handleAuditEvents (store : Option MemoryAuditStore) (r : WebRequest) : AuditEventsResponse :=
  if r.method ≠ "GET" then .error 405 "METHOD_NOT_ALLOWED" "method not allowed"
  else if trimSpace r.xRequestID = "" then .error 400 "BAD_REQUEST" "missing X-Request-Id"
  else
    let events := match store with
      | some s => s.queryEvents (requestFilter r)
      | none => #[]
    .listed (trimSpace r.xRequestID) events.size events

/-- The number of events asked for: 100 by default, and at most 500. -/
def pageSize (limit : Int) : Nat := if limit ≤ 0 then 100 else (min limit 500).toNat

/-- The events that calls of `Emit` store and that satisfy the filter, in the order of the calls. -/
def matching (calls : List Emission) (filter : AuditEventFilter) : List StoredEvent :=
  (calls.filterMap (fun call => call.stored.toOption)).filter (matchAuditFilter · filter)

theorem effectiveLimit_eq (limit : Int) : effectiveLimit limit = pageSize limit := by
  unfold effectiveLimit pageSize
  by_cases hpos : limit ≤ 0
  · rw [if_pos hpos, if_pos hpos]
    rfl
  · rw [if_neg hpos, if_neg hpos]
    dsimp only
    split
    · omega
    · omega

theorem pageSize_pos (limit : Int) : 0 < pageSize limit := by
  unfold pageSize
  split
  · decide
  · omega

/-- What the handler asks for is not changed by the store. -/
theorem effectiveLimit_parseLimit (raw : String) : effectiveLimit (parseLimit raw) = parseLimit raw := by
  have hrange : 0 < parseLimit raw ∧ parseLimit raw ≤ 500 := by
    unfold parseLimit
    split
    · decide
    · split
      · decide
      · split
        · decide
        · split
          · decide
          · omega
  unfold effectiveLimit
  rw [if_neg (by omega), if_neg (by omega)]

namespace MemoryAuditStore

theorem emit_events (s : MemoryAuditStore) (call : Emission) :
    (s.emit call).1.events.toList = s.events.toList ++ call.stored.toOption.toList := by
  unfold emit
  cases call.stored with
  | error err => simp [Except.toOption]
  | ok event => simp [Except.toOption]

theorem emitAll_events (s : MemoryAuditStore) (calls : List Emission) :
    (s.emitAll calls).events.toList =
      s.events.toList ++ calls.filterMap (fun call => call.stored.toOption) := by
  induction calls generalizing s with
  | nil => simp [emitAll]
  | cons call calls ih =>
    have hnext := ih (s.emit call).1
    rw [emit_events, List.append_assoc] at hnext
    rw [emitAll, List.foldl_cons, ← emitAll, hnext]
    cases hstored : call.stored.toOption with
    | none => simp [hstored]
    | some event => simp [hstored]

section

variable {events : Array StoredEvent} {filter : AuditEventFilter} {limit : Nat}

/-- The loop gathers the newest events first, up to the limit. -/
theorem scan_toList {n : Nat} (hn : n ≤ events.size) {result : Array StoredEvent}
    (hroom : result.size < limit) :
    (scan events filter limit n hn result).toList = result.toList ++
      ((events.toList.take n).reverse.filter (matchAuditFilter · filter)).take (limit - result.size) := by
  induction n generalizing result with
  | zero => simp [scan]
  | succ idx ih =>
    have hidx : idx < events.toList.length := hn
    have htaken : (events.toList.take (idx + 1)).reverse =
        events[idx] :: (events.toList.take idx).reverse := by
      rw [List.take_succ_eq_append_getElem hidx]
      simp
    rw [htaken, scan]
    cases hmatch : matchAuditFilter events[idx] filter with
    | false =>
      rw [List.filter_cons_of_neg (by simp [hmatch])]
      exact ih (Nat.le_of_succ_le hn) hroom
    | true =>
      have hkept : (events[idx] :: (events.toList.take idx).reverse).filter (matchAuditFilter · filter) =
          events[idx] :: (events.toList.take idx).reverse.filter (matchAuditFilter · filter) :=
        List.filter_cons_of_pos hmatch
      have hsize : (result.push events[idx]).size = result.size + 1 := Array.size_push ..
      obtain ⟨left, hleft⟩ : ∃ left, limit - result.size = left + 1 := ⟨limit - result.size - 1, by omega⟩
      rw [hkept, hleft, List.take_succ_cons]
      simp only [Bool.not_true, Bool.false_eq_true, if_false, hsize, ge_iff_le, Nat.cast_le]
      by_cases hfull : limit ≤ result.size + 1
      · have hnone : left = 0 := by omega
        rw [if_pos hfull, hnone, List.take_zero, Array.toList_push]
      · have hrest : limit - (result.push events[idx]).size = left := by omega
        rw [if_neg hfull, ih (Nat.le_of_succ_le hn) (by omega), hrest, Array.toList_push,
          List.append_assoc, List.singleton_append]

end

/-- The two loops give the last of the events that satisfy the filter. -/
theorem queryEvents_toList (s : MemoryAuditStore) (filter : AuditEventFilter) :
    (s.queryEvents filter).toList =
      (s.events.toList.filter (matchAuditFilter · filter)).rtake (pageSize filter.limit) := by
  have hall : s.events.toList.take s.events.size = s.events.toList := List.take_length
  have hscan : (scan s.events filter (pageSize filter.limit) s.events.size (Nat.le_refl _) #[]).toList =
      (s.events.toList.filter (matchAuditFilter · filter)).reverse.take (pageSize filter.limit) := by
    rw [scan_toList (Nat.le_refl _) (pageSize_pos filter.limit), hall, List.nil_append, Array.size_empty,
      Nat.sub_zero, List.filter_reverse]
  unfold queryEvents
  dsimp only
  rw [Slices.swapEnds_eq_reverse, Array.toList_reverse, effectiveLimit_eq, hscan,
    List.rtake_eq_reverse_take_reverse]

/-- What has been emitted, and what is emitted later, as the query lists it. -/
theorem queryEvents_last (calls later : List Emission) (filter : AuditEventFilter) :
    ((new.emitAll calls).queryEvents filter).toList =
      (matching calls filter).rtake (min (pageSize filter.limit) (matching calls filter).length) ∧
    ((new.emitAll (calls ++ later)).queryEvents filter).toList =
      (((new.emitAll calls).queryEvents filter).toList ++ matching later filter).rtake
        (pageSize filter.limit) := by
  have hlist : ∀ calls, ((new.emitAll calls).queryEvents filter).toList =
      (matching calls filter).rtake (pageSize filter.limit) := by
    intro calls
    rw [queryEvents_toList, emitAll_events]
    rfl
  have happend : matching (calls ++ later) filter = matching calls filter ++ matching later filter := by
    simp only [matching, List.filterMap_append, List.filter_append]
  constructor
  · rw [hlist, List.rtake, List.rtake]
    congr 1
    omega
  · rw [hlist, hlist, happend, Slices.rtake_append]

end MemoryAuditStore

theorem requestFilter_limit (r : WebRequest) :
    (requestFilter r).limit = parseLimit (r.get "limit") := by
  unfold requestFilter
  dsimp only

/-- The handler lists the last events that satisfy the filter, as many as it was asked for. -/
theorem handleAuditEvents_listed {s : MemoryAuditStore} {r : WebRequest} {requestID : String}
    {total : Nat} {items : Array StoredEvent}
    (h : handleAuditEvents (some s) r = .listed requestID total items) :
    total = items.size ∧ items.toList =
      (s.events.toList.filter (matchAuditFilter · (requestFilter r))).rtake
        (parseLimit (r.get "limit")).toNat := by
  have hpage : pageSize (requestFilter r).limit = (parseLimit (r.get "limit")).toNat := by
    have heq := effectiveLimit_eq (requestFilter r).limit
    rw [requestFilter_limit] at heq ⊢
    rw [effectiveLimit_parseLimit] at heq
    omega
  unfold handleAuditEvents at h
  split at h
  · cases h
  split at h
  · cases h
  cases h
  exact ⟨rfl, by rw [MemoryAuditStore.queryEvents_toList, hpage]⟩

end SupplyPlatform.TokenAudit
