import SupplyPlatform.Database

namespace SupplyPlatform.Idempotency

open Relational

inductive IdempotencyStatus
  | processing
  | succeeded
  | failed
  deriving DecidableEq

/-- The columns of the UNIQUE constraint. -/
structure IdempotencyKey where
  tenantID : Int
  operatorID : Int
  apiPath : String
  key : String
  deriving DecidableEq

/-- A row of `supply_idempotency_records`; `J` is the type of JSONB values. -/
structure IdempotencyRow (J : Type) where
  id : Int
  key : IdempotencyKey
  requestID : String
  payloadHash : String
  responseCode : Option Int
  responseBody : Option J
  status : IdempotencyStatus
  expiresAt : Time
  createdAt : Time
  updatedAt : Time
  deriving DecidableEq

/-- The Go struct a row is decoded into. -/
structure IdempotencyRecord (J : Type) where
  id : Int
  key : IdempotencyKey
  requestID : String
  payloadHash : String
  responseCode : Int
  responseBody : Option J
  status : IdempotencyStatus
  expiresAt : Time
  createdAt : Time
  updatedAt : Time
  deriving DecidableEq

variable {J : Type}

def Apart (a b : IdempotencyRow J) : Prop := a.id ≠ b.id ∧ a.key ≠ b.key

instance : DecidableRel (Apart (J := J)) := fun a b =>
  inferInstanceAs (Decidable (a.id ≠ b.id ∧ a.key ≠ b.key))

instance : Std.Symm (Apart (J := J)) := ⟨fun _ _ h => ⟨h.1.symm, h.2.symm⟩⟩

abbrev IdempotencyTable (J : Type) := Table (IdempotencyRow J) Apart

/-- What a CHAR(64) column gives back for a text of at most 64 characters. -/
def char64 (text : String) : String :=
  String.ofList (text.toList ++ List.replicate (64 - text.toList.length) ' ')

/-- `Scan` of a row: `response_code` goes into a Go int, a NULL `response_body` into a nil slice. -/
def scanRecord (r : IdempotencyRow J) : Except DbError (IdempotencyRecord J) := do
  let responseCode ← scan r.responseCode
  return { id := r.id, key := r.key, requestID := r.requestID, payloadHash := r.payloadHash,
           responseCode := responseCode, responseBody := r.responseBody, status := r.status,
           expiresAt := r.expiresAt, createdAt := r.createdAt, updatedAt := r.updatedAt }

/-- The WHERE clause of `GetByKey`. -/
def live (now : Time) (key : IdempotencyKey) (r : IdempotencyRow J) : Bool :=
  r.key = key && now < r.expiresAt

def getByKey (t : IdempotencyTable J) (now : Time) (key : IdempotencyKey) :
    Except RepoError (Option (IdempotencyRecord J)) :=
  match t.rows.find? (live now key) with
  | none => .ok none
  | some r =>
    match scanRecord r with
    | .ok record => .ok (some record)
    | .error e => .error (.wrap "failed to get idempotency record" e)

/-- The record `AcquireLock` inserts, with the columns RETURNING fills in. -/
def lockRecord (now : Time) (key : IdempotencyKey) (ttl : Int) (id : Int) (createdAt : Time) :
    IdempotencyRecord J :=
  { id := id, key := key, requestID := "", payloadHash := "", responseCode := 0,
    responseBody := none, status := .processing, expiresAt := now + ttl, createdAt := createdAt,
    updatedAt := now }

/-- DO UPDATE SET, as far as it goes: the response columns keep their values. -/
def relock (now : Time) (ttl : Int) (r : IdempotencyRow J) : IdempotencyRow J :=
  { r with requestID := "", payloadHash := char64 "", status := .processing,
           expiresAt := now + ttl, updatedAt := now }

/-- An UPDATE of the rows that satisfy `p`; `set` writes no key column. -/
def updateWhere (t : IdempotencyTable J) (p : IdempotencyRow J → Bool)
    (set : IdempotencyRow J → IdempotencyRow J)
    (keys : ∀ r, (set r).id = r.id ∧ (set r).key = r.key) : IdempotencyTable J :=
  t.update (fun r => if p r then set r else r) (by
    have hkey : ∀ r, (if p r then set r else r).id = r.id ∧ (if p r then set r else r).key = r.key := by
      intro r
      split
      · exact keys r
      · exact ⟨rfl, rfl⟩
    intro a b h
    unfold Apart
    rw [(hkey a).1, (hkey a).2, (hkey b).1, (hkey b).2]
    exact h)

/-- INSERT .. ON CONFLICT DO UPDATE .. WHERE expires_at <= $8 RETURNING of `AcquireLock`. The bound
$8 is the new `expires_at`, so only a row that outlives the new one is left alone. -/
def upsert (t : IdempotencyTable J) (now : Time) (key : IdempotencyKey) (ttl : Int) (id : Int) :
    Except DbError (IdempotencyTable J × IdempotencyRecord J) :=
  match t.rows.find? (fun r => r.key = key) with
  | none =>
    let row : IdempotencyRow J :=
      { id := id, key := key, requestID := "", payloadHash := char64 "", responseCode := none,
        responseBody := none, status := .processing, expiresAt := now + ttl, createdAt := now,
        updatedAt := now }
    match t.insert row with
    | some t' => .ok (t', lockRecord now key ttl id now)
    | none => .error .uniqueViolation
  | some r =>
    if r.expiresAt ≤ now + ttl then
      .ok (updateWhere t (fun q => q.key = key) (relock now ttl) (fun _ => ⟨rfl, rfl⟩),
        lockRecord now key ttl r.id r.createdAt)
    else .error .noRows

/-- `AcquireLock` once its upsert has failed: whatever record there is counts as the lock. -/
def acquireExisting (t : IdempotencyTable J) (now : Time) (key : IdempotencyKey) (err : DbError) :
    Except RepoError (IdempotencyRecord J) :=
  match getByKey t now key with
  | .error getErr => .error (.wrapGet "failed to acquire idempotency lock" err getErr)
  | .ok (some existing) => .ok existing
  | .ok none => .error (.wrap "failed to acquire idempotency lock" err)

/-- `UpdateSuccess` and `UpdateFailed`: an UPDATE by id alone. -/
def updateResult (t : IdempotencyTable J) (now : Time) (id responseCode : Int) (responseBody : J)
    (status : IdempotencyStatus) : IdempotencyTable J :=
  updateWhere t (fun r => r.id = id)
    (fun r => { r with responseCode := some responseCode, responseBody := some responseBody,
                       status := status, updatedAt := now })
    (fun _ => ⟨rfl, rfl⟩)

def updateSuccess (t : IdempotencyTable J) (now : Time) (id responseCode : Int) (responseBody : J) :
    IdempotencyTable J :=
  updateResult t now id responseCode responseBody .succeeded

def updateFailed (t : IdempotencyTable J) (now : Time) (id responseCode : Int) (responseBody : J) :
    IdempotencyTable J :=
  updateResult t now id responseCode responseBody .failed

def deleteExpired (t : IdempotencyTable J) (now : Time) : IdempotencyTable J :=
  t.delete (fun r => r.expiresAt < now)

theorem row_eq_of_key {t : IdempotencyTable J} {a b : IdempotencyRow J} (ha : a ∈ t.rows)
    (hb : b ∈ t.rows) (h : a.key = b.key) : a = b :=
  Table.eq_of_not_apart ha hb (fun hap => hap.2 h)

theorem row_eq_of_id {t : IdempotencyTable J} {a b : IdempotencyRow J} (ha : a ∈ t.rows)
    (hb : b ∈ t.rows) (h : a.id = b.id) : a = b :=
  Table.eq_of_not_apart ha hb (fun hap => hap.1 h)

theorem mem_updateWhere {t : IdempotencyTable J} {p : IdempotencyRow J → Bool}
    {set : IdempotencyRow J → IdempotencyRow J}
    {keys : ∀ r, (set r).id = r.id ∧ (set r).key = r.key} {q : IdempotencyRow J} :
    q ∈ (updateWhere t p set keys).rows ↔ ∃ r ∈ t.rows, (if p r then set r else r) = q := by
  simp [updateWhere]

/-- What a successful upsert leaves: one row of the key, freshly locked, and the others as they
were. -/
theorem upsert_ok {t t' : IdempotencyTable J} {now : Time} {key : IdempotencyKey} {ttl id : Int}
    {record : IdempotencyRecord J} (h : upsert t now key ttl id = .ok (t', record)) :
    ∃ row ∈ t'.rows, row.key = key ∧ row.id = record.id ∧ row.status = .processing ∧
      row.payloadHash = char64 "" ∧ row.expiresAt = now + ttl ∧ row.updatedAt = now ∧
      ∀ q ∈ t'.rows, q = row ∨ q ∈ t.rows := by
  unfold upsert at h
  split at h
  next hnone =>
    dsimp only at h
    split at h
    next t'' hins =>
      simp only [Except.ok.injEq, Prod.mk.injEq] at h
      obtain ⟨rfl, rfl⟩ := h
      refine ⟨_, (Table.mem_of_insert hins).mpr (Or.inr rfl), rfl, rfl, rfl, rfl, rfl, rfl, ?_⟩
      intro q hq
      exact ((Table.mem_of_insert hins).mp hq).symm
    next => simp at h
  next r hr =>
    have hkey : r.key = key := by simpa using List.find?_some hr
    have hmem := List.mem_of_find?_eq_some hr
    split at h
    next =>
      simp only [Except.ok.injEq, Prod.mk.injEq] at h
      obtain ⟨rfl, rfl⟩ := h
      refine ⟨relock now ttl r, mem_updateWhere.mpr ⟨r, hmem, by simp [hkey]⟩, hkey, rfl, rfl, rfl,
        rfl, rfl, ?_⟩
      intro q hq
      obtain ⟨r', hr', rfl⟩ := mem_updateWhere.mp hq
      by_cases hk : r'.key = key
      · rw [row_eq_of_key hr' hmem (hk.trans hkey.symm)]
        exact Or.inl (by simp [hkey])
      · exact Or.inr (by simpa [hk] using hr')
    next => simp at h

theorem mem_updateResult {t : IdempotencyTable J} {now : Time} {id code : Int} {body : J}
    {status : IdempotencyStatus} {q : IdempotencyRow J} :
    q ∈ (updateResult t now id code body status).rows ↔ ∃ r ∈ t.rows,
      (if r.id = id then
        { r with responseCode := some code, responseBody := some body, status := status,
                 updatedAt := now }
      else r) = q := by
  simp [updateResult, mem_updateWhere]

/-- The live row of a key, if there is one. -/
theorem getByKey_of_row {t : IdempotencyTable J} {now : Time} {r : IdempotencyRow J}
    (hr : r ∈ t.rows) (hlive : now < r.expiresAt) {record : IdempotencyRecord J}
    (hscan : scanRecord r = .ok record) : getByKey t now r.key = .ok (some record) := by
  have hfind : t.rows.find? (live now r.key) = some r := by
    refine find?_eq_of_unique hr (by simp [live, hlive]) ?_
    intro q hq hql
    simp only [live, Bool.and_eq_true, decide_eq_true_eq] at hql
    exact row_eq_of_key hq hr hql.1
  simp [getByKey, hfind, hscan]

end SupplyPlatform.Idempotency
