import SupplyPlatform.Lib.Runs
import SupplyPlatform.Database

namespace SupplyPlatform.Tokens

open Relational

inductive TokenStatus
  | active
  | revoked
  | expired
  deriving DecidableEq

/-- A row of `token_status_registry`, and the record it is scanned into: the nullable columns are
pointers there. -/
structure TokenStatusRecord where
  id : Int
  tokenID : String
  subjectID : Int
  tenantID : Int
  role : String
  status : TokenStatus
  issuedAt : Time
  expiresAt : Time
  revokedAt : Option Time
  revokedReason : Option String
  revokedBy : Option Int
  lastVerifiedAt : Option Time
  verificationCount : Int
  createdAt : Time
  updatedAt : Time
  deriving DecidableEq

/-- PRIMARY KEY (id) and UNIQUE (token_id). -/
def Apart (a b : TokenStatusRecord) : Prop := a.id ≠ b.id ∧ a.tokenID ≠ b.tokenID

instance : DecidableRel Apart := fun a b =>
  inferInstanceAs (Decidable (a.id ≠ b.id ∧ a.tokenID ≠ b.tokenID))

instance : Std.Symm Apart := ⟨fun _ _ h => ⟨h.1.symm, h.2.symm⟩⟩

abbrev TokenTable := Table TokenStatusRecord Apart

/-- The row `Create` inserts. -/
def createdRow (record : TokenStatusRecord) (id : Int) (now : Time) : TokenStatusRecord :=
  { record with id := id, revokedAt := none, revokedReason := none, revokedBy := none,
                lastVerifiedAt := none, verificationCount := 0, createdAt := now, updatedAt := now }

def errCreate (cause : DbError) : RepoError := .wrap "failed to create token status record" cause

/-- `Create`; `valid_expiry` is a CHECK of the table. -/
def create (t : TokenTable) (record : TokenStatusRecord) (id : Int) (now : Time) :
    TokenTable × Except RepoError TokenStatusRecord :=
  if record.expiresAt ≤ record.issuedAt then (t, .error (errCreate .checkViolation))
  else
    match t.insert (createdRow record id now) with
    | none => (t, .error (errCreate .uniqueViolation))
    | some t' => (t', .ok { record with id := id, createdAt := now, updatedAt := now })

def getByTokenID (t : TokenTable) (tokenID : String) : Option TokenStatusRecord :=
  t.rows.find? (fun r => r.tokenID = tokenID)

/-- `GetStatus`: a token without a row counts as active, "not issued". -/
def getStatus (t : TokenTable) (now : Time) (tokenID : String) : TokenStatus :=
  match getByTokenID t tokenID with
  | none => .active
  | some record =>
    if record.status = .active ∧ record.expiresAt < now then .expired else record.status

def revokedRow (reason : String) (now : Time) (r : TokenStatusRecord) : TokenStatusRecord :=
  { r with status := .revoked, revokedAt := some now, revokedReason := some reason, updatedAt := now }

def revocable (tokenID : String) (r : TokenStatusRecord) : Bool :=
  r.tokenID = tokenID && r.status = .active

def revoke (t : TokenTable) (tokenID reason : String) (now : Time) :
    TokenTable × Except RepoError Unit :=
  (t.updateWhere (revocable tokenID) (revokedRow reason now) (fun _ _ h => ⟨h, h, h⟩),
    if t.rows.any (revocable tokenID) then .ok ()
    else .error (.message "token not found or already revoked"))

def activeOf (subjectID : Int) (r : TokenStatusRecord) : Bool :=
  r.subjectID = subjectID && r.status = .active

/-- `RevokeBySubjectID`, with the number of rows affected. -/
def revokeBySubjectID (t : TokenTable) (subjectID : Int) (reason : String) (now : Time) :
    TokenTable × Nat :=
  (t.updateWhere (activeOf subjectID) (revokedRow reason now) (fun _ _ h => ⟨h, h, h⟩),
    t.rows.countP (activeOf subjectID))

def verifiedRow (now : Time) (r : TokenStatusRecord) : TokenStatusRecord :=
  { r with lastVerifiedAt := some now, verificationCount := r.verificationCount + 1, updatedAt := now }

def updateVerificationCount (t : TokenTable) (tokenID : String) (now : Time) : TokenTable :=
  t.updateWhere (fun r => r.tokenID = tokenID) (verifiedRow now) (fun _ _ h => ⟨h, h, h⟩)

def purgeable (before : Time) (r : TokenStatusRecord) : Bool :=
  r.status = .expired && r.expiresAt < before

def deleteExpired (t : TokenTable) (before : Time) : TokenTable × Nat :=
  (t.delete (purgeable before), t.rows.countP (purgeable before))

def deleteBySubjectID (t : TokenTable) (subjectID : Int) : TokenTable × Nat :=
  (t.delete (fun r => r.subjectID = subjectID), t.rows.countP (fun r => r.subjectID = subjectID))

def listed (subjectID : Int) (now : Time) (r : TokenStatusRecord) : Bool :=
  r.subjectID = subjectID && r.status = .active && now < r.expiresAt

/-- The results of `ListActiveBySubjectID`: ORDER BY issued_at DESC leaves equal times in any order. -/
def ListActiveBySubjectID (t : TokenTable) (subjectID : Int) (now : Time)
    (records : List TokenStatusRecord) : Prop :=
  t.Answers (listed subjectID now) (fun r => -r.issuedAt) records

instance (t : TokenTable) (subjectID : Int) (now : Time) (records : List TokenStatusRecord) :
    Decidable (ListActiveBySubjectID t subjectID now records) :=
  inferInstanceAs (Decidable (Table.Answers _ _ _ _))

/-- The registry has a row by which the token is revoked or expired. -/
def Dead (t : TokenTable) (now : Time) (tokenID : String) : Prop :=
  ∃ r ∈ t.rows, r.tokenID = tokenID ∧ (r.status ≠ .active ∨ r.expiresAt < now)

theorem row_eq_of_token {t : TokenTable} {a b : TokenStatusRecord} (ha : a ∈ t.rows) (hb : b ∈ t.rows)
    (h : a.tokenID = b.tokenID) : a = b :=
  Table.eq_of_not_apart ha hb (fun hap => hap.2 h)

theorem getStatus_ne_active_iff {t : TokenTable} {now : Time} {tokenID : String} :
    getStatus t now tokenID ≠ .active ↔ Dead t now tokenID := by
  constructor
  · intro h
    unfold getStatus at h
    split at h
    next => exact absurd rfl h
    next r hf =>
      refine ⟨r, List.mem_of_find?_eq_some hf, by simpa using List.find?_some hf, ?_⟩
      by_cases hs : r.status = .active
      · right
        by_contra hlive
        exact h (by simp [hs, hlive])
      · exact .inl hs
  · rintro ⟨r, hr, htok, hdead⟩
    have hf : getByTokenID t tokenID = some r :=
      find?_eq_of_unique hr (by simpa using htok)
        (fun q hq hq' => row_eq_of_token hq hr ((by simpa using hq' : q.tokenID = tokenID).trans
          htok.symm))
    unfold getStatus
    simp only [hf]
    rcases hdead with hs | hexp
    · simp [hs]
    · by_cases hs : r.status = .active
      · simp [hs, hexp]
      · simp [hs]

theorem Dead.later {t : TokenTable} {now later : Time} {tokenID : String} (h : Dead t now tokenID)
    (hle : now ≤ later) : Dead t later tokenID := by
  obtain ⟨r, hr, htok, hdead⟩ := h
  exact ⟨r, hr, htok, hdead.imp_right (fun hlt => Int.lt_of_lt_of_le hlt hle)⟩

/-- An UPDATE that turns no row active keeps a dead token dead. -/
theorem Dead.updateWhere {t : TokenTable} {now : Time} {tokenID : String} (h : Dead t now tokenID)
    (p : TokenStatusRecord → Bool) (f : TokenStatusRecord → TokenStatusRecord)
    (hf : ∀ a b, Apart a b → Apart (f a) b ∧ Apart a (f b) ∧ Apart (f a) (f b))
    (hkeep : ∀ r, (f r).tokenID = r.tokenID ∧ (f r).expiresAt = r.expiresAt ∧
      ((f r).status = .active → r.status = .active)) :
    Dead (t.updateWhere p f hf) now tokenID := by
  obtain ⟨r, hr, htok, hdead⟩ := h
  refine ⟨if p r then f r else r, ?_, ?_, ?_⟩
  · rw [Table.rows_updateWhere]
    exact List.mem_map.mpr ⟨r, hr, rfl⟩
  · split
    · exact (hkeep r).1.trans htok
    · exact htok
  · obtain ⟨_, hexp, hst⟩ := hkeep r
    split
    · rw [hexp]
      exact hdead.imp_left (fun hn ha => hn (hst ha))
    · exact hdead

theorem Dead.revoke {t : TokenTable} {now : Time} {tokenID : String} (h : Dead t now tokenID)
    (other reason : String) : Dead (Tokens.revoke t other reason now).1 now tokenID :=
  h.updateWhere (revocable other) (revokedRow reason now) (fun _ _ hap => ⟨hap, hap, hap⟩)
    (fun _ => ⟨rfl, rfl, fun hr => by cases hr⟩)

theorem Dead.revokeBySubjectID {t : TokenTable} {now : Time} {tokenID : String}
    (h : Dead t now tokenID) (subjectID : Int) (reason : String) :
    Dead (Tokens.revokeBySubjectID t subjectID reason now).1 now tokenID :=
  h.updateWhere (activeOf subjectID) (revokedRow reason now) (fun _ _ hap => ⟨hap, hap, hap⟩)
    (fun _ => ⟨rfl, rfl, fun hr => by cases hr⟩)

theorem Dead.updateVerificationCount {t : TokenTable} {now : Time} {tokenID : String}
    (h : Dead t now tokenID) (other : String) :
    Dead (Tokens.updateVerificationCount t other now) now tokenID :=
  h.updateWhere (fun r => r.tokenID = other) (verifiedRow now) (fun _ _ hap => ⟨hap, hap, hap⟩)
    (fun _ => ⟨rfl, rfl, fun hr => hr⟩)

theorem Dead.create {t : TokenTable} {now : Time} {tokenID : String} (h : Dead t now tokenID)
    (record : TokenStatusRecord) (id : Int) : Dead (Tokens.create t record id now).1 now tokenID := by
  unfold Tokens.create
  split
  · exact h
  · split
    next => exact h
    next t' hins =>
      obtain ⟨r, hr, hdead⟩ := h
      exact ⟨r, (Table.mem_of_insert hins).mpr (.inl hr), hdead⟩

/-- A DELETE brings a dead token back exactly when it takes its row. -/
theorem Dead.delete_iff {t : TokenTable} {now : Time} {tokenID : String} (h : Dead t now tokenID)
    (p : TokenStatusRecord → Bool) :
    Dead (t.delete p) now tokenID ↔ ∀ r ∈ t.rows, p r → r.tokenID ≠ tokenID := by
  obtain ⟨r, hr, htok, hdead⟩ := h
  constructor
  · rintro ⟨q, hq, hqtok, _⟩ s hs hps hstok
    obtain ⟨hq, hkept⟩ := Table.mem_delete.mp hq
    rw [row_eq_of_token hq hs (hqtok.trans hstok.symm), hps] at hkept
    cases hkept
  · intro hspared
    have hkept : p r = false := by
      by_contra hp
      exact hspared r hr (by simpa using hp) htok
    exact ⟨r, Table.mem_delete.mpr ⟨hr, hkept⟩, htok, hdead⟩

end SupplyPlatform.Tokens
