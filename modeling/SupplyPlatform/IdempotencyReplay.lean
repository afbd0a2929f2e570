import SupplyPlatform.IdempotencyExclusion

namespace SupplyPlatform.Idempotency

open Relational

variable {J : Type} {env : Env J} {config : IdempotencyConfig} {key : IdempotencyKey}

/-- What a later request of the key is promised while the record lasts: the first response again
for the same body, and a conflict for any other. -/
def ReplayContract (env : Env J) (config : IdempotencyConfig) (key : IdempotencyKey) (s : State J)
    (req : Request) (run : HandlerRun) (expiresAt : Time) : Prop :=
  ∀ n later elapsed s', s.now + (elapsed : Nat) < expiresAt →
    Transition.exec (step env config key) s
      [.tick elapsed, .arrive n later none, .getByKey n false] = some s' →
    (later.body = req.body → ∃ status body, s'.phase n = .done (.replay status body) ∧
      status = run.wireStatus ∧
      (run.captured.body ≠ [] → body = env.jsonb run.captured.body)) ∧
    (later.body ≠ req.body → ∃ message,
      s'.phase n = .done (.error 409 "IDEMPOTENCY_PAYLOAD_MISMATCH" message))

theorem hexDigit_ne_blank {n : Nat} (h : n < 16) : hexDigit n ≠ ' ' := by
  have hall : ∀ m < 16, hexDigit m ≠ ' ' := by decide
  exact hall n h

/-- The hash of a body is never what a blank `payload_hash` reads as. -/
theorem computePayloadHash_ne_blank (env : Env J) (body : List UInt8) :
    char64 "" ≠ computePayloadHash env body := by
  intro heq
  have hlist := congrArg String.toList heq
  simp only [computePayloadHash, hexEncode, char64, String.toList_ofList] at hlist
  cases hv : (env.sha256 body).toList with
  | nil =>
    have hlen : (env.sha256 body).toList.length = 32 := Vector.length_toList
    simp [hv] at hlen
  | cons b bs =>
    rw [hv] at hlist
    have hhead := congrArg List.head? hlist
    have hb : b.toNat / 16 < 16 := by
      have := b.toNat_lt
      omega
    simp only [List.flatMap_cons, List.cons_append, List.head?_cons] at hhead
    exact hexDigit_ne_blank hb (Option.some.inj hhead).symm

variable (env config) in
/-- A later request of the key finds a success with a blank hash and is refused, whatever its
body. -/
theorem later_mismatch {s : State J} {r : IdempotencyRow J} (hr : r ∈ s.table.rows)
    (hst : r.status = .succeeded) (hhash : r.payloadHash = char64 "") (hcode : r.responseCode ≠ none)
    {elapsed : Nat} (hlive : s.now + (elapsed : Nat) < r.expiresAt) {n : Nat} {later : Request}
    (hn : s.phase n = .idle ∨ ∃ answer, s.phase n = .done answer)
    (hkey : extractIdempotencyKey later = .ok r.key) :
    ∃ s', Transition.exec (step env config r.key) s
        [.tick elapsed, .arrive n later none, .getByKey n false] = some s' ∧
      s'.phase n = .done (.error 409 "IDEMPOTENCY_PAYLOAD_MISMATCH" (.message
        ("same idempotency key but different payload, original request_id: " ++ r.requestID))) := by
  obtain ⟨code, hcode⟩ := Option.ne_none_iff_exists'.mp hcode
  have hscan : scanRecord r = .ok
      { id := r.id, key := r.key, requestID := r.requestID, payloadHash := r.payloadHash,
        responseCode := code, responseBody := r.responseBody, status := r.status,
        expiresAt := r.expiresAt, createdAt := r.createdAt, updatedAt := r.updatedAt } := by
    simp [scanRecord, scan, hcode, bind, Except.bind, pure, Except.pure]
  have hget : getByKey s.table (s.now + elapsed) r.key = .ok (some _) :=
    getByKey_of_row hr hlive hscan
  have hne := computePayloadHash_ne_blank env later.body
  let sent := { s with now := s.now + elapsed }.setPhase n (.arrived later)
  let answer : Answer J := .error 409 "IDEMPOTENCY_PAYLOAD_MISMATCH" (.message
    ("same idempotency key but different payload, original request_id: " ++ r.requestID))
  have harrive : step env config r.key { s with now := s.now + elapsed } (.arrive n later none) =
      some sent := by
    rcases hn with hn | ⟨old, hn⟩ <;> simp [step, hn, hkey, sent]
  have hcheck : step env config r.key sent (.getByKey n false) =
      some (sent.setPhase n (.done answer)) := by
    simp [step, sent, State.setPhase, hget, check, hst, hhash, hne, answer]
  refine ⟨sent.setPhase n (.done answer), ?_, by simp [State.setPhase, answer]⟩
  have htick : step env config r.key s (.tick elapsed) = some { s with now := s.now + elapsed } := rfl
  simp only [Transition.exec, htick, harrive, hcheck, Option.bind_some]

def Phase.request : Phase J → Option Request
  | .arrived req => some req
  | .checked req => some req
  | .refused req _ => some req
  | .locked req _ _ => some req
  | .executing req _ _ => some req
  | .executed req _ _ _ => some req
  | _ => none

/-- No statement ever writes a hash to a row of the key. -/
structure Blank (key : IdempotencyKey) (s : State J) : Prop where
  hash : ∀ r ∈ s.table.rows, r.key = key → r.payloadHash = char64 ""
  coded : ∀ r ∈ s.table.rows, r.key = key → r.status = .succeeded → r.responseCode ≠ none
  requests : ∀ n req, (s.phase n).request = some req → extractIdempotencyKey req = .ok key
  ids : ∀ n f, (s.phase n).flight = some f → ∀ r ∈ s.table.rows, r.id = f.1.id → r.key = key

theorem Blank.set {s : State J} (h : Blank key s) {n : Nat} {x : Phase J}
    (hreq : ∀ req, x.request = some req → extractIdempotencyKey req = .ok key)
    (hids : ∀ f, x.flight = some f → ∀ r ∈ s.table.rows, r.id = f.1.id → r.key = key) :
    Blank key (s.setPhase n x) := by
  refine ⟨h.hash, h.coded, fun m req hm => ?_, fun m f hm => ?_⟩
  · by_cases hmn : m = n
    · subst m
      exact hreq req (by simpa [State.setPhase] using hm)
    · exact h.requests m req (by simpa [State.setPhase, hmn] using hm)
  · by_cases hmn : m = n
    · subst m
      exact hids f (by simpa [State.setPhase] using hm)
    · exact h.ids m f (by simpa [State.setPhase, hmn] using hm)

/-- A request goes on as it came. -/
theorem Blank.move {s : State J} (h : Blank key s) {n : Nat} {x : Phase J}
    (hreq : ∀ req, x.request = some req → (s.phase n).request = some req)
    (hfl : ∀ f, x.flight = some f → (s.phase n).flight = some f) : Blank key (s.setPhase n x) :=
  h.set (fun req hr => h.requests n req (hreq req hr)) (fun f hf => h.ids n f (hfl f hf))

theorem check_request {now : Time} {req req' : Request}
    {found : Except RepoError (Option (IdempotencyRecord J))}
    (h : (check env config now req found).request = some req') : req' = req := by
  unfold check at h
  split at h
  · simp [Phase.request] at h
  · exact (Option.some.inj h).symm
  · split at h
    · split at h <;> simp [Phase.request] at h
    · split at h
      · simp [Phase.request] at h
      · exact (Option.some.inj h).symm
    · exact (Option.some.inj h).symm

theorem getByKey_some {t : IdempotencyTable J} {now : Time} {record : IdempotencyRecord J}
    (h : getByKey t now key = .ok (some record)) : ∃ r ∈ t.rows, r.key = key ∧ r.id = record.id := by
  unfold getByKey at h
  split at h
  next => simp at h
  next r hf =>
    have hkey : r.key = key := by
      have := List.find?_some hf
      simp only [live, Bool.and_eq_true, decide_eq_true_eq] at this
      exact this.1
    cases hcode : r.responseCode with
    | none => simp [scanRecord, scan, hcode, bind, Except.bind] at h
    | some code =>
      simp only [scanRecord, scan, hcode, bind, Except.bind, pure, Except.pure, Except.ok.injEq,
        Option.some.injEq] at h
      exact ⟨r, List.mem_of_find?_eq_some hf, hkey, by rw [← h]⟩

theorem acquireExisting_ok {t : IdempotencyTable J} {now : Time} {err : DbError}
    {record : IdempotencyRecord J} (h : acquireExisting t now key err = .ok record) :
    ∃ r ∈ t.rows, r.key = key ∧ r.id = record.id := by
  unfold acquireExisting at h
  split at h
  next => simp at h
  next existing hget => cases Except.ok.inj h; exact getByKey_some hget
  next => simp at h

theorem Blank.upsert {s : State J} (h : Blank key s) {id : Int} {t : IdempotencyTable J}
    {record : IdempotencyRecord J} (hup : upsert s.table s.now key config.ttl id = .ok (t, record)) :
    Blank key { s with table := t, lastID := id } ∧ ∀ r ∈ t.rows, r.id = record.id → r.key = key := by
  obtain ⟨row, hrow, hkey, hid, hst, hhash, _, _, hrest⟩ := upsert_ok hup
  refine ⟨⟨?_, ?_, h.requests, ?_⟩, ?_⟩
  · intro r hr hk
    rcases hrest r hr with rfl | hr
    · exact hhash
    · exact h.hash r hr hk
  · intro r hr hk hs
    rcases hrest r hr with rfl | hr
    · simp [hst] at hs
    · exact h.coded r hr hk hs
  · intro n f hn r hr hrid
    rcases hrest r hr with rfl | hr
    · exact hkey
    · exact h.ids n f hn r hr hrid
  · intro r hr hrid
    rw [row_eq_of_id hr hrow (hrid.trans hid.symm)]
    exact hkey

theorem storeResult_rows {t t' : IdempotencyTable J} {now : Time} {id : Int} {run : HandlerRun}
    (h : storeResult env t now id run = some t') {q : IdempotencyRow J} (hq : q ∈ t'.rows) :
    ∃ r ∈ t.rows, q.id = r.id ∧ q.key = r.key ∧ q.payloadHash = r.payloadHash ∧
      (q = r ∨ q.responseCode ≠ none) := by
  have hres : ∃ code body status, t' = updateResult t now id code body status := by
    unfold storeResult at h
    split at h
    next => exact ⟨_, _, _, (Option.some.inj h).symm⟩
    next =>
      obtain ⟨body, _, rfl⟩ := Option.map_eq_some_iff.mp h
      exact ⟨_, _, _, rfl⟩
  obtain ⟨code, body, status, rfl⟩ := hres
  obtain ⟨r, hr, rfl⟩ := mem_updateResult.mp hq
  refine ⟨r, hr, ?_⟩
  split
  · exact ⟨rfl, rfl, rfl, Or.inr (by simp)⟩
  · exact ⟨rfl, rfl, rfl, Or.inl rfl⟩

theorem Blank.store {s : State J} (h : Blank key s) {id : Int} {run : HandlerRun}
    {t : IdempotencyTable J} (hst : storeResult env s.table s.now id run = some t) (log : List Event) :
    Blank key { s with table := t, log := log } := by
  refine ⟨?_, ?_, h.requests, ?_⟩
  · intro q hq hk
    obtain ⟨r, hr, _, hqk, hhash, _⟩ := storeResult_rows hst hq
    rw [hhash]
    exact h.hash r hr (hqk ▸ hk)
  · intro q hq hk hs
    obtain ⟨r, hr, _, _, _, rfl | hcode⟩ := storeResult_rows hst hq
    · exact h.coded q hr hk hs
    · exact hcode
  · intro n f hn q hq hid
    obtain ⟨r, hr, hqi, hqk, _⟩ := storeResult_rows hst hq
    rw [hqk]
    exact h.ids n f hn r hr (hqi ▸ hid)

theorem Blank.step {s s' : State J} {a : Action} (h : Blank key s)
    (hs : Idempotency.step env config key s a = some s') : Blank key s' := by
  have hdone : ∀ (n : Nat) (answer : Answer J), Blank key (s.setPhase n (.done answer)) := by
    intro n answer
    exact h.move (fun req hr => by simp [Phase.request] at hr)
      (fun f hf => by simp [Phase.flight] at hf)
  have hsame : ∀ {req : Request}, extractIdempotencyKey req = .ok key →
      ∀ req', some req = some req' → extractIdempotencyKey req' = .ok key := by
    intro req hreq req' heq
    rw [← Option.some.inj heq]
    exact hreq
  cases a with
  | tick elapsed =>
    cases Option.some.inj hs
    exact ⟨h.hash, h.coded, h.requests, h.ids⟩
  | arrive n req readErr =>
    obtain ⟨answer, rfl⟩ | ⟨hkey, rfl⟩ := step_arrive hs
    · exact hdone n answer
    · exact h.set (hsame hkey) (fun f hf => by simp [Phase.flight] at hf)
  | getByKey n lost =>
    obtain ⟨req, found, hn, rfl⟩ := step_getByKey hs
    refine h.move (fun req' hr => ?_) (fun f hf => ?_)
    · rw [hn, check_request hr]
      rfl
    · rw [check_flight] at hf
      simp at hf
  | upsert n id fault =>
    obtain ⟨req, hn, ⟨err, rfl⟩ | ⟨t, record, x, _, hup, rfl, hx⟩⟩ := step_upsert hs
    · have hreq := h.requests n req (by rw [hn]; rfl)
      exact h.set (hsame hreq) (fun f hf => by simp [Phase.flight] at hf)
    · have hreq := h.requests n req (by rw [hn]; rfl)
      obtain ⟨hblank, hids⟩ := h.upsert hup
      rcases hx with rfl | rfl
      · exact hblank.set (hsame hreq) (fun f hf => by simp [Phase.flight] at hf)
      · refine hblank.set (hsame hreq) (fun f hf => ?_)
        rw [← Option.some.inj hf]
        simpa using hids
  | acquireExisting n lost =>
    obtain ⟨req, err, hn, ⟨answer, rfl⟩ | ⟨record, _, hacq, rfl⟩⟩ := step_acquireExisting hs
    · exact hdone n answer
    · have hreq := h.requests n req (by rw [hn]; rfl)
      obtain ⟨r₀, hr₀, hkey, hid⟩ := acquireExisting_ok hacq
      refine h.set (hsame hreq) (fun f hf r hr hrid => ?_)
      rw [← Option.some.inj hf] at hrid
      have hrr : r.id = record.id := by simpa using hrid
      rw [row_eq_of_id hr hr₀ (hrr.trans hid.symm)]
      exact hkey
  | begin_ n =>
    obtain ⟨req, record, at_, hn, rfl⟩ := step_begin hs
    refine Blank.move (s := { s with log := .began n s.now :: s.log })
      ⟨h.hash, h.coded, h.requests, h.ids⟩ (fun req' hr => ?_) (fun f hf => ?_)
    · simpa [hn, Phase.request] using hr
    · simpa [hn, Phase.flight] using hf
  | finish n run =>
    obtain ⟨req, record, at_, hn, rfl⟩ := step_finish hs
    refine h.move (fun req' hr => ?_) (fun f hf => ?_)
    · simpa [hn, Phase.request] using hr
    · simpa [hn, Phase.flight] using hf
  | update n fault =>
    obtain ⟨req, record, at_, run, hn, rfl | ⟨t, hst, rfl⟩⟩ := step_update hs
    · exact hdone n _
    · exact (h.store hst _).move (fun req hr => by simp [Phase.request] at hr)
        (fun f hf => by simp [Phase.flight] at hf)
  | stop n =>
    cases Option.some.inj hs
    exact h.move (fun req hr => by simp [Phase.request] at hr)
      (fun f hf => by simp [Phase.flight] at hf)
  | deleteExpired =>
    cases Option.some.inj hs
    have hsub : ∀ r ∈ (deleteExpired s.table s.now).rows, r ∈ s.table.rows :=
      fun r hr => (Table.mem_delete.mp hr).1
    exact ⟨fun r hr => h.hash r (hsub r hr), fun r hr => h.coded r (hsub r hr), h.requests,
      fun n f hn r hr => h.ids n f hn r (hsub r hr)⟩

theorem Blank.start {t : IdempotencyTable J} (hfresh : ∀ r ∈ t.rows, r.key ≠ key) (now : Time) :
    Blank key (State.start t now) where
  hash := fun r hr hk => absurd hk (hfresh r hr)
  coded := fun r hr hk => absurd hk (hfresh r hr)
  requests := fun _ _ hn => by simp [State.start, Phase.request] at hn
  ids := fun _ _ hn => by simp [State.start, Phase.flight] at hn

/-- Once a blank success is on record, the first request sent again is not replayed. -/
theorem Blank.not_replayed {s : State J} (h : Blank key s) {r : IdempotencyRow J}
    (hr : r ∈ s.table.rows) (hk : r.key = key) (hst : r.status = .succeeded)
    (hlive : s.now < r.expiresAt) {n : Nat} {answer : Answer J} (hn : s.phase n = .done answer)
    {req : Request} (hreq : extractIdempotencyKey req = .ok key) (run : HandlerRun) :
    ¬ReplayContract env config key s req run r.expiresAt := by
  intro hc
  subst hk
  have hnow : s.now + ((0 : Nat) : Int) < r.expiresAt := by simpa using hlive
  obtain ⟨s', hexec, hphase⟩ := later_mismatch env config hr hst
    (h.hash r hr rfl) (h.coded r hr rfl hst) hnow (Or.inr ⟨answer, hn⟩) hreq
  obtain ⟨status, body, hreplay, _⟩ := (hc n req 0 s' hnow hexec).1 rfl
  rw [hphase] at hreplay
  simp at hreplay

/-- The contract fails after every first request whose success has been stored: the request sent
again gets the conflict instead of its response. -/
theorem replay_contract_fails (env : Env J) (config : IdempotencyConfig) {key : IdempotencyKey}
    {t : IdempotencyTable J} (hfresh : ∀ r ∈ t.rows, r.key ≠ key) {now : Time} {s s' : State J}
    (hs : Transition.Reach (step env config key) Transition.anyStep (State.start t now) s) {n : Nat}
    {req : Request} {record : IdempotencyRecord J} {at_ : Option Time} {run : HandlerRun}
    (hn : s.phase n = .executed req record at_ run)
    (hstep : step env config key s (.update n .none) = some s') {r : IdempotencyRow J}
    (hr : r ∈ s'.table.rows) (hid : r.id = record.id) (hst : r.status = .succeeded)
    (hlive : s'.now < r.expiresAt) : ¬ReplayContract env config key s' req run r.expiresAt := by
  have h : Blank key s := hs.invariant (Blank.start hfresh now) (fun _ _ _ hi _ hst => hi.step hst)
  obtain ⟨hdone, r₀, hr₀, hid₀, hkey₀⟩ : s'.phase n = .done (.handled run) ∧
      ∃ r₀ ∈ s.table.rows, r.id = r₀.id ∧ r.key = r₀.key := by
    obtain ⟨req', record', at', run', hn', hout⟩ := step_update hstep
    rw [hn] at hn'
    cases hn'
    rcases hout with rfl | ⟨t, hst', rfl⟩
    · exact ⟨setPhase_self _ _ _, r, hr, rfl, rfl⟩
    · obtain ⟨q, hq, hqid, hqkey, _⟩ := storeResult_rows hst' hr
      exact ⟨setPhase_self _ _ _, q, hq, hqid, hqkey⟩
  have hkey : r.key = key := by
    rw [hkey₀]
    exact h.ids n (record, at_) (by rw [hn]; rfl) r₀ hr₀ (hid₀.symm.trans hid)
  exact (h.step hstep).not_replayed hr hkey hst hlive hdone
    (h.requests n req (by rw [hn]; rfl)) run

/-- The sample request run to its last statement. -/
theorem sample_executed :
    ∃ s record, Transition.Reach (step sampleEnv sampleConfig sampleKey) Transition.anyStep
        (State.start Table.empty 0) s ∧
      s.phase 0 = .executed sampleRequest record (some 0) sampleRun ∧ record.id = 1 ∧
      ∃ s' r, step sampleEnv sampleConfig sampleKey s (.update 0 .none) = some s' ∧
        s'.now = 0 ∧ s'.phase 0 = .done (.handled sampleRun) ∧ r ∈ s'.table.rows ∧ r.id = 1 ∧
        r.key = sampleKey ∧ r.status = .succeeded ∧ r.expiresAt = sampleConfig.ttl := by
  have hany : Transition.anyStep (State.start (J := String) Table.empty 0)
      (Action.arrive 0 sampleRequest none) := trivial
  obtain ⟨s, hs⟩ : ∃ s, Transition.exec (step sampleEnv sampleConfig sampleKey)
      ((State.start (J := String) Table.empty 0).setPhase 0 (.arrived sampleRequest))
      [.getByKey 0 false, .upsert 0 1 .none, .begin_ 0, .finish 0 sampleRun] = some s := ⟨_, rfl⟩
  have hrun := (sample_arrived hany).trans (Transition.reach_of_exec hs)
  cases hs
  exact ⟨_, _, hrun, rfl, rfl, _, _, rfl, rfl, rfl, List.mem_singleton.mpr rfl, rfl, rfl, rfl, rfl⟩

theorem replay_contract_fails_sample :
    ∃ s s' : State String, Transition.Reach (step sampleEnv sampleConfig sampleKey)
        Transition.anyStep (State.start Table.empty 0) s ∧
      step sampleEnv sampleConfig sampleKey s (.update 0 .none) = some s' ∧
      ¬ReplayContract sampleEnv sampleConfig sampleKey s' sampleRequest sampleRun
        sampleConfig.ttl := by
  obtain ⟨s, record, hs, hn, hrec, s', r, hstep, hnow, _, hr, hid, _, hst, hexp⟩ := sample_executed
  refine ⟨s, s', hs, hstep, ?_⟩
  rw [← hexp]
  refine replay_contract_fails sampleEnv sampleConfig (fun _ hr => absurd hr List.not_mem_nil) hs hn
    hstep hr (hid.trans hrec.symm) hst ?_
  rw [hnow, hexp]
  decide

/-- The first request stores 201 and an empty object; sent again, it is told that its payload
differs. -/
theorem identical_request_counterexample :
    ∃ (s s' : State String) (message : RepoError),
      Transition.Reach (step sampleEnv sampleConfig sampleKey) Transition.anyStep
        (State.start Table.empty 0) s ∧
      s.phase 0 = .done (.handled sampleRun) ∧
      Transition.exec (step sampleEnv sampleConfig sampleKey) s
        [.tick 0, .arrive 0 sampleRequest none, .getByKey 0 false] = some s' ∧
      s'.phase 0 = .done (.error 409 "IDEMPOTENCY_PAYLOAD_MISMATCH" message) ∧
      ¬ReplayContract sampleEnv sampleConfig sampleKey s sampleRequest sampleRun
        sampleConfig.ttl := by
  obtain ⟨s₀, record, hs, _, _, s, r, hstep, hnow, hdone, hr, _, hkey, hst, hexp⟩ := sample_executed
  have hreach := hs.next (by trivial) hstep
  have hblank : Blank sampleKey s :=
    hreach.invariant (Blank.start (fun _ hr => absurd hr List.not_mem_nil) 0)
      (fun _ _ _ hi _ hst => hi.step hst)
  have hlive : s.now < r.expiresAt := by
    rw [hnow, hexp]
    decide
  have hlive' : s.now + ((0 : Nat) : Int) < r.expiresAt := by simpa using hlive
  obtain ⟨s', hexec, hphase⟩ := later_mismatch sampleEnv sampleConfig hr hst
    (hblank.hash r hr hkey) (hblank.coded r hr hkey hst) hlive' (Or.inr ⟨_, hdone⟩)
    (hkey ▸ sampleRequest_key)
  refine ⟨s, s', _, hreach, hdone, hkey ▸ hexec, hphase, ?_⟩
  rw [← hexp]
  exact hblank.not_replayed hr hkey hst hlive hdone sampleRequest_key sampleRun

end SupplyPlatform.Idempotency
