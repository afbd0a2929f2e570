import SupplyPlatform.IdempotencyStep

namespace SupplyPlatform.Idempotency

open Relational

variable {J : Type} {env : Env J} {config : IdempotencyConfig} {key : IdempotencyKey}

/-- The record a request runs its handler under, until its result is stored. -/
def Phase.flight : Phase J → Option (IdempotencyRecord J × Option Time)
  | .locked _ record at_ => some (record, at_)
  | .executing _ record at_ => some (record, at_)
  | .executed _ record at_ _ => some (record, at_)
  | _ => none

/-- The time of acquisition, until the handler has finished. -/
def Phase.holding : Phase J → Option Time
  | .locked _ _ at_ => at_
  | .executing _ _ at_ => at_
  | _ => none

def Phase.isExecuting : Phase J → Bool
  | .executing _ _ _ => true
  | _ => false

/-- No handler runs beside the one of a request that holds the record, and none begins after a
recorded success before the record expires. -/
structure AtMostOnce (config : IdempotencyConfig) (s : State J) : Prop where
  exclusive : ∀ n m t, n ≠ m → (s.phase n).holding = some t → s.now < t + config.processingTTL →
    (s.phase m).isExecuting = false
  final : s.log.Pairwise (fun newer older => ∀ e n t, older = .recorded e → newer = .began n t →
    e ≤ t)

/-- What `Wrap` asks of the record before it goes on to `AcquireLock`. -/
def admits (config : IdempotencyConfig) (now : Time) (r : IdempotencyRow J) : Prop :=
  r.expiresAt ≤ now ∨ r.status = .failed ∨
    (r.status = .processing ∧ ¬now - r.updatedAt < config.processingTTL)

/-- Nothing has come between the check and the upsert, no request goes on without the upsert, and
each one is through with its handler and its update within `ProcessingTTL`. -/
def Undisturbed (config : IdempotencyConfig) (key : IdempotencyKey) (s : State J) : Action → Prop
  | .tick elapsed => ∀ n record t, (s.phase n).flight = some (record, some t) →
      s.now + elapsed < t + config.processingTTL
  | .upsert _ _ fault => fault ≠ .unapplied →
      ∀ r ∈ s.table.rows, r.key = key → admits config s.now r
  | .acquireExisting _ lost => lost = false →
      ∀ r ∈ s.table.rows, r.key = key → r.expiresAt ≤ s.now
  | _ => True

/-- The row of a request in flight, as the upsert has left it. -/
def Owned (config : IdempotencyConfig) (key : IdempotencyKey) (s : State J)
    (record : IdempotencyRecord J) (t : Time) : Prop :=
  s.now < t + config.processingTTL ∧ ∃ r ∈ s.table.rows, r.key = key ∧ r.id = record.id ∧
    r.status = .processing ∧ r.updatedAt = t ∧ r.expiresAt = t + config.ttl

structure Inv (config : IdempotencyConfig) (key : IdempotencyKey) (s : State J) : Prop where
  owned : ∀ n record a, (s.phase n).flight = some (record, a) →
    ∃ t, a = some t ∧ Owned config key s record t
  sole : ∀ n m, (s.phase n).flight ≠ none → (s.phase m).flight ≠ none → n = m
  recorded : ∀ e, .recorded e ∈ s.log → s.now < e →
    ∃ r ∈ s.table.rows, r.key = key ∧ r.status = .succeeded ∧ r.expiresAt = e
  final : s.log.Pairwise (fun newer older => ∀ e n t, older = .recorded e → newer = .began n t →
    e ≤ t)

theorem flight_of_holding {x : Phase J} {t : Time} (h : x.holding = some t) :
    ∃ record, x.flight = some (record, some t) := by
  cases x <;> simp_all [Phase.holding, Phase.flight]

theorem flight_of_isExecuting {x : Phase J} (h : x.isExecuting = true) : x.flight ≠ none := by
  cases x <;> simp_all [Phase.isExecuting, Phase.flight]

theorem Inv.atMostOnce {s : State J} (h : Inv config key s) : AtMostOnce config s := by
  refine ⟨fun n m t hne hn _ => ?_, h.final⟩
  obtain ⟨record, hfl⟩ := flight_of_holding hn
  by_contra hex
  have hm := flight_of_isExecuting (by simpa using hex)
  exact hne (h.sole n m (by simp [hfl]) hm)

/-- While a request is in flight no success is on record that still counts. -/
theorem Inv.expired {s : State J} (h : Inv config key s) {n : Nat} {f : IdempotencyRecord J × Option Time}
    (hn : (s.phase n).flight = some f) {e : Time} (he : .recorded e ∈ s.log) : e ≤ s.now := by
  by_contra hlt
  obtain ⟨r, hr, hkey, hst, _⟩ := h.recorded e he (Int.not_le.mp hlt)
  obtain ⟨_, _, _, r', hr', hkey', _, hst', _⟩ := h.owned n f.1 f.2 hn
  have heq := row_eq_of_key hr hr' (hkey.trans hkey'.symm)
  subst r'
  simp [hst] at hst'

theorem flight_set {s : State J} {n m : Nat} {x : Phase J} {f : IdempotencyRecord J × Option Time}
    (hx : x.flight = none) (hm : ((s.setPhase n x).phase m).flight = some f) :
    (s.phase m).flight = some f := by
  by_cases hmn : m = n
  · subst m
    simp [State.setPhase, hx] at hm
  · simpa [State.setPhase, hmn] using hm

/-- A request that is not in flight, or no longer, takes nothing away. -/
theorem Inv.put {s : State J} (h : Inv config key s) {n : Nat} {x : Phase J} (hx : x.flight = none) :
    Inv config key (s.setPhase n x) := by
  refine ⟨fun m record a hm => h.owned m record a (flight_set hx hm), ?_, h.recorded, h.final⟩
  intro m m' hm hm'
  obtain ⟨f, hf⟩ := Option.ne_none_iff_exists'.mp hm
  obtain ⟨f', hf'⟩ := Option.ne_none_iff_exists'.mp hm'
  exact h.sole m m' (by simp [flight_set hx hf]) (by simp [flight_set hx hf'])

/-- A request in flight moves on with the record it has. -/
theorem Inv.move {s : State J} (h : Inv config key s) {n : Nat} {x : Phase J}
    (hx : x.flight = (s.phase n).flight) : Inv config key (s.setPhase n x) := by
  have hsame : ∀ m, ((s.setPhase n x).phase m).flight = (s.phase m).flight := by
    intro m
    by_cases hmn : m = n
    · subst m
      simpa [State.setPhase] using hx
    · simp [State.setPhase, hmn]
  refine ⟨fun m record a hm => h.owned m record a (by rw [← hsame]; exact hm), ?_, h.recorded,
    h.final⟩
  intro m m'
  rw [hsame, hsame]
  exact h.sole m m'

/-- The check still holds, so nobody is in flight and every recorded success has expired. -/
theorem Inv.clear {s : State J} (h : Inv config key s) (httl : config.processingTTL ≤ config.ttl)
    (hadm : ∀ r ∈ s.table.rows, r.key = key → admits config s.now r) :
    (∀ n, (s.phase n).flight = none) ∧ ∀ e, .recorded e ∈ s.log → e ≤ s.now := by
  constructor
  · intro n
    by_contra hn
    obtain ⟨f, hf⟩ := Option.ne_none_iff_exists'.mp hn
    obtain ⟨t, _, hnow, r, hr, hkey, _, hst, hupd, hexp⟩ := h.owned n f.1 f.2 hf
    rcases hadm r hr hkey with hle | hfail | ⟨_, hold⟩
    · rw [hexp] at hle
      exact Int.not_le.mpr (Int.lt_of_lt_of_le hnow (Int.add_le_add_left httl t)) hle
    · simp [hst] at hfail
    · rw [hupd] at hold
      exact hold (Int.sub_left_lt_of_lt_add hnow)
  · intro e he
    by_contra hlt
    obtain ⟨r, hr, hkey, hst, hexp⟩ := h.recorded e he (Int.not_le.mp hlt)
    rcases hadm r hr hkey with hle | hfail | ⟨hproc, _⟩
    · exact hlt (hexp ▸ hle)
    · simp [hst] at hfail
    · simp [hst] at hproc

/-- The upsert of a request that found the way clear. -/
theorem Inv.upsert {s : State J} (h : Inv config key s) (hpos : 0 < config.processingTTL)
    (httl : config.processingTTL ≤ config.ttl)
    (hadm : ∀ r ∈ s.table.rows, r.key = key → admits config s.now r) {n : Nat} {id : Int}
    {t : IdempotencyTable J} {record : IdempotencyRecord J} {x : Phase J}
    (hup : upsert s.table s.now key config.ttl id = .ok (t, record))
    (hx : ∀ f, x.flight = some f → f.2 = some s.now ∧ f.1.id = record.id) :
    Inv config key ({ s with table := t, lastID := id }.setPhase n x) := by
  obtain ⟨hclear, hexpired⟩ := h.clear httl hadm
  obtain ⟨row, hrow, hkey, hid, hst, _, hexp, hupd, _⟩ := upsert_ok hup
  have hflight : ∀ m f, ((s.setPhase n x).phase m).flight = some f → m = n ∧ x.flight = some f := by
    intro m f hm
    by_cases hmn : m = n
    · subst m
      exact ⟨rfl, by simpa [State.setPhase] using hm⟩
    · simp [State.setPhase, hmn, hclear m] at hm
  refine ⟨?_, ?_, ?_, h.final⟩
  · intro m rec a hm
    obtain ⟨_, hf⟩ := hflight m _ hm
    obtain ⟨ha, hrec⟩ := hx _ hf
    exact ⟨s.now, ha, Int.lt_add_of_pos_right _ hpos, row, hrow, hkey, hid.trans hrec.symm, hst,
      hupd, hexp⟩
  · intro m m' hm hm'
    obtain ⟨f, hf⟩ := Option.ne_none_iff_exists'.mp hm
    obtain ⟨f', hf'⟩ := Option.ne_none_iff_exists'.mp hm'
    rw [(hflight m f hf).1, (hflight m' f' hf').1]
  · intro e he hlt
    exact absurd (hexpired e he) (Int.not_le.mpr hlt)

theorem mem_recordedSuccess {t : IdempotencyTable J} {id : Int} {run : HandlerRun} {x : Event}
    (h : x ∈ recordedSuccess t id run) :
    run.err = none ∧ ∃ r ∈ t.rows, r.id = id ∧ x = .recorded r.expiresAt := by
  unfold recordedSuccess at h
  split at h
  next herr =>
    obtain ⟨r, hr, rfl⟩ := List.mem_map.mp h
    obtain ⟨hr, hid⟩ := List.mem_filter.mp hr
    exact ⟨herr, r, hr, by simpa using hid, rfl⟩
  next => simp at h

/-- A success is stored with its status. -/
theorem storeResult_success {t t' : IdempotencyTable J} {now : Time} {id : Int} {run : HandlerRun}
    (h : storeResult env t now id run = some t') (herr : run.err = none) {r : IdempotencyRow J}
    (hr : r ∈ t.rows) (hid : r.id = id) :
    ∃ q ∈ t'.rows, q.key = r.key ∧ q.status = .succeeded ∧ q.expiresAt = r.expiresAt := by
  simp only [storeResult, herr, Option.map_eq_some_iff] at h
  obtain ⟨body, _, rfl⟩ := h
  refine ⟨_, mem_updateResult.mpr ⟨r, hr, rfl⟩, ?_⟩
  simp [hid]

/-- The update of the request in flight ends its flight. -/
theorem Inv.update {s : State J} (h : Inv config key s) {n : Nat} {record : IdempotencyRecord J}
    {a : Option Time} {run : HandlerRun} {t : IdempotencyTable J} {x : Phase J}
    (hn : (s.phase n).flight = some (record, a)) (hx : x.flight = none)
    (hst : storeResult env s.table s.now record.id run = some t) :
    Inv config key ({ s with table := t,
                             log := recordedSuccess s.table record.id run ++ s.log }.setPhase n x) := by
  have hnone : ∀ m, ((s.setPhase n x).phase m).flight = none := by
    intro m
    by_contra hm
    obtain ⟨f, hf⟩ := Option.ne_none_iff_exists'.mp hm
    have hold := flight_set hx hf
    have hmn := h.sole m n (by simp [hold]) (by simp [hn])
    subst m
    simp [State.setPhase, hx] at hf
  obtain ⟨t₀, _, _, r, hr, hkey, hid, _⟩ := h.owned n record a hn
  refine ⟨fun m rec b hm => ?_, fun m m' hm => absurd (hnone m) hm, ?_, ?_⟩
  · exact absurd ((hnone m).symm.trans hm) (by simp)
  · intro e he hlt
    rcases List.mem_append.mp he with hnew | hold
    · obtain ⟨herr, r', hr', hid', heq⟩ := mem_recordedSuccess hnew
      have hrr := row_eq_of_id hr' hr (hid'.trans hid.symm)
      subst r'
      obtain ⟨q, hq, hqk, hqs, hqe⟩ := storeResult_success hst herr hr hid
      refine ⟨q, hq, hqk.trans hkey, hqs, ?_⟩
      rw [hqe]
      exact (Event.recorded.inj heq).symm
    · exact absurd (h.expired hn hold) (Int.not_le.mpr hlt)
  · refine List.pairwise_append.mpr ⟨?_, h.final, ?_⟩
    · refine List.pairwise_of_forall_mem_list ?_
      intro newer hnewer older _ e m u _ hb
      obtain ⟨_, _, _, _, heq⟩ := mem_recordedSuccess hnewer
      simp [heq] at hb
    · intro newer hnewer older _ e m u _ hb
      obtain ⟨_, _, _, _, heq⟩ := mem_recordedSuccess hnewer
      simp [heq] at hb

theorem check_flight (now : Time) (req : Request)
    (found : Except RepoError (Option (IdempotencyRecord J))) :
    (check env config now req found).flight = none := by
  unfold check
  split
  · rfl
  · rfl
  · split
    · split <;> rfl
    · split <;> rfl
    · rfl

theorem acquireExisting_of_expired {t : IdempotencyTable J} {now : Time} {err : DbError}
    (h : ∀ r ∈ t.rows, r.key = key → r.expiresAt ≤ now) :
    acquireExisting t now key err = .error (.wrap "failed to acquire idempotency lock" err) := by
  have hfind : t.rows.find? (live now key) = none := by
    refine List.find?_eq_none.mpr (fun r hr hl => ?_)
    simp only [live, Bool.and_eq_true, decide_eq_true_eq] at hl
    exact Int.not_le.mpr hl.2 (h r hr hl.1)
  simp [acquireExisting, getByKey, hfind]

/-- A handler begins: whatever success is on record has expired. -/
theorem Inv.begin_ {s : State J} (h : Inv config key s) {n : Nat} {req : Request}
    {record : IdempotencyRecord J} {at_ : Option Time} (hn : s.phase n = .locked req record at_) :
    Inv config key ({ s with log := .began n s.now :: s.log }.setPhase n
      (.executing req record at_)) := by
  have hfl : (s.phase n).flight = some (record, at_) := by rw [hn]; rfl
  have hlog : Inv config key { s with log := .began n s.now :: s.log } := by
    refine ⟨h.owned, h.sole, fun e he => ?_, List.pairwise_cons.mpr ⟨?_, h.final⟩⟩
    · exact h.recorded e ((List.mem_cons.mp he).resolve_left (by simp))
    · intro older hold e m t heq hb
      cases hb
      exact h.expired hfl (heq ▸ hold)
  exact hlog.move hfl.symm

theorem Inv.step {s s' : State J} {a : Action} (h : Inv config key s)
    (hpos : 0 < config.processingTTL) (httl : config.processingTTL ≤ config.ttl)
    (ha : Undisturbed config key s a) (hs : Idempotency.step env config key s a = some s') :
    Inv config key s' := by
  cases a with
  | tick elapsed =>
    cases Option.some.inj hs
    refine ⟨fun n record b hn => ?_, h.sole, fun e he hlt => ?_, h.final⟩
    · obtain ⟨t, rfl, _, hrow⟩ := h.owned n record b hn
      exact ⟨t, rfl, ha n record t hn, hrow⟩
    · exact h.recorded e he (Int.lt_of_le_of_lt (Int.le_add_of_nonneg_right (Int.natCast_nonneg _)) hlt)
  | arrive n req readErr =>
    obtain ⟨answer, rfl⟩ | ⟨_, rfl⟩ := step_arrive hs
    · exact h.put rfl
    · exact h.put rfl
  | getByKey n lost =>
    obtain ⟨req, found, _, rfl⟩ := step_getByKey hs
    exact h.put (check_flight _ _ _)
  | upsert n id fault =>
    obtain ⟨req, _, ⟨err, rfl⟩ | ⟨t, record, x, hfault, hup, rfl, hx⟩⟩ := step_upsert hs
    · exact h.put rfl
    · refine h.upsert hpos httl (ha hfault) hup (fun f hf => ?_)
      rcases hx with rfl | rfl
      · simp [Phase.flight] at hf
      · cases Option.some.inj hf
        exact ⟨rfl, fillRecord_id _ _ _⟩
  | acquireExisting n lost =>
    obtain ⟨req, err, _, ⟨answer, rfl⟩ | ⟨record, hlost, hacq, _⟩⟩ := step_acquireExisting hs
    · exact h.put rfl
    · simp [acquireExisting_of_expired (ha hlost)] at hacq
  | begin_ n =>
    obtain ⟨req, record, at_, hn, rfl⟩ := step_begin hs
    exact h.begin_ hn
  | finish n run =>
    obtain ⟨req, record, at_, hn, rfl⟩ := step_finish hs
    exact h.move (by rw [hn]; rfl)
  | update n fault =>
    obtain ⟨req, record, at_, run, hn, rfl | ⟨t, hst, rfl⟩⟩ := step_update hs
    · exact h.put rfl
    · exact h.update (by rw [hn]; rfl) rfl hst
  | stop n => cases Option.some.inj hs; exact h.put rfl
  | deleteExpired =>
    cases Option.some.inj hs
    have hkeep : ∀ r ∈ s.table.rows, s.now < r.expiresAt → r ∈ (deleteExpired s.table s.now).rows := by
      intro r hr hlt
      exact Table.mem_delete.mpr ⟨hr, by simpa using Int.le_of_lt hlt⟩
    refine ⟨fun n record b hn => ?_, h.sole, fun e he hlt => ?_, h.final⟩
    · obtain ⟨t, rfl, hnow, r, hr, hkey, hid, hst, hupd, hexp⟩ := h.owned n record b hn
      refine ⟨t, rfl, hnow, r, hkeep r hr ?_, hkey, hid, hst, hupd, hexp⟩
      rw [hexp]
      exact Int.lt_of_lt_of_le hnow (Int.add_le_add_left httl t)
    · obtain ⟨r, hr, hkey, hst, hexp⟩ := h.recorded e he hlt
      exact ⟨r, hkeep r hr (hexp ▸ hlt), hkey, hst, hexp⟩

theorem Inv.start (t : IdempotencyTable J) (now : Time) : Inv config key (State.start t now) where
  owned := fun _ _ _ hn => by simp [State.start, Phase.flight] at hn
  sole := fun _ _ hn => by simp [State.start, Phase.flight] at hn
  recorded := fun _ he => absurd he List.not_mem_nil
  final := List.Pairwise.nil

/-- With a `ProcessingTTL` that is positive and within `TTL`, undisturbed requests of one key run
their handlers one after the other and none after a success that still counts. -/
theorem idempotency_at_most_once (env : Env J) {config : IdempotencyConfig}
    (hpos : 0 < config.processingTTL) (httl : config.processingTTL ≤ config.ttl)
    (key : IdempotencyKey) {t : IdempotencyTable J} {now : Time} {s : State J}
    (hs : Transition.Reach (step env config key) (Undisturbed config key) (State.start t now) s) :
    AtMostOnce config s :=
  (hs.invariant (Inv.start t now) (fun _ _ _ hi ha hst => hi.step hpos httl ha hst)).atMostOnce

/-- A withdrawal with an empty body. -/
def sampleRequest : Request :=
  { path := "/api/v1/supply/settlements/withdraw", requestID := "req-1",
    idempotencyKey := "withdraw-2026-001", tenantID := 7, operatorID := 9, body := [] }

def sampleKey : IdempotencyKey :=
  { tenantID := 7, operatorID := 9, apiPath := "/supply/settlements/withdraw",
    key := "withdraw-2026-001" }

theorem sampleRequest_key : extractIdempotencyKey sampleRequest = .ok sampleKey := rfl

/-- The hash is the SHA-256 digest of the empty body; JSON values are their texts. -/
def sampleEnv : Env String :=
  { sha256 := fun _ => #v[0xe3, 0xb0, 0xc4, 0x42, 0x98, 0xfc, 0x1c, 0x14, 0x9a, 0xfb, 0xf4, 0xc8,
      0x99, 0x6f, 0xb9, 0x24, 0x27, 0xae, 0x41, 0xe4, 0x64, 0x9b, 0x93, 0x4c, 0xa4, 0x95, 0x99,
      0x1b, 0x78, 0x52, 0xb8, 0x55],
    jsonb := fun bytes => if bytes = [0x7b, 0x7d] then some "\x7b\x7d" else none,
    errorBody := fun msg => "\x7b\"error\": \"" ++ msg ++ "\"\x7d",
    okBody := "\x7b\"status\": \"ok\"\x7d" }

def sampleConfig : IdempotencyConfig := newIdempotencyMiddleware { ttl := 0, processingTTL := 0 }

/-- A handler that writes 201 and an empty object. -/
def sampleRun : HandlerRun :=
  { calls := [.writeHeader 201, .write [0x7b, 0x7d]], err := none }

theorem step_arrive_idle {s : State J} {n : Nat} {req : Request} (hn : s.phase n = .idle)
    (hkey : extractIdempotencyKey req = .ok key) :
    step env config key s (.arrive n req none) = some (s.setPhase n (.arrived req)) := by
  simp [step, hn, hkey]

theorem sample_arrived {ok : State String → Action → Prop}
    (hok : ok (State.start Table.empty 0) (.arrive 0 sampleRequest none)) :
    Transition.Reach (step sampleEnv sampleConfig sampleKey) ok (State.start Table.empty 0)
      ((State.start Table.empty 0).setPhase 0 (.arrived sampleRequest)) :=
  (Transition.Reach.refl _).next hok (step_arrive_idle rfl sampleRequest_key)

theorem idempotency_at_most_once_sample :
    ∃ s, Transition.Reach (step sampleEnv sampleConfig sampleKey)
        (Undisturbed sampleConfig sampleKey) (State.start Table.empty 0) s ∧
      s.log = [.recorded sampleConfig.ttl, .began 0 0] ∧ AtMostOnce sampleConfig s := by
  have hstart : Undisturbed sampleConfig sampleKey (State.start (J := String) Table.empty 0)
      (.arrive 0 sampleRequest none) := trivial
  have hcheck := (sample_arrived hstart).next (a := .getByKey 0 false) (by trivial) rfl
  have hlock := hcheck.next (a := .upsert 0 1 .none)
    (by intro _ r hr; exact absurd hr List.not_mem_nil) rfl
  have hbegin := hlock.next (a := .begin_ 0) (by trivial) rfl
  have hfinish := hbegin.next (a := .finish 0 sampleRun) (by trivial) rfl
  have hdone := hfinish.next (a := .update 0 .none) (by trivial) rfl
  exact ⟨_, hdone, rfl, idempotency_at_most_once sampleEnv (by decide) (by decide) sampleKey hdone⟩

/-- Two requests pass the check before either has locked the record; the second upsert takes the
fresh lock over and both handlers run. -/
theorem racing_requests_counterexample :
    ∃ s, Transition.Reach (step sampleEnv sampleConfig sampleKey) Transition.anyStep
        (State.start Table.empty 0) s ∧
      (s.phase 0).isExecuting ∧ (s.phase 1).isExecuting ∧ ¬AtMostOnce sampleConfig s := by
  have hany : Transition.anyStep (State.start (J := String) Table.empty 0)
      (Action.arrive 0 sampleRequest none) := trivial
  have h1 := (sample_arrived hany).next (by trivial) (step_arrive_idle (n := 1) rfl sampleRequest_key)
  obtain ⟨s, hs⟩ : ∃ s, Transition.exec (step sampleEnv sampleConfig sampleKey)
      (((State.start (J := String) Table.empty 0).setPhase 0 (.arrived sampleRequest)).setPhase 1
        (.arrived sampleRequest))
      [.getByKey 0 false, .getByKey 1 false, .upsert 0 1 .none, .upsert 1 2 .none, .begin_ 0,
        .begin_ 1] = some s := ⟨_, rfl⟩
  have hrun := h1.trans (Transition.reach_of_exec hs)
  cases hs
  refine ⟨_, hrun, rfl, rfl, fun h => ?_⟩
  exact absurd (h.exclusive 0 1 0 (by decide) rfl (by decide)) (by decide)

end SupplyPlatform.Idempotency
