import SupplyPlatform.Startup

namespace SupplyPlatform.Startup

open Auth Transition

variable {env : Env} {connections : Connections} {r : Runtime} {s s' : Process}

theorem runtimeOf_ok {db redisCache : Bool} (h : runtimeOf env db redisCache = .ok r) :
    r.env = env ∧ r.db = db ∧ r.redisCache = redisCache ∧ r.authEnabled = decide (env ≠ .dev) ∧
      r.tokenBackend = (buildSecurityBundle db redisCache).1 ∧ r.revocationSubscriber = db := by
  unfold runtimeOf at h
  split at h
  next => cases h
  next =>
    cases h
    cases db <;> exact ⟨rfl, rfl, rfl, rfl, rfl, rfl⟩

theorem buildRuntime_ok (h : buildRuntime env connections = .ok r) :
    r.env = env ∧ r.db = connections.db.isOk ∧ r.redisCache = connections.redisCache.isOk ∧
      r.authEnabled = decide (env ≠ .dev) ∧
      r.tokenBackend = (buildSecurityBundle connections.db.isOk connections.redisCache.isOk).1 ∧
      r.revocationSubscriber = connections.db.isOk := by
  unfold buildRuntime at h
  split at h
  next err hdb =>
    rw [hdb]
    split at h
    next => cases h
    next => exact runtimeOf_ok h
  next hdb =>
    rw [hdb]
    exact runtimeOf_ok h

/-- What has been started where the main goroutine stands: nothing until the subscriber is passed, which
it is only without a Redis cache, so that the outbox processor has no broker. -/
def Started (env : Env) (connections : Connections) : Main → List Worker → Prop
  | .buildRuntime, started => started = []
  | .startRevocationSubscriber r, started => buildRuntime env connections = .ok r ∧ started = []
  | .subscribed r, started => buildRuntime env connections = .ok r ∧ started = []
  | .startOutboxProcessor r, started =>
    buildRuntime env connections = .ok r ∧ r.db = true ∧ r.redisCache = false ∧ started = []
  | .startPartitionMaintenanceWorker r, started => r.db = true ∧ r.redisCache = false ∧
    buildRuntime env connections = .ok r ∧ started = []
  | .startCompensationWorker r, started => r.db = true ∧ r.redisCache = false ∧
    buildRuntime env connections = .ok r ∧ started = [.partitionMaintenance]
  | .awaitSignal, started | .shutdown, started =>
    (connections.db.isOk = true → connections.redisCache.isOk = false) ∧
      (started ≠ [] → connections.db.isOk = true ∧ .outboxProcessor ∉ started)
  | .exited _, started => started ≠ [] →
    connections.db.isOk = true ∧ connections.redisCache.isOk = false ∧ .outboxProcessor ∉ started

/-- What holds of the process from its start. -/
structure Running (env : Env) (connections : Connections) (s : Process) : Prop where
  sameEnv : s.env = env
  sameConnections : s.connections = connections
  http : ∀ r, s.http = some r → buildRuntime env connections = .ok r
  started : Started env connections s.main s.started
  cancelled : s.cancelled = true → s.main = .shutdown ∨ ∃ message, s.main = .exited message

theorem running_start (env : Env) (connections : Connections) (now : Time) :
    Running env connections (.start env connections now) :=
  ⟨rfl, rfl, nofun, rfl, nofun⟩

theorem Started.done {main : Main} {started : List Worker} (h : Started env connections main started)
    (hstarted : started ≠ []) :
    connections.db.isOk = true ∧ connections.redisCache.isOk = false ∧ .outboxProcessor ∉ started := by
  cases main with
  | buildRuntime => exact absurd h hstarted
  | startRevocationSubscriber r => exact absurd h.2 hstarted
  | subscribed r => exact absurd h.2 hstarted
  | startOutboxProcessor r => exact absurd h.2.2.2 hstarted
  | startPartitionMaintenanceWorker r => exact absurd h.2.2.2 hstarted
  | startCompensationWorker r =>
    obtain ⟨hdb, hredis, hbuilt, rfl⟩ := h
    obtain ⟨-, hdb', hredis', -⟩ := buildRuntime_ok hbuilt
    exact ⟨hdb' ▸ hdb, hredis' ▸ hredis, by decide⟩
  | awaitSignal | shutdown =>
    obtain ⟨hdb, hnone⟩ := h.2 hstarted
    exact ⟨hdb, h.1 hdb, hnone⟩
  | exited message => exact h hstarted

theorem Running.exit (h : Running env connections s) (message : Option String) :
    Running env connections (s.exit message) :=
  ⟨h.sameEnv, h.sameConnections, nofun, h.started.done, fun _ => .inr ⟨message, rfl⟩⟩

theorem Running.fatal (h : Running env connections s) (otherwise err : String) :
    Running env connections (s.fatal otherwise err) := h.exit _

theorem Running.not_cancelled (h : Running env connections s) (hshutdown : s.main ≠ .shutdown)
    (hexited : ∀ message, s.main ≠ .exited message) : s.cancelled = false := by
  by_contra hcancelled
  rcases h.cancelled (Bool.not_eq_false _ ▸ hcancelled) with hmain | ⟨message, hmain⟩
  · exact hshutdown hmain
  · exact hexited message hmain

/-- The main goroutine goes on, with what has been started by then. -/
theorem Running.goTo (h : Running env connections s) (main : Main) (started : List Worker)
    (hstarted : Started env connections main started) (hcancelled : s.cancelled = false) :
    Running env connections { s with main := main, started := started } := by
  refine ⟨h.sameEnv, h.sameConnections, h.http, hstarted, fun hc => ?_⟩
  rw [hcancelled] at hc
  cases hc

theorem Running.proceed (h : Running env connections s) (hstep : s.proceed = some s') :
    Running env connections s' := by
  have hstarted := h.started
  unfold Process.proceed at hstep
  split at hstep
  next hmain =>
    rw [hmain] at hstarted
    have hrunning := h.not_cancelled (by simp [hmain]) (by simp [hmain])
    split at hstep
    next err hbuild =>
      cases hstep
      exact h.fatal _ _
    next r hbuild =>
      cases hstep
      rw [h.sameEnv, h.sameConnections] at hbuild
      refine ⟨h.sameEnv, h.sameConnections, fun r' hr => ?_, ⟨hbuild, hstarted⟩, fun hc => ?_⟩
      · rw [← Option.some.inj hr]
        exact hbuild
      · rw [hrunning] at hc
        cases hc
  next r hmain =>
    rw [hmain] at hstarted
    obtain ⟨hbuild, hnone⟩ := hstarted
    have hrunning := h.not_cancelled (by simp [hmain]) (by simp [hmain])
    obtain ⟨-, hdb, hredis, -, -, hsubscriber⟩ := buildRuntime_ok hbuild
    split at hstep
    next =>
      cases hstep
      exact h.goTo (.subscribed r) s.started ⟨hbuild, hnone⟩ hrunning
    next hskip =>
      cases hstep
      unfold Process.afterSubscriber
      split
      next hisdb =>
        have hnoredis : r.redisCache = false := by
          rw [hsubscriber, ← hdb, hisdb, Bool.true_and] at hskip
          exact Bool.not_eq_true _ ▸ hskip
        exact h.goTo (.startOutboxProcessor r) s.started ⟨hbuild, hisdb, hnoredis, hnone⟩ hrunning
      next hnotdb =>
        have hdisconnected : connections.db.isOk = true → connections.redisCache.isOk = false :=
          fun hdb' => absurd (hdb.trans hdb') hnotdb
        exact h.goTo .awaitSignal s.started ⟨hdisconnected, fun hne => absurd hnone hne⟩ hrunning
  next r hmain =>
    rw [hmain] at hstarted
    obtain ⟨hbuild, hdb, hredis, hnone⟩ := hstarted
    have hrunning := h.not_cancelled (by simp [hmain]) (by simp [hmain])
    cases hstep
    unfold Process.startOutboxProcessor
    rw [hredis, if_neg Bool.false_ne_true]
    split
    next => exact h.fatal _ _
    next =>
      exact h.goTo (.startPartitionMaintenanceWorker r) s.started ⟨hdb, hredis, hbuild, hnone⟩ hrunning
  next r hmain =>
    rw [hmain] at hstarted
    obtain ⟨hdb, hredis, hbuild, hnone⟩ := hstarted
    have hrunning := h.not_cancelled (by simp [hmain]) (by simp [hmain])
    cases hstep
    exact h.goTo (.startCompensationWorker r) (.partitionMaintenance :: s.started)
      ⟨hdb, hredis, hbuild, by rw [hnone]⟩ hrunning
  next r hmain =>
    rw [hmain] at hstarted
    obtain ⟨hdb, hredis, hbuild, hpartition⟩ := hstarted
    have hrunning := h.not_cancelled (by simp [hmain]) (by simp [hmain])
    obtain ⟨-, hdb', hredis', -⟩ := buildRuntime_ok hbuild
    cases hstep
    exact h.goTo .awaitSignal (.compensation :: s.started)
      ⟨fun _ => hredis' ▸ hredis, fun _ => ⟨hdb' ▸ hdb, by simp [hpartition]⟩⟩ hrunning
  next =>
    obtain ⟨err, -, rfl⟩ := Option.map_eq_some_iff.mp hstep
    exact h.exit _
  next =>
    cases hstep
    exact h.exit _
  next => cases hstep
  next => cases hstep

theorem Running.signal (h : Running env connections s) (hstep : s.signal = some s') :
    Running env connections s' := by
  have hstarted := h.started
  unfold Process.signal at hstep
  split at hstep
  next hmain =>
    cases hstep
    rw [hmain] at hstarted
    exact ⟨h.sameEnv, h.sameConnections, h.http, hstarted, fun _ => .inl rfl⟩
  next => cases hstep
  next => cases hstep
  next =>
    cases hstep
    exact h.exit _

theorem Running.inAuth (h : Running env connections s) (n : Nat) (x : InFlight) :
    Running env connections (s.inAuth n x) := by
  cases x <;> exact ⟨h.sameEnv, h.sameConnections, h.http, h.started, h.cancelled⟩

theorem Running.serve (h : Running env connections s) (n : Nat) (r : HttpRequest) :
    Running env connections (s.serve n r) :=
  ⟨h.sameEnv, h.sameConnections, h.http, h.started, h.cancelled⟩

theorem Running.setStage (h : Running env connections s) (n : Nat) (x : Stage) :
    Running env connections (s.setStage n x) :=
  ⟨h.sameEnv, h.sameConnections, h.http, h.started, h.cancelled⟩

theorem Running.step {a : Action} (h : Running env connections s) (hstep : s.step a = some s') :
    Running env connections s' := by
  cases a with
  | tick elapsed =>
    cases hstep
    exact ⟨h.sameEnv, h.sameConnections, h.http, h.started, h.cancelled⟩
  | proceed => exact h.proceed hstep
  | receiveRevocation payload =>
    simp only [Process.step] at hstep
    split at hstep
    next =>
      cases hstep
      exact h
    next => cases hstep
  | contextDone =>
    simp only [Process.step] at hstep
    split at hstep
    next r hmain =>
      rw [h.not_cancelled (by simp [hmain]) (by simp [hmain])] at hstep
      cases hstep
    next => cases hstep
  | signal => exact h.signal hstep
  | serverFails err =>
    obtain ⟨_, -, rfl⟩ := Option.map_eq_some_iff.mp hstep
    exact ⟨h.sameEnv, h.sameConnections, h.http, h.started, h.cancelled⟩
  | accept n r =>
    simp only [Process.step] at hstep
    split at hstep
    next =>
      obtain ⟨runtime, -, rfl⟩ := Option.map_eq_some_iff.mp hstep
      unfold Process.accept
      split
      next => exact h.serve n r
      next => exact h.inAuth n _
    next => cases hstep
  | verifyToken n claims =>
    simp only [Process.step] at hstep
    split at hstep
    next =>
      split at hstep
      next =>
        cases hstep
        exact h.inAuth n _
      next =>
        cases hstep
        exact h.inAuth n _
    next => cases hstep
  | checkTokenStatus n answer =>
    simp only [Process.step] at hstep
    split at hstep
    next runtime r claims _ _ =>
      cases hstep
      unfold Process.statusChecked
      split
      next => exact h.setStage n .ended
      next => exact h.inAuth n _
      next =>
        split
        next => exact h.inAuth n _
        next => exact h.inAuth n _
    next => cases hstep
  | rateLimit n admitted =>
    simp only [Process.step] at hstep
    split at hstep
    next r _ _ =>
      cases hstep
      split
      next => exact h.serve n r
      next => exact h.setStage n .ended
    next => cases hstep

theorem running_of_reach {now : Time} (h : Reach Process.step anyStep (.start env connections now) s) :
    Running env connections s :=
  h.invariant (running_start env connections now) fun _ _ _ h _ hstep => h.step hstep

/-- The requests, and the cache that the middleware asks for them, are left as they are. -/
structure Process.KeepsRequests (s s' : Process) : Prop where
  tokenCache : s'.tokenCache = s.tokenCache
  stage : s'.stage = s.stage
  served : s'.served = s.served

theorem Process.afterSubscriber_keeps (s : Process) (r : Runtime) : s.KeepsRequests (s.afterSubscriber r) := by
  unfold Process.afterSubscriber
  split <;> exact ⟨rfl, rfl, rfl⟩

theorem Process.startOutboxProcessor_keeps (s : Process) (r : Runtime) :
    s.KeepsRequests (s.startOutboxProcessor r) := by
  unfold Process.startOutboxProcessor
  split
  next => exact ⟨rfl, rfl, rfl⟩
  next => split <;> exact ⟨rfl, rfl, rfl⟩

theorem Process.proceed_keeps (h : s.proceed = some s') : s.KeepsRequests s' := by
  unfold Process.proceed at h
  split at h
  next =>
    split at h <;> cases h <;> exact ⟨rfl, rfl, rfl⟩
  next r _ =>
    split at h
    next =>
      cases h
      exact ⟨rfl, rfl, rfl⟩
    next =>
      cases h
      exact s.afterSubscriber_keeps r
  next r _ =>
    cases h
    exact s.startOutboxProcessor_keeps r
  next =>
    cases h
    exact ⟨rfl, rfl, rfl⟩
  next =>
    cases h
    exact ⟨rfl, rfl, rfl⟩
  next =>
    obtain ⟨err, -, rfl⟩ := Option.map_eq_some_iff.mp h
    exact ⟨rfl, rfl, rfl⟩
  next =>
    cases h
    exact ⟨rfl, rfl, rfl⟩
  next => cases h
  next => cases h

theorem Process.signal_keeps (h : s.signal = some s') : s.KeepsRequests s' := by
  unfold Process.signal at h
  split at h <;> cases h <;> exact ⟨rfl, rfl, rfl⟩

/-- The routes have been given no request for a protected path, and none is on its way to them. -/
structure Unserved (s : Process) : Prop where
  tokenCache : s.tokenCache = .new
  served : s.served = []
  waiting : ∀ n r, s.stage n = .rateLimit r → shouldBypassAuth r.path = true

/-- The runtime asks a database backend whose cache is a nil pointer. -/
def Runtime.Panics (r : Runtime) : Prop :=
  r.env ≠ .dev ∧ r.authEnabled = true ∧ r.tokenBackend = .database .nilPointer

theorem panics_of_build (hdev : env ≠ .dev) (hdb : connections.db.isOk = true)
    (hredis : connections.redisCache.isOk = false) (h : buildRuntime env connections = .ok r) : r.Panics := by
  obtain ⟨rfl, -, -, hauth, hbackend, -⟩ := buildRuntime_ok h
  refine ⟨hdev, by rw [hauth, decide_eq_true hdev], ?_⟩
  rw [hbackend, hdb, hredis]
  rfl

theorem Unserved.keep (h : Unserved s) (hkeep : s.KeepsRequests s') : Unserved s' :=
  ⟨hkeep.tokenCache.trans h.tokenCache, hkeep.served.trans h.served, fun n r hr =>
    h.waiting n r (by rw [← hkeep.stage, hr])⟩

theorem Unserved.setStage (h : Unserved s) (n : Nat) {x : Stage}
    (hx : ∀ r, x = .rateLimit r → shouldBypassAuth r.path = true) : Unserved (s.setStage n x) := by
  refine ⟨h.tokenCache, h.served, fun m r hr => ?_⟩
  simp only [Process.setStage, Function.update_apply] at hr
  split at hr
  next => exact hx r hr
  next => exact h.waiting m r hr

theorem Unserved.inAuth (h : Unserved s) (n : Nat) {x : InFlight}
    (hx : ∀ r, x = .passed r → shouldBypassAuth r.path = true) : Unserved (s.inAuth n x) := by
  cases x with
  | passed r =>
    refine h.setStage n (fun r' hr => ?_)
    cases hr
    exact hx r rfl
  | _ => exact h.setStage n (fun _ hr => by cases hr)

theorem Unserved.serve (h : Unserved s) (n : Nat) {r : HttpRequest} (hr : shouldBypassAuth r.path = true) :
    Unserved (s.serve n r) := by
  have hstage := h.setStage n (x := .served r) nofun
  refine ⟨h.tokenCache, ?_, hstage.waiting⟩
  rw [Process.serve, if_pos hr]
  exact h.served

theorem bearer_ne_passed (r r' : HttpRequest) : bearer r ≠ .passed r' := by
  unfold bearer
  split
  next => nofun
  next => split <;> nofun

/-- Past the check of its token comes only a request for an unprotected path. -/
theorem bypass_of_accept {m : AuthMiddleware} {r r' : HttpRequest} {now : Time} (henabled : m.enabled = true)
    (hnone : m.bruteForce = none) (h : (m.accept r now).2 = .passed r') :
    shouldBypassAuth r'.path = true := by
  unfold AuthMiddleware.accept at h
  split at h
  next hbypass =>
    cases h
    exact hbypass
  next =>
    rw [henabled, if_neg (by decide), hnone] at h
    exact absurd h (bearer_ne_passed r r')

theorem Unserved.step {a : Action} (h : Unserved s) (hhttp : ∀ r, s.http = some r → r.Panics)
    (hstep : s.step a = some s') : Unserved s' := by
  cases a with
  | tick elapsed =>
    cases hstep
    exact ⟨h.tokenCache, h.served, h.waiting⟩
  | proceed => exact h.keep (Process.proceed_keeps hstep)
  | receiveRevocation payload =>
    simp only [Process.step] at hstep
    split at hstep
    next =>
      cases hstep
      exact h
    next => cases hstep
  | contextDone =>
    simp only [Process.step] at hstep
    split at hstep
    next r _ =>
      obtain ⟨-, hafter⟩ := Option.ite_none_right_eq_some.mp hstep
      cases hafter
      exact h.keep (s.afterSubscriber_keeps r)
    next => cases hstep
  | signal => exact h.keep (Process.signal_keeps hstep)
  | serverFails err =>
    obtain ⟨_, -, rfl⟩ := Option.map_eq_some_iff.mp hstep
    exact ⟨h.tokenCache, h.served, h.waiting⟩
  | accept n r =>
    simp only [Process.step] at hstep
    split at hstep
    next =>
      obtain ⟨runtime, hruntime, rfl⟩ := Option.map_eq_some_iff.mp hstep
      obtain ⟨henv, hauth, -⟩ := hhttp runtime hruntime
      rw [Process.accept, if_neg henv]
      exact h.inAuth n (fun r' hr' => bypass_of_accept hauth rfl hr')
    next => cases hstep
  | verifyToken n claims =>
    simp only [Process.step] at hstep
    split at hstep
    next =>
      split at hstep
      next =>
        cases hstep
        exact h.inAuth n nofun
      next =>
        cases hstep
        exact h.inAuth n nofun
    next => cases hstep
  | checkTokenStatus n answer =>
    simp only [Process.step] at hstep
    split at hstep
    next runtime r claims hruntime _ =>
      cases hstep
      obtain ⟨-, -, hbackend⟩ := hhttp runtime hruntime
      have hpanics : s.checkTokenStatus runtime.tokenBackend claims.id answer = .panicked := by
        rw [Process.checkTokenStatus, h.tokenCache, hbackend]
        rfl
      rw [hpanics]
      exact h.setStage n nofun
    next => cases hstep
  | rateLimit n admitted =>
    simp only [Process.step] at hstep
    split at hstep
    next r _ hstage =>
      cases hstep
      split
      next => exact h.serve n (h.waiting n r hstage)
      next => exact h.setStage n nofun
    next => cases hstep

theorem unserved_start (env : Env) (connections : Connections) (now : Time) :
    Unserved (.start env connections now) :=
  ⟨rfl, rfl, nofun⟩

theorem unserved_of_reach {now : Time} (hdev : env ≠ .dev) (hdb : connections.db.isOk = true)
    (hredis : connections.redisCache.isOk = false)
    (h : Reach Process.step anyStep (.start env connections now) s) : Unserved s := by
  have hstart : Running env connections (.start env connections now) ∧
      Unserved (.start env connections now) :=
    ⟨running_start env connections now, unserved_start env connections now⟩
  have hkeep : ∀ s a s', Running env connections s ∧ Unserved s → anyStep s a →
      s.step a = some s' → Running env connections s' ∧ Unserved s' := by
    intro s a s' ⟨hrunning, hunserved⟩ _ hstep
    have hpanics : ∀ r, s.http = some r → r.Panics := fun r hr =>
      panics_of_build hdev hdb hredis (hrunning.http r hr)
    exact ⟨hrunning.step hstep, hunserved.step hpanics hstep⟩
  exact (h.invariant hstart hkeep).2

theorem Running.nothing_of_redis (h : Running env connections s) (hdb : connections.db.isOk = true)
    (hredis : connections.redisCache.isOk = true) :
    s.started = [] ∧ s.main ≠ .awaitSignal ∧ s.main ≠ .shutdown := by
  have hstarted := h.started
  refine ⟨?_, fun hmain => ?_, fun hmain => ?_⟩
  · by_contra hne
    have hnone := (hstarted.done hne).2.1
    rw [hredis] at hnone
    cases hnone
  · rw [hmain] at hstarted
    have hnone := hstarted.1 hdb
    rw [hredis] at hnone
    cases hnone
  · rw [hmain] at hstarted
    have hnone := hstarted.1 hdb
    rw [hredis] at hnone
    cases hnone

/-- The outbox processor needs the broker that comes with Redis, and with Redis and a database the main
goroutine waits in the subscriber for a cancellation that only its own later shutdown gives: the processor
is never started, and where both are there no worker is. -/
theorem outbox_processor_never_started (env : Env) (connections : Connections) (now : Time) (s : Process)
    (h : Reach Process.step anyStep (.start env connections now) s) :
    Worker.outboxProcessor ∉ s.started ∧
      (connections.db.isOk = true → connections.redisCache.isOk = true →
        s.started = [] ∧ s.main ≠ .awaitSignal ∧ s.main ≠ .shutdown) := by
  have hrunning := running_of_reach h
  refine ⟨fun hmem => ?_, hrunning.nothing_of_redis⟩
  exact (hrunning.started.done (List.ne_nil_of_mem hmem)).2.2 hmem

def connectedToBoth : Connections := ⟨.ok (), .ok ()⟩

def accountsRequest : HttpRequest := ⟨"/api/v1/supply/accounts", "203.0.113.7:40000", some "token", none⟩

/-- A request is answered while the main goroutine waits in the subscriber. -/
def answeredRequest : List Action :=
  [.proceed, .proceed, .accept 0 accountsRequest, .verifyToken 0 (some ⟨"jti-1", "user-1", 1⟩),
    .checkTokenStatus 0 (some "active"), .rateLimit 0 true]

theorem outbox_processor_never_started_sample :
    ∃ s, exec Process.step (.start .prod connectedToBoth 0) answeredRequest = some s ∧
      Worker.outboxProcessor ∉ s.started ∧ s.started = [] ∧ s.main ≠ .awaitSignal ∧ s.main ≠ .shutdown := by
  refine ⟨_, rfl, ?_⟩
  have h := outbox_processor_never_started .prod connectedToBoth 0 _
    (reach_of_exec (show exec Process.step (.start .prod connectedToBoth 0) answeredRequest = some _ from rfl))
  exact ⟨h.1, h.2 rfl rfl⟩

/-- Outside development a process that has let its routes answer a request for a protected path runs no
background worker: it has no database, or it still waits in the subscriber. -/
theorem serving_excludes_workers (env : Env) (connections : Connections) (now : Time) (s : Process)
    (hdev : env ≠ .dev) (h : Reach Process.step anyStep (.start env connections now) s)
    (hserved : s.served ≠ []) : s.started = [] := by
  by_contra hstarted
  obtain ⟨hdb, hredis, -⟩ := (running_of_reach h).started.done hstarted
  exact hserved (unserved_of_reach hdev hdb hredis h).served

theorem serving_excludes_workers_sample :
    ∃ s, exec Process.step (.start .prod connectedToBoth 0) answeredRequest = some s ∧
      s.served ≠ [] ∧ s.started = [] := by
  refine ⟨_, rfl, ?_⟩
  have hserved : [{ accountsRequest with claims := some ⟨"jti-1", "user-1", 1⟩ }] ≠ [] := List.cons_ne_nil _ _
  have h := serving_excludes_workers .prod connectedToBoth 0 _ nofun
    (reach_of_exec (show exec Process.step (.start .prod connectedToBoth 0) answeredRequest = some _ from rfl))
    hserved
  exact ⟨hserved, h⟩

end SupplyPlatform.Startup
