import SupplyPlatform.BruteForce

namespace SupplyPlatform.Auth

open Settlements (zeroTime)

/-- `maxAttempts` verifications have failed within one lockout, the last of them less than a lockout
ago. -/
def Due (maxAttempts lockoutDuration : Int) (failures : List Time) (now : Time) : Prop :=
  ∃ newer last rest older, failures = newer ++ (last :: rest) ++ older ∧
    (rest.length : Int) + 1 = maxAttempts ∧ (∀ t ∈ rest, last - t ≤ lockoutDuration) ∧
    now - last < lockoutDuration

/-- A request of an address that is due to be locked is rejected before its token is verified. -/
def Guards (maxAttempts lockoutDuration : Int) (s : Server) : Prop :=
  ∀ n r s', shouldBypassAuth r.path = false →
    Due maxAttempts lockoutDuration (s.failures (getClientIP r)) s.now →
    s.step (.accept n r) = some s' → ∃ remaining, s'.request n = .rejected r (errAccountLocked remaining)

namespace BruteForceProtection

theorem of_cleanup {b : BruteForceProtection} {now : Time} {ip : String} {record : AttemptRecord}
    (h : (b.cleanupExpiredLocked now).attempts ip = some record) : b.attempts ip = some record :=
  (Option.filter_eq_some_iff.mp h).1

theorem cleanup_keeps {b : BruteForceProtection} {now : Time} {ip : String} {record : AttemptRecord}
    (h : b.attempts ip = some record) (hlocked : now ≤ record.lockedUntil) :
    (b.cleanupExpiredLocked now).attempts ip = some record := by
  refine Option.filter_eq_some_iff.mpr ⟨h, ?_⟩
  have hnot : ¬record.lockedUntil < now := Int.not_lt.mpr hlocked
  simp [expired, hnot]

/-- What a cleanup keeps is kept by a call that may trigger one. -/
theorem triggerCleanup_of {P : BruteForceProtection → Prop} {b : BruteForceProtection} {now : Time}
    (hcount : ∀ k, P { b with cleanupCounter := k })
    (hclean : ∀ b, P b → P (b.cleanupExpiredLocked now)) : P (b.triggerCleanup now) := by
  unfold triggerCleanup
  split
  next => exact hclean _ (hcount 0)
  next => exact hcount _

end BruteForceProtection

/-- Where one failure is enough: every failure of an address that is less than a lockout old has the
address locked for the rest of that lockout. -/
structure Keeps (lockoutDuration : Int) (now : Time) (failures : List Time)
    (record : Option AttemptRecord) : Prop where
  counted : ∀ r, record = some r → 0 ≤ r.count
  past : ∀ t ∈ failures, t ≤ now
  locked : ∀ t ∈ failures, now < t + lockoutDuration → ∃ r, record = some r ∧ 1 ≤ r.count ∧
    t + lockoutDuration ≤ r.lockedUntil

/-- `Keeps` for every address. -/
structure Holds (lockoutDuration : Int) (failures : String → List Time) (now : Time)
    (b : BruteForceProtection) : Prop where
  one : b.maxAttempts = 1
  lockout : b.lockoutDuration = lockoutDuration
  keeps : ∀ ip, Keeps lockoutDuration now (failures ip) (b.attempts ip)

section

variable {lockoutDuration : Int} {failures : String → List Time} {now : Time}
  {b : BruteForceProtection}

theorem Holds.later (h : Holds lockoutDuration failures now b) (elapsed : Nat) :
    Holds lockoutDuration failures (now + elapsed) b := by
  have hle : now ≤ now + elapsed := Int.le_add_of_nonneg_right (Int.natCast_nonneg elapsed)
  refine ⟨h.one, h.lockout, fun ip => ⟨(h.keeps ip).counted, fun t ht => ?_, fun t ht hin => ?_⟩⟩
  · exact Int.le_trans ((h.keeps ip).past t ht) hle
  · exact (h.keeps ip).locked t ht (Int.lt_of_le_of_lt hle hin)

theorem Holds.cleanup (h : Holds lockoutDuration failures now b) :
    Holds lockoutDuration failures now (b.cleanupExpiredLocked now) := by
  refine ⟨h.one, h.lockout, fun ip => ⟨fun r hr => ?_, (h.keeps ip).past, fun t ht hin => ?_⟩⟩
  · exact (h.keeps ip).counted r (BruteForceProtection.of_cleanup hr)
  · obtain ⟨r, hr, hcount, huntil⟩ := (h.keeps ip).locked t ht hin
    have hlocked : now ≤ r.lockedUntil := Int.le_of_lt (Int.lt_of_lt_of_le hin huntil)
    exact ⟨r, BruteForceProtection.cleanup_keeps hr hlocked, hcount, huntil⟩

theorem Holds.trigger (h : Holds lockoutDuration failures now b) :
    Holds lockoutDuration failures now (b.triggerCleanup now) :=
  BruteForceProtection.triggerCleanup_of (fun _ => ⟨h.one, h.lockout, h.keeps⟩) (fun _ hb => hb.cleanup)

/-- The record of one more failure locks the address for a lockout from now. -/
theorem Keeps.failed {failures : List Time} {record : Option AttemptRecord}
    (h : Keeps lockoutDuration now failures record) (hone : b.maxAttempts = 1)
    (hlock : b.lockoutDuration = lockoutDuration) :
    Keeps lockoutDuration now (now :: failures)
      (some (b.failed now (record.getD ⟨0, zeroTime, zeroTime⟩))) := by
  have hpos : 0 ≤ (record.getD ⟨0, zeroTime, zeroTime⟩).count := by
    cases hr : record with
    | none => exact Int.le_refl 0
    | some r => exact h.counted r hr
  have hmax : b.maxAttempts ≤ (record.getD ⟨0, zeroTime, zeroTime⟩).count + 1 := by
    rw [hone]
    omega
  have hpast : ∀ t ∈ now :: failures, t ≤ now := by
    intro t ht
    rcases List.mem_cons.mp ht with rfl | ht
    · exact Int.le_refl _
    · exact h.past t ht
  refine ⟨fun r hr => ?_, hpast, fun t ht _ => ⟨_, rfl, Int.add_le_add_right hpos 1, ?_⟩⟩
  · cases Option.some.inj hr
    exact Int.le_trans hpos (Int.le_of_lt (Int.lt_succ _))
  · simp only [BruteForceProtection.failed, if_pos hmax, hlock]
    exact Int.add_le_add_right (hpast t ht) lockoutDuration

theorem Holds.recordFailedAttempt (h : Holds lockoutDuration failures now b) (ip : String) :
    Holds lockoutDuration (Function.update failures ip (now :: failures ip)) now
      (b.recordFailedAttempt ip now) := by
  unfold BruteForceProtection.recordFailedAttempt
  apply Holds.trigger
  refine ⟨h.one, h.lockout, (Function.forall_update_iff _ _).mpr ⟨?_, fun jp hjp => ?_⟩⟩
  · rw [Function.update_self]
    exact (h.keeps ip).failed h.one h.lockout
  · rw [Function.update_of_ne hjp]
    exact h.keeps jp

/-- A request asks: a record that protects its address answers so and stays, one that starts over
protects nothing. -/
theorem Holds.isLocked (h : Holds lockoutDuration failures now b) (ip : String) :
    Holds lockoutDuration failures now (b.isLocked ip now).1 ∧
      ∀ t ∈ failures ip, now < t + lockoutDuration → (b.isLocked ip now).2.1 = true := by
  unfold BruteForceProtection.isLocked
  split
  next hnone =>
    refine ⟨h, fun t ht hin => ?_⟩
    obtain ⟨record, hr, _⟩ := (h.keeps ip).locked t ht hin
    rw [hnone] at hr
    cases hr
  next record hr =>
    have hlocked : ∀ t ∈ failures ip, now < t + lockoutDuration →
        b.maxAttempts ≤ record.count ∧ now < record.lockedUntil := by
      intro t ht hin
      obtain ⟨found, hf, hcount, huntil⟩ := (h.keeps ip).locked t ht hin
      cases Option.some.inj (hr.symm.trans hf)
      exact ⟨h.one ▸ hcount, Int.lt_of_lt_of_le hin huntil⟩
    split
    next => exact ⟨h, fun _ _ _ => rfl⟩
    next hopen =>
      have hnone : ∀ t ∈ failures ip, ¬now < t + lockoutDuration :=
        fun t ht hin => hopen (hlocked t ht hin)
      split
      next =>
        refine ⟨⟨h.one, h.lockout, (Function.forall_update_iff _ _).mpr ⟨?_, fun jp _ => h.keeps jp⟩⟩,
          fun t ht hin => absurd hin (hnone t ht)⟩
        refine ⟨fun r hr => ?_, (h.keeps ip).past, fun t ht hin => absurd hin (hnone t ht)⟩
        rw [← Option.some.inj hr]
      next => exact ⟨h, fun t ht hin => absurd hin (hnone t ht)⟩

theorem Holds.reset (h : Holds lockoutDuration failures now b) (ip : String) :
    Holds lockoutDuration (Function.update failures ip []) now (b.reset ip) := by
  refine ⟨h.one, h.lockout, (Function.forall_update_iff _ _).mpr ⟨?_, fun jp hjp => ?_⟩⟩
  · rw [Function.update_self]
    refine ⟨fun r hr => ?_, fun t ht => ?_, fun t ht => ?_⟩
    · cases hr
    · cases ht
    · cases ht
  · rw [Function.update_of_ne hjp]
    exact h.keeps jp

end

/-- The middleware is on, and its protection holds. -/
def Protected (lockoutDuration : Int) (s : Server) : Prop :=
  s.auth.enabled = true ∧ ∃ b, s.auth.bruteForce = some b ∧ Holds lockoutDuration s.failures s.now b

theorem accept_eq {m : AuthMiddleware} {b : BruteForceProtection} (hon : m.enabled = true)
    (hb : m.bruteForce = some b) {r : HttpRequest} (hpath : shouldBypassAuth r.path = false)
    (now : Time) :
    m.accept r now = ({ m with bruteForce := some (b.isLocked (getClientIP r) now).1 },
      if (b.isLocked (getClientIP r) now).2.1 = true then
        .rejected r (errAccountLocked (b.isLocked (getClientIP r) now).2.2)
      else bearer r) := by
  simp only [AuthMiddleware.accept, hpath, hon, hb, Bool.false_eq_true, Bool.true_eq_false, if_false]
  split
  next b' remaining heq => simp [heq]
  next b' remaining heq => simp [heq]

theorem Protected.accept {lockoutDuration : Int} {s : Server} (h : Protected lockoutDuration s)
    (n : Nat) (r : HttpRequest) :
    Protected lockoutDuration
      ({ s with auth := (s.auth.accept r s.now).1 }.setRequest n (s.auth.accept r s.now).2) := by
  obtain ⟨hon, b, hb, hholds⟩ := h
  cases hpath : shouldBypassAuth r.path with
  | true =>
    have hsame : s.auth.accept r s.now = (s.auth, .passed r) := by
      simp [AuthMiddleware.accept, hpath]
    rw [hsame]
    exact ⟨hon, b, hb, hholds⟩
  | false =>
    rw [accept_eq hon hb hpath]
    exact ⟨hon, _, rfl, (hholds.isLocked (getClientIP r)).1⟩

theorem Protected.step {lockoutDuration : Int} {s s' : Server} {a : Server.Action}
    (h : Protected lockoutDuration s) (hs : s.step a = some s') : Protected lockoutDuration s' := by
  have hkeep := h
  obtain ⟨hon, b, hb, hholds⟩ := h
  cases a with
  | tick elapsed => cases Option.some.inj hs; exact ⟨hon, b, hb, hholds.later elapsed⟩
  | accept n r =>
    simp only [Server.step] at hs
    split at hs
    next => cases Option.some.inj hs; exact hkeep.accept n r
    next => cases hs
  | verifyToken n claims =>
    simp only [Server.step] at hs
    split at hs
    next r tokenString hn =>
      split at hs
      next =>
        cases Option.some.inj hs
        exact ⟨hon, b.recordFailedAttempt (getClientIP r) s.now, by simp [Server.setRequest, Server.fail, hb],
          hholds.recordFailedAttempt (getClientIP r)⟩
      next => cases Option.some.inj hs; exact hkeep
    next => cases hs
  | checkTokenStatus n status =>
    simp only [Server.step] at hs
    split at hs
    next =>
      split at hs
      next => cases Option.some.inj hs; exact hkeep
      next =>
        split at hs
        next => cases Option.some.inj hs; exact hkeep
        next => cases Option.some.inj hs; exact hkeep
    next => cases hs
  | reset ip =>
    cases Option.some.inj hs
    exact ⟨hon, b.reset ip, by simp [hb], hholds.reset ip⟩
  | cleanExpired =>
    cases Option.some.inj hs
    exact ⟨hon, b.cleanExpired s.now, by simp [hb], hholds.cleanup⟩

theorem Protected.start (lockoutDuration : Int) (now : Time) :
    Protected lockoutDuration (Server.start 1 lockoutDuration now) := by
  refine ⟨rfl, _, rfl, rfl, rfl, fun _ => ⟨fun _ hr => ?_, fun _ ht => ?_, fun _ ht => ?_⟩⟩
  · cases hr
  · cases ht
  · cases ht

theorem Protected.guards {lockoutDuration : Int} {s : Server} (h : Protected lockoutDuration s) :
    Guards 1 lockoutDuration s := by
  obtain ⟨hon, b, hb, hholds⟩ := h
  intro n r s' hpath hdue hs
  obtain ⟨newer, last, rest, older, hfail, _, _, hlast⟩ := hdue
  have hmem : last ∈ s.failures (getClientIP r) := by
    rw [hfail]
    simp
  have hin : s.now < last + lockoutDuration := Int.lt_add_of_sub_left_lt hlast
  have hlocked := (hholds.isLocked (getClientIP r)).2 last hmem hin
  simp only [Server.step] at hs
  split at hs
  next =>
    cases Option.some.inj hs
    refine ⟨(b.isLocked (getClientIP r) s.now).2.2, ?_⟩
    simp [Server.setRequest, accept_eq hon hb hpath, hlocked]
  next => cases hs

/-- An address with at most `k` failures on record that has never been locked. -/
def Counting (b : BruteForceProtection) (ip : String) (k : Int) : Prop :=
  ∀ record, b.attempts ip = some record → record.count ≤ k ∧ record.lockedUntil = zeroTime

/-- The question whether the address is locked forgets the failures counted so far. -/
theorem isLocked_forgets {b : BruteForceProtection} {ip : String} {now : Time}
    (hmax : 2 ≤ b.maxAttempts) (hnow : zeroTime < now) (h : Counting b ip 1) :
    (b.isLocked ip now).2.1 = false ∧ (b.isLocked ip now).1.maxAttempts = b.maxAttempts ∧
      Counting (b.isLocked ip now).1 ip 0 := by
  unfold BruteForceProtection.isLocked
  split
  next hnone =>
    refine ⟨rfl, rfl, fun record hr => ?_⟩
    rw [hnone] at hr
    cases hr
  next record hr =>
    obtain ⟨hcount, huntil⟩ := h record hr
    have hopen : ¬(b.maxAttempts ≤ record.count ∧ now < record.lockedUntil) := by
      intro hlocked
      have hfew := hlocked.1
      omega
    -- a lock that was never set is the zero time, which is long over
    have hover : record.lockedUntil < now := by
      rw [huntil]
      exact hnow
    rw [if_neg hopen, if_pos hover]
    refine ⟨rfl, rfl, fun found hf => ?_⟩
    simp only [BruteForceProtection.store, Function.update_self, Option.some.injEq] at hf
    rw [← hf]
    exact ⟨Int.le_refl 0, rfl⟩

theorem Counting.trigger {b : BruteForceProtection} {ip : String} {k : Int} (h : Counting b ip k)
    (now : Time) : Counting (b.triggerCleanup now) ip k :=
  BruteForceProtection.triggerCleanup_of (P := fun b => Counting b ip k) (fun _ => h)
    (fun _ hb record hr => hb record (BruteForceProtection.of_cleanup hr))

theorem Counting.recordFailedAttempt {b : BruteForceProtection} {ip : String} {now : Time}
    (hmax : 2 ≤ b.maxAttempts) (h : Counting b ip 0) :
    Counting (b.recordFailedAttempt ip now) ip 1 := by
  have hrecord : ((b.attempts ip).getD ⟨0, zeroTime, zeroTime⟩).count ≤ 0 ∧
      ((b.attempts ip).getD ⟨0, zeroTime, zeroTime⟩).lockedUntil = zeroTime := by
    cases hr : b.attempts ip with
    | none => exact ⟨Int.le_refl 0, rfl⟩
    | some record => exact h record hr
  obtain ⟨hcount, huntil⟩ := hrecord
  unfold BruteForceProtection.recordFailedAttempt
  apply Counting.trigger
  intro record hr
  simp only [BruteForceProtection.store, Function.update_self, Option.some.injEq] at hr
  rw [← hr]
  refine ⟨Int.add_le_add_right hcount 1, ?_⟩
  have hfew : ¬b.maxAttempts ≤ ((b.attempts ip).getD ⟨0, zeroTime, zeroTime⟩).count + 1 := by
    omega
  simp only [BruteForceProtection.failed, if_neg hfew]
  exact huntil

theorem recordFailedAttempt_maxAttempts (b : BruteForceProtection) (ip : String) (now : Time) :
    (b.recordFailedAttempt ip now).maxAttempts = b.maxAttempts :=
  BruteForceProtection.triggerCleanup_of (P := fun c => c.maxAttempts = b.maxAttempts)
    (fun _ => rfl) (fun _ hb => hb)

/-- A request whose token does not verify. -/
def forged : HttpRequest := ⟨"/api/v1/supply/accounts", "203.0.113.7:4000", some "forged", none⟩

/-- After `k` such requests, one after the other, at one instant. -/
structure Forging (maxAttempts : Int) (now : Time) (k : Nat) (s : Server) : Prop where
  on : s.auth.enabled = true
  counting : ∃ b, s.auth.bruteForce = some b ∧ b.maxAttempts = maxAttempts ∧
    Counting b (getClientIP forged) 1
  failures : s.failures (getClientIP forged) = List.replicate k now
  clock : s.now = now
  free : (s.request 0).free = true

/-- The next such request is let through to the verification. -/
theorem Forging.accept {maxAttempts : Int} {now : Time} {k : Nat} {s : Server}
    (h : Forging maxAttempts now k s) (hmax : 2 ≤ maxAttempts) (hnow : zeroTime < now) :
    ∃ s', s.step (.accept 0 forged) = some s' ∧ s'.request 0 = .verifyToken forged "forged" ∧
      s'.auth.enabled = true ∧
      (∃ b, s'.auth.bruteForce = some b ∧ b.maxAttempts = maxAttempts ∧
        Counting b (getClientIP forged) 0) ∧
      s'.failures = s.failures ∧ s'.now = now := by
  obtain ⟨b, hb, hbmax, hcounting⟩ := h.counting
  obtain ⟨hopen, hsame, hforgot⟩ :=
    isLocked_forgets (hbmax ▸ hmax) (h.clock ▸ hnow : zeroTime < s.now) hcounting
  have hbearer : bearer forged = .verifyToken forged "forged" := by decide
  have haccept := accept_eq h.on hb (by decide : shouldBypassAuth forged.path = false) s.now
  rw [hopen, hbearer] at haccept
  have hstep : s.step (.accept 0 forged) =
      some ({ s with auth := (s.auth.accept forged s.now).1 }.setRequest 0
        (s.auth.accept forged s.now).2) := by
    simp only [Server.step, h.free, if_true]
  refine ⟨_, hstep, ?_, ?_, ?_, rfl, h.clock⟩
  · simp [Server.setRequest, haccept]
  · simp [Server.setRequest, haccept, h.on]
  · exact ⟨_, by simp [Server.setRequest, haccept], hsame.trans hbmax, hforgot⟩

theorem Forging.next {maxAttempts : Int} {now : Time} {k : Nat} {s : Server}
    (h : Forging maxAttempts now k s) (hmax : 2 ≤ maxAttempts) (hnow : zeroTime < now) :
    ∃ s', Transition.Reach Server.step Transition.anyStep s s' ∧ Forging maxAttempts now (k + 1) s' := by
  obtain ⟨s₁, hs₁, hreq, hon, ⟨b, hb, hbmax, hcounting⟩, hfail, hclock⟩ := h.accept hmax hnow
  have hs₂ : s₁.step (.verifyToken 0 none) =
      some ((s₁.fail (getClientIP forged)).setRequest 0 (.rejected forged errInvalidToken)) := by
    simp only [Server.step, hreq]
  have hreach : Transition.Reach Server.step Transition.anyStep s s := Transition.Reach.refl s
  refine ⟨_, (hreach.next trivial hs₁).next trivial hs₂, hon, ?_, ?_, hclock, ?_⟩
  · exact ⟨b.recordFailedAttempt (getClientIP forged) s₁.now, by simp [Server.setRequest, Server.fail, hb],
      (recordFailedAttempt_maxAttempts b _ _).trans hbmax,
      Counting.recordFailedAttempt (hbmax ▸ hmax) hcounting⟩
  · simp [Server.setRequest, Server.fail, hfail, hclock, h.failures, List.replicate_succ]
  · simp [Server.setRequest, InFlight.free]

theorem forging_reached {maxAttempts : Int} (lockoutDuration : Int) {now : Time}
    (hmax : 2 ≤ maxAttempts) (hnow : zeroTime < now) (k : Nat) :
    ∃ s, Transition.Reach Server.step Transition.anyStep (Server.start maxAttempts lockoutDuration now) s ∧
      Forging maxAttempts now k s := by
  induction k with
  | zero =>
    refine ⟨_, Transition.Reach.refl _, rfl, ⟨_, rfl, rfl, fun _ hr => ?_⟩, rfl, rfl, rfl⟩
    cases hr
  | succ k ih =>
    obtain ⟨s, hreach, hs⟩ := ih
    obtain ⟨s', hround, hs'⟩ := hs.next hmax hnow
    exact ⟨s', hreach.trans hround, hs'⟩

theorem due_of_replicate {maxAttempts lockoutDuration : Int} {now : Time} {k : Nat}
    (hk : (k : Int) + 1 = maxAttempts) (hlock : 0 < lockoutDuration) :
    Due maxAttempts lockoutDuration (List.replicate (k + 1) now) now := by
  refine ⟨[], now, List.replicate k now, [], by simp [List.replicate_succ], by simpa using hk,
    fun t ht => ?_, by simpa using hlock⟩
  rw [List.eq_of_mem_replicate ht, Int.sub_self]
  exact Int.le_of_lt hlock

/-- Where more than one failure is allowed, requests that come one after the other are never locked
out. -/
theorem not_guards {maxAttempts lockoutDuration : Int} {now : Time} (hmax : 2 ≤ maxAttempts)
    (hlock : 0 < lockoutDuration) (hnow : zeroTime < now) :
    ∃ s, Transition.Reach Server.step Transition.anyStep (Server.start maxAttempts lockoutDuration now) s ∧
      ¬Guards maxAttempts lockoutDuration s := by
  obtain ⟨k, hk⟩ : ∃ k : Nat, (k : Int) + 1 = maxAttempts := ⟨(maxAttempts - 1).toNat, by omega⟩
  obtain ⟨s, hreach, hs⟩ := forging_reached lockoutDuration hmax hnow (k + 1)
  refine ⟨s, hreach, fun hguards => ?_⟩
  obtain ⟨s', hstep, hverify, _⟩ := hs.accept hmax hnow
  have hdue : Due maxAttempts lockoutDuration (s.failures (getClientIP forged)) s.now := by
    rw [hs.failures, hs.clock]
    exact due_of_replicate hk hlock
  obtain ⟨remaining, hlocked⟩ := hguards 0 forged s' (by decide) hdue hstep
  rw [hverify] at hlocked
  cases hlocked

/-- The lockout is enforced in every run exactly when a single failure is enough for it: `IsLocked` takes
a record that has not been locked yet for one whose lock is over. -/
theorem lockout_enforced_iff {maxAttempts lockoutDuration : Int} {now : Time}
    (hmax : 1 ≤ maxAttempts) (hlock : 0 < lockoutDuration) (hnow : zeroTime < now) :
    (∀ s, Transition.Reach Server.step Transition.anyStep (Server.start maxAttempts lockoutDuration now) s →
      Guards maxAttempts lockoutDuration s) ↔ maxAttempts = 1 := by
  constructor
  · intro hall
    by_contra hne
    have htwo : 2 ≤ maxAttempts := by omega
    obtain ⟨s, hreach, hnot⟩ := not_guards htwo hlock hnow
    exact hnot (hall s hreach)
  -- with one attempt a record is locked as soon as it is made, so there is nothing to forget
  · rintro rfl s hreach
    have hprotected : Protected lockoutDuration s := hreach.invariant (Protected.start lockoutDuration now)
      (fun _ _ _ h _ hs => Protected.step h hs)
    exact hprotected.guards

/-- A single allowed failure, a lockout of one minute, at the start of 2026. -/
theorem lockout_enforced_iff_sample :
    (∀ s, Transition.Reach Server.step Transition.anyStep
      (Server.start 1 (60 * second) (1767225600 * second)) s → Guards 1 (60 * second) s) ↔ (1 : Int) = 1 :=
  lockout_enforced_iff (by decide) (by decide) (by decide)

/-- Two failures allowed, a lockout of one minute: two requests fail a second apart, and the third, a
second later, is verified all the same. -/
theorem third_attempt_counterexample :
    ∃ s, Transition.Reach Server.step Transition.anyStep
        (Server.start 2 (60 * second) (1767225600 * second)) s ∧
      s.failures (getClientIP forged) = [1767225601 * second, 1767225600 * second] ∧
      s.now = 1767225602 * second ∧
      (s.step (.accept 0 forged)).map (fun s => s.request 0) = some (.verifyToken forged "forged") ∧
      ¬Guards 2 (60 * second) s := by
  have hrun : (Transition.exec Server.step (Server.start 2 (60 * second) (1767225600 * second))
      [.accept 0 forged, .verifyToken 0 none, .tick 1000000000, .accept 0 forged, .verifyToken 0 none,
        .tick 1000000000]).map (fun s => (s.failures (getClientIP forged), s.now,
          (s.step (.accept 0 forged)).map (fun s => s.request 0))) =
      some ([1767225601 * second, 1767225600 * second], 1767225602 * second,
        some (.verifyToken forged "forged")) := by
    decide
  obtain ⟨s, hs, hend⟩ := Option.map_eq_some_iff.mp hrun
  obtain ⟨hfail, hend⟩ := Prod.mk.inj hend
  obtain ⟨hclock, hverify⟩ := Prod.mk.inj hend
  refine ⟨s, Transition.reach_of_exec hs, hfail, hclock, hverify, fun hguards => ?_⟩
  obtain ⟨s', hstep, hrequest⟩ := Option.map_eq_some_iff.mp hverify
  have hdue : Due 2 (60 * second) (s.failures (getClientIP forged)) s.now := by
    rw [hfail, hclock]
    refine ⟨[], 1767225601 * second, [1767225600 * second], [], rfl, rfl, fun t ht => ?_, by decide⟩
    rw [List.mem_singleton.mp ht]
    decide
  obtain ⟨remaining, hlocked⟩ := hguards 0 forged s' (by decide) hdue hstep
  rw [hrequest] at hlocked
  cases hlocked

end SupplyPlatform.Auth
