import SupplyPlatform.Database
import SupplyPlatform.Lib.Expiring
import SupplyPlatform.Lib.Runs

namespace SupplyPlatform.Cache

open Expiring Transition

def millisecond : Int := 1000000

/-- The lifetime of a key that SET NX is given `ttl` for: `none` where Redis refuses the command,
`some none` where the key stays until it is deleted. It is what the Redis client makes of a duration. -/
structure LockDriver where
  lifetime : Int → Option (Option Int)
  zero : lifetime 0 = some none
  whole : ∀ ttl, 0 < ttl → ttl % millisecond = 0 → lifetime ttl = some (some ttl)

/-- The client sends milliseconds, without the rest and at least one, and Redis refuses an expiry that
is not positive. -/
def goRedis : LockDriver where
  lifetime ttl :=
    if ttl = 0 ∨ ttl = -1 then some none
    else if ttl < 0 then none
    else if ttl < millisecond then some (some millisecond)
    else some (some (ttl / millisecond * millisecond))
  zero := by simp
  whole ttl hpos hw := by
    have hle : ¬ ttl < millisecond := by
      intro hlt
      rw [Int.emod_eq_of_lt (by omega) hlt] at hw
      omega
    rw [if_neg (by omega), if_neg (by omega), if_neg hle,
      Int.ediv_mul_cancel (Int.dvd_of_emod_eq_zero hw)]

variable {Client : Type}

/-- Redis with the clients of its locks; `holds` has the time until which a client has a lock, which
is for ever (`some none`) when it was taken without a ttl. -/
structure Locks (Client : Type) where
  redis : String → Option (Entry String)
  holds : String → Client → Option (Option Int)
  now : Time

inductive Locks.Action (Client : Type)
  | tick (elapsed : Nat)
  | acquireLock (c : Client) (lockKey : String) (ttl : Int) (fault : Fault)
  | releaseLock (c : Client) (lockKey : String) (fault : Fault)

namespace Locks

def start (now : Time) : Locks Client := ⟨fun _ => none, fun _ _ => none, now⟩

def redisKey (lockKey : String) : String := "lock:" ++ lockKey

/-- Until when a lock is held that is taken at `now`. -/
def heldUntil (now : Time) (ttl : Int) : Option Int := deadline now (if ttl = 0 then none else some ttl)

section

variable [DecidableEq Client]

def setHold (s : Locks Client) (lockKey : String) (c : Client) (hold : Option (Option Int)) :
    Locks Client :=
  { s with holds := Function.update s.holds lockKey (Function.update (s.holds lockKey) c hold) }

/-- `AcquireLock`; the answer is not there where the call comes back with an error. -/
def acquireLock (driver : LockDriver) (s : Locks Client) (c : Client) (lockKey : String) (ttl : Int)
    (fault : Fault) : Locks Client × Option Bool :=
  if fault = .unapplied then (s, none)
  else
    match driver.lifetime ttl with
    | none => (s, none)
    | some lifetime =>
      let (redis, ok) := setNX s.redis s.now (redisKey lockKey) "1" lifetime
      if fault = .applied then ({ s with redis := redis }, none)
      else if ok then
        (setHold { s with redis := redis } lockKey c (some (heldUntil s.now ttl)), some true)
      else ({ s with redis := redis }, some false)

/-- `ReleaseLock`: DEL, whoever has set the key. The caller has no lock after it, also when it fails. -/
def releaseLock (s : Locks Client) (c : Client) (lockKey : String) (fault : Fault) : Locks Client :=
  setHold (if fault = .unapplied then s else { s with redis := del s.redis (redisKey lockKey) })
    lockKey c none

def step (driver : LockDriver) (s : Locks Client) : Action Client → Option (Locks Client)
  | .tick elapsed => some { s with now := s.now + elapsed }
  | .acquireLock c lockKey ttl fault => some (s.acquireLock driver c lockKey ttl fault).1
  | .releaseLock c lockKey fault => some (s.releaseLock c lockKey fault)

end

/-- `c` has taken the lock, has not released it and its ttl has not elapsed. -/
def Holds (s : Locks Client) (lockKey : String) (c : Client) : Prop :=
  ∃ u, s.holds lockKey c = some u ∧ ahead s.now u = true

def Exclusive (s : Locks Client) : Prop :=
  ∀ lockKey c d, s.Holds lockKey c → s.Holds lockKey d → c = d

/-- A lock is released while no other client has it, and Redis keeps a key for the whole ttl. -/
def Careful (driver : LockDriver) (s : Locks Client) : Action Client → Prop
  | .tick _ => True
  | .acquireLock _ _ ttl _ => ∀ l, driver.lifetime ttl = some (some l) → ttl ≤ l
  | .releaseLock c lockKey _ => ∀ d, s.Holds lockKey d → d = c

/-- One client at most has a lock, and Redis keeps its key for as long. -/
structure Inv (s : Locks Client) : Prop where
  exclusive : s.Exclusive
  kept : ∀ lockKey c u, s.holds lockKey c = some u → ahead s.now u = true →
    ∃ e, get s.redis s.now (redisKey lockKey) = some e ∧ NotBefore e.deadline u

theorem redisKey_inj {k k' : String} (h : redisKey k = redisKey k') : k = k' := by
  have := congrArg String.toList h
  simp only [redisKey, String.toList_append, List.append_cancel_left_eq] at this
  exact String.toList_inj.mp this

variable {s : Locks Client}

theorem inv_start (now : Time) : Inv (start now : Locks Client) where
  exclusive := by rintro _ _ _ ⟨u, hu, _⟩; cases hu
  kept := by rintro _ _ _ hu; cases hu

theorem Inv.not_holds (h : Inv s) {k : String} (hget : get s.redis s.now (redisKey k) = none)
    (d : Client) : ¬ s.Holds k d := by
  rintro ⟨u, hu, hahead⟩
  obtain ⟨e, he, _⟩ := h.kept k d u hu hahead
  rw [hget] at he
  cases he

theorem Inv.tick (h : Inv s) (elapsed : Nat) : Inv { s with now := s.now + elapsed } := by
  have before : s.now ≤ s.now + (elapsed : Int) := Int.le_add_of_nonneg_right (Int.natCast_nonneg _)
  refine ⟨?_, ?_⟩
  · rintro k c d ⟨u, hu, hahead⟩ ⟨v, hv, hahead'⟩
    exact h.exclusive k c d ⟨u, hu, ahead_mono before hahead⟩ ⟨v, hv, ahead_mono before hahead'⟩
  · intro k c u hu hahead
    obtain ⟨e, he, hlong⟩ := h.kept k c u hu (ahead_mono before hahead)
    exact ⟨e, get_eq_some.mpr ⟨(get_eq_some.mp he).1, hlong _ hahead⟩, hlong⟩

/-- A key nobody has the lock of may be set or deleted. -/
theorem Inv.redis_update (h : Inv s) {k : String} (free : ∀ d, ¬ s.Holds k d)
    (entry : Option (Entry String)) :
    Inv { s with redis := Function.update s.redis (redisKey k) entry } := by
  refine ⟨h.exclusive, ?_⟩
  intro k' c u hu hahead
  obtain ⟨e, he, hlong⟩ := h.kept k' c u hu hahead
  have hne : redisKey k' ≠ redisKey k := fun heq =>
    free c (redisKey_inj heq ▸ ⟨u, hu, hahead⟩)
  refine ⟨e, ?_, hlong⟩
  rw [← he]
  simp only [Expiring.get, Function.update_of_ne hne]

variable [DecidableEq Client]

theorem setHold_self (s : Locks Client) (k : String) (c : Client) (hold : Option (Option Int)) :
    (s.setHold k c hold).holds k c = hold := by
  simp [setHold]

theorem setHold_of_ne {s : Locks Client} {k k' : String} {c d : Client} {hold : Option (Option Int)}
    (h : ¬ (k' = k ∧ d = c)) : (s.setHold k c hold).holds k' d = s.holds k' d := by
  unfold setHold
  by_cases hk : k' = k
  · subst hk
    have hd : d ≠ c := fun hd => h ⟨rfl, hd⟩
    simp only [Function.update_self]
    exact Function.update_of_ne hd _ _
  · simp only [Function.update_of_ne hk]

theorem Inv.release_hold (h : Inv s) (k : String) (c : Client) : Inv (s.setHold k c none) := by
  have old : ∀ k' d u, (s.setHold k c none).holds k' d = some u → s.holds k' d = some u := by
    intro k' d u hu
    by_cases hsame : k' = k ∧ d = c
    · rw [hsame.1, hsame.2, setHold_self] at hu
      cases hu
    · rwa [setHold_of_ne hsame] at hu
  refine ⟨?_, fun k' d u hu => h.kept k' d u (old k' d u hu)⟩
  rintro k' d e ⟨u, hu, hahead⟩ ⟨v, hv, hahead'⟩
  exact h.exclusive k' d e ⟨u, old _ _ _ hu, hahead⟩ ⟨v, old _ _ _ hv, hahead'⟩

theorem Inv.take_hold (h : Inv s) {k : String} {c : Client} {u : Option Int}
    (free : ∀ d, ¬ s.Holds k d) (hkept : ahead s.now u = true →
      ∃ e, get s.redis s.now (redisKey k) = some e ∧ NotBefore e.deadline u) :
    Inv (s.setHold k c (some u)) := by
  have only : ∀ k' d, (s.setHold k c (some u)).Holds k' d → k' = k ∧ d = c ∨ k' ≠ k ∧ s.Holds k' d := by
    rintro k' d ⟨v, hv, hahead⟩
    by_cases hsame : k' = k ∧ d = c
    · exact .inl hsame
    · rw [setHold_of_ne hsame] at hv
      refine .inr ⟨?_, v, hv, hahead⟩
      rintro rfl
      exact free d ⟨v, hv, hahead⟩
  refine ⟨?_, ?_⟩
  · intro k' d e hd he
    rcases only k' d hd, only k' e he with ⟨⟨rfl, rfl⟩ | ⟨hk, hd'⟩, ⟨hk', rfl⟩ | ⟨hk', he'⟩⟩
    · rfl
    · exact absurd rfl hk'
    · exact absurd hk' hk
    · exact h.exclusive k' d e hd' he'
  · intro k' d v hv hahead
    rcases only k' d ⟨v, hv, hahead⟩ with ⟨rfl, rfl⟩ | ⟨hk, _⟩
    · rw [setHold_self] at hv
      cases Option.some.inj hv
      exact hkept hahead
    · rw [setHold_of_ne (fun hsame => hk hsame.1)] at hv
      exact h.kept k' d v hv hahead

theorem notBefore_heldUntil {driver : LockDriver} {ttl : Int} {lifetime : Option Int}
    (hl : driver.lifetime ttl = some lifetime) (long : ∀ l, driver.lifetime ttl = some (some l) → ttl ≤ l)
    (now : Time) : NotBefore (deadline now lifetime) (heldUntil now ttl) := by
  cases lifetime with
  | none => exact notBefore_none _
  | some l =>
    have hne : ttl ≠ 0 := by
      rintro rfl
      rw [driver.zero] at hl
      cases hl
    rw [heldUntil, if_neg hne]
    exact notBefore_deadline (long l hl)

theorem Inv.releaseLock (h : Inv s) {c : Client} {k : String} (others : ∀ d, s.Holds k d → d = c)
    (fault : Fault) : Inv (s.releaseLock c k fault) := by
  have dropped := h.release_hold k c
  have free : ∀ d, ¬ (s.setHold k c none).Holds k d := by
    rintro d ⟨u, hu, hahead⟩
    by_cases hd : d = c
    · rw [hd, setHold_self] at hu
      cases hu
    · rw [setHold_of_ne (fun hsame => hd hsame.2)] at hu
      exact hd (others d ⟨u, hu, hahead⟩)
  unfold Locks.releaseLock
  split
  · exact dropped
  · exact dropped.redis_update free none

theorem Inv.acquireLock {driver : LockDriver} (h : Inv s) {c : Client} {k : String} {ttl : Int}
    (long : ∀ l, driver.lifetime ttl = some (some l) → ttl ≤ l) (fault : Fault) :
    Inv (s.acquireLock driver c k ttl fault).1 := by
  unfold Locks.acquireLock
  split
  · exact h
  split
  · exact h
  next lifetime hl =>
    cases hget : Expiring.get s.redis s.now (redisKey k) with
    | some e =>
      simp only [setNX, hget]
      split <;> exact h
    | none =>
      have free := h.not_holds hget
      have set := h.redis_update free (some ⟨"1", deadline s.now lifetime⟩)
      simp only [setNX, hget]
      split
      · exact set
      · have outlasts := notBefore_heldUntil hl long s.now
        apply set.take_hold free
        intro hahead
        exact ⟨⟨"1", deadline s.now lifetime⟩,
          get_eq_some.mpr ⟨Function.update_self _ _ _, outlasts _ hahead⟩, outlasts⟩

theorem Inv.step {driver : LockDriver} {s' : Locks Client} (h : Inv s) {a : Action Client}
    (hok : s.Careful driver a) (hstep : s.step driver a = some s') : Inv s' := by
  cases a with
  | tick elapsed => cases Option.some.inj hstep; exact h.tick elapsed
  | acquireLock c k ttl fault => cases Option.some.inj hstep; exact h.acquireLock hok fault
  | releaseLock c k fault => cases Option.some.inj hstep; exact h.releaseLock hok fault

theorem lock_exclusive (driver : LockDriver) (now : Time) (s : Locks Client)
    (h : Reach (step driver) (Careful driver) (start now) s) : s.Exclusive :=
  (h.invariant (I := Inv) (inv_start now) (fun _ _ _ hi hok hs => hi.step hok hs)).exclusive

/-- Client 0 has the lock, gives it back, and client 1 takes it. -/
def taken : Locks Nat := ((start 0).acquireLock goRedis 0 "k" second .none).1

def handedOver : Locks Nat := ((taken.releaseLock 0 "k" .none).acquireLock goRedis 1 "k" second .none).1

theorem lock_exclusive_handedOver : handedOver.Holds "k" 1 ∧ handedOver.Exclusive := by
  have long : ∀ (s : Locks Nat) (c : Nat), s.Careful goRedis (.acquireLock c "k" second .none) := by
    intro s c l hl
    rw [goRedis.whole second (by decide) (by decide)] at hl
    cases hl
    exact Int.le_refl second
  have first : Reach (step goRedis) (Careful goRedis) (start 0) taken :=
    (Reach.refl _).next (long _ 0) rfl
  have only : taken.Careful goRedis (.releaseLock 0 "k" .none) :=
    fun d hd => lock_exclusive goRedis 0 _ first "k" d 0 hd ⟨_, rfl, rfl⟩
  have last : Reach (step goRedis) (Careful goRedis) (start 0) handedOver :=
    (first.next only rfl).next (long _ 1) rfl
  exact ⟨⟨_, rfl, rfl⟩, lock_exclusive goRedis 0 handedOver last⟩

/-- Client 0 overruns its ttl, and its release deletes the key of client 1. -/
def lateRelease : List (Action Nat) :=
  [.acquireLock 0 "k" second .none, .tick 1000000000, .acquireLock 1 "k" second .none,
    .releaseLock 0 "k" .none, .acquireLock 2 "k" second .none]

def afterLateRelease : Locks Nat := (exec (step goRedis) (start 0) lateRelease).getD (start 0)

theorem exec_lateRelease : exec (step goRedis) (start 0) lateRelease = some afterLateRelease := by
  rfl

theorem late_release_two_holders :
    Reach (step goRedis) anyStep (start 0) afterLateRelease ∧ ¬ afterLateRelease.Exclusive := by
  refine ⟨reach_of_exec exec_lateRelease, fun h => ?_⟩
  have same : (1 : Nat) = 2 := h "k" 1 2 ⟨_, rfl, rfl⟩ ⟨_, rfl, rfl⟩
  cases same

end Locks

end SupplyPlatform.Cache
