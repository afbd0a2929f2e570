import SupplyPlatform.Database
import SupplyPlatform.Lib.Bursts
import SupplyPlatform.Lib.Expiring

namespace SupplyPlatform.Cache

open Bursts Expiring

/-- The lifetime of a key that EXPIRE is given `window` for, as the Redis client makes it of a
duration: EXPIRE takes seconds. -/
structure ExpireDriver where
  lifetime : Int → Int
  whole : ∀ window, 0 < window → window % second = 0 → lifetime window = window

/-- The client sends the seconds without the rest, and at least one. -/
def formatSec (window : Int) : Int :=
  if 0 < window ∧ window < second then second else window.tdiv second * second

theorem formatSec_whole (window : Int) (hpos : 0 < window) (hw : window % second = 0) :
    formatSec window = window := by
  have hle : ¬ (0 < window ∧ window < second) := by
    rintro ⟨_, hlt⟩
    rw [Int.emod_eq_of_lt (by omega) hlt] at hw
    omega
  rw [formatSec, if_neg hle, Int.tdiv_mul_cancel (Int.dvd_of_emod_eq_zero hw)]

def goRedisExpire : ExpireDriver := ⟨formatSec, formatSec_whole⟩

structure RateLimitKey where
  tenantID : Int
  route : String
  limitType : String
  deriving DecidableEq

namespace RateLimitKey

def redisKey (key : RateLimitKey) : String :=
  "ratelimit:" ++ toString key.tenantID ++ ":" ++ key.route ++ ":" ++ key.limitType

end RateLimitKey

abbrev Counters := String → Option (Entry Int)

/-- `IncrRateLimit`: INCR and EXPIRE in one pipeline. `fault` is the error the pipeline comes back with
and whether Redis has run it all the same. -/
def incrRateLimit (driver : ExpireDriver) (c : Counters) (now : Time) (key : RateLimitKey)
    (window : Int) (fault : Option (String × Bool)) : Counters × Except String Int :=
  let (counted, count) := incr c now key.redisKey
  let armed := expire counted now key.redisKey (driver.lifetime window)
  match fault with
  | none => (armed, .ok count)
  | some (cause, applied) =>
    (if applied then armed else c, .error ("failed to increment rate limit: " ++ cause))

/-- `CheckRateLimit`: whether the call is allowed, and its count. -/
def checkRateLimit (driver : ExpireDriver) (c : Counters) (now : Time) (key : RateLimitKey)
    (limit window : Int) (fault : Option (String × Bool)) : Counters × Except String (Bool × Int) :=
  match incrRateLimit driver c now key window fault with
  | (c', .ok count) => (c', .ok (decide (count ≤ limit), count))
  | (c', .error err) => (c', .error err)

/-- A call of `CheckRateLimit`, with what becomes of its pipeline. -/
structure RateLimitCall where
  now : Time
  key : RateLimitKey
  limit : Int
  window : Int
  fault : Option (String × Bool)

namespace RateLimitCall

def serve (driver : ExpireDriver) (c : Counters) (call : RateLimitCall) :
    Counters × Except String (Bool × Int) :=
  checkRateLimit driver c call.now call.key call.limit call.window call.fault

variable {driver : ExpireDriver} {c c' : Counters} {call : RateLimitCall}

theorem serve_of_ne {k : String} (h : k ≠ call.key.redisKey) : (call.serve driver c).1 k = c k := by
  have hcounted : expire (incr c call.now call.key.redisKey).1 call.now call.key.redisKey
      (driver.lifetime call.window) k = c k := by
    rw [expire_of_ne _ _ _ h, incr_of_ne _ _ h]
  unfold serve checkRateLimit incrRateLimit
  rcases call.fault with _ | ⟨cause, applied⟩
  · exact hcounted
  · cases applied with
    | false => rfl
    | true => exact hcounted

/-- The count and the answer of a call, failed or not, come from what is under its key. -/
theorem serve_congr (h : c call.key.redisKey = c' call.key.redisKey) :
    (call.serve driver c).1 call.key.redisKey = (call.serve driver c').1 call.key.redisKey ∧
      (call.serve driver c).2 = (call.serve driver c').2 := by
  obtain ⟨hstored, hcount⟩ := incr_congr call.now h
  have harmed := expire_congr call.now (driver.lifetime call.window) hstored
  unfold serve checkRateLimit incrRateLimit
  rcases call.fault with _ | ⟨cause, applied⟩
  · exact ⟨harmed, by dsimp only; rw [hcount]⟩
  · cases applied with
    | false => exact ⟨h, rfl⟩
    | true => exact ⟨harmed, rfl⟩

/-- Whatever calls are made and whichever of them fail, a key is left as if only its own had been made. -/
theorem serve_other_keys (driver : ExpireDriver) (k : String) (calls : List RateLimitCall) :
    ∀ c c' : Counters, c k = c' k →
      calls.foldl (fun c call => (call.serve driver c).1) c k =
        (calls.filter (fun call => call.key.redisKey = k)).foldl (fun c call => (call.serve driver c).1) c' k := by
  induction calls with
  | nil => exact fun c c' h => h
  | cons call calls ih =>
    intro c c' h
    by_cases hk : call.key.redisKey = k
    · subst hk
      rw [List.filter_cons_of_pos (by simp)]
      exact ih _ _ (serve_congr h).1
    · rw [List.filter_cons_of_neg (by simpa using hk)]
      exact ih _ _ ((serve_of_ne (Ne.symm hk)).trans h)

end RateLimitCall

/-- Calls on one key at `t 0, t 1, ..`, with one limit and one window. -/
structure Calls where
  driver : ExpireDriver
  key : RateLimitKey
  limit : Nat
  window : Int
  t : Nat → Int

namespace Calls

variable {r : Calls} {i n : Nat}

/-- Redis before the call `i`. -/
def counters (r : Calls) : Nat → Counters
  | 0 => fun _ => none
  | i + 1 => (checkRateLimit r.driver (r.counters i) (r.t i) r.key r.limit r.window none).1

def answer (r : Calls) (i : Nat) : Except String (Bool × Int) :=
  (checkRateLimit r.driver (r.counters i) (r.t i) r.key r.limit r.window none).2

def allowed (r : Calls) (i : Nat) : Bool :=
  match r.answer i with
  | .ok (ok, _) => ok
  | .error _ => false

/-- The call `i` finds no counter. -/
def Fresh (r : Calls) (i : Nat) : Prop := get (r.counters i) (r.t i) r.key.redisKey = none

/-- A call is allowed when fewer than `limit` calls were made in the window before it. -/
def AllowsBelowLimit (r : Calls) (n : Nat) : Prop :=
  ∀ i < n, ((Finset.range i).filter (fun j => r.t i - r.window < r.t j)).card < r.limit →
    r.allowed i = true

/-- At most `limit` calls are allowed in a window that starts with a fresh counter. -/
def BoundsFreshWindow (r : Calls) (n : Nat) : Prop :=
  ∀ f < n, r.Fresh f → ((Finset.Ico f n).filter
    (fun j => r.t j < r.t f + r.window ∧ r.allowed j = true)).card ≤ r.limit

def lifetime (r : Calls) : Int := r.driver.lifetime r.window

theorem answer_eq (r : Calls) (i : Nat) :
    r.answer i = .ok (decide ((incr (r.counters i) (r.t i) r.key.redisKey).2 ≤ r.limit),
      (incr (r.counters i) (r.t i) r.key.redisKey).2) := rfl

theorem counters_succ (r : Calls) (i : Nat) :
    r.counters (i + 1) r.key.redisKey =
      some ⟨(incr (r.counters i) (r.t i) r.key.redisKey).2, some (r.t i + r.lifetime)⟩ :=
  expire_incr (r.counters i) (r.t i) r.key.redisKey r.lifetime

theorem get_counters_succ (r : Calls) (i : Nat) :
    get (r.counters (i + 1)) (r.t (i + 1)) r.key.redisKey =
      if r.t (i + 1) - r.t i < r.lifetime then
        some ⟨(incr (r.counters i) (r.t i) r.key.redisKey).2, some (r.t i + r.lifetime)⟩
      else none := by
  have gap : ∀ now t l : Int, decide (now < t + l) = decide (now - t < l) := by
    intro now t l
    apply decide_eq_decide.mpr
    omega
  unfold Expiring.get
  rw [r.counters_succ i, Option.filter_some, ahead, gap]
  split <;> simp_all

/-- The count of a call is the number of calls since the last one that the key has outlived. -/
theorem incr_counters (r : Calls) (i : Nat) :
    (incr (r.counters i) (r.t i) r.key.redisKey).2 = burst r.t r.lifetime i := by
  induction i with
  | zero => rfl
  | succ i ih =>
    rw [incr_snd, r.get_counters_succ i, ih, burst_succ]
    split
    · rfl
    · rfl

theorem allowed_iff : r.allowed i = true ↔ ¬ Dense r.t r.lifetime r.limit i := by
  unfold allowed
  rw [r.answer_eq i, r.incr_counters i, ← lt_burst_iff]
  simp

theorem fresh_iff : r.Fresh i ↔ First r.t r.lifetime i := by
  cases i with
  | zero => exact iff_of_true rfl (fun j hj => by omega)
  | succ i =>
    unfold Fresh First
    rw [r.get_counters_succ i]
    constructor
    · intro h j hj
      have hij : j = i := by omega
      subst hij
      split at h
      next => cases h
      next hgap => exact Int.not_lt.mp hgap
    · intro h
      exact if_neg (Int.not_lt.mpr (h i rfl))

/-- No `limit` + 1 calls in a row, each of them before the key has outlived the one before it, are
spread over a window or more. -/
def NeverStretched (r : Calls) (n : Nat) : Prop :=
  ∀ i < n, Dense r.t r.lifetime r.limit i → r.t i - r.t (i - r.limit) < r.window

/-- From a call that begins a burst on, at most `limit` calls within a window have a pause in the
`limit` calls before them. -/
def FewBursts (r : Calls) (n : Nat) : Prop :=
  ∀ f < n, First r.t r.lifetime f → ∀ calls : Finset Nat,
    (∀ j ∈ calls, f ≤ j ∧ j < n ∧ r.t j < r.t f + r.window ∧ ¬ Dense r.t r.lifetime r.limit j) →
      calls.card ≤ r.limit

theorem allowsBelowLimit_iff (ht : Monotone r.t) (hl : 1 ≤ r.limit) :
    r.AllowsBelowLimit n ↔ r.NeverStretched n := by
  unfold AllowsBelowLimit NeverStretched
  refine forall_congr' (fun i => forall_congr' (fun _ => ?_))
  rw [card_window_lt_iff ht hl, allowed_iff]
  constructor
  · intro h hdense
    by_contra hlong
    exact h (fun _ => by omega) hdense
  · intro h hold hdense
    have near := h hdense
    have far := hold hdense.1
    omega

theorem boundsFreshWindow_iff : r.BoundsFreshWindow n ↔ r.FewBursts n := by
  have mem : ∀ f j, j ∈ (Finset.Ico f n).filter
      (fun j => r.t j < r.t f + r.window ∧ r.allowed j = true) ↔
        f ≤ j ∧ j < n ∧ r.t j < r.t f + r.window ∧ ¬ Dense r.t r.lifetime r.limit j := by
    intro f j
    rw [Finset.mem_filter, Finset.mem_Ico, allowed_iff, and_assoc]
  constructor
  · intro h f hf hfirst calls hcalls
    have hsub : calls ⊆ _ := fun j hj => (mem f j).mpr (hcalls j hj)
    exact (Finset.card_le_card hsub).trans (h f hf (fresh_iff.mpr hfirst))
  · intro h f hf hfresh
    exact h f hf (fresh_iff.mp hfresh) _ (fun j hj => (mem f j).mp hj)

/-- A key that lives for the window is there through all of it. -/
theorem boundsFreshWindow_of_le (ht : Monotone r.t) (hlong : r.window ≤ r.lifetime) :
    r.BoundsFreshWindow n := by
  intro f _ hfresh
  have hsub : (Finset.Ico f n).filter (fun j => r.t j < r.t f + r.window ∧ r.allowed j = true) ⊆
      Finset.Ico f (f + r.limit) := by
    intro j hj
    obtain ⟨hj, hnear, hallowed⟩ := Finset.mem_filter.mp hj
    obtain ⟨hfj, _⟩ := Finset.mem_Ico.mp hj
    have count := burst_of_first ht (fresh_iff.mp hfresh) hfj (by omega)
    have within : ¬ r.limit < burst r.t r.lifetime j :=
      fun hlt => allowed_iff.mp hallowed (lt_burst_iff.mp hlt)
    exact Finset.mem_Ico.mpr ⟨hfj, by omega⟩
  have := Finset.card_le_card hsub
  rw [Nat.card_Ico] at this
  omega

end Calls

theorem rateLimit_iff (r : Calls) (n : Nat) (ht : Monotone r.t) (hl : 1 ≤ r.limit) :
    r.AllowsBelowLimit n ∧ r.BoundsFreshWindow n ↔
      r.NeverStretched n ∧ (r.window ≤ r.lifetime ∨ r.FewBursts n) := by
  rw [Calls.allowsBelowLimit_iff ht hl]
  apply and_congr_right
  intro _
  constructor
  · intro h
    exact .inr (Calls.boundsFreshWindow_iff.mp h)
  · rintro (hlong | hfew)
    · exact Calls.boundsFreshWindow_of_le ht hlong
    · exact Calls.boundsFreshWindow_iff.mpr hfew

/-- Calls on a limit by the minute, `gap` seconds apart. -/
def perMinute (limit : Nat) (gap : Nat) : Calls where
  driver := goRedisExpire
  key := ⟨1, "/api/v1/supply/accounts", "rpm"⟩
  limit := limit
  window := 60 * second
  t i := i * gap * second

theorem monotone_perMinute (limit gap : Nat) : Monotone (perMinute limit gap).t := by
  intro i j hij
  have : (i : Int) * gap ≤ j * gap := Int.mul_le_mul_of_nonneg_right (by omega) (by omega)
  exact Int.mul_le_mul_of_nonneg_right this (by decide)

theorem rateLimit_every_minute :
    (perMinute 1 60).AllowsBelowLimit 3 ∧ (perMinute 1 60).BoundsFreshWindow 3 := by
  refine (rateLimit_iff (perMinute 1 60) 3 (monotone_perMinute 1 60) (by decide)).mpr ⟨?_, .inl ?_⟩
  · rintro i _ ⟨hi, hdense⟩
    have gap := hdense (i - 1) (Nat.le_refl _) (Nat.sub_lt hi Nat.one_pos)
    have full : (perMinute 1 60).lifetime = (perMinute 1 60).window := by decide
    rw [Nat.sub_add_cancel (show 1 ≤ i from hi), full] at gap
    exact gap
  · decide

/-- Two calls a minute are allowed, one every 54 seconds is made, and the third is refused. -/
theorem rateLimit_refuses_slow_calls : ¬ (perMinute 2 54).AllowsBelowLimit 3 := by
  intro h
  have := h 2 (by decide) (by decide)
  revert this
  decide

end SupplyPlatform.Cache
