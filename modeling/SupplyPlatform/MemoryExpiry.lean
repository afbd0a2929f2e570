import SupplyPlatform.Database
import SupplyPlatform.Lib.Expiring

namespace SupplyPlatform.MemoryExpiry

open Expiring

structure CacheEntry where
  status : String
  expires : Time
  deriving DecidableEq

structure TokenCache where
  data : String → Option CacheEntry
  cleanup : Int

namespace TokenCache

def new : TokenCache := ⟨fun _ => none, 0⟩

def get (c : TokenCache) (now : Time) (tokenID : String) : String × Bool :=
  match c.data tokenID with
  | some entry => if now < entry.expires then (entry.status, true) else ("", false)
  | none => ("", false)

def cleanupExpiredLocked (c : TokenCache) (now : Time) : TokenCache :=
  { c with data := drop (fun entry => decide (now > entry.expires)) c.data }

def triggerCleanup (c : TokenCache) (now : Time) : TokenCache :=
  let c := { c with cleanup := c.cleanup + 1 }
  if c.cleanup ≥ 100 then { c with cleanup := 0 }.cleanupExpiredLocked now else c

def set (c : TokenCache) (now cleanNow : Time) (tokenID status : String) (ttl : Int) : TokenCache :=
  { c with data := Function.update c.data tokenID (some ⟨status, now + ttl⟩) }.triggerCleanup cleanNow

def invalidate (c : TokenCache) (tokenID : String) : TokenCache :=
  { c with data := Function.update c.data tokenID none }

def cleanExpired (c : TokenCache) (now : Time) : TokenCache := c.cleanupExpiredLocked now

/-- The calls with the clock as they read it; `cleanNow` is read only by a `Set` that cleans. -/
inductive Action
  | set (tokenID status : String) (ttl : Int) (now cleanNow : Time)
  | get (tokenID : String) (now : Time)
  | invalidate (tokenID : String)
  | cleanExpired (now : Time)

def Action.clock : Action → List Time
  | .set _ _ _ now cleanNow => [now, cleanNow]
  | .get _ now => [now]
  | .invalidate _ => []
  | .cleanExpired now => [now]

def step (c : TokenCache) : Action → TokenCache
  | .set tokenID status ttl now cleanNow => c.set now cleanNow tokenID status ttl
  | .get _ _ => c
  | .invalidate tokenID => c.invalidate tokenID
  | .cleanExpired now => c.cleanExpired now

def run (history : List Action) : TokenCache := history.foldl step new

/-- The clock of a sequence of calls, as it is read, does not go back. -/
def Clocked (history : List Action) : Prop := (history.flatMap Action.clock).Pairwise (· ≤ ·)

instance (history : List Action) : Decidable (Clocked history) :=
  inferInstanceAs (Decidable (List.Pairwise _ _))

/-- What a call changes for a map that is never cleaned. -/
def record (m : String → Option CacheEntry) : Action → String → Option CacheEntry
  | .set tokenID status ttl now _ => Function.update m tokenID (some ⟨status, now + ttl⟩)
  | .invalidate tokenID => Function.update m tokenID none
  | .get _ _ => m
  | .cleanExpired _ => m

/-- The most recent entry set for a token, unless it has been invalidated since. -/
def latest (history : List Action) : String → Option CacheEntry := history.foldl record (fun _ => none)

end TokenCache

structure IdempotencyRecord (R : Type) where
  key : String
  status : String
  response : Option R
  createdAt : Time
  expiresAt : Time
  deriving DecidableEq

structure InMemoryIdempotencyStore (R : Type) where
  records : String → Option (IdempotencyRecord R)
  cleanupCounter : Int

namespace InMemoryIdempotencyStore

variable {R : Type}

def new : InMemoryIdempotencyStore R := ⟨fun _ => none, 0⟩

def get (s : InMemoryIdempotencyStore R) (now : Time) (key : String) : Option (IdempotencyRecord R) :=
  match s.records key with
  | some record => if record.expiresAt > now then some record else none
  | none => none

def cleanupExpiredLocked (s : InMemoryIdempotencyStore R) (now : Time) : InMemoryIdempotencyStore R :=
  { s with records := drop (fun record => decide (record.expiresAt < now)) s.records }

def triggerCleanupLocked (s : InMemoryIdempotencyStore R) (now : Time) : InMemoryIdempotencyStore R :=
  let s := { s with cleanupCounter := s.cleanupCounter + 1 }
  if s.cleanupCounter ≥ 100 then { s with cleanupCounter := 0 }.cleanupExpiredLocked now else s

/-- `CreatedAt` and `ExpiresAt` come from two readings of the clock, and the cleaning has a third. -/
structure Readings where
  created : Time
  expires : Time
  clean : Time

def processing (key : String) (ttl : Int) (r : Readings) : IdempotencyRecord R :=
  { key := key, status := "processing", response := none, createdAt := r.created,
    expiresAt := r.expires + ttl }

def succeeded (key : String) (response : Option R) (ttl : Int) (r : Readings) : IdempotencyRecord R :=
  { key := key, status := "succeeded", response := response, createdAt := r.created,
    expiresAt := r.expires + ttl }

def setProcessing (s : InMemoryIdempotencyStore R) (r : Readings) (key : String) (ttl : Int) :
    InMemoryIdempotencyStore R :=
  { s with records := Function.update s.records key (some (processing key ttl r)) }.triggerCleanupLocked r.clean

def setSuccess (s : InMemoryIdempotencyStore R) (r : Readings) (key : String) (response : Option R)
    (ttl : Int) : InMemoryIdempotencyStore R :=
  { s with
    records := Function.update s.records key (some (succeeded key response ttl r)) }.triggerCleanupLocked r.clean

def cleanExpired (s : InMemoryIdempotencyStore R) (now : Time) : InMemoryIdempotencyStore R :=
  s.cleanupExpiredLocked now

inductive Action (R : Type)
  | setProcessing (key : String) (ttl : Int) (r : Readings)
  | setSuccess (key : String) (response : Option R) (ttl : Int) (r : Readings)
  | get (key : String) (now : Time)
  | cleanExpired (now : Time)

def Readings.clock (r : Readings) : List Time := [r.created, r.expires, r.clean]

def Action.clock : Action R → List Time
  | .setProcessing _ _ r => r.clock
  | .setSuccess _ _ _ r => r.clock
  | .get _ now => [now]
  | .cleanExpired now => [now]

def step (s : InMemoryIdempotencyStore R) : Action R → InMemoryIdempotencyStore R
  | .setProcessing key ttl r => s.setProcessing r key ttl
  | .setSuccess key response ttl r => s.setSuccess r key response ttl
  | .get _ _ => s
  | .cleanExpired now => s.cleanExpired now

def run (history : List (Action R)) : InMemoryIdempotencyStore R := history.foldl step new

def Clocked (history : List (Action R)) : Prop := (history.flatMap Action.clock).Pairwise (· ≤ ·)

instance (history : List (Action R)) : Decidable (Clocked history) :=
  inferInstanceAs (Decidable (List.Pairwise _ _))

def record (m : String → Option (IdempotencyRecord R)) : Action R → String → Option (IdempotencyRecord R)
  | .setProcessing key ttl r => Function.update m key (some (processing key ttl r))
  | .setSuccess key response ttl r => Function.update m key (some (succeeded key response ttl r))
  | .get _ _ => m
  | .cleanExpired _ => m

/-- The most recent record set for a key. -/
def latest (history : List (Action R)) : String → Option (IdempotencyRecord R) :=
  history.foldl record (fun _ => none)

end InMemoryIdempotencyStore

theorem pairwise_without {α : Type} {clock : α → List Time} {before after last : List α} {a : α}
    (h : ((before ++ a :: after ++ last).flatMap clock).Pairwise (· ≤ ·)) :
    ((before ++ after ++ last).flatMap clock).Pairwise (· ≤ ·) := by
  simp only [List.flatMap_append, List.flatMap_cons] at h ⊢
  exact h.sublist (((List.sublist_append_right _ _).append_left _).append_right _)

namespace TokenCache

/-- What is answered of an entry that has not expired, and of none. -/
def found (e : Option CacheEntry) : String × Bool := (e.map (fun e => (e.status, true))).getD ("", false)

theorem get_eq (c : TokenCache) (now : Time) (tokenID : String) :
    c.get now tokenID = found (shown CacheEntry.expires c.data now tokenID) := by
  unfold get shown found
  cases c.data tokenID with
  | none => rfl
  | some e => by_cases h : now < e.expires <;> simp [Option.filter_some, h]

theorem triggerCleanup_data (c : TokenCache) (now : Time) :
    (c.triggerCleanup now).data = c.data ∨
      (c.triggerCleanup now).data = drop (fun entry => decide (now > entry.expires)) c.data := by
  unfold triggerCleanup
  by_cases h : c.cleanup + 1 ≥ 100
  · exact .inr (by rw [if_pos h]; rfl)
  · exact .inl (by rw [if_neg h])

variable {now : Time} {c : TokenCache} {m : String → Option CacheEntry}

theorem agree_triggerCleanup (h : Agree CacheEntry.expires now c.data m) :
    Agree CacheEntry.expires now (c.triggerCleanup now).data m := by
  rcases c.triggerCleanup_data now with heq | heq
  · rw [heq]
    exact h
  · rw [heq]
    exact h.drop (fun e he => Int.le_of_lt (of_decide_eq_true he))

theorem agree_step {a : Action} (hown : a.clock.Pairwise (· ≤ ·)) (hnow : ∀ t ∈ a.clock, t ≤ now)
    (h : ∀ t ∈ now :: a.clock, Agree CacheEntry.expires t c.data m) :
    Agree CacheEntry.expires now (c.step a).data (record m a) := by
  cases a with
  | set tokenID status ttl first second =>
    have hset := (h first (by simp [Action.clock])).update tokenID (some ⟨status, first + ttl⟩)
    have hle : first ≤ second := by simpa [Action.clock] using hown
    exact (agree_triggerCleanup (hset.later hle)).later (hnow second (by simp [Action.clock]))
  | get tokenID t => exact h now List.mem_cons_self
  | invalidate tokenID => exact (h now List.mem_cons_self).update tokenID none
  | cleanExpired t =>
    have hagree := h t (by simp [Action.clock])
    have hdropped := hagree.drop (fun e he => Int.le_of_lt (of_decide_eq_true he))
    exact hdropped.later (hnow t (by simp [Action.clock]))

theorem latest_cleanExpired (before after : List Action) (t : Time) :
    latest (before ++ .cleanExpired t :: after) = latest (before ++ after) := by
  simp [latest, record]

/-- Before it is read again, a cache shows what is recorded without any cleaning. -/
theorem get_run {history : List Action} {tokenID : String} (hclock : Clocked (history ++ [.get tokenID now])) :
    (run history).get now tokenID =
      found ((latest history tokenID).filter (fun e => now < e.expires)) := by
  rw [Clocked, List.flatMap_append] at hclock
  obtain ⟨hbefore, -, hcross⟩ := List.pairwise_append.mp hclock
  have hagree := agree_foldl (fun _ _ _ _ => agree_step) (fun t => Agree.refl (new.data)) hbefore
    (fun t ht => hcross t ht now (by simp [Action.clock]))
  rw [get_eq, run, hagree now (Int.le_refl now)]
  rfl

end TokenCache

namespace InMemoryIdempotencyStore

variable {R : Type} {now : Time} {s : InMemoryIdempotencyStore R} {m : String → Option (IdempotencyRecord R)}

theorem get_eq (s : InMemoryIdempotencyStore R) (now : Time) (key : String) :
    s.get now key = shown IdempotencyRecord.expiresAt s.records now key := by
  unfold get shown
  cases s.records key with
  | none => rfl
  | some r => by_cases h : now < r.expiresAt <;> simp [Option.filter_some, h]

theorem triggerCleanupLocked_records (s : InMemoryIdempotencyStore R) (now : Time) :
    (s.triggerCleanupLocked now).records = s.records ∨
      (s.triggerCleanupLocked now).records =
        drop (fun record => decide (record.expiresAt < now)) s.records := by
  unfold triggerCleanupLocked
  by_cases h : s.cleanupCounter + 1 ≥ 100
  · exact .inr (by rw [if_pos h]; rfl)
  · exact .inl (by rw [if_neg h])

theorem agree_triggerCleanupLocked (h : Agree IdempotencyRecord.expiresAt now s.records m) :
    Agree IdempotencyRecord.expiresAt now (s.triggerCleanupLocked now).records m := by
  rcases s.triggerCleanupLocked_records now with heq | heq
  · rw [heq]
    exact h
  · rw [heq]
    exact h.drop (fun e he => Int.le_of_lt (of_decide_eq_true he))

/-- One write, read off the clock after the state before it. -/
theorem agree_write {r : Readings} {key : String} {record : IdempotencyRecord R}
    (h : Agree IdempotencyRecord.expiresAt r.created s.records m) (hown : r.clock.Pairwise (· ≤ ·)) :
    Agree IdempotencyRecord.expiresAt r.clean
      ({ s with records := Function.update s.records key (some record) }.triggerCleanupLocked r.clean).records
      (Function.update m key (some record)) := by
  have hle : r.created ≤ r.clean := by
    have hfirst := (List.pairwise_cons.mp hown).1
    exact hfirst r.clean (by simp)
  exact agree_triggerCleanupLocked ((h.update key (some record)).later hle)

theorem agree_step {a : Action R} (hown : a.clock.Pairwise (· ≤ ·)) (hnow : ∀ t ∈ a.clock, t ≤ now)
    (h : ∀ t ∈ now :: a.clock, Agree IdempotencyRecord.expiresAt t s.records m) :
    Agree IdempotencyRecord.expiresAt now (s.step a).records (record m a) := by
  cases a with
  | setProcessing key ttl r =>
    have hagree := h r.created (by simp [Action.clock, Readings.clock])
    exact (agree_write hagree hown).later (hnow r.clean (by simp [Action.clock, Readings.clock]))
  | setSuccess key response ttl r =>
    have hagree := h r.created (by simp [Action.clock, Readings.clock])
    exact (agree_write hagree hown).later (hnow r.clean (by simp [Action.clock, Readings.clock]))
  | get key t => exact h now List.mem_cons_self
  | cleanExpired t =>
    have hagree := h t (by simp [Action.clock])
    have hdropped := hagree.drop (fun e he => Int.le_of_lt (of_decide_eq_true he))
    exact hdropped.later (hnow t (by simp [Action.clock]))

theorem latest_cleanExpired (before after : List (Action R)) (t : Time) :
    latest (before ++ .cleanExpired t :: after) = latest (before ++ after) := by
  simp [latest, record]

theorem get_run {history : List (Action R)} {key : String} (hclock : Clocked (history ++ [.get key now])) :
    (run history).get now key = (latest history key).filter (fun r => now < r.expiresAt) := by
  rw [Clocked, List.flatMap_append] at hclock
  obtain ⟨hbefore, -, hcross⟩ := List.pairwise_append.mp hclock
  have hagree := agree_foldl (fun _ _ _ _ => agree_step) (fun t => Agree.refl (new.records)) hbefore
    (fun t ht => hcross t ht now (by simp [Action.clock]))
  rw [get_eq, run, hagree now (Int.le_refl now)]
  rfl

end InMemoryIdempotencyStore

/-- Both stores answer every `Get` of every sequence of calls with the entry that was set last, unless it
has been invalidated or has expired, and a cleaning that is put in anywhere changes no answer. -/
theorem get_unaffected_by_cleanup :
    (∀ (history : List TokenCache.Action) (tokenID : String) (now : Time),
      TokenCache.Clocked (history ++ [.get tokenID now]) →
      (TokenCache.run history).get now tokenID =
        (((TokenCache.latest history tokenID).filter (fun e => now < e.expires)).map
          (fun e => (e.status, true))).getD ("", false)) ∧
    (∀ (before after : List TokenCache.Action) (cleaned : Time) (tokenID : String) (now : Time),
      TokenCache.Clocked (before ++ .cleanExpired cleaned :: after ++ [.get tokenID now]) →
      (TokenCache.run (before ++ .cleanExpired cleaned :: after)).get now tokenID =
        (TokenCache.run (before ++ after)).get now tokenID) ∧
    (∀ (R : Type) (history : List (InMemoryIdempotencyStore.Action R)) (key : String) (now : Time),
      InMemoryIdempotencyStore.Clocked (history ++ [.get key now]) →
      (InMemoryIdempotencyStore.run history).get now key =
        (InMemoryIdempotencyStore.latest history key).filter (fun r => now < r.expiresAt)) ∧
    (∀ (R : Type) (before after : List (InMemoryIdempotencyStore.Action R)) (cleaned : Time) (key : String)
      (now : Time),
      InMemoryIdempotencyStore.Clocked (before ++ .cleanExpired cleaned :: after ++ [.get key now]) →
      (InMemoryIdempotencyStore.run (before ++ .cleanExpired cleaned :: after)).get now key =
        (InMemoryIdempotencyStore.run (before ++ after)).get now key) := by
  refine ⟨fun _ _ _ h => TokenCache.get_run h, fun before after cleaned tokenID now h => ?_,
    fun _ _ _ _ h => InMemoryIdempotencyStore.get_run h, fun _ before after cleaned key now h => ?_⟩
  · have hwithout : TokenCache.Clocked (before ++ after ++ [.get tokenID now]) :=
      pairwise_without h
    rw [TokenCache.get_run h, TokenCache.get_run hwithout, TokenCache.latest_cleanExpired]
  · have hwithout : InMemoryIdempotencyStore.Clocked (before ++ after ++ [.get key now]) :=
      pairwise_without h
    rw [InMemoryIdempotencyStore.get_run h, InMemoryIdempotencyStore.get_run hwithout,
      InMemoryIdempotencyStore.latest_cleanExpired]

/-- An entry is found a nanosecond before it ends, cleaned for or not, and no more at the instant at which
it ends. -/
theorem get_unaffected_by_cleanup_at_expiry :
    (TokenCache.run [.set "t" "active" 5 0 0, .cleanExpired 5]).get 5 "t" = ("", false) ∧
    (TokenCache.run [.set "t" "active" 5 0 0, .cleanExpired 4]).get 4 "t" = ("active", true) ∧
    (TokenCache.run ([.set "t" "active" 5 0 0] ++ .cleanExpired 4 :: [])).get 4 "t" =
      (TokenCache.run [.set "t" "active" 5 0 0]).get 4 "t" ∧
    (InMemoryIdempotencyStore.run (R := Unit) [.setProcessing "k" 5 ⟨0, 1, 1⟩, .cleanExpired 6]).get 6 "k" =
      none ∧
    (InMemoryIdempotencyStore.run [.setProcessing "k" 5 ⟨0, 1, 1⟩, .setSuccess "k" (some ()) 5 ⟨2, 2, 2⟩,
      .cleanExpired 6]).get 6 "k" = some ⟨"k", "succeeded", some (), 2, 7⟩ ∧
    (InMemoryIdempotencyStore.run ([.setSuccess "k" (some ()) 5 ⟨2, 2, 2⟩] ++ .cleanExpired 6 :: [])).get 6 "k" =
      (InMemoryIdempotencyStore.run [.setSuccess "k" (some ()) 5 ⟨2, 2, 2⟩]).get 6 "k" := by
  obtain ⟨hcache, hcleaned, hrecord, hcleaned'⟩ := get_unaffected_by_cleanup
  refine ⟨?_, ?_, ?_, ?_, ?_, ?_⟩
  · rw [hcache _ "t" 5 (by decide)]
    decide
  · rw [hcache _ "t" 4 (by decide)]
    decide
  · exact hcleaned [.set "t" "active" 5 0 0] [] 4 "t" 4 (by decide)
  · rw [hrecord Unit _ "k" 6 (by decide)]
    decide
  · rw [hrecord Unit _ "k" 6 (by decide)]
    decide
  · exact hcleaned' Unit [.setSuccess "k" (some ()) 5 ⟨2, 2, 2⟩] [] 6 "k" 6 (by decide)

end SupplyPlatform.MemoryExpiry
