import Mathlib.Algebra.Group.Nat.Defs
import SupplyPlatform.Database
import SupplyPlatform.Lib.Maps
import SupplyPlatform.Lib.Runs
import SupplyPlatform.Lib.Windows

namespace SupplyPlatform.Gateway

/-- What `GetLimit` reports. -/
structure Limit where
  rpm : Int
  tpm : Int
  burst : Int
  remaining : Int
  resetAt : Time
  deriving DecidableEq

/-- The limiter with its windows by address: `windows` is the map, and `requests` holds every window made
so far, also one that is no longer in the map. -/
structure SlidingWindowLimiter where
  windowSize : Int
  maxRequests : Int
  windows : Finmap (fun _ : String => Nat)
  requests : Nat → List Time
  allocated : Nat

namespace SlidingWindowLimiter

def newSlidingWindowLimiter (windowSize maxRequests : Int) : SlidingWindowLimiter :=
  ⟨windowSize, maxRequests, ∅, fun _ => [], 0⟩

def validRequests (cutoff : Time) (requests : List Time) : List Time :=
  requests.filter (fun t => decide (cutoff < t))

def setRequests (l : SlidingWindowLimiter) (w : Nat) (requests : List Time) : SlidingWindowLimiter :=
  { l with requests := Function.update l.requests w requests }

/-- The part of `Allow` under `l.mu`. -/
def findWindow (l : SlidingWindowLimiter) (key : String) : SlidingWindowLimiter × Nat :=
  match l.windows.lookup key with
  | some w => (l, w)
  | none =>
    ({ l.setRequests l.allocated [] with
        windows := l.windows.insert key l.allocated, allocated := l.allocated + 1 }, l.allocated)

/-- The part of `Allow` under the window's mutex. -/
def checkWindow (l : SlidingWindowLimiter) (w : Nat) (now : Time) : SlidingWindowLimiter × Bool :=
  let valid := validRequests (now - l.windowSize) (l.requests w)
  if l.maxRequests ≤ valid.length then (l.setRequests w valid, false)
  else (l.setRequests w (valid ++ [now]), true)

def getLimit (l : SlidingWindowLimiter) (key : String) (now : Time) : Limit where
  rpm := l.maxRequests
  tpm := 0
  burst := 0
  remaining :=
    match l.windows.lookup key with
    | none => l.maxRequests
    | some w =>
      let remaining := l.maxRequests - (validRequests (now - l.windowSize) (l.requests w)).length
      if remaining < 0 then 0 else remaining
  resetAt := now + l.windowSize

/-- The requests that `cleanup` keeps; twice the window size is computed in 64 bits. -/
def swept (l : SlidingWindowLimiter) (w : Nat) (now : Time) : List Time :=
  validRequests (now + Int.bmod (-l.windowSize * 2) (2 ^ 64)) (l.requests w)

/-- Whether `cleanup` takes the window out of the map. -/
def unlinks (l : SlidingWindowLimiter) (w : Nat) (now : Time) : Bool :=
  match (l.requests w).getLast? with
  | none => false
  | some last => decide (l.swept w now = [] ∧ Int.bmod (l.windowSize * 2) (2 ^ 64) < now - last)

/-- One round of the loop of `cleanup`. -/
def cleanWindow (l : SlidingWindowLimiter) (key : String) (now : Time) : SlidingWindowLimiter :=
  match l.windows.lookup key with
  | none => l
  | some w =>
    if l.unlinks w now then { l with windows := l.windows.erase key }
    else l.setRequests w (l.swept w now)

end SlidingWindowLimiter

/-- A sweep of `cleanup`, which holds `l.mu`: the time it has read and the keys it has still to visit. -/
structure Sweep where
  now : Time
  todo : Finset String
  deriving DecidableEq

/-- The limiter with the calls that hold a window between their two critical sections, and the log of
the requests admitted so far. -/
structure LimiterSystem where
  limiter : SlidingWindowLimiter
  held : Nat → Option (String × Nat)
  sweep : Option Sweep
  now : Time
  admitted : List (String × Time)

namespace LimiterSystem

open SlidingWindowLimiter

inductive Action
  | findWindow (n : Nat) (key : String)
  | checkWindow (n : Nat)
  | startSweep
  | cleanWindow (key : String)
  | endSweep
  | tick (d : Nat)
  deriving DecidableEq

def start (windowSize maxRequests : Int) (now : Time) : LimiterSystem :=
  ⟨newSlidingWindowLimiter windowSize maxRequests, fun _ => none, none, now, []⟩

def step (s : LimiterSystem) : Action → Option LimiterSystem
  | .findWindow n key =>
    match s.sweep, s.held n with
    | none, none => some { s with
        limiter := (s.limiter.findWindow key).1,
        held := Function.update s.held n (some (key, (s.limiter.findWindow key).2)) }
    | _, _ => none
  | .checkWindow n =>
    match s.held n with
    | some (key, w) => some { s with
        limiter := (s.limiter.checkWindow w s.now).1,
        held := Function.update s.held n none,
        admitted := if (s.limiter.checkWindow w s.now).2 then s.admitted ++ [(key, s.now)]
          else s.admitted }
    | none => none
  | .startSweep =>
    match s.sweep with
    | none => some { s with sweep := some ⟨s.now, s.limiter.windows.keys⟩ }
    | some _ => none
  | .cleanWindow key =>
    match s.sweep with
    | some sweep =>
      if key ∈ sweep.todo then some { s with
        limiter := s.limiter.cleanWindow key sweep.now,
        sweep := some { sweep with todo := sweep.todo.erase key } }
      else none
    | none => none
  | .endSweep =>
    match s.sweep with
    | some sweep => if sweep.todo = ∅ then some { s with sweep := none } else none
    | none => none
  | .tick d => some { s with now := s.now + d }

end LimiterSystem

end SupplyPlatform.Gateway
