import Mathlib.Algebra.Group.Int.Defs
import SupplyPlatform.SlidingWindowBound

namespace SupplyPlatform.Gateway.LimiterSystem

open Maps SlidingWindowLimiter Transition

/-- The calls of a sequential run; a pass of `cleanup` goes over the map in some order. -/
inductive Call
  | allow (key : String)
  | getLimit (key : String)
  | cleanup (order : List String)
  | tick (d : Nat)
  deriving DecidableEq

/-- `Allow` from one end to the other. -/
def allow (s : LimiterSystem) (key : String) : LimiterSystem × Bool :=
  let found := s.limiter.findWindow key
  let checked := found.1.checkWindow found.2 s.now
  ({ s with limiter := checked.1,
            admitted := if checked.2 then s.admitted ++ [(key, s.now)] else s.admitted }, checked.2)

def remaining (s : LimiterSystem) (key : String) : Int := (s.limiter.getLimit key s.now).remaining

def cleanup (s : LimiterSystem) (order : List String) : LimiterSystem :=
  { s with limiter := order.foldl (fun l key => l.cleanWindow key s.now) s.limiter }

def callStep (s : LimiterSystem) : Call → Option LimiterSystem
  | .allow key => some (s.allow key).1
  | .getLimit _ => some s
  | .cleanup order => if Enumerates s.limiter.windows order then some (s.cleanup order) else none
  | .tick d => some { s with now := s.now + d }

/-- How many of `n` calls of `Allow` at one time are admitted. -/
def stillAdmitted (s : LimiterSystem) (key : String) : Nat → Nat
  | 0 => 0
  | n + 1 => (if (s.allow key).2 then 1 else 0) + stillAdmitted (s.allow key).1 key n

/-- The requests of the key admitted within the window before now. -/
def inWindow (s : LimiterSystem) (key : String) : List Time :=
  (s.timesOf key).filter (fun t => decide (s.now - s.limiter.windowSize < t ∧ t ≤ s.now))

/-- The calls are no passes of `cleanup`. -/
def NoCleanup (calls : List Call) : Prop := ∀ order, .cleanup order ∉ calls

/-- The answers at a state are those that the log of admitted requests calls for, and a pass of `cleanup`
changes none of them, nor of those to come. -/
structure ExactAt (s : LimiterSystem) : Prop where
  allow : ∀ key, (s.allow key).2 = true ↔ ((s.inWindow key).length : Int) < s.limiter.maxRequests
  remaining : ∀ key n, (s.stillAdmitted key n : Int) = min (n : Int) (s.remaining key)
  cleanup : ∀ order calls t t', Enumerates s.limiter.windows order → NoCleanup calls →
    exec callStep s calls = some t → exec callStep (s.cleanup order) calls = some t' →
    ∀ key, (t'.allow key).2 = (t.allow key).2 ∧ t'.remaining key = t.remaining key

/-- Every answer in every sequential run is exact. -/
def Exact (windowSize maxRequests : Int) : Prop :=
  ∀ now s, Reach callStep anyStep (start windowSize maxRequests now) s → s.ExactAt

variable {windowSize maxRequests : Int} {s t : LimiterSystem} {key : String}

theorem findWindow_requests (l : SlidingWindowLimiter) (key : String) :
    (l.findWindow key).1.requests (l.findWindow key).2 = recent l key := by
  cases hw : l.windows.lookup key with
  | some w => simp only [SlidingWindowLimiter.findWindow, recent, hw]
  | none =>
    simp only [SlidingWindowLimiter.findWindow, recent, hw]
    exact Function.update_self _ _ _

@[simp] theorem findWindow_windowSize (l : SlidingWindowLimiter) (key : String) :
    (l.findWindow key).1.windowSize = l.windowSize := by
  unfold SlidingWindowLimiter.findWindow
  split
  · rfl
  · rfl

@[simp] theorem findWindow_maxRequests (l : SlidingWindowLimiter) (key : String) :
    (l.findWindow key).1.maxRequests = l.maxRequests := by
  unfold SlidingWindowLimiter.findWindow
  split
  · rfl
  · rfl

@[simp] theorem allow_now (s : LimiterSystem) (key : String) : (s.allow key).1.now = s.now := rfl

/-- What holds between the calls of a sequential run. -/
structure Sound (windowSize maxRequests : Int) (s : LimiterSystem) : Prop where
  inv : Inv windowSize maxRequests s
  idle : s.held = fun _ => none
  past : ∀ key, ∀ t ∈ s.timesOf key, t ≤ s.now
  forgets : windowSize ≤ 2 ^ 62 ∨ ∀ w, s.limiter.requests w = []

theorem Sound.inWindow_eq (h : Sound windowSize maxRequests s) (key : String) :
    s.inWindow key = validRequests (s.now - windowSize) (s.timesOf key) := by
  unfold inWindow validRequests
  rw [h.inv.windowSize_eq]
  refine List.filter_congr (fun t ht => ?_)
  simp [h.past key t ht]

/-- What the map has for the key within the window is what the log has. -/
theorem Sound.recent_eq (h : Sound windowSize maxRequests s) (key : String) :
    validRequests (s.now - s.limiter.windowSize) (recent s.limiter key) = s.inWindow key := by
  rw [h.inWindow_eq, h.inv.windowSize_eq]
  exact h.inv.kept key _ (le_refl _)

theorem Sound.allow_iff (h : Sound windowSize maxRequests s) (key : String) :
    (s.allow key).2 = true ↔ ((s.inWindow key).length : Int) < maxRequests := by
  rw [← h.recent_eq key, ← findWindow_requests]
  unfold LimiterSystem.allow SlidingWindowLimiter.checkWindow
  dsimp only
  rw [findWindow_windowSize, findWindow_maxRequests, h.inv.maxRequests_eq]
  split
  next hfull => simp [hfull]
  next hroom => simp [not_le.mp hroom]

theorem Sound.remaining_eq (h : Sound windowSize maxRequests s) (hmax : 0 ≤ maxRequests) (key : String) :
    s.remaining key = max 0 (maxRequests - (s.inWindow key).length) := by
  rw [← h.recent_eq key]
  unfold LimiterSystem.remaining SlidingWindowLimiter.getLimit recent
  dsimp only
  rw [h.inv.maxRequests_eq]
  cases s.limiter.windows.lookup key with
  | none =>
    dsimp only
    rw [show validRequests (s.now - s.limiter.windowSize) [] = [] from rfl, List.length_nil]
    omega
  | some w =>
    dsimp only
    split
    · omega
    · omega

theorem allow_admitted (s : LimiterSystem) (key : String) : (s.allow key).1.admitted =
    if (s.allow key).2 then s.admitted ++ [(key, s.now)] else s.admitted := rfl

/-- Where nothing is admitted at all, the windows stay empty. -/
theorem checkWindow_requests_of_empty {l : SlidingWindowLimiter} (h : ∀ w, l.requests w = [])
    (hmax : l.maxRequests ≤ 0) (w : Nat) (now : Time) :
    ∀ v, (l.checkWindow w now).1.requests v = [] := by
  intro v
  have hvalid : validRequests (now - l.windowSize) (l.requests w) = [] := by
    rw [h w]
    rfl
  unfold SlidingWindowLimiter.checkWindow
  rw [hvalid, if_pos (by simpa using hmax)]
  show Function.update l.requests w [] v = []
  by_cases hv : v = w
  · subst hv
    exact Function.update_self _ _ _
  · rw [Function.update_of_ne hv, h v]

theorem findWindow_requests_of_empty {l : SlidingWindowLimiter} (h : ∀ w, l.requests w = [])
    (key : String) : ∀ v, (l.findWindow key).1.requests v = [] := by
  intro v
  unfold SlidingWindowLimiter.findWindow
  split
  · exact h v
  · show Function.update l.requests l.allocated [] v = []
    by_cases hv : v = l.allocated
    · subst hv
      exact Function.update_self _ _ _
    · rw [Function.update_of_ne hv, h v]

theorem timesOf_allow (s : LimiterSystem) (key other : String) : (s.allow key).1.timesOf other =
    if (s.allow key).2 = true ∧ key = other then s.timesOf other ++ [s.now] else s.timesOf other := by
  unfold timesOf
  rw [allow_admitted]
  cases (s.allow key).2 with
  | false => simp
  | true =>
    by_cases hkey : key = other
    · simp [hkey, List.filter_append]
    · simp [hkey, List.filter_append]

theorem Sound.allow (h : Sound windowSize maxRequests s)
    (hforgets : windowSize ≤ 2 ^ 62 ∨ maxRequests = 0) (key : String) :
    Sound windowSize maxRequests (s.allow key).1 where
  inv := by
    -- the two critical sections of a call that nothing comes between
    have hchecked := (h.inv.findWindow 0 key).checkWindow (Function.update_self _ _ _)
    refine { hchecked with linked := fun n k w hn => ?_ }
    rw [show (s.allow key).1.held = fun _ => none from h.idle] at hn
    cases hn
  idle := h.idle
  past := by
    intro other t ht
    rw [timesOf_allow] at ht
    split at ht
    · rcases List.mem_append.mp ht with ht | ht
      · exact h.past other t ht
      · rw [List.mem_singleton.mp ht]
        exact le_refl _
    · exact h.past other t ht
  forgets := by
    rcases hforgets with hsize | hzero
    · exact .inl hsize
    · refine h.forgets.imp_right (fun hempty => ?_)
      exact checkWindow_requests_of_empty (findWindow_requests_of_empty hempty key)
        (by rw [findWindow_maxRequests, h.inv.maxRequests_eq, hzero]) _ _

theorem Sound.tick (h : Sound windowSize maxRequests s) (d : Nat) :
    Sound windowSize maxRequests { s with now := s.now + d } where
  inv := h.inv.tick d
  idle := h.idle
  past := fun key t ht => le_trans (h.past key t ht) (Int.le_add_of_nonneg_right (Int.natCast_nonneg d))
  forgets := h.forgets

theorem timesOf_congr (h : s.admitted = t.admitted) (key : String) : s.timesOf key = t.timesOf key := by
  unfold timesOf
  rw [h]

/-- Up to 2^62, the cutoff of the cleanup is at least a window before now. -/
theorem bmod_cutoff (hpos : 0 < windowSize) (hsize : windowSize ≤ 2 ^ 62) :
    Int.bmod (-windowSize * 2) (2 ^ 64) = -windowSize * 2 :=
  Int.bmod_eq_of_le (by omega) (by omega)

theorem swept_of_empty {l : SlidingWindowLimiter} {w : Nat} (h : l.requests w = []) (now : Time) :
    l.swept w now = [] := by
  unfold SlidingWindowLimiter.swept
  rw [h]
  rfl

/-- A round of the cleanup. -/
theorem Sound.clean (h : Sound windowSize maxRequests s) (hpos : 0 < windowSize) (key : String) :
    Sound windowSize maxRequests { s with limiter := s.limiter.cleanWindow key s.now } where
  inv := by
    refine h.inv.clean (fun w n k _ _ hn => ?_) (fun w c _ hc => ?_)
    · rw [h.idle] at hn
      cases hn
    · rcases h.forgets with hsize | hempty
      · unfold SlidingWindowLimiter.swept
        rw [h.inv.windowSize_eq, bmod_cutoff hpos hsize]
        refine validRequests_validRequests (le_trans ?_ hc) _
        have hwindow : -windowSize * 2 ≤ -windowSize := by omega
        rw [Int.sub_eq_add_neg]
        exact Int.add_le_add_left hwindow s.now
      · rw [swept_of_empty (hempty w), hempty w]
  idle := h.idle
  past := h.past
  forgets := by
    refine h.forgets.imp_right (fun hempty v => ?_)
    show (s.limiter.cleanWindow key s.now).requests v = []
    unfold SlidingWindowLimiter.cleanWindow
    split
    next => exact hempty v
    next w _ =>
      split
      next => exact hempty v
      next =>
        rw [swept_of_empty (hempty w)]
        show Function.update s.limiter.requests w [] v = []
        by_cases hv : v = w
        · subst hv
          exact Function.update_self _ _ _
        · rw [Function.update_of_ne hv, hempty v]

theorem Sound.cleanup (h : Sound windowSize maxRequests s) (hpos : 0 < windowSize) (order : List String) :
    Sound windowSize maxRequests (s.cleanup order) := by
  induction order generalizing s with
  | nil => exact h
  | cons key order ih => exact ih (h.clean hpos key)

/-- Two states with one history answer alike. -/
theorem Sound.same_answers (h : Sound windowSize maxRequests s) (h' : Sound windowSize maxRequests t)
    (hmax : 0 ≤ maxRequests) (hnow : s.now = t.now) (hlog : s.admitted = t.admitted) (key : String) :
    (t.allow key).2 = (s.allow key).2 ∧ t.remaining key = s.remaining key := by
  have hwindow : t.inWindow key = s.inWindow key := by
    rw [h.inWindow_eq, h'.inWindow_eq, hnow, timesOf_congr hlog]
  constructor
  · rw [Bool.eq_iff_iff, h.allow_iff, h'.allow_iff, hwindow]
  · rw [h.remaining_eq hmax, h'.remaining_eq hmax, hwindow]

/-- Without passes of the cleanup, two states with one history go on alike. -/
theorem Sound.same_run {calls : List Call} {s' t' : LimiterSystem} (h : Sound windowSize maxRequests s)
    (h' : Sound windowSize maxRequests t) (hforgets : windowSize ≤ 2 ^ 62 ∨ maxRequests = 0)
    (hmax : 0 ≤ maxRequests) (hnow : s.now = t.now) (hlog : s.admitted = t.admitted)
    (hcalls : NoCleanup calls) (hs : exec callStep s calls = some s')
    (ht : exec callStep t calls = some t') :
    Sound windowSize maxRequests s' ∧ Sound windowSize maxRequests t' ∧ s'.now = t'.now ∧
      s'.admitted = t'.admitted := by
  induction calls generalizing s t with
  | nil =>
    cases hs
    cases ht
    exact ⟨h, h', hnow, hlog⟩
  | cons c calls ih =>
    have hrest : NoCleanup calls := fun order hc => hcalls order (List.mem_cons_of_mem _ hc)
    cases c with
    | allow key =>
      refine ih (h.allow hforgets key) (h'.allow hforgets key) hnow ?_ hrest hs ht
      rw [allow_admitted, allow_admitted, (h.same_answers h' hmax hnow hlog key).1, hlog, hnow]
    | getLimit key => exact ih h h' hnow hlog hrest hs ht
    | cleanup order => exact absurd List.mem_cons_self (hcalls order)
    | tick d => exact ih (h.tick d) (h'.tick d) (congrArg (· + (d : Int)) hnow) hlog hrest hs ht

theorem Sound.stillAdmitted_eq (h : Sound windowSize maxRequests s)
    (hforgets : windowSize ≤ 2 ^ 62 ∨ maxRequests = 0) (hpos : 0 < windowSize) (hmax : 0 ≤ maxRequests)
    (key : String) (n : Nat) : (s.stillAdmitted key n : Int) = min (n : Int) (s.remaining key) := by
  induction n generalizing s with
  | zero =>
    rw [h.remaining_eq hmax]
    simp [stillAdmitted]
  | succ n ih =>
    have hnext := ih (h.allow hforgets key)
    have hadmits := h.allow_iff key
    have hwindow : ((s.allow key).1.inWindow key).length =
        (s.inWindow key).length + if (s.allow key).2 then 1 else 0 := by
      rw [(h.allow hforgets key).inWindow_eq, h.inWindow_eq, timesOf_allow, allow_now]
      cases (s.allow key).2 with
      | false => simp
      | true =>
        have hnow : s.now - windowSize < s.now := Int.sub_lt_self _ hpos
        simp [validRequests, hnow]
    rw [stillAdmitted, Int.natCast_add, hnext, (h.allow hforgets key).remaining_eq hmax,
      h.remaining_eq hmax, hwindow]
    cases hallow : (s.allow key).2 with
    | false =>
      rw [hallow] at hadmits
      have hfull := not_lt.mp (fun hlt => Bool.false_ne_true (hadmits.mpr hlt))
      simp only [Bool.false_eq_true, if_false]
      omega
    | true =>
      have hroom := hadmits.mp hallow
      simp only [if_true]
      omega

theorem Sound.start (windowSize maxRequests : Int) (now : Time) :
    Sound windowSize maxRequests (LimiterSystem.start windowSize maxRequests now) where
  inv := Inv.start windowSize maxRequests now
  idle := rfl
  past := nofun
  forgets := .inr (fun _ => rfl)

theorem Sound.step {c : Call} (h : Sound windowSize maxRequests s)
    (hforgets : windowSize ≤ 2 ^ 62 ∨ maxRequests = 0) (hpos : 0 < windowSize)
    (hs : callStep s c = some t) : Sound windowSize maxRequests t := by
  cases c with
  | allow key =>
    cases hs
    exact h.allow hforgets key
  | getLimit key =>
    cases hs
    exact h
  | cleanup order =>
    simp only [callStep] at hs
    split at hs
    · cases hs
      exact h.cleanup hpos order
    · cases hs
  | tick d =>
    cases hs
    exact h.tick d

theorem Sound.exactAt (h : Sound windowSize maxRequests s)
    (hforgets : windowSize ≤ 2 ^ 62 ∨ maxRequests = 0) (hpos : 0 < windowSize) (hmax : 0 ≤ maxRequests) :
    s.ExactAt where
  allow key := by
    rw [h.inv.maxRequests_eq]
    exact h.allow_iff key
  remaining key n := h.stillAdmitted_eq hforgets hpos hmax key n
  cleanup order calls t t' _ hcalls ht ht' key := by
    obtain ⟨hsound, hsound', hnow, hlog⟩ :=
      h.same_run (h.cleanup hpos order) hforgets hmax rfl rfl hcalls ht ht'
    exact hsound.same_answers hsound' hmax hnow hlog key

theorem exact_of_forgets (hforgets : windowSize ≤ 2 ^ 62 ∨ maxRequests = 0) (hpos : 0 < windowSize)
    (hmax : 0 ≤ maxRequests) : Exact windowSize maxRequests := by
  intro now s hreach
  have hsound : Sound windowSize maxRequests s :=
    hreach.invariant (Sound.start windowSize maxRequests now)
      (fun _ _ _ h _ hs => h.step hforgets hpos hs)
  exact hsound.exactAt hforgets hpos hmax

/-- One request has been admitted. -/
def first (windowSize maxRequests : Int) : LimiterSystem :=
  { start windowSize maxRequests 0 with
    limiter := {
      windowSize := windowSize, maxRequests := maxRequests, windows := Finmap.insert "tenant-1" 0 ∅,
      requests := Function.update (Function.update (fun _ => []) 0 []) 0 [0], allocated := 1 },
    admitted := [("tenant-1", 0)] }

theorem start_allow (windowSize : Int) (hmax : 0 < maxRequests) :
    (start windowSize maxRequests 0).allow "tenant-1" = (first windowSize maxRequests, true) := by
  have hfind : (start windowSize maxRequests 0).limiter.findWindow "tenant-1" =
      (⟨windowSize, maxRequests, Finmap.insert "tenant-1" 0 ∅, Function.update (fun _ => []) 0 [], 1⟩, 0) := by
    simp only [SlidingWindowLimiter.findWindow, start, newSlidingWindowLimiter, Finmap.lookup_empty]
    rfl
  have hempty : validRequests (0 - windowSize) (Function.update (fun _ => []) 0 [] 0) = [] := by
    rw [Function.update_self]
    rfl
  have hcheck : SlidingWindowLimiter.checkWindow
      ⟨windowSize, maxRequests, Finmap.insert "tenant-1" 0 ∅, Function.update (fun _ => []) 0 [], 1⟩ 0 0 =
      ((first windowSize maxRequests).limiter, true) := by
    unfold SlidingWindowLimiter.checkWindow
    dsimp only
    rw [hempty, if_neg (by simpa using hmax)]
    rfl
  unfold LimiterSystem.allow
  rw [hfind]
  dsimp only
  rw [show (start windowSize maxRequests 0).now = 0 from rfl, hcheck]
  rfl

theorem first_lookup (windowSize maxRequests : Int) :
    (first windowSize maxRequests).limiter.windows.lookup "tenant-1" = some 0 :=
  Finmap.lookup_insert _

theorem first_requests (windowSize maxRequests : Int) :
    (first windowSize maxRequests).limiter.requests 0 = [0] := by
  simp [first]

theorem first_remaining (hpos : 0 < windowSize) (hmax : 0 < maxRequests) :
    (first windowSize maxRequests).remaining "tenant-1" = maxRequests - 1 := by
  have hvalid : validRequests ((first windowSize maxRequests).now - windowSize)
      ((first windowSize maxRequests).limiter.requests 0) = [0] := by
    rw [first_requests]
    simp [validRequests, first, start, hpos]
  unfold LimiterSystem.remaining SlidingWindowLimiter.getLimit
  dsimp only
  rw [first_lookup]
  dsimp only
  rw [show (first windowSize maxRequests).limiter.windowSize = windowSize from rfl, hvalid,
    show (first windowSize maxRequests).limiter.maxRequests = maxRequests from rfl, if_neg]
  · rfl
  · simp only [List.length_singleton]
    omega

/-- From 2^62 on the cutoff lies ahead of now, and the cleanup takes out a window with a request of now. -/
theorem first_cleanup_remaining (hsize : 2 ^ 62 < windowSize) (hlt : windowSize < 2 ^ 63) :
    ((first windowSize maxRequests).cleanup ["tenant-1"]).remaining "tenant-1" = maxRequests := by
  have hcutoff : 0 < Int.bmod (-windowSize * 2) (2 ^ 64) := by
    rw [Int.bmod_def]
    split
    · omega
    · omega
  have hlimit : Int.bmod (windowSize * 2) (2 ^ 64) < 0 := by
    rw [Int.bmod_def]
    split
    · omega
    · omega
  have hswept : (first windowSize maxRequests).limiter.swept 0 0 = [] := by
    have hahead : ¬(0 : Int) + Int.bmod (-windowSize * 2) (2 ^ 64) < 0 := by omega
    unfold SlidingWindowLimiter.swept
    rw [first_requests, show (first windowSize maxRequests).limiter.windowSize = windowSize from rfl]
    unfold validRequests
    rw [List.filter_cons_of_neg (by simpa using hahead), List.filter_nil]
  have hunlinks : (first windowSize maxRequests).limiter.unlinks 0 0 = true := by
    unfold SlidingWindowLimiter.unlinks
    rw [first_requests, hswept]
    exact decide_eq_true ⟨rfl, hlimit⟩
  have hclean : (first windowSize maxRequests).limiter.cleanWindow "tenant-1" 0 =
      { (first windowSize maxRequests).limiter with
        windows := (first windowSize maxRequests).limiter.windows.erase "tenant-1" } := by
    unfold SlidingWindowLimiter.cleanWindow
    rw [first_lookup]
    exact if_pos hunlinks
  have hcleaned : (first windowSize maxRequests).cleanup ["tenant-1"] =
      { first windowSize maxRequests with
        limiter := (first windowSize maxRequests).limiter.cleanWindow "tenant-1" 0 } := rfl
  unfold LimiterSystem.remaining SlidingWindowLimiter.getLimit
  rw [hcleaned, hclean]
  dsimp only
  rw [Finmap.lookup_erase]
  rfl

theorem not_exact (hsize : 2 ^ 62 < windowSize) (hlt : windowSize < 2 ^ 63) (hmax : 0 < maxRequests) :
    ¬Exact windowSize maxRequests := by
  intro hexact
  have hpos : 0 < windowSize := by omega
  have hstep : callStep (start windowSize maxRequests 0) (.allow "tenant-1") =
      some (first windowSize maxRequests) := by
    simp only [callStep, start_allow windowSize hmax]
  have hkeys : ["tenant-1"].toFinset =
      (Finmap.insert "tenant-1" 0 (∅ : Finmap (fun _ : String => Nat))).keys := by
    decide
  have henumerates : Enumerates (first windowSize maxRequests).limiter.windows ["tenant-1"] :=
    ⟨List.nodup_singleton _, hkeys⟩
  have hsame := ((hexact 0 _ ((Reach.refl _).next trivial hstep)).cleanup ["tenant-1"] [] _ _ henumerates
    nofun rfl rfl "tenant-1").2
  rw [first_cleanup_remaining hsize hlt, first_remaining hpos hmax] at hsame
  omega

/-- With a window and a limit as the constructor takes them, the limiter is exact exactly when twice the
window is at most 2^63, or nothing is ever admitted. -/
theorem exact_iff (hpos : 0 < windowSize) (hlt : windowSize < 2 ^ 63) (hmax : 0 ≤ maxRequests) :
    Exact windowSize maxRequests ↔ windowSize ≤ 2 ^ 62 ∨ maxRequests = 0 := by
  refine ⟨fun hexact => ?_, fun hforgets => exact_of_forgets hforgets hpos hmax⟩
  by_contra hlarge
  obtain ⟨hsize, hnonzero⟩ := not_or.mp hlarge
  exact not_exact (Int.not_le.mp hsize) hlt (by omega) hexact

theorem exact_iff_minute : Exact (60 * second) 3 ↔ (60 * second : Int) ≤ 2 ^ 62 ∨ (3 : Int) = 0 :=
  exact_iff (by decide) (by decide) (by decide)

/-- After a pass of the cleanup a second request is admitted in a window that has room for one. -/
theorem cleanup_forgets_request :
    (exec callStep (start (2 ^ 62 + 1) 1 0) [.allow "tenant-1", .cleanup ["tenant-1"]]).map (fun s =>
      (s.inWindow "tenant-1", (s.allow "tenant-1").2)) = some ([0], true) ∧
    ¬Exact (2 ^ 62 + 1) 1 :=
  ⟨by decide, not_exact (by decide) (by decide) (by decide)⟩

end SupplyPlatform.Gateway.LimiterSystem
