import SupplyPlatform.SlidingWindow

namespace SupplyPlatform.Gateway.LimiterSystem

open Maps SlidingWindowLimiter Transition Windows

/-- The times at which the key's requests were admitted. -/
def timesOf (s : LimiterSystem) (key : String) : List Time :=
  (s.admitted.filter (fun a => decide (a.1 = key))).map Prod.snd

/-- The requests in the window that the map has for the key. -/
def recent (l : SlidingWindowLimiter) (key : String) : List Time :=
  match l.windows.lookup key with
  | none => []
  | some w => l.requests w

/-- The step does not take a window out of the map while a call holds it. -/
def Unheld (s : LimiterSystem) : Action → Prop
  | .cleanWindow key => ∀ sweep w n held, s.sweep = some sweep → s.limiter.windows.lookup key = some w →
      s.limiter.unlinks w sweep.now = true → s.held n = some (held, w) → False
  | _ => True

/-- The windows that the calls hold are those that the map has for their keys. -/
def Linked (held : Nat → Option (String × Nat)) (windows : Finmap (fun _ : String => Nat)) : Prop :=
  ∀ n key w, held n = some (key, w) → windows.lookup key = some w

/-- What holds in every run in which no window is unlinked under a call. -/
structure Inv (windowSize maxRequests : Int) (s : LimiterSystem) : Prop where
  windowSize_eq : s.limiter.windowSize = windowSize
  maxRequests_eq : s.limiter.maxRequests = maxRequests
  linked : Linked s.held s.limiter.windows
  fresh : ∀ key w, s.limiter.windows.lookup key = some w → w < s.limiter.allocated
  own : ∀ key key' w, s.limiter.windows.lookup key = some w → s.limiter.windows.lookup key' = some w →
    key = key'
  kept : ∀ key c, s.now - windowSize ≤ c →
    validRequests c (recent s.limiter key) = validRequests c (s.timesOf key)
  within : ∀ key, Within windowSize maxRequests.toNat (s.timesOf key)
  sweeping : ∀ sweep, s.sweep = some sweep → sweep.now ≤ s.now

theorem validRequests_validRequests {c c' : Time} (h : c ≤ c') (requests : List Time) :
    validRequests c' (validRequests c requests) = validRequests c' requests := by
  unfold validRequests
  rw [List.filter_filter]
  refine List.filter_congr (fun t _ => ?_)
  by_cases ht : c' < t
  · simp [ht, lt_of_le_of_lt h ht]
  · simp [ht]

theorem validRequests_append (c : Time) (xs ys : List Time) :
    validRequests c (xs ++ ys) = validRequests c xs ++ validRequests c ys :=
  List.filter_append _ _

theorem recent_of_lookup {l : SlidingWindowLimiter} {key : String} {w : Nat}
    (h : l.windows.lookup key = some w) : recent l key = l.requests w := by
  simp only [recent, h]

theorem recent_setRequests_self {l : SlidingWindowLimiter} {key : String} {w : Nat}
    (h : l.windows.lookup key = some w) (requests : List Time) :
    recent (l.setRequests w requests) key = requests := by
  have h' : (l.setRequests w requests).windows.lookup key = some w := h
  rw [recent_of_lookup h']
  exact Function.update_self _ _ _

theorem recent_setRequests_of_ne {l : SlidingWindowLimiter} {key : String} {w : Nat}
    (h : l.windows.lookup key ≠ some w) (requests : List Time) :
    recent (l.setRequests w requests) key = recent l key := by
  unfold recent
  cases hk : l.windows.lookup key with
  | none =>
    have h' : (l.setRequests w requests).windows.lookup key = none := hk
    rw [h']
  | some v =>
    have h' : (l.setRequests w requests).windows.lookup key = some v := hk
    have hne : v ≠ w := fun hv => h (hv ▸ hk)
    rw [h']
    exact Function.update_of_ne hne _ _

theorem timesOf_snoc_self (s : LimiterSystem) (key : String) (t : Time) :
    timesOf { s with admitted := s.admitted ++ [(key, t)] } key = s.timesOf key ++ [t] := by
  simp [timesOf, List.filter_append]

theorem timesOf_snoc_of_ne (s : LimiterSystem) {key other : String} (h : key ≠ other) (t : Time) :
    timesOf { s with admitted := s.admitted ++ [(key, t)] } other = s.timesOf other := by
  simp [timesOf, List.filter_append, h]

theorem Linked.hold {held : Nat → Option (String × Nat)} {windows : Finmap (fun _ : String => Nat)}
    (h : Linked held windows) (n : Nat) {key : String} {w : Nat} (hw : windows.lookup key = some w) :
    Linked (Function.update held n (some (key, w))) windows := by
  intro m k v hm
  rcases update_some_cases hm with ⟨-, hkw⟩ | ⟨-, hm⟩
  · cases hkw
    exact hw
  · exact h m k v hm

theorem Linked.release {held : Nat → Option (String × Nat)} {windows : Finmap (fun _ : String => Nat)}
    (h : Linked held windows) (n : Nat) : Linked (Function.update held n none) windows :=
  fun m k v hm => h m k v (of_update_none hm).2

variable {windowSize maxRequests : Int} {s t : LimiterSystem}

/-- A new window is empty, as no window is for its key before. -/
theorem recent_addWindow {l : SlidingWindowLimiter} {key : String} (hk : l.windows.lookup key = none)
    (hfresh : ∀ k w, l.windows.lookup k = some w → w < l.allocated) (k : String) :
    recent { l.setRequests l.allocated [] with
      windows := l.windows.insert key l.allocated, allocated := l.allocated + 1 } k = recent l k := by
  unfold recent
  dsimp only
  by_cases hne : k = key
  · subst hne
    rw [Finmap.lookup_insert, hk]
    exact Function.update_self _ _ _
  · rw [Finmap.lookup_insert_of_ne _ hne]
    cases hv : l.windows.lookup k with
    | none => rfl
    | some v => exact Function.update_of_ne (Nat.ne_of_lt (hfresh k v hv)) _ _

theorem Inv.addWindow {n : Nat} {key : String} (h : Inv windowSize maxRequests s)
    (hk : s.limiter.windows.lookup key = none) :
    Inv windowSize maxRequests { s with
      limiter := { s.limiter.setRequests s.limiter.allocated [] with
        windows := s.limiter.windows.insert key s.limiter.allocated,
        allocated := s.limiter.allocated + 1 },
      held := Function.update s.held n (some (key, s.limiter.allocated)) } where
  windowSize_eq := h.windowSize_eq
  maxRequests_eq := h.maxRequests_eq
  linked := by
    refine Linked.hold (fun m k v hm => ?_) n (Finmap.lookup_insert _)
    exact lookup_insert_of_fresh hk (h.linked m k v hm)
  fresh := fun k v hv => by
    rcases lookup_insert_cases hv with ⟨_, rfl⟩ | ⟨_, hv⟩
    · exact Nat.lt_succ_self _
    · exact Nat.lt_succ_of_lt (h.fresh k v hv)
  own := fun k k' v hv hv' => by
    rcases lookup_insert_cases hv with ⟨rfl, rfl⟩ | ⟨_, hv⟩
    · rcases lookup_insert_cases hv' with ⟨rfl, _⟩ | ⟨_, hv'⟩
      · rfl
      · exact absurd (h.fresh k' _ hv') (Nat.lt_irrefl _)
    · rcases lookup_insert_cases hv' with ⟨_, rfl⟩ | ⟨_, hv'⟩
      · exact absurd (h.fresh k _ hv) (Nat.lt_irrefl _)
      · exact h.own k k' v hv hv'
  kept := fun k c hc => by
    exact Eq.trans (congrArg (validRequests c) (recent_addWindow hk h.fresh k)) (h.kept k c hc)
  within := h.within
  sweeping := h.sweeping

theorem Inv.findWindow (h : Inv windowSize maxRequests s) (n : Nat) (key : String) :
    Inv windowSize maxRequests { s with
      limiter := (s.limiter.findWindow key).1,
      held := Function.update s.held n (some (key, (s.limiter.findWindow key).2)) } := by
  cases hk : s.limiter.windows.lookup key with
  | some w =>
    simp only [SlidingWindowLimiter.findWindow, hk]
    exact { h with linked := h.linked.hold n hk }
  | none =>
    simp only [SlidingWindowLimiter.findWindow, hk]
    exact h.addWindow hk

/-- A window may lose the requests that no longer count. -/
theorem Inv.setRequests {w : Nat} {requests : List Time} (h : Inv windowSize maxRequests s)
    (hsame : ∀ c, s.now - windowSize ≤ c →
      validRequests c requests = validRequests c (s.limiter.requests w)) :
    Inv windowSize maxRequests { s with limiter := s.limiter.setRequests w requests } where
  windowSize_eq := h.windowSize_eq
  maxRequests_eq := h.maxRequests_eq
  linked := h.linked
  fresh := h.fresh
  own := h.own
  kept := fun k c hc => by
    refine Eq.trans ?_ (h.kept k c hc)
    by_cases hk : s.limiter.windows.lookup k = some w
    · show validRequests c (recent (s.limiter.setRequests w requests) k) = _
      rw [recent_setRequests_self hk, recent_of_lookup hk]
      exact hsame c hc
    · show validRequests c (recent (s.limiter.setRequests w requests) k) = _
      rw [recent_setRequests_of_ne hk]
  within := h.within
  sweeping := h.sweeping

/-- The second critical section admits a request when the window, and so the log, has room for it. -/
theorem Inv.admit {key : String} {w : Nat} (h : Inv windowSize maxRequests s)
    (hw : s.limiter.windows.lookup key = some w)
    (hroom : ¬maxRequests ≤ (validRequests (s.now - windowSize) (s.limiter.requests w)).length) :
    Inv windowSize maxRequests { s with
      limiter := s.limiter.setRequests w
        (validRequests (s.now - windowSize) (s.limiter.requests w) ++ [s.now]),
      admitted := s.admitted ++ [(key, s.now)] } where
  windowSize_eq := h.windowSize_eq
  maxRequests_eq := h.maxRequests_eq
  linked := h.linked
  fresh := h.fresh
  own := h.own
  kept := fun k c hc => by
    by_cases hk : k = key
    · subst hk
      refine Eq.trans (congrArg (validRequests c) (recent_setRequests_self hw _)) ?_
      refine Eq.trans ?_ (congrArg (validRequests c) (timesOf_snoc_self s k s.now)).symm
      rw [validRequests_append, validRequests_append, validRequests_validRequests hc, ← h.kept k c hc,
        recent_of_lookup hw]
    · have hother : s.limiter.windows.lookup k ≠ some w := fun hw' => hk (h.own k key w hw' hw)
      refine Eq.trans (congrArg (validRequests c) (recent_setRequests_of_ne hother _)) ?_
      refine Eq.trans (h.kept k c hc) (congrArg (validRequests c) ?_)
      exact (timesOf_snoc_of_ne s (Ne.symm hk) s.now).symm
  within := fun k => by
    by_cases hk : k = key
    · subst hk
      have hlog := h.kept k (s.now - windowSize) (le_refl _)
      rw [recent_of_lookup hw] at hlog
      rw [hlog] at hroom
      refine Eq.mpr (congrArg _ (timesOf_snoc_self s k s.now)) ((h.within k).snoc ?_)
      exact Int.lt_toNat.mpr (not_le.mp hroom)
    · refine Eq.mpr (congrArg _ (timesOf_snoc_of_ne s (Ne.symm hk) s.now)) (h.within k)
  sweeping := h.sweeping

theorem Inv.checkWindow {n : Nat} {key : String} {w : Nat} (h : Inv windowSize maxRequests s)
    (hn : s.held n = some (key, w)) :
    Inv windowSize maxRequests { s with
      limiter := (s.limiter.checkWindow w s.now).1,
      held := Function.update s.held n none,
      admitted := if (s.limiter.checkWindow w s.now).2 then s.admitted ++ [(key, s.now)]
        else s.admitted } := by
  have hw := h.linked n key w hn
  unfold SlidingWindowLimiter.checkWindow
  rw [h.windowSize_eq, h.maxRequests_eq]
  dsimp only
  split
  next =>
    have hset := h.setRequests (w := w) (fun c hc => validRequests_validRequests hc (s.limiter.requests w))
    simp only [Bool.false_eq_true, if_false]
    exact { hset with linked := hset.linked.release n }
  next hroom =>
    have hset := h.admit hw hroom
    simp only [if_true]
    exact { hset with linked := hset.linked.release n }

/-- Twice the window size fits in 64 bits. -/
def Fits (windowSize : Int) : Prop := 0 < windowSize ∧ windowSize * 2 < 2 ^ 63

theorem Fits.cutoff (h : Fits windowSize) : Int.bmod (-windowSize * 2) (2 ^ 64) = -windowSize * 2 := by
  obtain ⟨hpos, hlt⟩ := h
  exact Int.bmod_eq_of_le (by omega) (by omega)

theorem Fits.cutoff_le (h : Fits windowSize) {since now : Int} (hle : since ≤ now) :
    since + -windowSize * 2 ≤ now - windowSize := by
  have := h.1
  omega

/-- What `cleanup` drops from a window no longer counts. -/
theorem Inv.swept {w : Nat} {sweep : Sweep} (h : Inv windowSize maxRequests s) (hfits : Fits windowSize)
    (hsweep : s.sweep = some sweep) {c : Time} (hc : s.now - windowSize ≤ c) :
    validRequests c (s.limiter.swept w sweep.now) = validRequests c (s.limiter.requests w) := by
  unfold SlidingWindowLimiter.swept
  rw [h.windowSize_eq, hfits.cutoff]
  exact validRequests_validRequests (le_trans (hfits.cutoff_le (h.sweeping sweep hsweep)) hc) _

/-- A window that no call holds may be unlinked when none of its requests counts. -/
theorem Inv.unlink {key : String} {w : Nat} (h : Inv windowSize maxRequests s)
    (hw : s.limiter.windows.lookup key = some w) (hfree : ∀ n k, s.held n ≠ some (k, w))
    (hold : ∀ c, s.now - windowSize ≤ c → validRequests c (s.limiter.requests w) = []) :
    Inv windowSize maxRequests { s with
      limiter := { s.limiter with windows := s.limiter.windows.erase key } } where
  windowSize_eq := h.windowSize_eq
  maxRequests_eq := h.maxRequests_eq
  linked := fun n k v hn => by
    have hv := h.linked n k v hn
    have hne : k ≠ key := by
      rintro rfl
      cases Option.some.inj (hw.symm.trans hv)
      exact hfree n k hn
    exact (Finmap.lookup_erase_ne hne).trans hv
  fresh := fun k v hv => h.fresh k v (lookup_of_lookup_erase hv)
  own := fun k k' v hv hv' => h.own k k' v (lookup_of_lookup_erase hv) (lookup_of_lookup_erase hv')
  kept := fun k c hc => by
    refine Eq.trans ?_ (h.kept k c hc)
    by_cases hk : k = key
    · subst hk
      rw [recent_of_lookup hw, hold c hc]
      simp only [recent, Finmap.lookup_erase]
      rfl
    · simp only [recent, Finmap.lookup_erase_ne hk]
  within := h.within
  sweeping := h.sweeping

/-- A round of the cleanup at a time at which what it drops no longer counts. -/
theorem Inv.clean {key : String} {since : Time} (h : Inv windowSize maxRequests s)
    (hfree : ∀ w n k, s.limiter.windows.lookup key = some w → s.limiter.unlinks w since = true →
      s.held n ≠ some (k, w))
    (hsame : ∀ w c, s.limiter.windows.lookup key = some w → s.now - windowSize ≤ c →
      validRequests c (s.limiter.swept w since) = validRequests c (s.limiter.requests w)) :
    Inv windowSize maxRequests { s with limiter := s.limiter.cleanWindow key since } := by
  unfold SlidingWindowLimiter.cleanWindow
  split
  next => exact h
  next w hw =>
    split
    next hun =>
      have hempty : s.limiter.swept w since = [] := by
        unfold unlinks at hun
        split at hun
        next => cases hun
        next => exact (of_decide_eq_true hun).1
      exact h.unlink hw (fun n k => hfree w n k hw hun)
        (fun c hc => by rw [← hsame w c hw hc, hempty]; rfl)
    next => exact h.setRequests (fun c hc => hsame w c hw hc)

theorem Inv.cleanWindow {key : String} {sweep : Sweep} (h : Inv windowSize maxRequests s)
    (hfits : Fits windowSize) (hok : Unheld s (.cleanWindow key)) (hsweep : s.sweep = some sweep) :
    Inv windowSize maxRequests { s with limiter := s.limiter.cleanWindow key sweep.now } :=
  h.clean (fun w n k hw hun hn => hok sweep w n k hsweep hw hun hn)
    (fun _ _ _ hc => h.swept hfits hsweep hc)

theorem Inv.tick (h : Inv windowSize maxRequests s) (d : Nat) :
    Inv windowSize maxRequests { s with now := s.now + d } where
  windowSize_eq := h.windowSize_eq
  maxRequests_eq := h.maxRequests_eq
  linked := h.linked
  fresh := h.fresh
  own := h.own
  kept := fun k c hc => h.kept k c (by
    have hle : (s.now : Int) ≤ s.now + d := Int.le_add_of_nonneg_right (Int.natCast_nonneg d)
    exact le_trans (Int.sub_le_sub_right hle windowSize) hc)
  within := h.within
  sweeping := fun sweep hs =>
    le_trans (h.sweeping sweep hs) (Int.le_add_of_nonneg_right (Int.natCast_nonneg d))

theorem Inv.step {a : Action} (h : Inv windowSize maxRequests s) (hfits : Fits windowSize)
    (hok : Unheld s a) (hs : LimiterSystem.step s a = some t) : Inv windowSize maxRequests t := by
  cases a with
  | findWindow n key =>
    simp only [LimiterSystem.step] at hs
    split at hs
    next => cases hs; exact h.findWindow _ _
    next => cases hs
  | checkWindow n =>
    simp only [LimiterSystem.step] at hs
    split at hs
    next key w hn => cases hs; exact h.checkWindow hn
    next => cases hs
  | startSweep =>
    simp only [LimiterSystem.step] at hs
    split at hs
    next =>
      cases hs
      exact { h with sweeping := fun sweep hsweep => by cases hsweep; exact le_refl _ }
    next => cases hs
  | cleanWindow key =>
    simp only [LimiterSystem.step] at hs
    split at hs
    next sweep hsweep =>
      split at hs
      next =>
        cases hs
        have hclean := h.cleanWindow hfits hok hsweep
        refine { hclean with sweeping := fun sweep' hsweep' => ?_ }
        cases hsweep'
        exact h.sweeping sweep hsweep
      next => cases hs
    next => cases hs
  | endSweep =>
    simp only [LimiterSystem.step] at hs
    split at hs
    next =>
      split at hs
      next =>
        cases hs
        exact { h with sweeping := fun sweep hsweep => by cases hsweep }
      next => cases hs
    next => cases hs
  | tick d =>
    cases hs
    exact h.tick d

theorem Inv.start (windowSize maxRequests : Int) (now : Time) :
    Inv windowSize maxRequests (LimiterSystem.start windowSize maxRequests now) where
  windowSize_eq := rfl
  maxRequests_eq := rfl
  linked := fun _ _ _ hn => by cases hn
  fresh := fun k v hv => by
    rw [show (LimiterSystem.start windowSize maxRequests now).limiter.windows = ∅ from rfl,
      Finmap.lookup_empty] at hv
    cases hv
  own := fun k k' v hv _ => by
    rw [show (LimiterSystem.start windowSize maxRequests now).limiter.windows = ∅ from rfl,
      Finmap.lookup_empty] at hv
    cases hv
  kept := fun k c _ => by
    simp only [recent, LimiterSystem.start, newSlidingWindowLimiter, Finmap.lookup_empty]
    rfl
  within := fun _ => Within.nil
  sweeping := fun _ hs => by cases hs

/-- At most `maxRequests` of the key's requests are admitted in any half-open interval as long as the
window, closed at either end. -/
def Limited (windowSize maxRequests : Int) (s : LimiterSystem) : Prop :=
  ∀ key since,
    (s.timesOf key).countP (fun t => decide (since ≤ t ∧ t < since + windowSize)) ≤ maxRequests.toNat ∧
    (s.timesOf key).countP (fun t => decide (since < t ∧ t ≤ since + windowSize)) ≤ maxRequests.toNat

theorem Inv.limited (h : Inv windowSize maxRequests s) : Limited windowSize maxRequests s :=
  fun key since => ⟨(h.within key).ico since, (h.within key).ioc since⟩

/-- No interval of no length has a request. -/
theorem limited_of_nonpos (hsize : windowSize ≤ 0) (maxRequests : Int) (s : LimiterSystem) :
    Limited windowSize maxRequests s := by
  have hnone : ∀ log, Within windowSize maxRequests.toNat log := by
    intro log p hp
    have hfalse : ∀ x ∈ log, ¬p x = true := by
      intro x _ hx
      have := hp x x hx hx
      omega
    rw [List.countP_eq_zero.mpr hfalse]
    exact Nat.zero_le _
  exact fun key since => ⟨(hnone _).ico since, (hnone _).ioc since⟩

/-- In any interleaving of calls with the cleanup loop in which no window is unlinked under a call, the
limit holds for every key. -/
theorem admitted_within_limit {windowSize maxRequests : Int} {now : Time} {s : LimiterSystem}
    (hsize : windowSize * 2 < 2 ^ 63)
    (hreach : Reach step Unheld (start windowSize maxRequests now) s) :
    Limited windowSize maxRequests s := by
  by_cases hpos : 0 < windowSize
  · have hinv : Inv windowSize maxRequests s :=
      hreach.invariant (Inv.start windowSize maxRequests now)
        (fun _ _ _ h hok hs => h.step ⟨hpos, hsize⟩ hok hs)
    exact hinv.limited
  · exact limited_of_nonpos (not_lt.mp hpos) maxRequests s

/-- Two calls on one key, the second of which is not admitted. -/
theorem admitted_within_limit_sample :
    ∃ s, Reach step Unheld (start (60 * second) 1 0) s ∧ s.timesOf "tenant-1" = [0] ∧
      Limited (60 * second) 1 s := by
  have hrun : (exec step (start (60 * second) 1 0)
      [.findWindow 0 "tenant-1", .findWindow 1 "tenant-1", .checkWindow 0, .tick 5, .checkWindow 1]).map
      (fun s => s.timesOf "tenant-1") = some [0] := by
    decide
  obtain ⟨s, hs, htimes⟩ := Option.map_eq_some_iff.mp hrun
  have hreach : Reach step Unheld (start (60 * second) 1 0) s := by
    refine reach_of_exec_of hs (fun s a ha => ?_)
    simp only [List.mem_cons, List.not_mem_nil, or_false] at ha
    rcases ha with rfl | rfl | rfl | rfl | rfl
    · trivial
    · trivial
    · trivial
    · trivial
    · trivial
  exact ⟨s, hreach, htimes, admitted_within_limit (by decide) hreach⟩

/-- A call takes the window of an idle key, the cleanup unlinks it, and the next call makes another: with
a limit of one, both are admitted at the same time. -/
theorem unlinked_window_admits_twice :
    ∃ s, Reach step anyStep (start (60 * second) 1 0) s ∧
      s.timesOf "tenant-1" = [0, 121 * second, 121 * second] ∧ ¬Limited (60 * second) 1 s := by
  have hrun : (exec step (start (60 * second) 1 0)
      [.findWindow 0 "tenant-1", .checkWindow 0, .tick 121000000000, .findWindow 1 "tenant-1",
        .startSweep, .cleanWindow "tenant-1", .endSweep, .findWindow 2 "tenant-1", .checkWindow 2,
        .checkWindow 1]).map (fun s => s.timesOf "tenant-1") =
      some [0, 121 * second, 121 * second] := by
    decide
  obtain ⟨s, hs, htimes⟩ := Option.map_eq_some_iff.mp hrun
  refine ⟨s, reach_of_exec hs, htimes, fun h => ?_⟩
  have hcount := (h "tenant-1" (121 * second)).1
  rw [htimes] at hcount
  exact absurd hcount (by decide)

end SupplyPlatform.Gateway.LimiterSystem
