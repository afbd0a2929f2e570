import SupplyPlatform.TokenStep
import SupplyPlatform.TokenStatusHistory

namespace SupplyPlatform.Tokens.Backend

open Relational

/-- A check that began after `RevokeToken` had returned for its token does not report it active. -/
def Honoured (s : Backend) : Prop :=
  ∀ n tokenID status, s.call n = .checked tokenID true (.ok status) → status ≠ .active

/-- The invalidation of `RevokeToken` reaches the cache, unless there is nothing active to delete there,
and no check stores an active status it read before once `RevokeToken` has returned. -/
def Timely (s : Backend) : Backend.Action → Prop
  | .invalidate n fault => ∀ tokenID, s.call n = .invalidate tokenID → fault = .unapplied →
      ∀ e, s.lookup tokenID = some e → e.status ≠ .active
  | .cacheSet n fault => ∀ tokenID after, s.call n = .cacheSet tokenID .active after →
      tokenID ∈ s.returned → fault = .unapplied
  | _ => True

/-- What a call may rely on. -/
def Fits (s : Backend) : Call → Prop
  | .cacheGet tokenID after => s.hasCache = true ∧ (after = true → tokenID ∈ s.returned)
  | .dbGet tokenID after => after = true → tokenID ∈ s.returned
  | .cacheSet _ status after => after = true → status ≠ .active
  | .checked _ after (.ok status) => after = true → status ≠ .active
  | .invalidate tokenID => Dead s.table s.now tokenID
  | _ => True

structure Inv (s : Backend) : Prop where
  dead : ∀ tokenID ∈ s.returned, Dead s.table s.now tokenID
  clean : s.hasCache = true →
    ∀ tokenID ∈ s.returned, ∀ e, s.lookup tokenID = some e → e.status ≠ .active
  calls : ∀ n, Fits s (s.call n)

theorem Fits.mono {s : Backend} {x : Call} (h : Fits s x) (s' : Backend)
    (hcache : s'.hasCache = s.hasCache) (hret : ∀ tokenID ∈ s.returned, tokenID ∈ s'.returned)
    (hdead : ∀ tokenID, Dead s.table s.now tokenID → Dead s'.table s'.now tokenID) : Fits s' x := by
  cases x with
  | cacheGet tokenID after => exact ⟨hcache.trans h.1, fun ha => hret _ (h.2 ha)⟩
  | dbGet tokenID after => exact fun ha => hret _ (h ha)
  | cacheSet tokenID status after => exact h
  | checked tokenID after result =>
    cases result with
    | ok status => exact h
    | error e => trivial
  | invalidate tokenID => exact hdead _ h
  | _ => trivial

/-- A call goes on with registry and cache as they are. -/
theorem Inv.move {s : Backend} (h : Inv s) {n : Nat} {x : Call} (hx : Fits s x) :
    Inv (s.setCall n x) := by
  refine ⟨h.dead, h.clean, fun m => ?_⟩
  by_cases hmn : m = n
  · subst m
    simpa [setCall, Fits] using hx
  · have hm := h.calls m
    simpa [setCall, hmn] using hm.mono (s.setCall n x) rfl (fun _ hr => hr) (fun _ hd => hd)

/-- A statement that keeps dead tokens dead. -/
theorem Inv.stored {s : Backend} (h : Inv s) {t : TokenTable}
    (hdead : ∀ tokenID, Dead s.table s.now tokenID → Dead t s.now tokenID) :
    Inv { s with table := t } :=
  ⟨fun tokenID hr => hdead tokenID (h.dead tokenID hr), h.clean,
    fun n => (h.calls n).mono { s with table := t } rfl (fun _ hr => hr) hdead⟩

theorem lookup_later {s : Backend} {elapsed : Nat} {tokenID : String} {e : CacheEntry}
    (h : ({ s with now := s.now + elapsed } : Backend).lookup tokenID = some e) :
    s.lookup tokenID = some e := by
  obtain ⟨hget, hlive⟩ := Option.filter_eq_some_iff.mp h
  refine Option.filter_eq_some_iff.mpr ⟨hget, ?_⟩
  unfold CacheEntry.live at hlive ⊢
  split
  next deadline hd =>
    simp only [hd, decide_eq_true_eq] at hlive ⊢
    exact Int.lt_of_le_of_lt (Int.le_add_of_nonneg_right (Int.natCast_nonneg elapsed)) hlive
  next => rfl

theorem Inv.tick {s : Backend} (h : Inv s) (elapsed : Nat) :
    Inv { s with now := s.now + elapsed } := by
  have hle : s.now ≤ s.now + elapsed := Int.le_add_of_nonneg_right (Int.natCast_nonneg elapsed)
  exact ⟨fun tokenID hr => (h.dead tokenID hr).later hle,
    fun hc tokenID hr e he => h.clean hc tokenID hr e (lookup_later he),
    fun n => (h.calls n).mono { s with now := s.now + elapsed } rfl (fun _ hr => hr)
      (fun _ hd => hd.later hle)⟩

theorem Inv.drop {s : Backend} (h : Inv s) (fault : Fault) (tokenID : String) :
    Inv (reaching fault s (s.invalidateToken tokenID)) := by
  have hdropped : Inv (s.invalidateToken tokenID) := by
    refine ⟨h.dead, fun hc tok hr e he => ?_,
      fun n => (h.calls n).mono (s.invalidateToken tokenID) rfl (fun _ hr => hr) (fun _ hd => hd)⟩
    by_cases htok : tok = tokenID
    · subst tok
      simp [lookup, invalidateToken] at he
    · exact h.clean hc tok hr e (by simpa [lookup, invalidateToken, htok] using he)
  cases fault with
  | unapplied => exact h
  | none => exact hdropped
  | applied => exact hdropped

/-- Storing a status: of a token that `RevokeToken` has returned for, only one that is not active. -/
theorem Inv.set {s : Backend} (h : Inv s) (fault : Fault) {tokenID : String} {status : TokenStatus}
    (hok : status = .active → tokenID ∈ s.returned → fault = .unapplied) :
    Inv (reaching fault s (s.setTokenStatus tokenID status)) := by
  by_cases hf : fault = .unapplied
  · subst fault
    exact h
  · have hset : Inv (s.setTokenStatus tokenID status) := by
      refine ⟨h.dead, fun hc tok hr e he => ?_,
        fun n => (h.calls n).mono (s.setTokenStatus tokenID status) rfl (fun _ hr => hr)
          (fun _ hd => hd)⟩
      by_cases htok : tok = tokenID
      · subst tok
        have hstatus : e.status = status := by
          obtain ⟨hget, _⟩ := Option.filter_eq_some_iff.mp he
          simp only [setTokenStatus, Function.update_self, Option.some.injEq] at hget
          rw [← hget]
          rfl
        rw [hstatus]
        exact fun ha => hf (hok ha hr)
      · exact h.clean hc tok hr e (by simpa [lookup, setTokenStatus, htok] using he)
    cases fault with
    | unapplied => exact absurd rfl hf
    | none => exact hset
    | applied => exact hset

/-- `RevokeToken` returns: the registry has the token revoked and the cache nothing active. -/
theorem Inv.returns {s : Backend} (h : Inv s) {tokenID : String} (hdead : Dead s.table s.now tokenID)
    (hclean : s.hasCache = true → ∀ e, s.lookup tokenID = some e → e.status ≠ .active) (n : Nat) :
    Inv ({ s with returned := tokenID :: s.returned }.setCall n (.revoked (.ok ()))) := by
  have hret : Inv { s with returned := tokenID :: s.returned } := by
    refine ⟨fun tok hr => ?_, fun hc tok hr e he => ?_,
      fun m => (h.calls m).mono { s with returned := tokenID :: s.returned } rfl
        (fun _ hr => List.mem_cons_of_mem _ hr) (fun _ hd => hd)⟩
    · rcases List.mem_cons.mp hr with rfl | hr
      · exact hdead
      · exact h.dead tok hr
    · rcases List.mem_cons.mp hr with rfl | hr
      · exact hclean hc e he
      · exact h.clean hc tok hr e he
  exact hret.move (x := .revoked (.ok ())) trivial

theorem dead_of_revoke {t : TokenTable} {tokenID reason : String} {now : Time}
    (h : (Tokens.revoke t tokenID reason now).2 = .ok ()) :
    Dead (Tokens.revoke t tokenID reason now).1 now tokenID := by
  have hany : t.rows.any (revocable tokenID) = true := by
    by_contra hn
    simp [Tokens.revoke, hn] at h
  obtain ⟨r, hr, hp⟩ := List.any_eq_true.mp hany
  have htok : r.tokenID = tokenID := by
    simp only [revocable, Bool.and_eq_true, decide_eq_true_eq] at hp
    exact hp.1
  refine ⟨revokedRow reason now r, ?_, htok, .inl (by simp [revokedRow])⟩
  rw [Tokens.revoke, Table.rows_updateWhere]
  exact List.mem_map.mpr ⟨r, hr, if_pos hp⟩

theorem Inv.cacheGet {s s' : Backend} (h : Inv s) {n : Nat} {fails : Bool}
    (hs : s.step (.cacheGet n fails) = some s') : Inv s' := by
  obtain ⟨tokenID, after, hn, hcase⟩ := step_cacheGet hs
  have hafter : Fits s (.cacheGet tokenID after) := hn ▸ h.calls n
  rcases hcase with ⟨cached, hlook, rfl⟩ | rfl
  · exact h.move (x := .checked tokenID after (.ok cached.status))
      (fun ha => h.clean hafter.1 tokenID (hafter.2 ha) cached hlook)
  · exact h.move (x := .dbGet tokenID after) hafter.2

theorem Inv.dbGet {s s' : Backend} (h : Inv s) {n : Nat} {failure : Option DbError}
    (hs : s.step (.dbGet n failure) = some s') : Inv s' := by
  obtain ⟨tokenID, after, hn, hcase⟩ := step_dbGet hs
  have hafter : Fits s (.dbGet tokenID after) := hn ▸ h.calls n
  have hread : after = true → getStatus s.table s.now tokenID ≠ .active := fun ha =>
    getStatus_ne_active_iff.mpr (h.dead tokenID (hafter ha))
  rcases hcase with ⟨e, rfl⟩ | rfl | rfl
  · exact h.move (x := .checked _ _ (.error _)) trivial
  · exact h.move (x := .cacheSet _ _ _) hread
  · exact h.move (x := .checked _ _ (.ok _)) hread

theorem Inv.dbRevoke {s s' : Backend} (h : Inv s) {n : Nat} {fault : Fault}
    (hs : s.step (.dbRevoke n fault) = some s') : Inv s' := by
  obtain ⟨tokenID, reason, hn, hcase⟩ := step_dbRevoke hs
  have hstored := h.stored (fun _ hd => hd.revoke tokenID reason)
  rcases hcase with ⟨hok, rfl⟩ | ⟨e, rfl⟩ | ⟨e, rfl⟩
  · have hdead := dead_of_revoke hok
    unfold revokedInDb
    split
    next => exact hstored.move (x := .invalidate tokenID) hdead
    next hcache => exact hstored.returns hdead (fun hc => absurd hc hcache) n
  · exact hstored.move (x := .revoked _) trivial
  · exact h.move (x := .revoked _) trivial

theorem Inv.invalidate {s s' : Backend} (h : Inv s) {n : Nat} {fault : Fault}
    (ha : Timely s (.invalidate n fault)) (hs : s.step (.invalidate n fault) = some s') : Inv s' := by
  obtain ⟨tokenID, hn, rfl⟩ := step_invalidate hs
  have hdead : Dead s.table s.now tokenID := by
    have hfits : Fits s (.invalidate tokenID) := hn ▸ h.calls n
    exact hfits
  have hdropped := h.drop fault tokenID
  cases fault with
  | unapplied => exact h.returns hdead (fun _ => ha tokenID hn rfl) n
  | none => exact hdropped.returns hdead (fun _ e he => by simp [reaching, lookup, invalidateToken] at he) n
  | applied =>
    exact hdropped.returns hdead (fun _ e he => by simp [reaching, lookup, invalidateToken] at he) n

theorem Inv.dbRevokeAll {s s' : Backend} (h : Inv s) {n : Nat} {fault : Fault}
    (hs : s.step (.dbRevokeAll n fault) = some s') : Inv s' := by
  obtain ⟨subjectID, reason, tokenIDs, _, hcase⟩ := step_dbRevokeAll hs
  have hstored := h.stored (fun _ hd => hd.revokeBySubjectID subjectID reason)
  rcases hcase with ⟨_, rfl⟩ | ⟨e, moved, rfl⟩ | ⟨e, rfl⟩
  · unfold revokedAllInDb
    split
    next => exact hstored.move (x := .revokedAll _ _ _) trivial
    next => exact hstored.move (x := .invalidateAll _ _ _) trivial
  · exact hstored.move (x := .revokedAll _ _ _) trivial
  · exact h.move (x := .revokedAll _ _ _) trivial

/-- Every step keeps the invariant but for an invalidation that is lost and a status that is stored too
late. -/
theorem Inv.step {s s' : Backend} {a : Backend.Action} (h : Inv s) (ha : Timely s a)
    (hs : s.step a = some s') : Inv s' := by
  cases a with
  | tick elapsed => cases Option.some.inj hs; exact h.tick elapsed
  | create record id => cases Option.some.inj hs; exact h.stored (fun _ hd => hd.create record id)
  | updateVerificationCount tokenID =>
    cases Option.some.inj hs
    exact h.stored (fun _ hd => hd.updateVerificationCount tokenID)
  | check n tokenID =>
    have hret : decide (tokenID ∈ s.returned) = true → tokenID ∈ s.returned := of_decide_eq_true
    rcases step_check hs with ⟨hc, rfl⟩ | rfl
    · exact h.move (x := .cacheGet _ _) ⟨hc, hret⟩
    · exact h.move (x := .dbGet _ _) hret
  | cacheGet n fails => exact h.cacheGet hs
  | dbGet n failure => exact h.dbGet hs
  | cacheSet n fault =>
    obtain ⟨tokenID, status, after, hn, rfl⟩ := step_cacheSet hs
    have hstatus : Fits s (.cacheSet tokenID status after) := hn ▸ h.calls n
    have hset := h.set fault (fun hactive hr => ha tokenID after (hactive ▸ hn) hr)
    exact hset.move (x := .checked tokenID after (.ok status)) hstatus
  | revokeToken n tokenID reason =>
    rw [step_revokeToken hs]
    exact h.move (x := .dbRevoke _ _) trivial
  | dbRevoke n fault => exact h.dbRevoke hs
  | invalidate n fault => exact h.invalidate ha hs
  | revokeBySubjectID n subjectID reason =>
    rcases step_revokeBySubjectID hs with rfl | rfl
    · exact h.move (x := .list _ _) trivial
    · exact h.move (x := .dbRevokeAll _ _ _) trivial
  | list n records =>
    obtain ⟨subjectID, reason, tokenIDs, _, rfl⟩ := step_list hs
    exact h.move (x := .dbRevokeAll _ _ _) trivial
  | dbRevokeAll n fault => exact h.dbRevokeAll hs
  | invalidateNext n fault =>
    rcases step_invalidateNext hs with ⟨moved, cleared, _, rfl⟩ | ⟨tokenID, rest, moved, cleared, _, rfl⟩
    · exact h.move (x := .revokedAll _ _ _) trivial
    · exact (h.drop fault tokenID).move (x := .invalidateAll _ _ _) trivial

theorem Inv.start (t : TokenTable) (hasCache : Bool) (cacheTTL : Int) (now : Time) :
    Inv (Backend.start t hasCache cacheTTL now) := by
  refine ⟨fun _ hr => ?_, fun _ _ hr => ?_, fun _ => trivial⟩
  · cases hr
  · cases hr

theorem Inv.honoured {s : Backend} (h : Inv s) : Honoured s := by
  intro n tokenID status hn
  have hfits : Fits s (.checked tokenID true (.ok status)) := hn ▸ h.calls n
  exact hfits rfl

/-- In any interleaving of checks, revocations and token creation whose invalidations reach the cache
and whose checks store nothing stale, a revocation that has returned is honoured by every later check. -/
theorem revocation_honoured {t : TokenTable} {hasCache : Bool} {cacheTTL : Int} {now : Time} {s : Backend}
    (hreach : Transition.Reach Backend.step Timely (Backend.start t hasCache cacheTTL now) s) :
    Honoured s := by
  have hinv : Inv s := hreach.invariant (Inv.start t hasCache cacheTTL now)
    (fun _ _ _ h ha hs => Inv.step h ha hs)
  exact hinv.honoured

/-- The token of user 9, stored. -/
def sampleTable : TokenTable := ⟨[createdRow sampleRecord 1 0], List.pairwise_singleton _ _⟩

/-- A token is revoked, and the check that follows finds it so in the registry. -/
theorem revocation_honoured_sample :
    ∃ s, Transition.Reach Backend.step Timely (Backend.start sampleTable true 0 0) s ∧
      s.call 1 = .checked "jti-1" true (.ok .revoked) ∧ Honoured s := by
  have hrun : (Transition.exec Backend.step (Backend.start sampleTable true 0 0)
      [.revokeToken 0 "jti-1" "compromised", .dbRevoke 0 .none, .invalidate 0 .none,
        .check 1 "jti-1", .cacheGet 1 false, .dbGet 1 none]).map (fun s => s.call 1) =
      some (.cacheSet "jti-1" .revoked true) := by
    decide
  obtain ⟨s, hs, hcall⟩ := Option.map_eq_some_iff.mp hrun
  have hreach : Transition.Reach Backend.step Timely (Backend.start sampleTable true 0 0) s := by
    refine Transition.reach_of_exec_of hs (fun s a ha => ?_)
    simp only [List.mem_cons, List.not_mem_nil, or_false] at ha
    rcases ha with rfl | rfl | rfl | rfl | rfl | rfl
    · trivial
    · trivial
    · exact fun _ _ hfault => by cases hfault
    · trivial
    · trivial
    · trivial
  have htimely : Timely s (.cacheSet 1 .none) := by
    intro tokenID after hn
    rw [hcall] at hn
    cases hn
  have hstep : Backend.step s (.cacheSet 1 .none) =
      some ((s.setTokenStatus "jti-1" .revoked).setCall 1 (.checked "jti-1" true (.ok .revoked))) := by
    simp only [Backend.step, hcall]
    rfl
  have hlast := hreach.next htimely hstep
  exact ⟨_, hlast, by simp [setCall], revocation_honoured hlast⟩

/-- A check reads the registry before the revocation and stores what it read after it: the next check
finds the token active in the cache. -/
theorem stale_cache_counterexample :
    ∃ s, Transition.Reach Backend.step Transition.anyStep (Backend.start sampleTable true 0 0) s ∧
      s.call 1 = .revoked (.ok ()) ∧ s.call 2 = .checked "jti-1" true (.ok .active) ∧ ¬Honoured s := by
  have hrun : (Transition.exec Backend.step (Backend.start sampleTable true 0 0)
      [.check 0 "jti-1", .cacheGet 0 false, .dbGet 0 none, .revokeToken 1 "jti-1" "compromised",
        .dbRevoke 1 .none, .invalidate 1 .none, .cacheSet 0 .none, .check 2 "jti-1",
        .cacheGet 2 false]).map (fun s => (s.call 1, s.call 2)) =
      some (.revoked (.ok ()), .checked "jti-1" true (.ok .active)) := by
    decide
  obtain ⟨s, hs, hend⟩ := Option.map_eq_some_iff.mp hrun
  obtain ⟨hrevoked, hchecked⟩ := Prod.mk.inj hend
  refine ⟨s, Transition.reach_of_exec hs, hrevoked, hchecked, fun h => ?_⟩
  exact h 2 "jti-1" .active hchecked rfl

end SupplyPlatform.Tokens.Backend
