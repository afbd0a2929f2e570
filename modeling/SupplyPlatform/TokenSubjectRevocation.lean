import SupplyPlatform.TokenRevocation

namespace SupplyPlatform.Tokens.Backend

open Relational

/-- When `RevokeBySubjectID` has returned nil, the cache entry of every token it has revoked in the
registry was deleted after that. -/
def Cleared (s : Backend) : Prop :=
  ∀ n moved cleared, s.call n = .revokedAll (.ok ()) moved cleared → s.hasCache = true →
    ∀ tokenID ∈ moved, tokenID ∈ cleared

/-- The list a `RevokeBySubjectID` has made beforehand has every token its UPDATE is about to revoke,
and its deletions of these reach the cache. -/
def Covered (s : Backend) : Backend.Action → Prop
  | .dbRevokeAll n fault => fault = .none →
      ∀ subjectID reason tokenIDs, s.call n = .dbRevokeAll subjectID reason tokenIDs →
      s.hasCache = true → ∀ r ∈ s.table.rows, activeOf subjectID r → r.tokenID ∈ tokenIDs
  | .invalidateNext n fault => ∀ tokenID rest moved cleared,
      s.call n = .invalidateAll (tokenID :: rest) moved cleared → tokenID ∈ moved → fault ≠ .unapplied
  | _ => True

/-- Every revoked token has its entry deleted or has still to have it deleted. -/
def Clearing (hasCache : Bool) : Call → Prop
  | .invalidateAll tokenIDs moved cleared => ∀ tokenID ∈ moved, tokenID ∈ cleared ∨ tokenID ∈ tokenIDs
  | .revokedAll (.ok ()) moved cleared => hasCache = true → ∀ tokenID ∈ moved, tokenID ∈ cleared
  | _ => True

def AllClearing (s : Backend) : Prop := ∀ n, Clearing s.hasCache (s.call n)

/-- A listing has the subject's tokens that are active and not past their expiry, no others: one that is
past it is still active for the UPDATE. -/
theorem mem_listed {t : TokenTable} {subjectID : Int} {now : Time} {records : List TokenStatusRecord}
    (h : ListActiveBySubjectID t subjectID now records) {r : TokenStatusRecord} :
    r ∈ records ↔ r ∈ t.rows ∧ activeOf subjectID r ∧ now < r.expiresAt := by
  rw [Table.Answers.mem_iff h]
  simp [listed, activeOf]

/-- Even an UPDATE right after its listing stays within the list only when no active token of the
subject is past its expiry. -/
theorem listing_covers_iff {t : TokenTable} {subjectID : Int} {now : Time}
    {records : List TokenStatusRecord} (h : ListActiveBySubjectID t subjectID now records) :
    (∀ r ∈ t.rows, activeOf subjectID r → r.tokenID ∈ records.map (·.tokenID)) ↔
      ∀ r ∈ t.rows, activeOf subjectID r → now < r.expiresAt := by
  constructor
  · intro hcover r hr hactive
    obtain ⟨q, hq, htok⟩ := List.mem_map.mp (hcover r hr hactive)
    obtain ⟨hqrow, _, hlive⟩ := (mem_listed h).mp hq
    have heq : q = r := row_eq_of_token hqrow hr htok
    rwa [heq] at hlive
  · intro hlive r hr hactive
    exact List.mem_map.mpr ⟨r, (mem_listed h).mpr ⟨hr, hactive, hlive r hr hactive⟩, rfl⟩

theorem AllClearing.move {s : Backend} (h : AllClearing s) {n : Nat} {x : Call}
    (hx : Clearing s.hasCache x) : AllClearing (s.setCall n x) := by
  intro m
  by_cases hmn : m = n
  · subst m
    simpa [setCall] using hx
  · simpa [setCall, hmn] using h m

theorem AllClearing.reaching {s s' : Backend} (h : AllClearing s) (hs : AllClearing s') (fault : Fault) :
    AllClearing (Backend.reaching fault s s') := by
  cases fault with
  | unapplied => exact h
  | none => exact hs
  | applied => exact hs

/-- `RevokeBySubjectID` after its UPDATE: what it has listed covers what it has revoked. -/
theorem AllClearing.revokedAllInDb {s : Backend} (h : AllClearing s) (n : Nat)
    {tokenIDs moved : List String} {count : Nat} (hcount : count = 0 → moved = [])
    (hcover : s.hasCache = true → ∀ tokenID ∈ moved, tokenID ∈ tokenIDs) :
    AllClearing (s.revokedAllInDb n tokenIDs moved count) := by
  unfold Backend.revokedAllInDb
  split
  next hdone =>
    refine h.move (x := .revokedAll (.ok ()) moved []) (fun hc tokenID hmem => ?_)
    rcases hdone with hzero | hnone
    · rw [hcount hzero] at hmem
      cases hmem
    · exact absurd hc hnone
  next hdone =>
    have hc : s.hasCache = true := by
      by_contra hn
      exact hdone (.inr hn)
    exact h.move (x := .invalidateAll tokenIDs moved []) (fun tokenID hmem => .inr (hcover hc tokenID hmem))

theorem mem_movedBy {t : TokenTable} {subjectID : Int} {tokenID : String}
    (h : tokenID ∈ movedBy t subjectID) :
    ∃ r ∈ t.rows, activeOf subjectID r ∧ r.tokenID = tokenID := by
  obtain ⟨r, hr, htok⟩ := List.mem_map.mp h
  obtain ⟨hmem, hactive⟩ := List.mem_filter.mp hr
  exact ⟨r, hmem, hactive, htok⟩

theorem movedBy_of_count {t : TokenTable} {subjectID : Int} {reason : String} {now : Time}
    (h : (Tokens.revokeBySubjectID t subjectID reason now).2 = 0) : movedBy t subjectID = [] := by
  have hnone : t.rows.filter (activeOf subjectID) = [] := by
    rw [← List.length_eq_zero_iff, ← List.countP_eq_length_filter]
    exact h
  simp [movedBy, hnone]

theorem AllClearing.dbRevokeAll {s s' : Backend} (h : AllClearing s) {n : Nat} {fault : Fault}
    (ha : Covered s (.dbRevokeAll n fault)) (hs : s.step (.dbRevokeAll n fault) = some s') :
    AllClearing s' := by
  obtain ⟨subjectID, reason, tokenIDs, hn, hcase⟩ := step_dbRevokeAll hs
  have hstored : ∀ t, AllClearing { s with table := t } := fun _ => h
  rcases hcase with ⟨hfault, rfl⟩ | ⟨e, moved, rfl⟩ | ⟨e, rfl⟩
  · refine (hstored _).revokedAllInDb n movedBy_of_count (fun hc tokenID hmem => ?_)
    obtain ⟨r, hrow, hactive, rfl⟩ := mem_movedBy hmem
    exact ha hfault subjectID reason tokenIDs hn hc r hrow hactive
  · exact (hstored _).move (x := .revokedAll (.error _) _ _) trivial
  · exact h.move (x := .revokedAll (.error _) _ _) trivial

theorem AllClearing.invalidateNext {s s' : Backend} (h : AllClearing s) {n : Nat} {fault : Fault}
    (ha : Covered s (.invalidateNext n fault)) (hs : s.step (.invalidateNext n fault) = some s') :
    AllClearing s' := by
  rcases step_invalidateNext hs with ⟨moved, cleared, hn, rfl⟩ | ⟨tokenID, rest, moved, cleared, hn, rfl⟩
  · have hdone : Clearing s.hasCache (.invalidateAll [] moved cleared) := hn ▸ h n
    refine h.move (x := .revokedAll (.ok ()) moved cleared) (fun _ tok hmem => ?_)
    rcases hdone tok hmem with hcleared | hleft
    · exact hcleared
    · cases hleft
  · have hrest : Clearing s.hasCache (.invalidateAll (tokenID :: rest) moved cleared) := hn ▸ h n
    have hdropped : AllClearing (s.invalidateToken tokenID) := h
    refine (h.reaching hdropped fault).move (x := .invalidateAll rest moved _) (fun tok hmem => ?_)
    rcases hrest tok hmem with hdone | hleft
    · left
      split
      · exact hdone
      · exact List.mem_cons_of_mem _ hdone
    · rcases List.mem_cons.mp hleft with rfl | hleft
      · left
        rw [if_neg (ha tok rest moved cleared hn hmem)]
        exact List.mem_cons_self
      · exact .inr hleft

/-- Every step keeps `Clearing` but for an UPDATE that goes past its list and a deletion that is lost. -/
theorem AllClearing.step {s s' : Backend} {a : Backend.Action} (h : AllClearing s) (ha : Covered s a)
    (hs : s.step a = some s') : AllClearing s' := by
  cases a with
  | tick elapsed => cases Option.some.inj hs; exact h
  | create record id => cases Option.some.inj hs; exact h
  | updateVerificationCount tokenID => cases Option.some.inj hs; exact h
  | check n tokenID =>
    rcases step_check hs with ⟨_, rfl⟩ | rfl
    · exact h.move (x := .cacheGet _ _) trivial
    · exact h.move (x := .dbGet _ _) trivial
  | cacheGet n fails =>
    obtain ⟨tokenID, after, _, ⟨cached, _, rfl⟩ | rfl⟩ := step_cacheGet hs
    · exact h.move (x := .checked _ _ _) trivial
    · exact h.move (x := .dbGet _ _) trivial
  | dbGet n failure =>
    obtain ⟨tokenID, after, _, ⟨e, rfl⟩ | rfl | rfl⟩ := step_dbGet hs
    · exact h.move (x := .checked _ _ _) trivial
    · exact h.move (x := .cacheSet _ _ _) trivial
    · exact h.move (x := .checked _ _ _) trivial
  | cacheSet n fault =>
    obtain ⟨tokenID, status, after, _, rfl⟩ := step_cacheSet hs
    have hset : AllClearing (s.setTokenStatus tokenID status) := h
    exact (h.reaching hset fault).move (x := .checked _ _ _) trivial
  | revokeToken n tokenID reason =>
    rw [step_revokeToken hs]
    exact h.move (x := .dbRevoke _ _) trivial
  | dbRevoke n fault =>
    obtain ⟨tokenID, reason, _, hcase⟩ := step_dbRevoke hs
    have hstored : ∀ t returned, AllClearing { s with table := t, returned := returned } := fun _ _ => h
    rcases hcase with ⟨_, rfl⟩ | ⟨e, rfl⟩ | ⟨e, rfl⟩
    · unfold revokedInDb
      split
      next => exact (hstored _ s.returned).move (x := .invalidate _) trivial
      next => exact (hstored _ (tokenID :: s.returned)).move (x := .revoked _) trivial
    · exact (hstored _ s.returned).move (x := .revoked _) trivial
    · exact h.move (x := .revoked _) trivial
  | invalidate n fault =>
    obtain ⟨tokenID, _, rfl⟩ := step_invalidate hs
    have hdropped : AllClearing (s.invalidateToken tokenID) := h
    have hret : AllClearing { Backend.reaching fault s (s.invalidateToken tokenID) with
        returned := tokenID :: s.returned } := h.reaching hdropped fault
    exact hret.move (x := .revoked _) trivial
  | revokeBySubjectID n subjectID reason =>
    rcases step_revokeBySubjectID hs with rfl | rfl
    · exact h.move (x := .list _ _) trivial
    · exact h.move (x := .dbRevokeAll _ _ _) trivial
  | list n records =>
    obtain ⟨subjectID, reason, tokenIDs, _, rfl⟩ := step_list hs
    exact h.move (x := .dbRevokeAll _ _ _) trivial
  | dbRevokeAll n fault => exact h.dbRevokeAll ha hs
  | invalidateNext n fault => exact h.invalidateNext ha hs

theorem AllClearing.cleared {s : Backend} (h : AllClearing s) : Cleared s := by
  intro n moved cleared hn
  have hclearing : Clearing s.hasCache (.revokedAll (.ok ()) moved cleared) := hn ▸ h n
  exact hclearing

/-- In any interleaving in which every `RevokeBySubjectID` has listed what it revokes and its deletions
reach the cache, one that returns nil has deleted the entry of every token it has revoked. -/
theorem subject_revocation_cleared {t : TokenTable} {hasCache : Bool} {cacheTTL : Int} {now : Time}
    {s : Backend}
    (hreach : Transition.Reach Backend.step Covered (Backend.start t hasCache cacheTTL now) s) :
    Cleared s := by
  have hclearing : AllClearing s := hreach.invariant (I := AllClearing) (fun _ => trivial)
    (fun _ _ _ h ha hs => AllClearing.step h ha hs)
  exact hclearing.cleared

/-- The tokens of user 9 are revoked: the list has the only one, and its entry is deleted. -/
theorem subject_revocation_cleared_sample :
    ∃ s, Transition.Reach Backend.step Covered (Backend.start sampleTable true 0 0) s ∧
      s.call 0 = .revokedAll (.ok ()) ["jti-1"] ["jti-1"] ∧ Cleared s := by
  have hlisted : (Transition.exec Backend.step (Backend.start sampleTable true 0 0)
      [.revokeBySubjectID 0 9 "left", .list 0 (some sampleTable.rows)]).map
        (fun s => (s.call 0, s.table.rows)) =
      some (.dbRevokeAll 9 "left" ["jti-1"], sampleTable.rows) := by
    decide
  obtain ⟨s, hs, hend⟩ := Option.map_eq_some_iff.mp hlisted
  obtain ⟨hcall, hrows⟩ := Prod.mk.inj hend
  have hreach : Transition.Reach Backend.step Covered (Backend.start sampleTable true 0 0) s := by
    refine Transition.reach_of_exec_of hs (fun s a ha => ?_)
    simp only [List.mem_cons, List.not_mem_nil, or_false] at ha
    rcases ha with rfl | rfl
    · trivial
    · trivial
  have hcovered : Covered s (.dbRevokeAll 0 .none) := by
    intro _ subjectID reason tokenIDs hn _ r hr _
    rw [hcall] at hn
    cases hn
    rw [hrows] at hr
    rw [List.mem_singleton.mp hr]
    exact List.mem_cons_self
  have hrun : (Transition.exec Backend.step s
      [.dbRevokeAll 0 .none, .invalidateNext 0 .none, .invalidateNext 0 .none]).map
        (fun s => s.call 0) = some (.revokedAll (.ok ()) ["jti-1"] ["jti-1"]) := by
    cases Option.some.inj hs
    decide
  obtain ⟨u, hu, hdone⟩ := Option.map_eq_some_iff.mp hrun
  obtain ⟨v, hupdate, hrest⟩ := Option.bind_eq_some_iff.mp hu
  have hrevoked := hreach.next hcovered hupdate
  have hlast : Transition.Reach Backend.step Covered v u := by
    refine Transition.reach_of_exec_of hrest (fun s a ha => ?_)
    simp only [List.mem_cons, List.not_mem_nil, or_false, or_self] at ha
    subst a
    exact fun _ _ _ _ _ _ hfault => by cases hfault
  have hall := hrevoked.trans hlast
  exact ⟨u, hall, hdone, subject_revocation_cleared hall⟩

/-- A check has the token active in the cache; then the listing fails, the UPDATE revokes the token all
the same and nothing is deleted: the next check still finds it active. -/
theorem listing_failed_counterexample :
    ∃ s, Transition.Reach Backend.step Transition.anyStep (Backend.start sampleTable true 0 0) s ∧
      s.call 1 = .revokedAll (.ok ()) ["jti-1"] [] ∧ s.call 2 = .checked "jti-1" false (.ok .active) ∧
      ¬Cleared s := by
  have hrun : (Transition.exec Backend.step (Backend.start sampleTable true 0 0)
      [.check 0 "jti-1", .cacheGet 0 false, .dbGet 0 none, .cacheSet 0 .none,
        .revokeBySubjectID 1 9 "left", .list 1 none, .dbRevokeAll 1 .none, .invalidateNext 1 .none,
        .check 2 "jti-1", .cacheGet 2 false]).map (fun s => (s.hasCache, s.call 1, s.call 2)) =
      some (true, .revokedAll (.ok ()) ["jti-1"] [], .checked "jti-1" false (.ok .active)) := by
    decide
  obtain ⟨s, hs, hend⟩ := Option.map_eq_some_iff.mp hrun
  obtain ⟨hcache, hend⟩ := Prod.mk.inj hend
  obtain ⟨hrevoked, hchecked⟩ := Prod.mk.inj hend
  refine ⟨s, Transition.reach_of_exec hs, hrevoked, hchecked, fun h => ?_⟩
  have hmem := h 1 ["jti-1"] [] hrevoked hcache "jti-1" List.mem_cons_self
  cases hmem

end SupplyPlatform.Tokens.Backend
