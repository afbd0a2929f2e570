import SupplyPlatform.TokenRuntimeStep

namespace SupplyPlatform.TokenRuntime

open InMemoryRuntimeStore Maps Transition

variable {st : InMemoryRuntimeStore} {calls : Nat → Option Candidate} {drawn : List (String × String)}
  {issued : List Issued} {c : Candidate} {id : String} {r : TokenRecord}

/-- The three maps fit together. -/
structure StoreConsistent (st : InMemoryRuntimeStore) : Prop where
  owned : ∀ id r, st.records.lookup id = some r →
    r.tokenID = id ∧ st.tokenToID.lookup r.accessToken = some id
  carried : ∀ accessToken id, st.tokenToID.lookup accessToken = some id →
    ∃ r, st.records.lookup id = some r ∧ r.accessToken = accessToken
  entries : ∀ key entry, st.idempotencyByKey.lookup key = some entry →
    ∃ r, st.records.lookup entry.tokenID = some r

/-- The candidates of the calls in flight are apart from each other and from what is stored. -/
structure PendingFresh (st : InMemoryRuntimeStore) (calls : Nat → Option Candidate)
    (drawn : List (String × String)) : Prop where
  pending : ∀ n c, calls n = some c → (c.record.tokenID, c.record.accessToken) ∈ drawn
  stored : ∀ id r, st.records.lookup id = some r → (id, r.accessToken) ∈ drawn
  fresh : ∀ n c, calls n = some c → st.records.lookup c.record.tokenID = none ∧
    st.tokenToID.lookup c.record.accessToken = none
  apart : ∀ n m c d, calls n = some c → calls m = some d → n ≠ m →
    c.record.tokenID ≠ d.record.tokenID ∧ c.record.accessToken ≠ d.record.accessToken

/-- What was returned under a key stands under it, and every token was issued once. -/
structure IssuedStored (st : InMemoryRuntimeStore) (issued : List Issued) : Prop where
  keyed : ∀ x ∈ issued, x.key ≠ "" → ∃ entry r, st.idempotencyByKey.lookup x.key = some entry ∧
    entry.tokenID = x.tokenID ∧ st.records.lookup x.tokenID = some r ∧ r.accessToken = x.accessToken
  count : st.tokenCount = (issued.filter (fun x => !x.replayed)).length

namespace InMemoryRuntimeStore

theorem lookup_write_some {id' : String} {r' r'' : TokenRecord} (found : st.records.lookup id = some r)
    (same : SameToken r r') (hr : (st.write id r').records.lookup id' = some r'') :
    ∃ r₁, st.records.lookup id' = some r₁ ∧ SameToken r₁ r'' := by
  rcases lookup_insert_cases hr with ⟨rfl, rfl⟩ | ⟨-, hold⟩
  · exact ⟨r, found, same⟩
  · exact ⟨r'', hold, rfl⟩

theorem lookup_write_exists {id' : String} {r' r₁ : TokenRecord} (found : st.records.lookup id = some r)
    (same : SameToken r r') (hr : st.records.lookup id' = some r₁) :
    ∃ r'', (st.write id r').records.lookup id' = some r'' ∧ SameToken r₁ r'' := by
  refine exists_lookup_insert ⟨r₁, hr, rfl⟩ (fun hid => ?_)
  subst hid
  cases Option.some.inj (found.symm.trans hr)
  exact same

theorem lookup_write_none {id' : String} {r' : TokenRecord} (found : st.records.lookup id = some r)
    (hr : st.records.lookup id' = none) : (st.write id r').records.lookup id' = none := by
  have hid : id' ≠ id := by
    rintro rfl
    rw [hr] at found
    cases found
  exact (Finmap.lookup_insert_of_ne _ hid).trans hr

theorem keys_insert (m : GoMap TokenRecord) (id : String) (r : TokenRecord) :
    (m.insert id r).keys = insert id m.keys := by
  ext x
  rw [Finmap.mem_keys, Finmap.mem_insert, Finset.mem_insert, Finmap.mem_keys]

theorem tokenCount_write {r' : TokenRecord} (found : st.records.lookup id = some r) :
    (st.write id r').tokenCount = st.tokenCount := by
  have hmem : id ∈ st.records.keys := Finmap.mem_keys.mpr (Finmap.mem_iff.mpr ⟨r, found⟩)
  unfold tokenCount write
  rw [keys_insert, Finset.insert_eq_of_mem hmem]

theorem tokenCount_save {key hash : String} (h : st.records.lookup r.tokenID = none) :
    (st.save r key hash).tokenCount = st.tokenCount + 1 := by
  have hmem : r.tokenID ∉ st.records.keys := by
    intro hin
    obtain ⟨r₁, hr₁⟩ := Finmap.mem_iff.mp (Finmap.mem_keys.mp hin)
    rw [h] at hr₁
    cases hr₁
  unfold tokenCount save
  rw [keys_insert, Finset.card_insert_of_notMem hmem]

theorem lookup_save_key {key hash : String} (h : key ≠ "") :
    (st.save r key hash).idempotencyByKey.lookup key = some ⟨hash, r.tokenID⟩ := by
  unfold save
  rw [if_pos h]
  exact Finmap.lookup_insert _

theorem lookup_save_other {key hash k : String} (h : k ≠ key) :
    (st.save r key hash).idempotencyByKey.lookup k = st.idempotencyByKey.lookup k := by
  unfold save
  split
  · exact Finmap.lookup_insert_of_ne _ h
  · rfl

theorem lookup_save_blank {hash k : String} :
    (st.save r "" hash).idempotencyByKey.lookup k = st.idempotencyByKey.lookup k := rfl

/-- What is stored before a token with a new id is stored stays. -/
theorem lookup_save_old {key hash : String} {r₁ : TokenRecord} (hfresh : st.records.lookup r.tokenID = none)
    (hr : st.records.lookup id = some r₁) : (st.save r key hash).records.lookup id = some r₁ :=
  lookup_insert_of_fresh hfresh hr

theorem lookupIssued_none (h : StoreConsistent st) (hkey : c.idempotencyKey ≠ "")
    (hnone : st.lookupIssued c = .ok none) : st.idempotencyByKey.lookup c.idempotencyKey = none := by
  unfold lookupIssued at hnone
  rw [if_neg hkey] at hnone
  cases hentry : st.lookupIdempotency c.idempotencyKey with
  | none => exact hentry
  | some entry =>
    rw [hentry] at hnone
    obtain ⟨r, hr⟩ := h.entries _ entry hentry
    dsimp only at hnone
    split at hnone
    · cases hnone
    · rw [getByTokenID, hr] at hnone
      cases hnone

end InMemoryRuntimeStore

namespace StoreConsistent

theorem empty : StoreConsistent .empty where
  owned _ _ h := by cases h
  carried _ _ h := by cases h
  entries _ _ h := by cases h

theorem write (h : StoreConsistent st) {r' : TokenRecord} (found : st.records.lookup id = some r)
    (same : SameToken r r') : StoreConsistent (st.write id r') where
  owned id' r'' hr := by
    obtain ⟨r₁, hr₁, same₁⟩ := lookup_write_some found same hr
    rw [same₁.tokenID, same₁.accessToken]
    exact h.owned id' r₁ hr₁
  carried accessToken id' ht := by
    obtain ⟨r₁, hr₁, htoken⟩ := h.carried accessToken id' ht
    obtain ⟨r'', hr'', same₁⟩ := lookup_write_exists found same hr₁
    exact ⟨r'', hr'', same₁.accessToken.trans htoken⟩
  entries key entry hentry := by
    obtain ⟨r₁, hr₁⟩ := h.entries key entry hentry
    obtain ⟨r'', hr'', _⟩ := lookup_write_exists found same hr₁
    exact ⟨r'', hr''⟩

theorem save (h : StoreConsistent st) (hid : st.records.lookup r.tokenID = none)
    (htoken : st.tokenToID.lookup r.accessToken = none) (key hash : String) :
    StoreConsistent (st.save r key hash) where
  owned id' r' hr := by
    rcases lookup_insert_cases hr with ⟨rfl, rfl⟩ | ⟨-, hold⟩
    · exact ⟨rfl, Finmap.lookup_insert _⟩
    · obtain ⟨hname, howned⟩ := h.owned id' r' hold
      exact ⟨hname, lookup_insert_of_fresh htoken howned⟩
  carried accessToken id' ht := by
    rcases lookup_insert_cases ht with ⟨rfl, rfl⟩ | ⟨-, hold⟩
    · exact ⟨r, Finmap.lookup_insert _, rfl⟩
    · obtain ⟨r₁, hr₁, hcarries⟩ := h.carried accessToken id' hold
      exact ⟨r₁, lookup_save_old hid hr₁, hcarries⟩
  entries k entry hentry := by
    have old : st.idempotencyByKey.lookup k = some entry →
        ∃ r', (st.save r key hash).records.lookup entry.tokenID = some r' := by
      intro hold
      obtain ⟨r₁, hr₁⟩ := h.entries k entry hold
      exact ⟨r₁, lookup_save_old hid hr₁⟩
    by_cases hk : k = key
    · subst hk
      by_cases hblank : k = ""
      · subst hblank
        exact old (lookup_save_blank.symm.trans hentry)
      · cases Option.some.inj ((lookup_save_key hblank).symm.trans hentry)
        exact ⟨r, Finmap.lookup_insert _⟩
    · exact old ((lookup_save_other hk).symm.trans hentry)

end StoreConsistent

namespace PendingFresh

theorem empty : PendingFresh .empty (fun _ => none) [] where
  pending _ _ h := by cases h
  stored _ _ h := by cases h
  fresh _ _ h := by cases h
  apart _ _ _ _ h := by cases h

theorem write (h : PendingFresh st calls drawn) {r' : TokenRecord}
    (found : st.records.lookup id = some r) (same : SameToken r r') :
    PendingFresh (st.write id r') calls drawn where
  pending := h.pending
  stored id' r'' hr := by
    obtain ⟨r₁, hr₁, same₁⟩ := lookup_write_some found same hr
    rw [same₁.accessToken]
    exact h.stored id' r₁ hr₁
  fresh n c hc := ⟨lookup_write_none found (h.fresh n c hc).1, (h.fresh n c hc).2⟩
  apart := h.apart

/-- A call goes, whatever has become of it. -/
theorem forget (h : PendingFresh st calls drawn) (n : Nat) :
    PendingFresh st (Function.update calls n none) drawn where
  pending m c hc := h.pending m c (of_update_none hc).2
  stored := h.stored
  fresh m c hc := h.fresh m c (of_update_none hc).2
  apart m k c d hc hd := h.apart m k c d (of_update_none hc).2 (of_update_none hd).2

theorem save (h : PendingFresh st calls drawn) {n : Nat} (hc : calls n = some c) (key hash : String) :
    PendingFresh (st.save c.record key hash) (Function.update calls n none) drawn where
  pending := (h.forget n).pending
  stored := forall_lookup_insert (P := fun id (r : TokenRecord) => (id, r.accessToken) ∈ drawn) h.stored
    (h.pending n c hc)
  fresh m d hd := by
    obtain ⟨hm, hd⟩ := of_update_none hd
    obtain ⟨hid, htoken⟩ := h.apart m n d c hd hc hm
    obtain ⟨hnone, hnone'⟩ := h.fresh m d hd
    exact ⟨(Finmap.lookup_insert_of_ne _ hid).trans hnone,
      (Finmap.lookup_insert_of_ne _ htoken).trans hnone'⟩
  apart := (h.forget n).apart

theorem prepare (h : PendingFresh st calls drawn) (hst : StoreConsistent st) {n : Nat}
    (hdraw : ∀ d ∈ drawn, d.1 ≠ c.record.tokenID ∧ d.2 ≠ c.record.accessToken) :
    PendingFresh st (Function.update calls n (some c))
      ((c.record.tokenID, c.record.accessToken) :: drawn) := by
  refine ⟨?_, ?_, ?_, ?_⟩
  · intro m d hd
    rcases update_some_cases hd with ⟨-, rfl⟩ | ⟨-, hd⟩
    · exact List.mem_cons_self
    · exact List.mem_cons_of_mem _ (h.pending m d hd)
  · exact fun id r hr => List.mem_cons_of_mem _ (h.stored id r hr)
  · intro m d hd
    rcases update_some_cases hd with ⟨-, rfl⟩ | ⟨-, hd⟩
    · constructor
      · by_contra hsome
        obtain ⟨r, hr⟩ := Option.ne_none_iff_exists'.mp hsome
        exact (hdraw _ (h.stored _ r hr)).1 rfl
      · by_contra hsome
        obtain ⟨id, hid⟩ := Option.ne_none_iff_exists'.mp hsome
        obtain ⟨r, hr, hcarries⟩ := hst.carried _ id hid
        exact (hdraw _ (h.stored _ r hr)).2 hcarries
    · exact h.fresh m d hd
  · intro m k d e hd he hmk
    rcases update_some_cases hd with ⟨rfl, rfl⟩ | ⟨-, hold⟩
    · rcases update_some_cases he with ⟨rfl, -⟩ | ⟨-, hold'⟩
      · exact absurd rfl hmk
      · have hapart := hdraw _ (h.pending k e hold')
        exact ⟨hapart.1.symm, hapart.2.symm⟩
    · rcases update_some_cases he with ⟨-, rfl⟩ | ⟨-, hold'⟩
      · exact hdraw _ (h.pending m d hold)
      · exact h.apart m k d e hold hold' hmk

end PendingFresh

namespace IssuedStored

theorem empty : IssuedStored .empty [] where
  keyed _ h := by cases h
  count := rfl

theorem write (h : IssuedStored st issued) {r' : TokenRecord} (found : st.records.lookup id = some r)
    (same : SameToken r r') : IssuedStored (st.write id r') issued where
  keyed x hx hkey := by
    obtain ⟨entry, r₁, hentry, hid, hr₁, htoken⟩ := h.keyed x hx hkey
    obtain ⟨r'', hr'', same₁⟩ := lookup_write_exists found same hr₁
    exact ⟨entry, r'', hentry, hid, hr'', same₁.accessToken.trans htoken⟩
  count := (tokenCount_write found).trans h.count

theorem replay (h : IssuedStored st issued) (hst : StoreConsistent st) {entry : IdempotencyEntry}
    (hentry : st.idempotencyByKey.lookup c.idempotencyKey = some entry)
    (hr : st.records.lookup entry.tokenID = some r) :
    IssuedStored st (⟨c.idempotencyKey, r.tokenID, r.accessToken, true⟩ :: issued) where
  keyed x hx hkey := by
    rcases List.mem_cons.mp hx with rfl | hx
    · have hname := (hst.owned _ r hr).1
      exact ⟨entry, r, hentry, hname.symm, by rw [hname]; exact hr, rfl⟩
    · exact h.keyed x hx hkey
  count := h.count

theorem save (h : IssuedStored st issued) (hst : StoreConsistent st)
    (hfresh : st.records.lookup c.record.tokenID = none) (hfound : st.lookupIssued c = .ok none) :
    IssuedStored (st.save c.record c.idempotencyKey c.requestHash)
      (⟨c.idempotencyKey, c.record.tokenID, c.record.accessToken, false⟩ :: issued) where
  keyed x hx hkey := by
    rcases List.mem_cons.mp hx with rfl | hx
    · exact ⟨⟨c.requestHash, c.record.tokenID⟩, c.record, lookup_save_key hkey, rfl,
        Finmap.lookup_insert _, rfl⟩
    · obtain ⟨entry, r₁, hentry, hid, hr₁, htoken⟩ := h.keyed x hx hkey
      have hne : x.key ≠ c.idempotencyKey := by
        intro heq
        rw [heq] at hentry hkey
        rw [lookupIssued_none hst hkey hfound] at hentry
        cases hentry
      exact ⟨entry, r₁, (lookup_save_other hne).trans hentry, hid, lookup_save_old hfresh hr₁, htoken⟩
  count := by
    rw [tokenCount_save hfresh, h.count]
    rfl

end IssuedStored

namespace Runtime

variable {sha256 : String → String} {s s' : Runtime} {a : Action}

/-- What is drawn is drawn for the first time. -/
def FreshDraws (sha256 : String → String) (s : Runtime) : Action → Prop
  | .prepareIssue _ input e e' => ∀ c, prepareIssue sha256 s.now input e e' = .ok c →
    ∀ d ∈ s.drawn, d.1 ≠ c.record.tokenID ∧ d.2 ≠ c.record.accessToken
  | _ => True

structure Consistent (s : Runtime) : Prop where
  store : StoreConsistent s.store
  pending : PendingFresh s.store s.calls s.drawn
  issued : IssuedStored s.store s.issued

theorem consistent_start (now : Time) : Consistent (start now) :=
  ⟨StoreConsistent.empty, PendingFresh.empty, IssuedStored.empty⟩

theorem Effect.consistent (e : Effect sha256 s a s') (hok : s.FreshDraws sha256 a) (h : s.Consistent) :
    s'.Consistent := by
  have write : ∀ {id : String} {r r' : TokenRecord}, s.store.records.lookup id = some r →
      SameToken r r' → Consistent { s with store := s.store.write id r' } := fun found same =>
    ⟨h.store.write found same, h.pending.write found same, h.issued.write found same⟩
  cases e with
  | tick elapsed => exact ⟨h.store, h.pending, h.issued⟩
  | unchanged => exact h
  | prepared c idle made =>
    exact ⟨h.store, h.pending.prepare h.store (hok c made), h.issued⟩
  | @mismatch n c pending => exact ⟨h.store, h.pending.forget n, h.issued⟩
  | @replayed n c id existing pending key entry stored found =>
    exact ⟨h.store, h.pending.forget n, h.issued.replay h.store entry stored⟩
  | @saved n c pending found =>
    obtain ⟨hid, htoken⟩ := h.pending.fresh n c pending
    exact ⟨h.store.save hid htoken _ _, h.pending.save pending _ _, h.issued.save h.store hid found⟩
  | read _ id stored found =>
    have := write found (sameToken_applyExpiry s.now stored)
    exact ⟨this.store, this.pending, this.issued⟩
  | inactive stored found status => exact write found (sameToken_applyExpiry s.now stored)
  | @refreshed id ttl lag stored positive found status =>
    have := write found (sameToken_refreshed stored (s.now + lag + ttl))
    exact ⟨this.store, this.pending, this.issued⟩
  | @revoked id reason stored found =>
    have := write found (sameToken_revoked s.now stored (Strings.trimSpace reason))
    exact ⟨this.store, this.pending, this.issued⟩

theorem consistent_of_reach {now : Time}
    (h : Reach (step sha256) (FreshDraws sha256) (start now) s) : s.Consistent :=
  h.invariant (I := Consistent) (consistent_start now) (fun _ _ _ hi hok hs =>
    (step_effect hs).consistent hok hi)

/-- The token `tokenID` was stored by an `Issue` under `key`. -/
def BelongsTo (s : Runtime) (tokenID key : String) : Prop :=
  s.store.records.lookup tokenID ≠ none ∧
    ∃ x ∈ s.issued, x.replayed = false ∧ x.key = key ∧ x.tokenID = tokenID

/-- What the calls of `Issue` have returned and what they have left in the store. -/
structure IssuesOnce (s : Runtime) : Prop where
  sameToken : ∀ x ∈ s.issued, ∀ y ∈ s.issued, x.key = y.key → x.key ≠ "" →
    x.tokenID = y.tokenID ∧ x.accessToken = y.accessToken
  oneToken : ∀ key ≠ "", ∀ id id', s.BelongsTo id key → s.BelongsTo id' key → id = id'
  owned : ∀ id r, s.store.records.lookup id = some r →
    r.tokenID = id ∧ s.store.tokenToID.lookup r.accessToken = some id
  carried : ∀ accessToken id, s.store.tokenToID.lookup accessToken = some id →
    ∃ r, s.store.records.lookup id = some r ∧ r.accessToken = accessToken
  entries : ∀ key entry, s.store.idempotencyByKey.lookup key = some entry →
    ∃ r, s.store.records.lookup entry.tokenID = some r
  count : s.store.tokenCount = (s.issued.filter (fun x => !x.replayed)).length

theorem issued_same (h : s.Consistent) {x y : Issued} (hx : x ∈ s.issued) (hy : y ∈ s.issued)
    (hkeys : x.key = y.key) (hkey : x.key ≠ "") :
    x.tokenID = y.tokenID ∧ x.accessToken = y.accessToken := by
  obtain ⟨entry, r, hentry, hid, hr, htoken⟩ := h.issued.keyed x hx hkey
  obtain ⟨entry', r', hentry', hid', hr', htoken'⟩ := h.issued.keyed y hy (hkeys ▸ hkey)
  rw [hkeys, hentry'] at hentry
  cases hentry
  have hids : x.tokenID = y.tokenID := hid.symm.trans hid'
  rw [hids, hr'] at hr
  cases hr
  exact ⟨hids, htoken.symm.trans htoken'⟩

theorem issuesOnce (sha256 : String → String) (now : Time) (s : Runtime)
    (h : Reach (step sha256) (FreshDraws sha256) (start now) s) : s.IssuesOnce := by
  have hc := consistent_of_reach h
  refine ⟨fun x hx y hy => issued_same hc hx hy, ?_, hc.store.owned, hc.store.carried,
    hc.store.entries, hc.issued.count⟩
  rintro key hkey id id' ⟨_, x, hx, _, rfl, rfl⟩ ⟨_, y, hy, _, hkeys, rfl⟩
  exact (issued_same hc hx hy hkeys.symm hkey).1

/-- Two calls under one key overlap: both have their candidates when the first takes the lock. -/
def overlappingSample : Runtime :=
  ((((start 0).after (prepareSample 0 1)).after (prepareSample 1 2)).after (.commitIssue 1)).after
    (.commitIssue 0)

theorem issuesOnce_overlappingSample :
    overlappingSample.issued.length = 2 ∧ overlappingSample.store.tokenCount = 1 ∧
      overlappingSample.IssuesOnce := by
  have first : Reach (step id) (FreshDraws id) (start 0) ((start 0).after (prepareSample 0 1)) :=
    reach_after (Reach.refl _) (fun _ _ _ hd => by cases hd) (by decide)
  have second : Reach (step id) (FreshDraws id) (start 0)
      (((start 0).after (prepareSample 0 1)).after (prepareSample 1 2)) := by
    refine reach_after first (fun c hc => ?_) (by decide)
    have made : prepareIssue id 0 sampleInput (.ok (List.replicate 8 2)) (.ok (List.replicate 16 2)) =
        .ok (sampleCandidate "tok_0202020202020202" "ptk_02020202020202020202020202020202") := by
      decide
    cases Except.ok.inj (made.symm.trans hc)
    decide
  have stored := reach_after (a := .commitIssue 1) second trivial (by decide)
  have last : Reach (step id) (FreshDraws id) (start 0) overlappingSample :=
    reach_after stored trivial (by decide)
  exact ⟨by decide, by decide, issuesOnce id 0 overlappingSample last⟩

end Runtime

end SupplyPlatform.TokenRuntime
