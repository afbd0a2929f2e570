import Mathlib.Data.List.DropRight
import Mathlib.Data.String.Basic
import SupplyPlatform.DurationText
import SupplyPlatform.TokenRuntimeIssue

namespace SupplyPlatform.TokenRuntime

open Strings Separators InMemoryRuntimeStore Transition

/-- A text as `TrimSpace` leaves one that is not blank. -/
def Trimmed (text : String) : Prop := trimSpace text = text ∧ text ≠ ""

instance (text : String) : Decidable (Trimmed text) := inferInstanceAs (Decidable (_ ∧ _))

namespace IssueTokenInput

/-- The checks of `Issue`. -/
structure Accepted (input : IssueTokenInput) : Prop where
  subjectID : trimSpace input.subjectID ≠ ""
  role : trimSpace input.role ≠ ""
  ttl : 0 < input.ttl
  scope : input.scope ≠ []

/-- Equal in trimmed subject, trimmed role, scopes as a multiset and TTL. -/
def Same (x y : IssueTokenInput) : Prop :=
  trimSpace x.subjectID = trimSpace y.subjectID ∧ trimSpace x.role = trimSpace y.role ∧
    x.scope.Perm y.scope ∧ x.ttl = y.ttl

/-- A scope that is not also several: at every comma, what stands before it sorts after what follows. -/
def OneScope (name : String) : Prop :=
  ∀ cut ∈ cuts ',' name.toList, ¬String.ofList cut.1 ≤ String.ofList cut.2

/-- The three texts joined by bars are not also three others of which the first two are trimmed. -/
def OneReading (subject role scope : String) : Prop :=
  ∀ cut ∈ cuts '|' (subject ++ "|" ++ role ++ "|" ++ scope).toList, ∀ cut' ∈ cuts '|' cut.2,
    Trimmed (String.ofList cut.1) → Trimmed (String.ofList cut'.1) →
      String.ofList cut.1 = subject ∧ String.ofList cut'.1 = role

instance (name : String) : Decidable (OneScope name) :=
  inferInstanceAs (Decidable (∀ cut ∈ cuts ',' name.toList, _))

instance (subject role scope : String) : Decidable (OneReading subject role scope) :=
  inferInstanceAs (Decidable (∀ cut ∈ cuts '|' _, ∀ cut' ∈ cuts '|' cut.2, _))

/-- What `hashIssueInput` is given tells the input: there is one scope, which is one scope only, and
the bars can be read in one way only. -/
def Unambiguous (input : IssueTokenInput) : Prop :=
  ∃ name, input.scope = [name] ∧ OneScope name ∧
    OneReading (trimSpace input.subjectID) (trimSpace input.role) name

def joined (input : IssueTokenInput) : String := ",".intercalate (input.scope.insertionSort (· ≤ ·))

/-- What is hashed, up to the TTL. -/
def texts (input : IssueTokenInput) : List Char :=
  (trimSpace input.subjectID).toList ++ '|' :: ((trimSpace input.role).toList ++ '|' :: input.joined.toList)

end IssueTokenInput

section Texts

theorem dropWhile_eq_self_of_prefix {p : Char → Bool} {l u : List Char} (h : u <+: l.dropWhile p) :
    u.dropWhile p = u := by
  cases u with
  | nil => rfl
  | cons c u =>
    obtain ⟨rest, heq⟩ := h
    have hne : l.dropWhile p ≠ [] := by
      rw [← heq]
      exact List.cons_ne_nil _ _
    have hhead := List.head_dropWhile_not p hne
    have hc : (l.dropWhile p).head hne = c := by
      simp only [← heq, List.cons_append, List.head_cons]
    rw [hc] at hhead
    exact List.dropWhile_cons_of_neg (by simp [hhead])

/-- Trimming is done once. -/
theorem trimSpace_trimSpace (s : String) : trimSpace (trimSpace s) = trimSpace s := by
  have hlist : ∀ s, (trimSpace s).toList = (s.toList.dropWhile isSpace).rdropWhile isSpace := by
    intro s
    rw [trimSpace, String.toList_ofList, List.rdropWhile]
  apply String.toList_inj.mp
  rw [hlist (trimSpace s), hlist s,
    dropWhile_eq_self_of_prefix (List.rdropWhile_prefix _ _), List.rdropWhile_idempotent]

theorem trimmed_trimSpace {s : String} (h : trimSpace s ≠ "") : Trimmed (trimSpace s) :=
  ⟨trimSpace_trimSpace s, h⟩

variable {sha256 : String → String} {x y : IssueTokenInput}

theorem hashIssueInput_eq (sha256 : String → String) (x : IssueTokenInput) :
    hashIssueInput sha256 x =
      sha256 (String.ofList (x.texts ++ '|' :: (durationString x.ttl.toNat).toList)) := by
  have hdata : trimSpace x.subjectID ++ "|" ++ trimSpace x.role ++ "|" ++ x.joined ++ "|" ++
      durationString x.ttl.toNat =
        String.ofList (x.texts ++ '|' :: (durationString x.ttl.toNat).toList) := by
    apply String.toList_inj.mp
    simp only [String.toList_append, String.toList_ofList, IssueTokenInput.texts, List.append_assoc,
      List.cons_append, show "|".toList = ['|'] from rfl, List.nil_append]
  exact congrArg sha256 hdata

/-- The hash tells the TTL, since no duration holds a bar, and the texts joined by bars. -/
theorem hashIssueInput_eq_iff (hsha : Function.Injective sha256) (hx : x.Accepted) (hy : y.Accepted) :
    hashIssueInput sha256 x = hashIssueInput sha256 y ↔ x.texts = y.texts ∧ x.ttl = y.ttl := by
  have hxpos : 0 < x.ttl.toNat := by
    have := hx.ttl
    omega
  have hypos : 0 < y.ttl.toNat := by
    have := hy.ttl
    omega
  rw [hashIssueInput_eq, hashIssueInput_eq, hsha.eq_iff]
  constructor
  · intro h
    obtain ⟨htexts, httl⟩ := append_sep_inj (bar_not_mem_durationString hxpos)
      (bar_not_mem_durationString hypos) (String.ofList_injective h)
    have hnat := durationString_injective hxpos hypos (String.toList_inj.mp httl)
    exact ⟨htexts, by omega⟩
  · rintro ⟨htexts, httl⟩
    rw [htexts, httl]

theorem joined_of_perm (h : x.scope.Perm y.scope) : x.joined = y.joined := by
  have hsorted : x.scope.insertionSort (· ≤ ·) = y.scope.insertionSort (· ≤ ·) := by
    refine List.Perm.eq_of_pairwise' (List.pairwise_insertionSort _ _) (List.pairwise_insertionSort _ _) ?_
    exact ((List.perm_insertionSort _ _).trans h).trans (List.perm_insertionSort _ _).symm
  unfold IssueTokenInput.joined
  rw [hsorted]

theorem joined_singleton {name : String} (h : x.scope = [name]) : x.joined = name := by
  unfold IssueTokenInput.joined
  rw [h]
  exact String.intercalate_singleton

theorem joined_pair {u v : String} (h : x.scope = [u, v]) (hle : u ≤ v) : x.joined = u ++ "," ++ v := by
  have hsorted : [u, v].insertionSort (· ≤ ·) = [u, v] :=
    List.Pairwise.insertionSort_eq (List.pairwise_pair.mpr hle)
  unfold IssueTokenInput.joined
  rw [h, hsorted, String.intercalate_cons_cons, String.intercalate_singleton]

/-- A joined text that is one scope only comes of that scope only. -/
theorem scope_of_joined {name : String} (h : IssueTokenInput.OneScope name) (hy : y.scope ≠ [])
    (hjoined : y.joined = name) : y.scope.Perm [name] := by
  have hperm := List.perm_insertionSort (· ≤ ·) y.scope
  have hpairwise := List.pairwise_insertionSort (· ≤ ·) y.scope
  unfold IssueTokenInput.joined at hjoined
  generalize y.scope.insertionSort (· ≤ ·) = sorted at hperm hpairwise hjoined
  cases sorted with
  | nil => exact absurd (List.nil_perm.mp hperm) hy
  | cons p sorted =>
    cases sorted with
    | nil =>
      rw [String.intercalate_singleton] at hjoined
      rw [← hjoined]
      exact hperm.symm
    | cons q rest =>
      rw [String.intercalate_cons_cons] at hjoined
      have hcut : (p.toList, (",".intercalate (q :: rest)).toList) ∈ cuts ',' name.toList := by
        rw [mem_cuts, ← hjoined]
        simp
      -- the first scope is not greater than the second, and so not than what starts with that
      have hfirst : p ≤ ",".intercalate (q :: rest) := by
        refine le_trans (List.rel_of_pairwise_cons hpairwise List.mem_cons_self) ?_
        have hhead : q.toList <+: (",".intercalate (q :: rest)).toList := by
          cases rest with
          | nil => rw [String.intercalate_singleton]
          | cons q' rest =>
            rw [String.intercalate_cons_cons, String.toList_append, String.toList_append,
              List.append_assoc]
            exact List.prefix_append _ _
        rw [String.le_iff_toList_le]
        exact not_lt.mp (fun hlt => hhead.le hlt)
      refine absurd ?_ (h _ hcut)
      simpa only [String.ofList_toList] using hfirst

/-- An unambiguous input is told by what is hashed. -/
theorem same_of_texts (h : x.Unambiguous) (hy : y.Accepted) (htexts : x.texts = y.texts)
    (httl : x.ttl = y.ttl) : x.Same y := by
  obtain ⟨name, hscope, hone, hreading⟩ := h
  have hx : (trimSpace x.subjectID ++ "|" ++ trimSpace x.role ++ "|" ++ name).toList = y.texts := by
    rw [← htexts, IssueTokenInput.texts, joined_singleton hscope]
    simp
  obtain ⟨hsubject, hrole⟩ := hreading
    ((trimSpace y.subjectID).toList, (trimSpace y.role).toList ++ '|' :: y.joined.toList)
    (mem_cuts.mpr hx) ((trimSpace y.role).toList, y.joined.toList) (mem_cuts.mpr rfl)
    (by rw [String.ofList_toList]; exact trimmed_trimSpace hy.subjectID)
    (by rw [String.ofList_toList]; exact trimmed_trimSpace hy.role)
  simp only [String.ofList_toList] at hsubject hrole
  have hjoined : y.joined = name := by
    rw [IssueTokenInput.texts, IssueTokenInput.texts, joined_singleton hscope, hsubject, hrole] at htexts
    have hrest := (List.cons.inj (List.append_cancel_left htexts)).2
    exact String.toList_inj.mp (List.cons.inj (List.append_cancel_left hrest)).2.symm
  refine ⟨hsubject.symm, hrole.symm, ?_, httl⟩
  rw [hscope]
  exact (scope_of_joined hone hy.scope hjoined).symm

/-- An input that only inputs equal to it collide with is unambiguous: of the others a scope joined of
several, several of one, and another reading of the bars would be one. -/
theorem unambiguous_of_unique (hx : x.Accepted)
    (h : ∀ y : IssueTokenInput, y.Accepted → y.idempotencyKey = x.idempotencyKey → y.texts = x.texts →
      y.ttl = x.ttl → x.Same y) : x.Unambiguous := by
  have hscope : x.scope = [x.joined] := by
    have hjoined : IssueTokenInput.joined { x with scope := [x.joined] } = x.joined := joined_singleton rfl
    have hsame := h { x with scope := [x.joined] } ⟨hx.subjectID, hx.role, hx.ttl, List.cons_ne_nil _ _⟩ rfl
      (by rw [IssueTokenInput.texts, hjoined]; rfl) rfl
    exact List.perm_singleton.mp hsame.2.2.1
  refine ⟨x.joined, hscope, ?_, ?_⟩
  · rintro ⟨u, v⟩ hcut hle
    have hparts : x.joined.toList = u ++ ',' :: v := mem_cuts.mp hcut
    have hjoined : IssueTokenInput.joined { x with scope := [String.ofList u, String.ofList v] } = x.joined := by
      rw [joined_pair rfl hle]
      apply String.toList_inj.mp
      simp [hparts]
    have hsame := h { x with scope := [String.ofList u, String.ofList v] }
      ⟨hx.subjectID, hx.role, hx.ttl, List.cons_ne_nil _ _⟩ rfl
      (by rw [IssueTokenInput.texts, hjoined]; rfl) rfl
    have hlength := hsame.2.2.1.length_eq
    rw [hscope] at hlength
    cases hlength
  · rintro ⟨subject, rest⟩ hcut ⟨role, scope⟩ hcut' hsubject hrole
    have htexts : x.texts = subject ++ '|' :: (role ++ '|' :: scope) := by
      have hparts : (trimSpace x.subjectID ++ "|" ++ trimSpace x.role ++ "|" ++ x.joined).toList =
          subject ++ '|' :: rest := mem_cuts.mp hcut
      have hrest : rest = role ++ '|' :: scope := mem_cuts.mp hcut'
      rw [← hrest, ← hparts, IssueTokenInput.texts]
      simp
    let y : IssueTokenInput := { x with
      subjectID := String.ofList subject, role := String.ofList role, scope := [String.ofList scope] }
    have hy : y.Accepted :=
      ⟨fun hblank => hsubject.2 (hsubject.1.symm.trans hblank),
        fun hblank => hrole.2 (hrole.1.symm.trans hblank), hx.ttl, List.cons_ne_nil _ _⟩
    have hytexts : y.texts = x.texts := by
      rw [htexts, IssueTokenInput.texts, joined_singleton (x := y) rfl,
        show trimSpace y.subjectID = _ from hsubject.1, show trimSpace y.role = _ from hrole.1,
        String.toList_ofList, String.toList_ofList, String.toList_ofList]
    obtain ⟨hs, hr, -, -⟩ := h y hy rfl hytexts rfl
    exact ⟨hsubject.1.symm.trans hs.symm, hrole.1.symm.trans hr.symm⟩

end Texts

/-- The step from `s` to `t` is that of an `Issue` of the input which comes back without an error. -/
def IssueAccepted (sha256 : String → String) (input : IssueTokenInput) (s t : Runtime) : Prop :=
  ∃ n c now e e', prepareIssue sha256 now input e e' = .ok c ∧ s.calls n = some c ∧
    (s.store.commitIssue c).2.isOk = true ∧ s.step sha256 (.commitIssue n) = some t

/-- Every `Issue` of the input is refused for its key, and the store is left as it is. -/
def Conflicts (sha256 : String → String) (store : InMemoryRuntimeStore) (input : IssueTokenInput) : Prop :=
  ∀ now e e' c, prepareIssue sha256 now input e e' = .ok c →
    store.commitIssue c = (store, .error "idempotency key payload mismatch")

/-- Once the input has been accepted, whatever is done then, every other input under its key conflicts. -/
def ConflictsWithOthers (sha256 : String → String) (x : IssueTokenInput) : Prop :=
  ∀ now s t u y, Reach (Runtime.step sha256) anyStep (Runtime.start now) s → IssueAccepted sha256 x s t →
    Reach (Runtime.step sha256) anyStep t u → trimSpace y.idempotencyKey = trimSpace x.idempotencyKey →
    ¬x.Same y → Conflicts sha256 u.store y

/-- The hash of the input is that of the inputs equal to it. -/
def ToldByHash (sha256 : String → String) (x : IssueTokenInput) : Prop :=
  ∀ y : IssueTokenInput, y.Accepted → (hashIssueInput sha256 x = hashIssueInput sha256 y ↔ x.Same y)

section Runs

variable {sha256 : String → String} {x y : IssueTokenInput} {s t u : Runtime}

theorem prepareIssue_ok {now : Time} {e e' : Except String (List UInt8)} {c : Candidate}
    (h : prepareIssue sha256 now x e e' = .ok c) :
    x.Accepted ∧ c.idempotencyKey = trimSpace x.idempotencyKey ∧ c.requestHash = hashIssueInput sha256 x := by
  obtain ⟨⟨hsubject, hrole, httl, hscope⟩, tokenID, accessToken, -, -, rfl⟩ := prepareIssue_made h
  exact ⟨⟨hsubject, hrole, httl, hscope⟩, rfl, rfl⟩

/-- The key is taken, with this hash. -/
def HashUnder (store : InMemoryRuntimeStore) (key hash : String) : Prop :=
  ∃ tokenID, store.idempotencyByKey.lookup key = some ⟨hash, tokenID⟩

theorem HashUnder.lookupIssued_error {store : InMemoryRuntimeStore} {key hash : String} {c : Candidate}
    (h : HashUnder store key hash) (hne : key ≠ "") (hkey : c.idempotencyKey = key)
    (hhash : c.requestHash ≠ hash) :
    store.lookupIssued c = .error "idempotency key payload mismatch" := by
  obtain ⟨tokenID, hentry⟩ := h
  unfold lookupIssued lookupIdempotency
  rw [hkey, if_neg hne, hentry]
  exact if_pos (Ne.symm hhash)

theorem HashUnder.effect {key hash : String} {a : Action} (h : HashUnder s.store key hash) (hne : key ≠ "")
    (e : Runtime.Effect sha256 s a t) : HashUnder t.store key hash := by
  cases e with
  | saved c pending found =>
    by_cases hkey : c.idempotencyKey = key
    · -- an entry of another hash would have been found
      have hhash : c.requestHash = hash := by
        by_contra hdiff
        rw [h.lookupIssued_error hne hkey hdiff] at found
        cases found
      refine ⟨c.record.tokenID, ?_⟩
      rw [← hkey, ← hhash]
      exact lookup_save_key (hkey ▸ hne)
    · obtain ⟨tokenID, hentry⟩ := h
      exact ⟨tokenID, (lookup_save_other (Ne.symm hkey)).trans hentry⟩
  | _ => exact h

theorem HashUnder.reach {key hash : String} (h : HashUnder t.store key hash) (hne : key ≠ "")
    (hreach : Reach (Runtime.step sha256) anyStep t u) : HashUnder u.store key hash :=
  hreach.invariant (I := fun v => HashUnder v.store key hash) h
    (fun _ _ _ hv _ hs => hv.effect hne (Runtime.step_effect hs))

theorem hashUnder_of_accepted (hkey : trimSpace x.idempotencyKey ≠ "") (h : IssueAccepted sha256 x s t) :
    HashUnder t.store (trimSpace x.idempotencyKey) (hashIssueInput sha256 x) := by
  obtain ⟨n, c, now, e, e', hprepared, hcall, hok, hstep⟩ := h
  obtain ⟨-, hckey, hchash⟩ := prepareIssue_ok hprepared
  rw [← hckey] at hkey ⊢
  rw [← hchash]
  unfold commitIssue at hok
  simp only [Runtime.step, hcall, commitIssue] at hstep
  cases hfound : s.store.lookupIssued c with
  | error err =>
    rw [hfound] at hok
    cases hok
  | ok found =>
    rw [hfound] at hstep
    cases found with
    | none =>
      cases hstep
      exact ⟨c.record.tokenID, lookup_save_key hkey⟩
    | some existing =>
      cases hstep
      obtain ⟨-, tokenID, hentry, -⟩ := lookupIssued_some hfound
      exact ⟨tokenID, hentry⟩

theorem conflicts_of_told (hsha : ToldByHash sha256 x) (hkey : trimSpace x.idempotencyKey ≠ "") :
    ConflictsWithOthers sha256 x := by
  intro now s t u y _ haccepted hreach hsame hdiff now' e e' c hprepared
  obtain ⟨hy, hckey, hchash⟩ := prepareIssue_ok hprepared
  have hunder := (hashUnder_of_accepted hkey haccepted).reach hkey hreach
  have hhash : c.requestHash ≠ hashIssueInput sha256 x := by
    rw [hchash]
    exact fun heq => hdiff ((hsha y hy).mp heq.symm)
  unfold commitIssue
  rw [hunder.lookupIssued_error hkey (hckey.trans hsame) hhash]

theorem prepareIssue_of_accepted (sha256 : String → String) (hx : x.Accepted) (now : Time)
    (bytes bytes' : List UInt8) : ∃ c, prepareIssue sha256 now x (.ok bytes) (.ok bytes') = .ok c := by
  unfold prepareIssue
  rw [if_neg hx.subjectID, if_neg hx.role, if_neg (Int.not_le.mpr hx.ttl), if_neg hx.scope]
  exact ⟨_, rfl⟩

/-- Nothing stands in the way of the first token. -/
theorem commitIssue_empty (c : Candidate) : InMemoryRuntimeStore.empty.commitIssue c =
    (InMemoryRuntimeStore.empty.save c.record c.idempotencyKey c.requestHash, .ok (c.record, false)) := by
  have hfound : InMemoryRuntimeStore.empty.lookupIssued c = .ok none := by
    unfold lookupIssued
    split
    · rfl
    · rw [show InMemoryRuntimeStore.empty.lookupIdempotency c.idempotencyKey = none from
        Finmap.lookup_empty _]
  unfold commitIssue
  rw [hfound]

/-- Every input that passes the checks is accepted by an empty runtime. -/
theorem exists_accepted (sha256 : String → String) (hx : x.Accepted) :
    ∃ s t, Reach (Runtime.step sha256) anyStep (Runtime.start 0) s ∧ IssueAccepted sha256 x s t := by
  obtain ⟨c, hc⟩ := prepareIssue_of_accepted sha256 hx 0 [] []
  let s : Runtime := { Runtime.start 0 with
    calls := Function.update (Runtime.start 0).calls 0 (some c),
    drawn := (c.record.tokenID, c.record.accessToken) :: (Runtime.start 0).drawn }
  have hprepare : Runtime.step sha256 (Runtime.start 0) (.prepareIssue 0 x (.ok []) (.ok [])) = some s := by
    have hc' : prepareIssue sha256 (Runtime.start 0).now x (.ok []) (.ok []) = .ok c := hc
    simp only [Runtime.step, hc']
    rfl
  have hcall : s.calls 0 = some c := by
    show Function.update (Runtime.start 0).calls 0 (some c) 0 = some c
    rw [Function.update_self]
  have hcommit : s.store.commitIssue c =
      (s.store.save c.record c.idempotencyKey c.requestHash, .ok (c.record, false)) :=
    commitIssue_empty c
  obtain ⟨t, hstep⟩ : ∃ t, s.step sha256 (.commitIssue 0) = some t := by
    simp only [Runtime.step, hcall, hcommit]
    exact ⟨_, rfl⟩
  refine ⟨s, t, (Reach.refl _).next trivial hprepare, 0, c, 0, _, _, hc, hcall, ?_, hstep⟩
  rw [hcommit]
  rfl

/-- An input with the hash that is stored under its key is not refused. -/
theorem HashUnder.not_conflicts {store : InMemoryRuntimeStore} (hy : y.Accepted)
    (hne : trimSpace y.idempotencyKey ≠ "")
    (h : HashUnder store (trimSpace y.idempotencyKey) (hashIssueInput sha256 y)) :
    ¬Conflicts sha256 store y := by
  intro hconflicts
  obtain ⟨c, hc⟩ := prepareIssue_of_accepted sha256 hy 0 [] []
  obtain ⟨-, hckey, hchash⟩ := prepareIssue_ok hc
  obtain ⟨tokenID, hentry⟩ := h
  have hfound : store.lookupIssued c = .ok (store.getByTokenID tokenID) := by
    unfold lookupIssued lookupIdempotency
    rw [hckey, if_neg hne, hentry, hchash]
    exact if_neg (not_not.mpr rfl)
  have hrefused := congrArg Prod.snd (hconflicts 0 _ _ c hc)
  unfold commitIssue at hrefused
  rw [hfound] at hrefused
  cases hstored : store.getByTokenID tokenID with
  | none =>
    rw [hstored] at hrefused
    cases hrefused
  | some existing =>
    rw [hstored] at hrefused
    cases hrefused

theorem same_of_conflicts (hx : x.Accepted) (hkey : trimSpace x.idempotencyKey ≠ "")
    (h : ConflictsWithOthers sha256 x) (hy : y.Accepted) (hsame : y.idempotencyKey = x.idempotencyKey)
    (hhash : hashIssueInput sha256 y = hashIssueInput sha256 x) : x.Same y := by
  by_contra hdiff
  obtain ⟨s, t, hreach, haccepted⟩ := exists_accepted sha256 hx
  have hunder := hashUnder_of_accepted hkey haccepted
  rw [← hhash, ← hsame] at hunder
  exact hunder.not_conflicts hy (hsame ▸ hkey)
    (h 0 s t t y hreach haccepted (Reach.refl t) (by rw [hsame]) hdiff)

end Runs

/-- An input conflicts with all others under its key once it is accepted, and its hash tells it from
them, exactly when it is unambiguous. -/
theorem issue_conflicts_iff {sha256 : String → String} (hsha : Function.Injective sha256)
    {x : IssueTokenInput} (hx : x.Accepted) (hkey : trimSpace x.idempotencyKey ≠ "") :
    (ConflictsWithOthers sha256 x ↔ x.Unambiguous) ∧ (ToldByHash sha256 x ↔ x.Unambiguous) := by
  have htold : x.Unambiguous → ToldByHash sha256 x := by
    intro h y hy
    rw [hashIssueInput_eq_iff hsha hx hy]
    constructor
    · rintro ⟨htexts, httl⟩
      exact same_of_texts h hy htexts httl
    · rintro ⟨hsubject, hrole, hscope, httl⟩
      refine ⟨?_, httl⟩
      rw [IssueTokenInput.texts, IssueTokenInput.texts, hsubject, hrole, joined_of_perm hscope]
  refine ⟨⟨fun h => ?_, fun h => conflicts_of_told (htold h) hkey⟩, fun h => ?_, htold⟩
  · refine unambiguous_of_unique hx (fun y hy hsame htexts httl => ?_)
    exact same_of_conflicts hx hkey h hy hsame ((hashIssueInput_eq_iff hsha hy hx).mpr ⟨htexts, httl⟩)
  · refine unambiguous_of_unique hx (fun y hy _ htexts httl => ?_)
    exact (h y hy).mp ((hashIssueInput_eq_iff hsha hx hy).mpr ⟨htexts.symm, httl.symm⟩)

theorem sampleInput_told :
    ConflictsWithOthers id Runtime.sampleInput ∧ ToldByHash id Runtime.sampleInput := by
  have haccepted : Runtime.sampleInput.Accepted :=
    ⟨by decide, by decide, by decide, by decide⟩
  have hone : Runtime.sampleInput.Unambiguous :=
    ⟨"supply:read", rfl, by decide, by decide⟩
  obtain ⟨hconflicts, htold⟩ := issue_conflicts_iff Function.injective_id haccepted (by decide)
  exact ⟨hconflicts.mpr hone, htold.mpr hone⟩

/-- A subject and a role whose bar has moved. -/
def barInRole : IssueTokenInput := ⟨"alice", "ops|admin", ["supply:read"], second, "req-1", "k"⟩

def barInSubject : IssueTokenInput := ⟨"alice|ops", "admin", ["supply:read"], second, "req-2", "k"⟩

/-- Whatever the digest, the second of these inputs is not refused after the first, whose subject it
does not have. -/
theorem moved_bar_collides :
    ¬barInRole.Same barInSubject ∧
    (∀ sha256, hashIssueInput sha256 barInRole = hashIssueInput sha256 barInSubject) ∧
    ∀ sha256, ¬ConflictsWithOthers sha256 barInRole := by
  have hdiff : ¬barInRole.Same barInSubject := fun h => absurd h.1 (by decide)
  have hhash : ∀ sha256, hashIssueInput sha256 barInRole = hashIssueInput sha256 barInSubject := by
    intro sha256
    rw [hashIssueInput_eq, hashIssueInput_eq, show barInRole.texts = barInSubject.texts by decide]
    rfl
  refine ⟨hdiff, hhash, fun sha256 hconflicts => hdiff ?_⟩
  exact same_of_conflicts
    ⟨by decide, by decide, by decide, by decide⟩ (by decide) hconflicts
    ⟨by decide, by decide, by decide, by decide⟩ rfl (hhash sha256).symm

end SupplyPlatform.TokenRuntime
