import SupplyPlatform.Database
import SupplyPlatform.Lib.Maps
import SupplyPlatform.Lib.Runs

namespace SupplyPlatform.Sms

open Transition

structure CodeEntry where
  code : String
  phone : String
  expiresAt : Time
  used : Bool
  deriving DecidableEq

structure SMSCodeVerifier where
  codes : Finmap (fun _ : String => CodeEntry)
  deriving DecidableEq

/-- `time.Now().After(entry.ExpiresAt)` -/
def CodeEntry.expired (entry : CodeEntry) (now : Time) : Bool := now > entry.expiresAt

def CodeEntry.answers (entry : CodeEntry) (phone code : String) : Bool :=
  entry.phone = phone && entry.code = code && !entry.used

namespace SMSCodeVerifier

def codeID (unixNano : Time) : String := "verifier-" ++ toString unixNano

/-- `generated` is what `GenerateCode` gives; the clock is read for the id and again for the expiry. -/
def sendVerificationCode (v : SMSCodeVerifier) (phoneNumber : String) (generated : Except String String)
    (idNow now : Time) : SMSCodeVerifier × Except String String :=
  match generated with
  | .error err => (v, .error ("failed to generate code: " ++ err))
  | .ok code =>
    (⟨v.codes.insert (codeID idNow) ⟨code, phoneNumber, now + 5 * 60 * second, false⟩⟩, .ok (codeID idNow))

/-- The first entry in the order of the iteration that the loop of `Verify` stops at. -/
def firstMatch (v : SMSCodeVerifier) (phone code : String) : List String → Option (String × CodeEntry)
  | [] => none
  | id :: rest =>
    match v.codes.lookup id with
    | some entry => if entry.answers phone code then some (id, entry) else firstMatch v phone code rest
    | none => firstMatch v phone code rest

/-- The entry is dropped either way, the one it marks as used as well. -/
def verify (v : SMSCodeVerifier) (phone code : String) (order : List String) (now : Time) :
    SMSCodeVerifier × Bool :=
  match v.firstMatch phone code order with
  | none => (v, false)
  | some (id, entry) =>
    if entry.expired now then (⟨v.codes.erase id⟩, false) else (⟨v.codes.erase id⟩, true)

def verifyByID (v : SMSCodeVerifier) (codeID phone code : String) (now : Time) : SMSCodeVerifier × Bool :=
  match v.codes.lookup codeID with
  | none => (v, false)
  | some entry =>
    if entry.expired now then (⟨v.codes.erase codeID⟩, false)
    else if entry.phone ≠ phone ∨ entry.code ≠ code ∨ entry.used = true then (v, false)
    else (⟨v.codes.erase codeID⟩, true)

def cleanupOne (now : Time) (codes : Finmap (fun _ : String => CodeEntry)) (id : String) :
    Finmap (fun _ : String => CodeEntry) :=
  match codes.lookup id with
  | some entry => if entry.expired now then codes.erase id else codes
  | none => codes

def cleanup (v : SMSCodeVerifier) (order : List String) (now : Time) : SMSCodeVerifier :=
  ⟨order.foldl (cleanupOne now) v.codes⟩

end SMSCodeVerifier

/-- A call that has answered true: the entry it was about, what it was asked and when. -/
structure Acceptance where
  id : String
  phone : String
  code : String
  time : Time
  deriving DecidableEq

/-- The verifier, with a record of the codes it has sent and of those it has accepted. -/
structure State where
  verifier : SMSCodeVerifier
  sent : List (String × CodeEntry)
  accepted : List Acceptance
  deriving DecidableEq

def State.start : State := ⟨⟨∅⟩, [], []⟩

/-- The calls, with the clock as they read it and the order in which they go over the map. -/
inductive Action
  | sendVerificationCode (phoneNumber : String) (generated : Except String String) (idNow now : Time)
  | verify (phone code : String) (order : List String) (now : Time)
  | verifyByID (codeID phone code : String) (now : Time)
  | cleanup (order : List String) (now : Time)

def Action.clock : Action → List Time
  | .sendVerificationCode _ _ idNow now => [idNow, now]
  | .verify _ _ _ now => [now]
  | .verifyByID _ _ _ now => [now]
  | .cleanup _ now => [now]

/-- The clock of a run, as it is read, does not go back. -/
def Clocked (actions : List Action) : Prop := (actions.flatMap Action.clock).Pairwise (· ≤ ·)

instance (actions : List Action) : Decidable (Clocked actions) :=
  inferInstanceAs (Decidable (List.Pairwise _ _))

/-- One call; each code is sent under an id of its own, and an iteration goes over the stored ids. -/
def step (s : State) : Action → Option State
  | .sendVerificationCode phoneNumber generated idNow now =>
    match s.verifier.sendVerificationCode phoneNumber generated idNow now with
    | (_, .error _) => some s
    | (v, .ok id) =>
      if id ∈ s.sent.map Prod.fst then none
      else some ⟨v, (v.codes.lookup id).toList.map (fun entry => (id, entry)) ++ s.sent, s.accepted⟩
  | .verify phone code order now =>
    if Maps.Enumerates s.verifier.codes order then
      let (v, ok) := s.verifier.verify phone code order now
      let found := (s.verifier.firstMatch phone code order).toList
      some ⟨v, s.sent,
        if ok then found.map (fun m => ⟨m.1, phone, code, now⟩) ++ s.accepted else s.accepted⟩
    else none
  | .verifyByID codeID phone code now =>
    let (v, ok) := s.verifier.verifyByID codeID phone code now
    some ⟨v, s.sent, if ok then ⟨codeID, phone, code, now⟩ :: s.accepted else s.accepted⟩
  | .cleanup order now =>
    if Maps.Enumerates s.verifier.codes order then some { s with verifier := s.verifier.cleanup order now }
    else none

/-- No code has been accepted twice, none after its expiry, and each for the phone it was sent to. -/
structure Safe (s : State) : Prop where
  sent : (s.sent.map Prod.fst).Nodup
  once : (s.accepted.map (·.id)).Nodup
  before : ∀ a ∈ s.accepted, ∃ entry, (a.id, entry) ∈ s.sent ∧ entry.phone = a.phone ∧
    entry.code = a.code ∧ a.time ≤ entry.expiresAt

/-- Some stored entry for the phone and the code is unused and has not expired. -/
def HasLive (v : SMSCodeVerifier) (phone code : String) (now : Time) : Prop :=
  ∃ id entry, v.codes.lookup id = some entry ∧ entry.answers phone code = true ∧
    entry.expired now = false

/-- A call of `Verify` for which there is a live entry answers true. -/
def FindsLive (s : State) : Action → Prop
  | .verify phone code order now =>
    HasLive s.verifier phone code now → (s.verifier.verify phone code order now).2 = true
  | _ => True

/-- The first matching entry that a call of `Verify` meets has not expired, or none of those stored is
live. -/
def MeetsLive (s : State) : Action → Prop
  | .verify phone code order now =>
    ∀ id entry, s.verifier.firstMatch phone code order = some (id, entry) → entry.expired now = true →
      ¬HasLive s.verifier phone code now
  | _ => True

namespace SMSCodeVerifier

theorem firstMatch_some {v : SMSCodeVerifier} {phone code id : String} {entry : CodeEntry}
    {order : List String} (h : v.firstMatch phone code order = some (id, entry)) :
    v.codes.lookup id = some entry ∧ entry.answers phone code = true := by
  induction order with
  | nil => cases h
  | cons key rest ih =>
    unfold firstMatch at h
    split at h
    next stored hstored =>
      split at h
      next hanswers =>
        obtain ⟨rfl, rfl⟩ := Prod.mk.inj (Option.some.inj h)
        exact ⟨hstored, hanswers⟩
      next => exact ih h
    next => exact ih h

theorem firstMatch_none {v : SMSCodeVerifier} {phone code id : String} {entry : CodeEntry}
    {order : List String} (h : v.firstMatch phone code order = none) (hmem : id ∈ order)
    (hstored : v.codes.lookup id = some entry) : entry.answers phone code = false := by
  induction order with
  | nil => cases hmem
  | cons key rest ih =>
    unfold firstMatch at h
    rcases List.mem_cons.mp hmem with rfl | hmem
    · rw [hstored] at h
      split at h
      next stored hsame =>
        cases hsame
        split at h
        next => cases h
        next hanswers => exact Bool.eq_false_of_not_eq_true hanswers
      next hnone => cases hnone
    · split at h
      next =>
        split at h
        next => cases h
        next => exact ih h hmem
      next => exact ih h hmem

theorem answers_iff {entry : CodeEntry} {phone code : String} :
    entry.answers phone code = true ↔ entry.phone = phone ∧ entry.code = code ∧ entry.used = false := by
  simp [CodeEntry.answers, and_assoc]

/-- `Verify` answers with the first entry it meets, and with no other. -/
theorem verify_eq_true_iff {v : SMSCodeVerifier} {phone code : String} {order : List String} {now : Time} :
    (v.verify phone code order now).2 = true ↔
      ∃ id entry, v.firstMatch phone code order = some (id, entry) ∧ entry.expired now = false := by
  unfold verify
  cases hmatch : v.firstMatch phone code order with
  | none => simp
  | some m =>
    obtain ⟨id, entry⟩ := m
    cases hexpired : entry.expired now with
    | true => simp [hexpired]
    | false => simp [hexpired]

/-- It answers true on every live entry just where the first one it meets is live. -/
theorem finds_iff_meets {v : SMSCodeVerifier} {phone code : String} {order : List String} {now : Time}
    (horder : Maps.Enumerates v.codes order) :
    (HasLive v phone code now → (v.verify phone code order now).2 = true) ↔
      ∀ id entry, v.firstMatch phone code order = some (id, entry) → entry.expired now = true →
        ¬HasLive v phone code now := by
  rw [verify_eq_true_iff]
  constructor
  · intro hfinds id entry hmatch hexpired hlive
    obtain ⟨id', entry', hmatch', hlive'⟩ := hfinds hlive
    cases hmatch.symm.trans hmatch'
    rw [hexpired] at hlive'
    cases hlive'
  · intro hmeets hlive
    cases hmatch : v.firstMatch phone code order with
    | none =>
      obtain ⟨id, entry, hstored, hanswers, -⟩ := hlive
      rw [firstMatch_none hmatch (horder.mem hstored) hstored] at hanswers
      cases hanswers
    | some m =>
      obtain ⟨id, entry⟩ := m
      refine ⟨id, entry, rfl, Bool.eq_false_of_not_eq_true (fun hexpired => ?_)⟩
      exact hmeets id entry hmatch hexpired hlive

theorem lookup_cleanupOne {now : Time} {codes : Finmap (fun _ : String => CodeEntry)} {key id : String}
    {entry : CodeEntry} (h : (cleanupOne now codes key).lookup id = some entry) :
    codes.lookup id = some entry := by
  unfold cleanupOne at h
  split at h
  next =>
    split at h
    next => exact Maps.lookup_of_lookup_erase h
    next => exact h
  next => exact h

theorem lookup_cleanup {v : SMSCodeVerifier} {order : List String} {now : Time} {id : String}
    {entry : CodeEntry} (h : (v.cleanup order now).codes.lookup id = some entry) :
    v.codes.lookup id = some entry := by
  unfold cleanup at h
  simp only at h
  generalize v.codes = codes at h ⊢
  induction order generalizing codes with
  | nil => exact h
  | cons key rest ih => exact lookup_cleanupOne (ih _ h)

/-- What `VerifyByID` does: it may drop the entry, and it accepts it only where it is live. -/
theorem verifyByID_cases (v : SMSCodeVerifier) (codeID phone code : String) (now : Time) :
    ((v.verifyByID codeID phone code now).2 = false ∧
      ((v.verifyByID codeID phone code now).1 = v ∨
        (v.verifyByID codeID phone code now).1 = ⟨v.codes.erase codeID⟩)) ∨
    ∃ entry, v.codes.lookup codeID = some entry ∧ entry.answers phone code = true ∧
      entry.expired now = false ∧ v.verifyByID codeID phone code now = (⟨v.codes.erase codeID⟩, true) := by
  cases hstored : v.codes.lookup codeID with
  | none => exact .inl ⟨by simp [verifyByID, hstored], .inl (by simp [verifyByID, hstored])⟩
  | some entry =>
    cases hexpired : entry.expired now with
    | true =>
      exact .inl ⟨by simp [verifyByID, hstored, hexpired], .inr (by simp [verifyByID, hstored, hexpired])⟩
    | false =>
      by_cases hother : entry.phone ≠ phone ∨ entry.code ≠ code ∨ entry.used = true
      · have hkept : v.verifyByID codeID phone code now = (v, false) := by
          simp only [verifyByID, hstored, hexpired, Bool.false_eq_true, if_false]
          rw [if_pos hother]
        exact .inl ⟨by rw [hkept], .inl (by rw [hkept])⟩
      · have hanswers : entry.answers phone code = true := by
          rw [answers_iff]
          simp only [not_or, not_not, Bool.not_eq_true] at hother
          exact hother
        refine .inr ⟨entry, rfl, hanswers, hexpired, ?_⟩
        simp only [verifyByID, hstored, hexpired, Bool.false_eq_true, if_false]
        rw [if_neg hother]

end SMSCodeVerifier

/-- What is stored is only dropped. -/
def Shrinks (s t : State) : Prop :=
  ∀ id entry, t.verifier.codes.lookup id = some entry → s.verifier.codes.lookup id = some entry

theorem shrinks_erase {s t : State} {id : String} (h : t.verifier = ⟨s.verifier.codes.erase id⟩) :
    Shrinks s t := by
  intro id' entry hstored
  rw [h] at hstored
  exact Maps.lookup_of_lookup_erase hstored

/-- A step sends a code under a new id, drops entries, or accepts a live entry and drops it. -/
theorem step_cases {s t : State} {a : Action} (h : step s a = some t) :
    (∃ id entry, id ∉ s.sent.map Prod.fst ∧ entry.used = false ∧
      t = ⟨⟨s.verifier.codes.insert id entry⟩, (id, entry) :: s.sent, s.accepted⟩) ∨
    (t.sent = s.sent ∧ t.accepted = s.accepted ∧ Shrinks s t) ∨
    ∃ id entry phone code now, s.verifier.codes.lookup id = some entry ∧
      entry.answers phone code = true ∧ entry.expired now = false ∧
      t = ⟨⟨s.verifier.codes.erase id⟩, s.sent, ⟨id, phone, code, now⟩ :: s.accepted⟩ := by
  cases a with
  | sendVerificationCode phoneNumber generated idNow now =>
    cases generated with
    | error err =>
      cases h
      exact .inr (.inl ⟨rfl, rfl, fun _ _ hstored => hstored⟩)
    | ok code =>
      simp only [step, SMSCodeVerifier.sendVerificationCode, Finmap.lookup_insert] at h
      split at h
      next => cases h
      next hfresh =>
        cases h
        exact .inl ⟨_, _, hfresh, rfl, rfl⟩
  | verify phone code order now =>
    simp only [step] at h
    split at h
    next =>
      cases hmatch : s.verifier.firstMatch phone code order with
      | none =>
        simp only [SMSCodeVerifier.verify, hmatch] at h
        cases h
        exact .inr (.inl ⟨rfl, rfl, fun _ _ hstored => hstored⟩)
      | some m =>
        obtain ⟨id, entry⟩ := m
        obtain ⟨hstored, hanswers⟩ := SMSCodeVerifier.firstMatch_some hmatch
        cases hexpired : entry.expired now with
        | true =>
          simp only [SMSCodeVerifier.verify, hmatch, hexpired, if_true] at h
          cases h
          exact .inr (.inl ⟨rfl, rfl, shrinks_erase rfl⟩)
        | false =>
          simp only [SMSCodeVerifier.verify, hmatch, hexpired, Bool.false_eq_true, if_false] at h
          cases h
          exact .inr (.inr ⟨id, entry, phone, code, now, hstored, hanswers, hexpired, rfl⟩)
    next => cases h
  | verifyByID codeID phone code now =>
    simp only [step] at h
    rcases s.verifier.verifyByID_cases codeID phone code now with ⟨hno, hkept⟩ | hlive
    · rw [hno] at h
      cases h
      refine .inr (.inl ⟨rfl, rfl, ?_⟩)
      rcases hkept with hkept | hkept
      · intro id entry hstored
        rwa [← hkept]
      · exact shrinks_erase hkept
    · obtain ⟨entry, hstored, hanswers, hexpired, hyes⟩ := hlive
      rw [hyes] at h
      cases h
      exact .inr (.inr ⟨codeID, entry, phone, code, now, hstored, hanswers, hexpired, rfl⟩)
  | cleanup order now =>
    simp only [step] at h
    split at h
    next =>
      cases h
      exact .inr (.inl ⟨rfl, rfl, fun _ _ hstored => SMSCodeVerifier.lookup_cleanup hstored⟩)
    next => cases h

/-- What is stored has been sent, and not been accepted. -/
structure Inv (s : State) : Prop where
  safe : Safe s
  stored : ∀ id entry, s.verifier.codes.lookup id = some entry →
    (id, entry) ∈ s.sent ∧ id ∉ s.accepted.map (·.id)

theorem Inv.start : Inv State.start :=
  ⟨⟨List.nodup_nil, List.nodup_nil, nofun⟩, fun id entry h => by
    rw [State.start, Finmap.lookup_empty] at h
    cases h⟩

theorem Safe.not_accepted {s : State} (h : Safe s) {id : String} (hfresh : id ∉ s.sent.map Prod.fst) :
    id ∉ s.accepted.map (·.id) := by
  intro hmem
  obtain ⟨a, ha, rfl⟩ := List.mem_map.mp hmem
  obtain ⟨entry, hsent, -⟩ := h.before a ha
  exact hfresh (List.mem_map.mpr ⟨_, hsent, rfl⟩)

theorem Inv.step {s t : State} {a : Action} (h : Inv s) (hstep : step s a = some t) : Inv t := by
  rcases step_cases hstep with ⟨id, entry, hfresh, -, rfl⟩ | ⟨hsent, haccepted, hshrinks⟩ |
    ⟨id, entry, phone, code, now, hstored, hanswers, hexpired, rfl⟩
  · refine ⟨⟨List.nodup_cons.mpr ⟨hfresh, h.safe.sent⟩, h.safe.once, fun a ha => ?_⟩, ?_⟩
    · obtain ⟨entry, hsent, hrest⟩ := h.safe.before a ha
      exact ⟨entry, List.mem_cons_of_mem _ hsent, hrest⟩
    · intro id' entry' hstored
      rcases Maps.lookup_insert_cases hstored with ⟨rfl, rfl⟩ | ⟨-, hstored⟩
      · exact ⟨List.mem_cons_self, h.safe.not_accepted hfresh⟩
      · obtain ⟨hsent, hnot⟩ := h.stored id' entry' hstored
        exact ⟨List.mem_cons_of_mem _ hsent, hnot⟩
  · refine ⟨⟨?_, ?_, ?_⟩, fun id entry hstored => ?_⟩
    · rw [hsent]
      exact h.safe.sent
    · rw [haccepted]
      exact h.safe.once
    · rw [hsent, haccepted]
      exact h.safe.before
    · rw [hsent, haccepted]
      exact h.stored id entry (hshrinks id entry hstored)
  · obtain ⟨hsent, hnot⟩ := h.stored id entry hstored
    obtain ⟨hphone, hcode, -⟩ := SMSCodeVerifier.answers_iff.mp hanswers
    refine ⟨⟨h.safe.sent, List.nodup_cons.mpr ⟨hnot, h.safe.once⟩, fun a ha => ?_⟩, ?_⟩
    · rcases List.mem_cons.mp ha with rfl | ha
      · have hbefore : ¬now > entry.expiresAt := of_decide_eq_false hexpired
        exact ⟨entry, hsent, hphone, hcode, Int.not_lt.mp hbefore⟩
      · exact h.safe.before a ha
    · intro id' entry' hstored'
      have hkept := Maps.lookup_of_lookup_erase hstored'
      obtain ⟨hsent', hnot'⟩ := h.stored id' entry' hkept
      refine ⟨hsent', fun hmem => ?_⟩
      rcases List.mem_cons.mp hmem with rfl | hmem
      · rw [Finmap.lookup_erase] at hstored'
        cases hstored'
      · exact hnot' hmem

theorem findsLive_iff {s t : State} {a : Action} (h : step s a = some t) :
    FindsLive s a ↔ MeetsLive s a := by
  cases a with
  | verify phone code order now =>
    simp only [step] at h
    split at h
    next horder => exact SMSCodeVerifier.finds_iff_meets horder
    next => cases h
  | sendVerificationCode => exact Iff.rfl
  | verifyByID => exact Iff.rfl
  | cleanup => exact Iff.rfl

/-- In any run no code is accepted twice or late; and each call of `Verify` for which there is a live
entry answers true just where no call meets an expired one before it. -/
theorem codes_accepted_iff (actions : List Action) :
    (Throughout step Safe State.start actions ∧ EachStep step FindsLive State.start actions) ↔
      EachStep step MeetsLive State.start actions := by
  have hsafe : Throughout step Safe State.start actions :=
    throughout_of_invariant (fun _ _ _ h hstep => h.step hstep) (fun _ h => h.safe) Inv.start actions
  have hagree : EachStep step FindsLive State.start actions ↔ EachStep step MeetsLive State.start actions :=
    eachStep_congr (I := fun _ => True) (fun _ _ _ _ _ => trivial)
      (fun _ _ _ _ hstep => findsLive_iff hstep) trivial actions
  exact ⟨fun h => hagree.mp h.2, fun h => ⟨hsafe, hagree.mpr h⟩⟩

/-- The same code is sent to a phone again after 200 seconds, and asked for after 400. -/
def resentCode : List Action :=
  [.sendVerificationCode "13800000000" (.ok "123456") 0 0,
    .sendVerificationCode "13800000000" (.ok "123456") (200 * second) (200 * second),
    .verify "13800000000" "123456" ["verifier-0", "verifier-200000000000"] (400 * second)]

/-- The expired entry comes first, and the live one is not looked at. -/
theorem resent_code_refused :
    Clocked resentCode ∧
    ¬(Throughout step Safe State.start resentCode ∧ EachStep step FindsLive State.start resentCode) := by
  refine ⟨by decide, fun h => ?_⟩
  obtain ⟨-, hsecond⟩ := h.2 _ rfl
  obtain ⟨-, hthird⟩ := hsecond _ rfl
  obtain ⟨hfinds, -⟩ := hthird _ rfl
  have hlive := hfinds ⟨"verifier-200000000000", ⟨"123456", "13800000000", 500 * second, false⟩,
    by decide, by decide, by decide⟩
  revert hlive
  decide

end SupplyPlatform.Sms
