import Mathlib.Algebra.Field.Rat
import SupplyPlatform.AuditCoherence

namespace SupplyPlatform.Audit

open Transition

/-- What `encoding/json` makes of a value: a number is the float64 it is read as, an object a map. -/
inductive Json
  | null
  | bool (b : Bool)
  | number (n : ℚ)
  | string (s : String)
  | array (items : List Json)
  | object (members : List (String × Json))

/-- Two JSON values are equal; the members of an object have no order. -/
inductive Json.Equal : Json → Json → Prop
  | null : Equal .null .null
  | bool (b : Bool) : Equal (.bool b) (.bool b)
  | number (n : ℚ) : Equal (.number n) (.number n)
  | string (s : String) : Equal (.string s) (.string s)
  | array {items items' : List Json} : List.Forall₂ Equal items items' → Equal (.array items) (.array items')
  | object {members members' : List (String × Json)} :
      (∀ key, Option.Rel Equal (members.lookup key) (members'.lookup key)) →
      Equal (.object members) (.object members')

/-- `==` of two such values as Go's interfaces: it panics on two slices and on two maps. -/
def Json.goEqual : Json → Json → Option Bool
  | .null, .null => some true
  | .bool a, .bool b => some (decide (a = b))
  | .number a, .number b => some (decide (a = b))
  | .string a, .string b => some (decide (a = b))
  | .array _, .array _ => none
  | .object _, .object _ => none
  | _, _ => some false

structure CreateEventRequest where
  eventName : String
  eventCategory : String
  eventSubCategory : String
  operatorID : Int
  tenantID : Int
  objectType : String
  objectID : Int
  action : String
  idempotencyKey : String
  sourceIP : String
  success : Bool
  resultCode : String
  deriving DecidableEq

variable {V : Type}

/-- The event the handler makes of a request. -/
def CreateEventRequest.event (req : CreateEventRequest) : AuditEvent V :=
  { eventID := ""
    eventName := req.eventName
    eventCategory := req.eventCategory
    eventSubCategory := req.eventSubCategory
    timestamp := Settlements.zeroTime
    timestampMs := 0
    idempotencyKey := req.idempotencyKey
    operatorID := req.operatorID
    tenantID := req.tenantID
    objectType := req.objectType
    objectID := req.objectID
    action := req.action
    actionDetail := ""
    credentialType := ""
    sourceType := ""
    sourceIP := req.sourceIP
    targetDirect := false
    resultCode := req.resultCode
    resultMessage := ""
    success := req.success
    extensions := []
    createdAt := Settlements.zeroTime }

/-- What a client supplies of an event. -/
def AuditEvent.request (e : AuditEvent V) : CreateEventRequest :=
  { eventName := e.eventName
    eventCategory := e.eventCategory
    eventSubCategory := e.eventSubCategory
    operatorID := e.operatorID
    tenantID := e.tenantID
    objectType := e.objectType
    objectID := e.objectID
    action := e.action
    idempotencyKey := e.idempotencyKey
    sourceIP := e.sourceIP
    success := e.success
    resultCode := e.resultCode }

/-- The entries of a map, each key once. -/
def IsMap (entries : List (String × V)) : Prop := (entries.map Prod.fst).Nodup

def SameExtensions (a b : AuditEvent Json) : Prop := Maps.SameEntries Json.Equal a.extensions b.extensions

/-- Everything that a client supplies is equal. -/
def SameSupplied (a b : AuditEvent Json) : Prop := a.request = b.request ∧ SameExtensions a b

/-- A replay is answered as the client is promised, whatever the order in which the extensions of the
stored event are gone over. -/
def AnswersReplay (existing event : AuditEvent Json) : Prop :=
  ∀ entries, entries.Perm existing.extensions →
    ∃ result, replay Json.goEqual { existing with extensions := entries } event = .event (.ok result) ∧
      (SameSupplied existing event → result.statusCode = 200 ∧ result.eventID = existing.eventID) ∧
      (¬SameSupplied existing event → result.statusCode = 409)

/-- The fields that the comparison goes through one by one. -/
structure FieldsAgree (a b : AuditEvent V) : Prop where
  eventName : a.eventName = b.eventName
  eventCategory : a.eventCategory = b.eventCategory
  operatorID : a.operatorID = b.operatorID
  tenantID : a.tenantID = b.tenantID
  objectType : a.objectType = b.objectType
  objectID : a.objectID = b.objectID
  action : a.action = b.action
  actionDetail : a.actionDetail = b.actionDetail
  credentialType : a.credentialType = b.credentialType
  sourceType : a.sourceType = b.sourceType
  sourceIP : a.sourceIP = b.sourceIP
  success : a.success = b.success
  resultCode : a.resultCode = b.resultCode
  resultMessage : a.resultMessage = b.resultMessage

/-- Two events that the comparison tells apart as it should, without a panic: no key has a list in both
or a map in both, they do not differ in the sub-category alone, and not in fields alone that no
client supplies. -/
structure Distinguished (existing event : AuditEvent Json) : Prop where
  comparable : FieldsAgree existing event → existing.extensions.length = event.extensions.length →
    ∀ key v w, (key, v) ∈ existing.extensions → event.extensions.lookup key = some w → v.goEqual w ≠ none
  subCategory : FieldsAgree existing event → SameExtensions existing event →
    existing.eventSubCategory = event.eventSubCategory
  unsupplied : SameSupplied existing event →
    existing.actionDetail = event.actionDetail ∧ existing.credentialType = event.credentialType ∧
      existing.sourceType = event.sourceType ∧ existing.resultMessage = event.resultMessage

theorem Json.goEqual_some {a b : Json} {same : Bool} (h : a.goEqual b = some same) :
    same = true ↔ a.Equal b := by
  cases a <;> cases b <;> cases h
  case null.null => exact iff_of_true rfl .null
  case bool.bool a b =>
    exact decide_eq_true_iff.trans ⟨fun heq => heq ▸ .bool a, fun h => by cases h; rfl⟩
  case number.number a b =>
    exact decide_eq_true_iff.trans ⟨fun heq => heq ▸ .number a, fun h => by cases h; rfl⟩
  case string.string a b =>
    exact decide_eq_true_iff.trans ⟨fun heq => heq ▸ .string a, fun h => by cases h; rfl⟩
  all_goals exact iff_of_false nofun nofun

section Comparison

variable {same : V → V → Option Bool} {a b : AuditEvent V}

theorem isSamePayload_of_agree (h : FieldsAgree a b) :
    isSamePayload same a b = compareExtensions same a.extensions b.extensions := by
  unfold isSamePayload
  rw [if_neg (not_not_intro h.eventName), if_neg (not_not_intro h.eventCategory),
    if_neg (not_not_intro h.operatorID), if_neg (not_not_intro h.tenantID),
    if_neg (not_not_intro h.objectType), if_neg (not_not_intro h.objectID),
    if_neg (not_not_intro h.action), if_neg (not_not_intro h.actionDetail),
    if_neg (not_not_intro h.credentialType), if_neg (not_not_intro h.sourceType),
    if_neg (not_not_intro h.sourceIP), if_neg (not_not_intro h.success),
    if_neg (not_not_intro h.resultCode), if_neg (not_not_intro h.resultMessage)]

theorem isSamePayload_of_differ (h : ¬FieldsAgree a b) : isSamePayload same a b = some false := by
  unfold isSamePayload
  -- one of the fields differs, and the first that does ends the comparison
  iterate 14
    apply ite_eq_left_iff.mpr
    intro hdiffers
    have hagrees := not_not.mp hdiffers
  exact absurd ⟨‹_›, ‹_›, ‹_›, ‹_›, ‹_›, ‹_›, ‹_›, ‹_›, ‹_›, ‹_›, ‹_›, ‹_›, ‹_›, ‹_›⟩ h

/-- The loop over the extensions: it panics at an entry that cannot be compared, if it gets there. -/
theorem extensionsAgree_of_comparable {entries other : List (String × V)}
    (h : ∀ p ∈ entries, ∀ w, other.lookup p.1 = some w → same p.2 w ≠ none) :
    ∃ agree, extensionsAgree same other entries = some agree ∧
      (agree = true ↔ ∀ p ∈ entries, ∃ w, other.lookup p.1 = some w ∧ same p.2 w = some true) := by
  induction entries with
  | nil => exact ⟨true, rfl, by simp⟩
  | cons p entries ih =>
    obtain ⟨agree, hagree, hiff⟩ := ih (fun q hq => h q (List.mem_cons_of_mem _ hq))
    have hcomparable := h p List.mem_cons_self
    rw [extensionsAgree]
    cases hlookup : other.lookup p.1 with
    | none => exact ⟨false, rfl, by simp [hlookup]⟩
    | some w =>
      rcases hsame : same p.2 w with _ | _ | _
      · exact absurd hsame (hcomparable w hlookup)
      · exact ⟨false, by simp [hsame], by simp [hlookup, hsame]⟩
      · exact ⟨agree, by simp [hsame, hagree], by simp [hiff, hlookup, hsame]⟩

end Comparison

theorem fieldsAgree_of_request {a b : AuditEvent V} (hrequest : a.request = b.request)
    (hdetail : a.actionDetail = b.actionDetail) (hcredential : a.credentialType = b.credentialType)
    (hsource : a.sourceType = b.sourceType) (hmessage : a.resultMessage = b.resultMessage) :
    FieldsAgree a b := by
  simp only [AuditEvent.request, CreateEventRequest.mk.injEq] at hrequest
  constructor <;> simp_all

theorem FieldsAgree.request {a b : AuditEvent V} (h : FieldsAgree a b)
    (hkey : a.idempotencyKey = b.idempotencyKey) (hsub : a.eventSubCategory = b.eventSubCategory) :
    a.request = b.request := by
  obtain ⟨⟩ := h
  simp_all [AuditEvent.request]

theorem fieldsAgree_with_extensions {a b : AuditEvent V} {entries : List (String × V)} :
    FieldsAgree { a with extensions := entries } b ↔ FieldsAgree a b := by
  constructor <;> rintro ⟨⟩ <;> constructor <;> assumption

section Replay

variable {existing event : AuditEvent Json} {entries : List (String × Json)}

/-- Where no two values under one key are both lists or both maps, the comparison decides whether the
extensions are the same. -/
theorem isSamePayload_of_comparable (hstored : IsMap existing.extensions) (hgiven : IsMap event.extensions)
    (hperm : entries.Perm existing.extensions) (hfields : FieldsAgree existing event)
    (hcomparable : existing.extensions.length = event.extensions.length →
      ∀ key v w, (key, v) ∈ existing.extensions → event.extensions.lookup key = some w → v.goEqual w ≠ none) :
    ∃ agree, isSamePayload Json.goEqual { existing with extensions := entries } event = some agree ∧
      (agree = true ↔ SameExtensions existing event) := by
  rw [isSamePayload_of_agree (fieldsAgree_with_extensions.mpr hfields)]
  by_cases hlen : existing.extensions.length = event.extensions.length
  · have hvalues : ∀ p ∈ entries, ∀ w, event.extensions.lookup p.1 = some w → p.2.goEqual w ≠ none :=
      fun p hp w hw => hcomparable hlen p.1 p.2 w (hperm.mem_iff.mp hp) hw
    obtain ⟨agree, hagree, hiff⟩ := extensionsAgree_of_comparable hvalues
    have hentries : entries.length = event.extensions.length := hperm.length_eq.trans hlen
    refine ⟨agree, ?_, hiff.trans ?_⟩
    · rw [compareExtensions, if_neg (not_not_intro hentries)]
      exact hagree
    · rw [SameExtensions, Maps.sameEntries_iff hstored hlen]
      refine forall_congr' (fun p => ?_)
      rw [hperm.mem_iff]
      refine imp_congr_right (fun hp => exists_congr (fun w => and_congr_right (fun hw => ?_)))
      cases hequal : p.2.goEqual w with
      | none => exact absurd hequal (hcomparable hlen p.1 p.2 w hp hw)
      | some r => exact Option.some_inj.trans (Json.goEqual_some hequal)
  · have hentries : entries.length ≠ event.extensions.length := fun h => hlen (hperm.length_eq.symm.trans h)
    refine ⟨false, if_pos hentries, iff_of_false nofun (fun h => hlen ?_)⟩
    exact Maps.SameEntries.length_eq h hstored hgiven

theorem replay_of_same
    (h : isSamePayload Json.goEqual { existing with extensions := entries } event = some true) :
    replay Json.goEqual { existing with extensions := entries } event =
      .event (.ok ⟨existing.eventID, 200, "duplicate", some existing.createdAt, "", ""⟩) := by
  rw [replay, h]

theorem replay_of_other
    (h : isSamePayload Json.goEqual { existing with extensions := entries } event = some false) :
    replay Json.goEqual { existing with extensions := entries } event =
      .event (.ok ⟨"", 409, "conflict", none, "IDEMPOTENCY_PAYLOAD_MISMATCH",
        "Idempotency key reused with different payload"⟩) := by
  rw [replay, h]

theorem replay_of_differ (h : ¬FieldsAgree existing event) (entries : List (String × Json)) :
    replay Json.goEqual { existing with extensions := entries } event =
      .event (.ok ⟨"", 409, "conflict", none, "IDEMPOTENCY_PAYLOAD_MISMATCH",
        "Idempotency key reused with different payload"⟩) := by
  apply replay_of_other
  apply isSamePayload_of_differ
  rw [fieldsAgree_with_extensions]
  exact h

/-- Some order of the entries gets to the pair that cannot be compared first. -/
theorem AnswersReplay.comparable (h : AnswersReplay existing event) (hfields : FieldsAgree existing event)
    (hlen : existing.extensions.length = event.extensions.length) {key : String} {v w : Json}
    (hmem : (key, v) ∈ existing.extensions) (hlookup : event.extensions.lookup key = some w) :
    v.goEqual w ≠ none := by
  intro hpanic
  obtain ⟨before, after, hsplit⟩ := List.append_of_mem hmem
  have hperm : ((key, v) :: (before ++ after)).Perm existing.extensions := by
    rw [hsplit]
    exact List.perm_middle.symm
  obtain ⟨result, hresult, -⟩ := h _ hperm
  have hcompared :
      isSamePayload Json.goEqual { existing with extensions := (key, v) :: (before ++ after) } event =
        none := by
    have hentries := hperm.length_eq.trans hlen
    rw [isSamePayload_of_agree (fieldsAgree_with_extensions.mpr hfields), compareExtensions,
      if_neg (not_not_intro hentries), extensionsAgree, hlookup]
    simp only [hpanic]
  rw [replay, hcompared] at hresult
  cases hresult

theorem answersReplay_iff (hstored : IsMap existing.extensions) (hgiven : IsMap event.extensions)
    (hkey : existing.idempotencyKey = event.idempotencyKey) :
    AnswersReplay existing event ↔ Distinguished existing event := by
  constructor
  · intro h
    have hcomparable : FieldsAgree existing event → existing.extensions.length = event.extensions.length →
        ∀ key v w, (key, v) ∈ existing.extensions → event.extensions.lookup key = some w → v.goEqual w ≠ none :=
      fun hfields hlen key v w hmem hlookup => h.comparable hfields hlen hmem hlookup
    obtain ⟨result, hresult, hequal, hdiffer⟩ := h existing.extensions (List.Perm.refl _)
    refine ⟨hcomparable, fun hfields hsame => ?_, fun hsupplied => ?_⟩
    · by_contra hsub
      obtain ⟨agree, hagree, hiff⟩ := isSamePayload_of_comparable hstored hgiven (List.Perm.refl _) hfields
        (hcomparable hfields)
      rw [hiff.mpr hsame] at hagree
      rw [replay_of_same hagree] at hresult
      cases hresult
      have hconflict := hdiffer (fun hsupplied =>
        hsub (congrArg CreateEventRequest.eventSubCategory hsupplied.1))
      cases hconflict
    · have hfields : FieldsAgree existing event := by
        by_contra hfields
        rw [replay_of_differ hfields] at hresult
        cases hresult
        cases (hequal hsupplied).1
      exact ⟨hfields.actionDetail, hfields.credentialType, hfields.sourceType, hfields.resultMessage⟩
  · intro h entries hperm
    by_cases hfields : FieldsAgree existing event
    · obtain ⟨agree, hagree, hiff⟩ := isSamePayload_of_comparable hstored hgiven hperm hfields
        (h.comparable hfields)
      by_cases hsame : SameExtensions existing event
      · rw [hiff.mpr hsame] at hagree
        have hsupplied : SameSupplied existing event :=
          ⟨hfields.request hkey (h.subCategory hfields hsame), hsame⟩
        exact ⟨_, replay_of_same hagree, fun _ => ⟨rfl, rfl⟩, fun hn => absurd hsupplied hn⟩
      · rw [Bool.eq_false_iff.mpr (hiff.not.mpr hsame)] at hagree
        exact ⟨_, replay_of_other hagree, fun hsupplied => absurd hsupplied.2 hsame, fun _ => rfl⟩
    · refine ⟨_, replay_of_differ hfields entries, fun hsupplied => ?_, fun _ => rfl⟩
      obtain ⟨hdetail, hcredential, hsource, hmessage⟩ := h.unsupplied hsupplied
      exact absurd (fieldsAgree_of_request hsupplied.1 hdetail hcredential hsource hmessage) hfields

end Replay

theorem firstUnder_of_mem {stored : List (AuditEvent V)} {event : AuditEvent V} (hmem : event ∈ stored)
    (hkey : event.idempotencyKey ≠ "") (hnodup : (keysOf stored).Nodup) :
    firstUnder event.idempotencyKey stored = some event := by
  have hle := length_filter_key_le hkey hnodup
  cases hfirst : firstUnder event.idempotencyKey stored with
  | none => exact absurd (mem_keysOf.mpr ⟨hkey, event, hmem, rfl⟩) ((firstUnder_eq_none hkey).mp hfirst)
  | some found =>
    have hfound : found ∈ stored := List.mem_of_find?_eq_some hfirst
    have hsame : found.idempotencyKey = event.idempotencyKey := by simpa using List.find?_some hfirst
    obtain ⟨e, he⟩ : ∃ e, stored.filter (fun e => e.idempotencyKey = event.idempotencyKey) = [e] := by
      refine List.length_eq_one_iff.mp (Nat.le_antisymm hle (List.length_pos_of_mem (a := event) ?_))
      exact List.mem_filter.mpr ⟨hmem, by simp⟩
    have hone : ∀ e' ∈ stored, e'.idempotencyKey = event.idempotencyKey → e' = e := by
      intro e' he' hkey'
      have hin : e' ∈ stored.filter (fun e => e.idempotencyKey = event.idempotencyKey) :=
        List.mem_filter.mpr ⟨he', by simpa using hkey'⟩
      rw [he] at hin
      exact List.mem_singleton.mp hin
    rw [hone found hfound hsame, hone event hmem rfl]

/-- A call of `CreateEvent` with the key of an event stored before leaves the store as it is and answers
from that event; the answer is the promised one exactly when the comparison distinguishes the two. -/
theorem replay_answered_iff {capacity : Nat} {s : State Json}
    (hreach : Reach (step capacity Json.goEqual) (fun _ a => OfCreateEvent a) State.start s) {id : Nat}
    {existing event : AuditEvent Json} (hcall : s.calls id = some (.holding event)) (hmem : existing ∈ s.stored)
    (hkey : existing.idempotencyKey = event.idempotencyKey) (hstored : IsMap existing.extensions)
    (hgiven : IsMap event.extensions) :
    (∃ t, step capacity Json.goEqual s (.lookup id) = some t ∧ t.store = s.store ∧ t.stored = s.stored ∧
      t.calls id = some (.returned (replay Json.goEqual existing event))) ∧
    (AnswersReplay existing event ↔ Distinguished existing event) := by
  have hidentified := hreach.invariant Identified.start (fun _ _ _ h ha hstep => h.step ha hstep)
  have hinvariant := hidentified.invariant
  have hnonempty : event.idempotencyKey ≠ "" := (hinvariant.calls id _ hcall).1
  have hfirst := firstUnder_of_mem hmem (hkey ▸ hnonempty) hinvariant.indexed.nodup
  have hfound : s.store.getByIdempotencyKey event.idempotencyKey = .ok existing := by
    rw [getByIdempotencyKey_eq_ok, hinvariant.indexed.index _ hnonempty, ← hkey, hfirst]
  refine ⟨⟨s.unlockReturning id (replay Json.goEqual existing event), ?_, rfl, rfl, Function.update_self _ _ _⟩,
    answersReplay_iff hstored hgiven hkey⟩
  simp only [step, hcall, hfound]

/-- For the events the handler makes, only a differing sub-category is missed. -/
theorem answersReplay_of_requests {req req' : CreateEventRequest} (r r' r'' : Reading)
    (hkey : req.idempotencyKey = req'.idempotencyKey) :
    AnswersReplay (((req.event).withDefaults r).stamp r') ((req'.event).withDefaults r'') ↔
      ({ req with eventSubCategory := req'.eventSubCategory } = req' → req = req') := by
  have hstored : IsMap (((req.event : AuditEvent Json).withDefaults r).stamp r').extensions := List.nodup_nil
  have hgiven : IsMap ((req'.event : AuditEvent Json).withDefaults r'').extensions := List.nodup_nil
  refine (answersReplay_iff hstored hgiven hkey).trans ⟨fun h hrest => ?_, fun h => ?_⟩
  · have hfields : FieldsAgree (((req.event : AuditEvent Json).withDefaults r).stamp r')
        ((req'.event).withDefaults r'') := by
      rw [← hrest]
      constructor <;> rfl
    have hsub : req.eventSubCategory = req'.eventSubCategory := h.subCategory hfields (fun _ => .none)
    rw [← hrest, ← hsub]
  · refine ⟨fun _ _ _ _ _ hmem _ => absurd hmem List.not_mem_nil, fun hfields _ => ?_,
      fun _ => ⟨rfl, rfl, rfl, rfl⟩⟩
    have hrest : ({ req with eventSubCategory := req'.eventSubCategory } : CreateEventRequest) = req' := by
      obtain ⟨hname, hcategory, hoperator, htenant, htype, hobject, haction, -, -, -, hip, hsuccess,
        hcode, -⟩ := hfields
      cases req
      cases req'
      simp_all [CreateEventRequest.event, AuditEvent.withDefaults, AuditEvent.stamp]
    exact congrArg CreateEventRequest.eventSubCategory (h hrest)

def exposure (extensions : List (String × Json)) : AuditEvent Json :=
  { eventID := "e0", eventName := "CRED-EXPOSE", eventCategory := "CRED", eventSubCategory := "EXPOSE",
    timestamp := 5, timestampMs := 7, idempotencyKey := "k", operatorID := 1, tenantID := 7,
    objectType := "account", objectID := 3, action := "create", actionDetail := "", credentialType := "",
    sourceType := "", sourceIP := "10.0.0.1", targetDirect := false, resultCode := "", resultMessage := "",
    success := true, extensions := extensions, createdAt := 0 }

/-- The event is created and the same call is made again, up to its lookup. -/
def createTwice (first second : AuditEvent Json) : List (Action Json) :=
  [.createEvent (some first) ⟨10, "a"⟩, .lock 0, .lookup 0, .emit 0 ⟨11, "b"⟩,
    .createEvent (some second) ⟨12, "c"⟩, .lock 1]

def afterCreateTwice (first second : AuditEvent Json) : State Json :=
  (exec (step maxEvents Json.goEqual) State.start (createTwice first second)).getD State.start

theorem reach_createTwice (extensions : List (String × Json)) :
    Reach (step maxEvents Json.goEqual) (fun _ a => OfCreateEvent a) State.start
      (afterCreateTwice (exposure extensions) (exposure extensions)) := by
  have hrun : exec (step maxEvents Json.goEqual) State.start
      (createTwice (exposure extensions) (exposure extensions)) =
      some (afterCreateTwice (exposure extensions) (exposure extensions)) := rfl
  refine reach_of_exec_of hrun (fun _ a ha => ?_)
  simp only [createTwice, List.mem_cons, List.not_mem_nil, or_false] at ha
  rcases ha with rfl | rfl | rfl | rfl | rfl | rfl <;> simp [OfCreateEvent]

/-- The same call again is answered with 200 and the id of the event. -/
theorem replay_answered_same :
    AnswersReplay ((exposure [("n", .number 2)]).stamp ⟨11, "b"⟩) (exposure [("n", .number 2)]) := by
  have hcall : (afterCreateTwice (exposure [("n", .number 2)]) (exposure [("n", .number 2)])).calls 1 =
      some (.holding (exposure [("n", .number 2)])) := rfl
  refine (replay_answered_iff (reach_createTwice _) hcall List.mem_cons_self rfl
    (List.nodup_singleton _) (List.nodup_singleton _)).2.mpr ⟨?_, fun _ _ => rfl, fun _ => ⟨rfl, rfl, rfl, rfl⟩⟩
  intro _ _ key v w hmem hlookup
  obtain ⟨rfl, rfl⟩ := Prod.mk.inj (List.mem_singleton.mp hmem)
  cases Option.some.inj hlookup
  nofun

/-- An extension that is an object, sent again as it was, makes the comparison panic. -/
theorem replay_panics_on_nested_extension :
    ¬∀ s : State Json, Reach (step maxEvents Json.goEqual) (fun _ a => OfCreateEvent a) State.start s →
      ∀ id existing event, s.calls id = some (.holding event) → existing ∈ s.stored →
        existing.idempotencyKey = event.idempotencyKey → IsMap existing.extensions → IsMap event.extensions →
        AnswersReplay existing event := by
  intro h
  have hanswers := h _ (reach_createTwice [("detail", .object [])]) 1
    ((exposure [("detail", .object [])]).stamp ⟨11, "b"⟩) (exposure [("detail", .object [])])
    rfl List.mem_cons_self rfl (List.nodup_singleton _) (List.nodup_singleton _)
  have hfields : FieldsAgree ((exposure [("detail", .object [])]).stamp ⟨11, "b"⟩)
      (exposure [("detail", .object [])]) := by
    constructor <;> rfl
  exact hanswers.comparable hfields rfl List.mem_cons_self rfl rfl

end SupplyPlatform.Audit
