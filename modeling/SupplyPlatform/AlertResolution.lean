import SupplyPlatform.AlertService
import SupplyPlatform.Lib.Runs

namespace SupplyPlatform.Alerts

open Settlements (zeroTime)
open Iam (storableText)
open Strings Relational Transition

variable {V : Type}

/-- The alert is found from now on, with its status and resolved or not as it is, and all else as
before. -/
def KeptAs (get get' : String → Except RepoError (Alert V)) (alert : Alert V) : Prop :=
  ∃ stored, stored.alertID = alert.alertID ∧ stored.status = alert.status ∧
    stored.resolvedAt.isSome = alert.resolvedAt.isSome ∧
    ∀ id, get' id = if id = alert.alertID then .ok stored else get id

/-- A store of alerts: what it has taken is found again. -/
structure AlertStore (V : Type) extends AlertStoreInterface V where
  start : State
  takes : Alert V → Bool
  getByID_start : ∀ id alert, getByID start id ≠ .ok alert
  getByID_alertID : ∀ s id alert, getByID s id = .ok alert → alert.alertID = id
  create_spec : ∀ s r alert, alert.alertID ≠ "" → alert.status ≠ "" →
    getByID (create s r (some alert)).1 = getByID s ∨
      KeptAs (getByID s) (getByID (create s r (some alert)).1) alert
  update_spec : ∀ s r alert old, alert.alertID ≠ "" → getByID s alert.alertID = .ok old →
    takes alert = true → KeptAs (getByID s) (getByID (update s r (some alert)).1) alert
  update_refused : ∀ s r alert, takes alert = false →
    getByID (update s r (some alert)).1 = getByID s
  delete_spec : ∀ s id id' alert, getByID (delete s id).1 id' = .ok alert → getByID s id' = .ok alert

namespace InMemoryAlertStore

theorem getByID_eq_ok {s : InMemoryAlertStore V} {id : String} {alert : Alert V} :
    s.getByID id = .ok alert ↔ s.alerts.lookup id = some alert := by
  unfold getByID
  cases s.alerts.lookup id with
  | none => exact ⟨nofun, nofun⟩
  | some stored => exact ⟨fun h => by cases h; rfl, fun h => by cases h; rfl⟩

theorem getByID_put (s : InMemoryAlertStore V) (alert : Alert V) (id : String) :
    (s.put alert).getByID id = if id = alert.alertID then .ok alert else s.getByID id := by
  unfold getByID
  rw [lookup_put]
  by_cases hid : id = alert.alertID
  · rw [if_pos hid, if_pos hid]
  · rw [if_neg hid, if_neg hid]

theorem update_kept {s : InMemoryAlertStore V} (r : Reading) {alert old : Alert V}
    (h : s.getByID alert.alertID = .ok old) :
    KeptAs s.getByID (s.update r (some alert)).1.getByID alert := by
  have hupdate : (s.update r (some alert)).1 = s.put (alert.touch r.now) := by
    simp only [update, getByID_eq_ok.mp h]
  rw [hupdate]
  exact ⟨alert.touch r.now, rfl, rfl, rfl, s.getByID_put _⟩

theorem getByID_of_delete {s : InMemoryAlertStore V} {id id' : String} {alert : Alert V}
    (h : (s.delete id).1.getByID id' = .ok alert) : s.getByID id' = .ok alert := by
  unfold delete at h
  split at h
  next => exact h
  next =>
    rw [getByID_eq_ok] at h ⊢
    exact Maps.lookup_of_lookup_erase h

theorem create_kept (s : InMemoryAlertStore V) (r : Reading) {alert : Alert V} (hid : alert.alertID ≠ "") :
    KeptAs s.getByID (s.create r (some alert)).1.getByID alert := by
  have hkey : (alert.stamp r).alertID = alert.alertID := if_neg hid
  refine ⟨alert.stamp r, hkey, rfl, rfl, fun id => ?_⟩
  rw [← hkey]
  exact s.getByID_put (alert.stamp r) id

/-- The in-memory store, which takes every alert. -/
def alertStore : AlertStore V where
  State := InMemoryAlertStore V
  create := create
  getByID := getByID
  update := update
  delete := delete
  start := new
  takes := fun _ => true
  getByID_start := fun id alert h => by
    rw [getByID_eq_ok] at h
    exact absurd h (by simp [new])
  getByID_alertID := fun s id alert h => s.keyed id alert (getByID_eq_ok.mp h)
  create_spec := fun s r _ hid _ => .inr (s.create_kept r hid)
  update_spec := fun _ r _ _ _ h _ => update_kept r h
  update_refused := fun _ _ _ h => nomatch h
  delete_spec := fun _ _ _ _ h => getByID_of_delete h

end InMemoryAlertStore

namespace AlertTable

theorem getByID_eq_ok {t : AlertTable V} {id : String} {alert : Alert V} :
    getByID t id = .ok alert ↔ storableText id = true ∧ Keyed.lookup t id = some alert := by
  unfold getByID
  cases storableText id with
  | false => exact ⟨nofun, nofun⟩
  | true =>
    rw [if_pos rfl]
    cases Keyed.lookup t id with
    | none => exact ⟨nofun, nofun⟩
    | some stored => exact ⟨fun h => by cases h; exact ⟨rfl, rfl⟩, fun h => by cases h.2; rfl⟩

theorem getByID_of_lookup {t t' : AlertTable V} {key : String} {stored : Alert V}
    (hkey : storableText key = true)
    (h : ∀ id, Keyed.lookup t' id = if id = key then some stored else Keyed.lookup t id) (id : String) :
    getByID t' id = if id = key then .ok stored else getByID t id := by
  unfold getByID
  by_cases hid : id = key
  · rw [if_pos hid, hid, if_pos hkey, h key, if_pos rfl]
  · rw [if_neg hid, h id, if_neg hid]

/-- A row has the status of its alert, and is resolved when that is. -/
theorem create_kept {codec : MetadataCodec V} {t : AlertTable V} (r : Reading) {alert : Alert V}
    (hid : alert.alertID ≠ "") (hstatus : alert.status ≠ "") :
    getByID (create codec t r (some alert)).1 = getByID t ∨
      KeptAs (getByID t) (getByID (create codec t r (some alert)).1) alert := by
  rcases create_cases codec t r alert with ⟨err, heq, -⟩ | ⟨t', hs, -, heq, hinsert⟩
  · left
    rw [heq]
  · right
    have hkey : (alert.withDefaults r).row.alertID = alert.alertID := if_neg hid
    have hlookup := Keyed.lookup_of_insert hinsert
    rw [hkey] at hlookup
    have htext : storableText alert.alertID = true := by
      rw [← hkey]
      exact storable_alertID hs
    rw [heq]
    exact ⟨(alert.withDefaults r).row, hkey, if_neg hstatus, Option.isSome_map,
      getByID_of_lookup htext hlookup⟩

theorem update_kept {codec : MetadataCodec V} {t : AlertTable V} (r : Reading) {alert old : Alert V}
    (hid : alert.alertID ≠ "") (hfound : getByID t alert.alertID = .ok old)
    (htakes : alert.storable codec = true) :
    KeptAs (getByID t) (getByID (update codec t r (some alert)).1) alert := by
  obtain ⟨-, hlookup⟩ := getByID_eq_ok.mp hfound
  rcases update_cases codec t r alert with ⟨err, heq, hnone⟩ | ⟨t', old', now, -, -, hold, heq, hlookup'⟩
  · rw [hnone hid htakes] at hlookup
    cases hlookup
  · cases Option.some.inj (hlookup.symm.trans hold)
    have hkey : old.alertID = alert.alertID := Keyed.key_of_lookup hlookup
    rw [heq]
    exact ⟨(alert.touch now).overwrite old, hkey, rfl, Option.isSome_map,
      getByID_of_lookup (storable_alertID htakes) hlookup'⟩

theorem update_refused {codec : MetadataCodec V} (t : AlertTable V) (r : Reading) {alert : Alert V}
    (h : alert.storable codec = false) : (update codec t r (some alert)).1 = t := by
  rcases update_cases codec t r alert with ⟨err, heq, -⟩ | ⟨_, _, _, _, hs, -⟩
  · rw [heq]
  · rw [h] at hs
    cases hs

theorem getByID_of_delete {t : AlertTable V} {id id' : String} {alert : Alert V}
    (h : getByID (delete t id).1 id' = .ok alert) : getByID t id' = .ok alert := by
  rcases delete_cases t id with ⟨err, heq, -⟩ | ⟨t', _, _, heq, hlookup⟩
  · rwa [heq] at h
  · rw [heq, getByID_eq_ok, hlookup] at h
    obtain ⟨htext, hfound⟩ := h
    split at hfound
    next => cases hfound
    next => exact getByID_eq_ok.mpr ⟨htext, hfound⟩

/-- The repository, which takes what its columns take. -/
def alertStore (codec : MetadataCodec V) : AlertStore V where
  State := AlertTable V
  create := create codec
  getByID := getByID
  update := update codec
  delete := delete
  start := Table.empty
  takes := Alert.storable codec
  getByID_start := fun _ _ h => nomatch (getByID_eq_ok.mp h).2
  getByID_alertID := fun _ _ _ h => Keyed.key_of_lookup (getByID_eq_ok.mp h).2
  create_spec := fun _ r _ hid hstatus => create_kept r hid hstatus
  update_spec := fun _ r _ _ hid hfound htakes => update_kept r hid hfound htakes
  update_refused := fun t r _ h => by rw [update_refused t r h]
  delete_spec := fun _ _ _ _ h => getByID_of_delete h

end AlertTable

/-- An alert as it may be created: active and not resolved. -/
abbrev NewAlert (V : Type) :=
  { alert : Alert V // (alert.status = "" ∨ alert.status = alertStatusActive) ∧ alert.resolvedAt = none }

inductive Operation (V : Type)
  | createAlert (alert : Option (NewAlert V)) (clock r : Reading)
  | resolveAlert (alertID resolvedBy note : String) (clock r : Reading)
  | acknowledgeAlert (alertID : String) (clock r : Reading)
  | updateAlert (req : WebRequest) (body : Except String (UpdateAlertRequest V)) (clock r : Reading)
  | deleteAlert (alertID : String)

namespace AlertStore

variable (store : AlertStore V)

abbrev service : AlertService V := ⟨store.toAlertStoreInterface⟩

/-- The service with its handler; operations are taken one at a time. -/
def step (s : store.State) : Operation V → Option store.State
  | .createAlert alert clock r => some (store.service.createAlert s clock r (alert.map Subtype.val)).1
  | .resolveAlert alertID resolvedBy note clock r =>
    some (store.service.resolveAlert s clock r alertID resolvedBy note).1
  | .acknowledgeAlert alertID clock r => some (store.service.acknowledgeAlert s clock r alertID).1
  | .updateAlert req body clock r => some (handleUpdateAlert store.service s clock r req body).1
  | .deleteAlert alertID => some (store.service.deleteAlert s alertID).1

/-- It has a time of resolution exactly when it is resolved. -/
def Resolution (alert : Alert V) : Prop := alert.resolvedAt.isSome = true ↔ alert.status = alertStatusResolved

def AllResolution (s : store.State) : Prop := ∀ id alert, store.getByID s id = .ok alert → Resolution alert

/-- What keeps the two in step: an alert that has been resolved is not acknowledged, and a request that
sets a status sets `resolved` on the alerts that have a time of resolution and on no others. -/
def InStep (s : store.State) : Operation V → Prop
  | .acknowledgeAlert alertID clock _ => ∀ alert, store.getByID s alertID = .ok alert →
    store.takes (alert.acknowledge clock.now) = true → alert.resolvedAt = none
  | .updateAlert req body clock _ => ∀ alert change, store.getByID s (extractAlertID req) = .ok alert →
    body = .ok change → store.takes ((change.apply alert).touch clock.now) = true →
    change.status = "" ∨ (change.status = alertStatusResolved ↔ alert.resolvedAt.isSome = true)
  | _ => True

section

variable {store} {s t : store.State}

/-- No alert is stored under the empty id. -/
def Named (s : store.State) : Prop := ∀ alert, store.getByID s "" ≠ .ok alert

theorem named_of_kept {alert : Alert V} (hid : alert.alertID ≠ "") (h : Named s)
    (hkept : KeptAs (store.getByID s) (store.getByID t) alert) : Named t := by
  obtain ⟨stored, -, -, -, hget⟩ := hkept
  intro other hother
  rw [hget, if_neg (Ne.symm hid)] at hother
  exact h other hother

/-- Writing an alert keeps the two in step exactly when they are in that alert. -/
theorem allResolution_of_kept {alert : Alert V} (h : store.AllResolution s)
    (hkept : KeptAs (store.getByID s) (store.getByID t) alert) :
    store.AllResolution t ↔ Resolution alert := by
  obtain ⟨stored, -, hstatus, hresolved, hget⟩ := hkept
  have hstored : Resolution stored ↔ Resolution alert := by
    unfold Resolution
    rw [hstatus, hresolved]
  constructor
  · intro hall
    refine hstored.mp (hall alert.alertID stored ?_)
    rw [hget, if_pos rfl]
  · intro halert id other hother
    rw [hget] at hother
    split at hother
    next =>
      cases hother
      exact hstored.mpr halert
    next => exact h id other hother

theorem unchanged_iff (h : store.AllResolution s) (hnamed : Named s)
    (hsame : store.getByID t = store.getByID s) : Named t ∧ (store.AllResolution t ↔ True) := by
  refine ⟨fun alert => ?_, iff_true_intro (fun id alert => ?_)⟩
  · rw [hsame]
    exact hnamed alert
  · rw [hsame]
    exact h id alert

/-- What `Update` of a stored alert does. -/
theorem update_iff {alert : Alert V} {id : String} (edited : Alert V) (h : store.AllResolution s)
    (hnamed : Named s) (hfound : store.getByID s id = .ok alert) (hid : edited.alertID = alert.alertID)
    (r : Reading) :
    Named (store.update s r (some edited)).1 ∧
      (store.AllResolution (store.update s r (some edited)).1 ↔
        (store.takes edited = true → Resolution edited)) := by
  have hkey : edited.alertID = id := hid.trans (store.getByID_alertID s id alert hfound)
  have hne : edited.alertID ≠ "" := by
    intro hempty
    rw [← hkey, hempty] at hfound
    exact hnamed alert hfound
  cases htakes : store.takes edited with
  | false =>
    obtain ⟨hn, hall⟩ := unchanged_iff h hnamed (store.update_refused s r edited htakes)
    exact ⟨hn, hall.trans ⟨fun _ => nofun, fun _ => trivial⟩⟩
  | true =>
    have hkept := store.update_spec s r edited alert hne (hkey ▸ hfound) htakes
    exact ⟨named_of_kept hne hnamed hkept, (allResolution_of_kept h hkept).trans
      ⟨fun hr _ => hr, fun hr => hr rfl⟩⟩

theorem resolution_resolve (alert : Alert V) (resolvedBy note : String) (now : Time) :
    Resolution (alert.resolve resolvedBy note now) := iff_of_true rfl rfl

theorem resolution_acknowledge (alert : Alert V) (now : Time) :
    Resolution (alert.acknowledge now) ↔ alert.resolvedAt = none := by
  have hstatus : ¬alertStatusAcknowledged = alertStatusResolved := by decide
  show (alert.resolvedAt.isSome = true ↔ alertStatusAcknowledged = alertStatusResolved) ↔ _
  rw [iff_false_right hstatus, Bool.not_eq_true, Option.isSome_eq_false_iff, Option.isNone_iff_eq_none]

theorem resolution_apply {alert : Alert V} (h : Resolution alert) (change : UpdateAlertRequest V)
    (now : Time) : Resolution ((change.apply alert).touch now) ↔
      (change.status = "" ∨ (change.status = alertStatusResolved ↔ alert.resolvedAt.isSome = true)) := by
  show (alert.resolvedAt.isSome = true ↔
    (if change.status ≠ "" then change.status else alert.status) = alertStatusResolved) ↔ _
  by_cases hstatus : change.status = ""
  · rw [if_neg (not_not.mpr hstatus)]
    exact iff_of_true h (.inl hstatus)
  · rw [if_pos hstatus]
    exact ⟨fun hr => .inr hr.symm, fun hr => (hr.resolve_left hstatus).symm⟩

theorem resolution_prepare (alert : NewAlert V) (clock : Reading) :
    (alert.val.prepare clock).status ≠ "" ∧ Resolution (alert.val.prepare clock) := by
  obtain ⟨alert, hstatus, hresolved⟩ := alert
  have hactive : (alert.prepare clock).status = alertStatusActive := by
    show (if alert.status = "" then alertStatusActive else alert.status) = alertStatusActive
    split
    next => rfl
    next hne => exact hstatus.resolve_left hne
  refine ⟨by rw [hactive]; decide, ?_⟩
  unfold Resolution
  rw [hactive]
  show alert.resolvedAt.isSome = true ↔ _
  rw [hresolved]
  exact iff_of_false nofun (by decide)

theorem createAlert_iff (h : store.AllResolution s) (hnamed : Named s) (alert : Option (NewAlert V))
    (clock r : Reading) :
    Named (store.service.createAlert s clock r (alert.map Subtype.val)).1 ∧
      (store.AllResolution (store.service.createAlert s clock r (alert.map Subtype.val)).1 ↔ True) := by
  cases alert with
  | none => exact unchanged_iff h hnamed rfl
  | some alert =>
    show Named (store.service.createAlert s clock r (some alert.val)).1 ∧
      (store.AllResolution (store.service.createAlert s clock r (some alert.val)).1 ↔ True)
    unfold AlertService.createAlert
    dsimp only
    split
    next => exact unchanged_iff h hnamed rfl
    next =>
      have hid : (alert.val.prepare clock).alertID ≠ "" := alert.val.idOr_ne_empty clock
      obtain ⟨hstatus, hresolution⟩ := resolution_prepare alert clock
      rcases store.create_spec s r _ hid hstatus with hsame | hkept
      · exact unchanged_iff h hnamed hsame
      · exact ⟨named_of_kept hid hnamed hkept,
          (allResolution_of_kept h hkept).trans (iff_true_intro hresolution)⟩

theorem resolveAlert_iff (h : store.AllResolution s) (hnamed : Named s) (clock r : Reading)
    (alertID resolvedBy note : String) :
    Named (store.service.resolveAlert s clock r alertID resolvedBy note).1 ∧
      (store.AllResolution (store.service.resolveAlert s clock r alertID resolvedBy note).1 ↔ True) := by
  unfold AlertService.resolveAlert
  split
  next => exact unchanged_iff h hnamed rfl
  next alert hfound =>
    have hupdate := update_iff (alert.resolve resolvedBy note clock.now) h hnamed hfound rfl r
    exact ⟨hupdate.1, hupdate.2.trans (iff_true_intro (fun _ => resolution_resolve _ _ _ _))⟩

theorem acknowledgeAlert_iff (h : store.AllResolution s) (hnamed : Named s) (clock r : Reading)
    (alertID : String) :
    Named (store.service.acknowledgeAlert s clock r alertID).1 ∧
      (store.AllResolution (store.service.acknowledgeAlert s clock r alertID).1 ↔
        store.InStep s (.acknowledgeAlert alertID clock r)) := by
  unfold AlertService.acknowledgeAlert
  split
  next err hfound =>
    obtain ⟨hn, hall⟩ := unchanged_iff h hnamed rfl
    refine ⟨hn, hall.trans (iff_of_true trivial ?_)⟩
    intro alert hok
    rw [show store.getByID s alertID = .error err from hfound] at hok
    cases hok
  next alert hfound =>
    have hupdate := update_iff (alert.acknowledge clock.now) h hnamed hfound rfl r
    refine ⟨hupdate.1, hupdate.2.trans ?_⟩
    rw [resolution_acknowledge]
    constructor
    · intro hone other hother htakes
      cases Except.ok.inj (hfound.symm.trans hother)
      exact hone htakes
    · exact fun hall htakes => hall alert hfound htakes

section

variable {svc : AlertService V} {u : svc.store.State} {req : WebRequest} {clock r : Reading}

theorem handleUpdateAlert_of_no_id {body : Except String (UpdateAlertRequest V)}
    (hid : extractAlertID req = "") : (handleUpdateAlert svc u clock r req body).1 = u := by
  simp only [handleUpdateAlert, if_pos hid]

theorem handleUpdateAlert_of_not_found {body : Except String (UpdateAlertRequest V)} {err : RepoError}
    (hid : extractAlertID req ≠ "") (hfound : svc.store.getByID u (extractAlertID req) = .error err) :
    (handleUpdateAlert svc u clock r req body).1 = u := by
  simp only [handleUpdateAlert, if_neg hid, AlertService.getAlert, hfound]
  split
  next => rfl
  next => rfl

theorem handleUpdateAlert_of_bad_body {alert : Alert V} {err : String} (hid : extractAlertID req ≠ "")
    (hfound : svc.store.getByID u (extractAlertID req) = .ok alert) :
    (handleUpdateAlert svc u clock r req (.error err)).1 = u := by
  simp only [handleUpdateAlert, if_neg hid, AlertService.getAlert, hfound]

theorem handleUpdateAlert_of_ok {alert : Alert V} {change : UpdateAlertRequest V}
    (hid : extractAlertID req ≠ "") (hfound : svc.store.getByID u (extractAlertID req) = .ok alert)
    (hkey : alert.alertID = extractAlertID req) :
    (handleUpdateAlert svc u clock r req (.ok change)).1 =
      (svc.store.update u r (some ((change.apply alert).touch clock.now))).1 := by
  have hne : (change.apply alert).alertID ≠ "" := fun hempty => hid (hkey.symm.trans hempty)
  simp only [handleUpdateAlert, if_neg hid, AlertService.getAlert, hfound, AlertService.updateAlert,
    if_neg hne]
  split
  next heq => rw [heq]
  next heq => rw [heq]
  next heq => rw [heq]

end

theorem handleUpdateAlert_iff (h : store.AllResolution s) (hnamed : Named s) (clock r : Reading)
    (req : WebRequest) (body : Except String (UpdateAlertRequest V)) :
    Named (handleUpdateAlert store.service s clock r req body).1 ∧
      (store.AllResolution (handleUpdateAlert store.service s clock r req body).1 ↔
        store.InStep s (.updateAlert req body clock r)) := by
  have refused : (∀ alert change, store.getByID s (extractAlertID req) = .ok alert → body ≠ .ok change) →
      Named s ∧ (store.AllResolution s ↔ store.InStep s (.updateAlert req body clock r)) := by
    intro hnone
    refine ⟨hnamed, iff_of_true h ?_⟩
    exact fun alert change hfound hbody => absurd hbody (hnone alert change hfound)
  by_cases hid : extractAlertID req = ""
  · rw [handleUpdateAlert_of_no_id hid]
    refine refused (fun alert change hfound => ?_)
    rw [hid] at hfound
    exact absurd hfound (hnamed alert)
  cases hfound : store.getByID s (extractAlertID req) with
  | error err =>
    rw [handleUpdateAlert_of_not_found hid hfound]
    refine refused (fun alert change hok => ?_)
    rw [hfound] at hok
    cases hok
  | ok alert =>
    cases hbody : body with
    | error err =>
      subst hbody
      rw [handleUpdateAlert_of_bad_body hid hfound]
      exact refused (fun _ _ _ => nofun)
    | ok change =>
      rw [handleUpdateAlert_of_ok hid hfound (store.getByID_alertID _ _ _ hfound)]
      have hupdate := update_iff ((change.apply alert).touch clock.now) h hnamed hfound rfl r
      refine ⟨hupdate.1, hupdate.2.trans ?_⟩
      rw [resolution_apply (h _ _ hfound)]
      constructor
      · intro hone other change' hother hchange htakes
        cases Except.ok.inj (hfound.symm.trans hother)
        cases Except.ok.inj hchange
        exact hone htakes
      · exact fun hall htakes => hall alert change hfound rfl htakes

theorem deleteAlert_iff (h : store.AllResolution s) (hnamed : Named s) (alertID : String) :
    Named (store.service.deleteAlert s alertID).1 ∧
      (store.AllResolution (store.service.deleteAlert s alertID).1 ↔ True) := by
  unfold AlertService.deleteAlert
  split
  next => exact unchanged_iff h hnamed rfl
  next =>
    refine ⟨fun alert hfound => ?_, iff_true_intro (fun id alert hfound => ?_)⟩
    · exact hnamed alert (store.delete_spec s alertID _ alert hfound)
    · exact h id alert (store.delete_spec s alertID id alert hfound)

/-- One operation, from a state in which all is in step. -/
theorem step_iff (h : store.AllResolution s) (hnamed : Named s) {op : Operation V}
    (hs : store.step s op = some t) : Named t ∧ (store.AllResolution t ↔ store.InStep s op) := by
  cases op with
  | createAlert alert clock r =>
    cases Option.some.inj hs
    exact createAlert_iff h hnamed alert clock r
  | resolveAlert alertID resolvedBy note clock r =>
    cases Option.some.inj hs
    exact resolveAlert_iff h hnamed clock r alertID resolvedBy note
  | acknowledgeAlert alertID clock r =>
    cases Option.some.inj hs
    exact acknowledgeAlert_iff h hnamed clock r alertID
  | updateAlert req body clock r =>
    cases Option.some.inj hs
    exact handleUpdateAlert_iff h hnamed clock r req body
  | deleteAlert alertID =>
    cases Option.some.inj hs
    exact deleteAlert_iff h hnamed alertID

end

/-- In a run from the empty store the times of resolution and the statuses are in step throughout
exactly when every operation keeps them so. -/
theorem resolution_throughout_iff (store : AlertStore V) (operations : List (Operation V)) :
    Throughout store.step store.AllResolution store.start operations ↔
      EachStep store.step store.InStep store.start operations := by
  refine throughout_iff_eachStep (I := fun s => Named s ∧ store.AllResolution s) ?_ ?_ ?_ ?_ operations
  · rintro s op t ⟨hnamed, h⟩ hok hs
    obtain ⟨hnamed', hall⟩ := step_iff h hnamed hs
    exact ⟨hnamed', hall.mpr hok⟩
  · exact fun s hs => hs.2
  · rintro s op t ⟨hnamed, h⟩ hn hs hall
    exact hn ((step_iff h hnamed hs).2.mp hall)
  · exact ⟨store.getByID_start "", fun id alert hfound => absurd hfound (store.getByID_start id alert)⟩

/-- An alert as `POST /api/v1/audit/alerts` makes it. -/
def sampleAlert : NewAlert Empty :=
  ⟨{ alertID := "ALT-1", alertName := "", alertType := "quota", alertLevel := "warning", tenantID := 1,
     supplierID := 0, title := "quota", message := "", description := "", eventID := "", eventIDs := [],
     triggerCondition := "", threshold := 0, currentValue := 0, status := "", resolvedAt := none,
     resolvedBy := "", resolveNote := "", notifyEnabled := true, notifyChannels := [],
     createdAt := zeroTime, updatedAt := zeroTime, firstSeenAt := zeroTime, lastSeenAt := zeroTime,
     metadata := [], tags := [] }, .inl rfl, rfl⟩

def sampleReading (now : Time) : Reading := ⟨now, now, ""⟩

def sampleUpdate : WebRequest := ⟨"PUT", "/api/v1/audit/alerts/ALT-1", [], "", "", "", "", none⟩

/-- The body sets the status and nothing else. -/
def sampleStatus : UpdateAlertRequest Empty := ⟨"", "", "", "", "resolved", none, [], [], none⟩

/-- Acknowledged after it has been resolved, an alert keeps its time of resolution; set to `resolved` by
a request, it has none. -/
theorem resolution_out_of_step :
    (∃ s alert, exec InMemoryAlertStore.alertStore.step InMemoryAlertStore.alertStore.start
        [.createAlert (some sampleAlert) (sampleReading 1) (sampleReading 2),
          .resolveAlert "ALT-1" "ops" "" (sampleReading 3) (sampleReading 4),
          .acknowledgeAlert "ALT-1" (sampleReading 5) (sampleReading 6)] = some s ∧
      InMemoryAlertStore.alertStore.getByID s "ALT-1" = .ok alert ∧
      alert.status = alertStatusAcknowledged ∧ alert.resolvedAt = some 3 ∧
      ¬InMemoryAlertStore.alertStore.AllResolution s) ∧
    ∃ s alert, exec InMemoryAlertStore.alertStore.step InMemoryAlertStore.alertStore.start
        [.createAlert (some sampleAlert) (sampleReading 1) (sampleReading 2),
          .updateAlert sampleUpdate (.ok sampleStatus) (sampleReading 3) (sampleReading 4)] = some s ∧
      InMemoryAlertStore.alertStore.getByID s "ALT-1" = .ok alert ∧
      alert.status = alertStatusResolved ∧ alert.resolvedAt = none ∧
      ¬InMemoryAlertStore.alertStore.AllResolution s := by
  refine ⟨⟨_, _, rfl, rfl, rfl, rfl, fun hall => ?_⟩, ⟨_, _, rfl, rfl, rfl, rfl, fun hall => ?_⟩⟩
  · exact absurd ((hall "ALT-1" _ rfl).mp rfl) (by decide)
  · exact Bool.false_ne_true ((hall "ALT-1" _ rfl).mpr rfl)

end AlertStore

end SupplyPlatform.Alerts
