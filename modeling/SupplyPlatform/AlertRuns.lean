import SupplyPlatform.AlertAgreement
import SupplyPlatform.AlertRefinement
import SupplyPlatform.Lib.Serving

namespace SupplyPlatform.Alerts

open Settlements (zeroTime)
open Iam (storableText)
open Audit (microseconds Json)
open Strings Relational Transition

/-- `PostgresAlertRepository.Delete`. -/
def AlertRows.delete (t : AlertRows) (alertID : String) : AlertRows × Outcome :=
  if storableText alertID then
    match Keyed.lookup t alertID with
    | none => (t, .rejected errAlertNotFound)
    | some _ => (Table.delete t (fun row => row.alertID = alertID), .accepted)
  else (t, .rejected (encodingError "delete alert"))

/-- The calls of `AlertStoreInterface`; `A` is the type of the alerts they are given. -/
inductive StoreCall (A : Type)
  | create (alert : Option A) (r : Reading)
  | update (alert : Option A) (r : Reading)
  | delete (alertID : String)
  | getByID (alertID : String)
  | list (filter : AlertFilter)

/-- The alert that a call is given to write. -/
def StoreCall.given {A : Type} : StoreCall A → Option A
  | .create alert _ | .update alert _ => alert
  | _ => none

def StoreCall.map {A B : Type} (f : A → B) : StoreCall A → StoreCall B
  | .create alert r => .create (alert.map f) r
  | .update alert r => .update (alert.map f) r
  | .delete alertID => .delete alertID
  | .getByID alertID => .getByID alertID
  | .list filter => .list filter

/-- What a call returns; `A` is the type of the alerts that are read. -/
inductive Reply (A : Type)
  | written (outcome : Outcome)
  | read (result : Except RepoError A)
  | listed (result : Except RepoError (List A × Int))

section

variable {V : Type} (toJSON : V → Except String Json) (codec : MetadataCodec V) (lower : Char → Char)
  (db : Locale)

def AlertRows.reply (t : AlertRows) : StoreCall (GivenAlert V) → AlertRows × Reply (Alert Json)
  | .create alert r => ((create toJSON t r alert).1, .written (create toJSON t r alert).2)
  | .update alert r => ((update toJSON t r alert).1, .written (update toJSON t r alert).2)
  | .delete alertID => ((t.delete alertID).1, .written (t.delete alertID).2)
  | .getByID alertID => (t, .read (getByID t alertID))
  | .list filter => (t, .listed (list lower db t filter))

def AlertTable.reply (t : AlertTable V) : StoreCall (Alert V) → AlertTable V × Reply (Alert V)
  | .create alert r => ((create codec t r alert).1, .written (create codec t r alert).2)
  | .update alert r => ((update codec t r alert).1, .written (update codec t r alert).2)
  | .delete alertID => ((t.delete alertID).1, .written (t.delete alertID).2)
  | .getByID alertID => (t, .read (getByID t alertID))
  | .list filter => (t, .listed (list lower db t filter))

end

/-- The same outcome, or what is read is related, alert by alert and with the same total. -/
inductive Reply.Alike {A B : Type} (R : A → B → Prop) : Reply A → Reply B → Prop
  | written (outcome : Outcome) : Alike R (.written outcome) (.written outcome)
  | read {x : Except RepoError A} {y : Except RepoError B} (h : AlertRows.Alike R x y) :
    Alike R (.read x) (.read y)
  | listed {x : Except RepoError (List A × Int)} {y : Except RepoError (List B × Int)}
    (h : AlertRows.Alike (fun p q => List.Forall₂ R p.1 q.1 ∧ p.2 = q.2) x y) : Alike R (.listed x) (.listed y)

namespace AlertRows

variable {V : Type} {toJSON : V → Except String Json} {codec : MetadataCodec V}

theorem represents_empty : Represents toJSON Table.empty (Table.empty : AlertTable V) := .nil

theorem delete_refines {t : AlertRows} {a : AlertTable V} (h : Represents toJSON t a) (id : String) :
    (delete t id).2 = (AlertTable.delete a id).2 ∧
      Represents toJSON (delete t id).1 (AlertTable.delete a id).1 := by
  by_cases hid : storableText id = true
  · have hlookup := rel_lookup_alert h id
    simp only [delete, AlertTable.delete, if_pos hid]
    generalize Keyed.lookup t id = row at hlookup
    generalize Keyed.lookup a id = stored at hlookup
    cases hlookup with
    | none => exact ⟨rfl, h⟩
    | some _ => exact ⟨rfl, rel_delete (fun b b' hb => by rw [shows_alertID hb]) h⟩
  · simp only [delete, AlertTable.delete, if_neg hid]
    exact ⟨trivial, h⟩

theorem reply_refines (hcodec : codec.Writes toJSON) (lower : Char → Char) (db : Locale) {t : AlertRows}
    {a : AlertTable V} (h : Represents toJSON t a) (call : StoreCall (GivenAlert V))
    (hfloats : ∀ g ∈ call.given, g.OfFloats toJSON) :
    Represents toJSON (reply toJSON lower db t call).1
        (AlertTable.reply codec lower db a (call.map GivenAlert.alert)).1 ∧
      (reply toJSON lower db t call).2.Alike (ReadAs toJSON)
        (AlertTable.reply codec lower db a (call.map GivenAlert.alert)).2 := by
  cases call with
  | create given r =>
    obtain ⟨houtcome, hrows⟩ := create_refines hcodec h r given hfloats
    refine ⟨hrows, ?_⟩
    simp only [reply, AlertTable.reply, StoreCall.map, houtcome]
    exact .written _
  | update given r =>
    obtain ⟨houtcome, hrows⟩ := update_refines hcodec h r given hfloats
    refine ⟨hrows, ?_⟩
    simp only [reply, AlertTable.reply, StoreCall.map, houtcome]
    exact .written _
  | delete id =>
    obtain ⟨houtcome, hrows⟩ := delete_refines h id
    refine ⟨hrows, ?_⟩
    simp only [reply, AlertTable.reply, StoreCall.map, houtcome]
    exact .written _
  | getByID id => exact ⟨h, .read (getByID_refines h id)⟩
  | list filter => exact ⟨h, .listed (list_refines lower db h filter)⟩

/-- Over the columns every run of the store answers what it answers over the alerts, where the numbers of
the metadata are float64s: each call ends the same, and each alert read is the stored one, with metadata of
the same JSON. -/
theorem runs_refine (hcodec : codec.Writes toJSON) (lower : Char → Char) (db : Locale) {t : AlertRows}
    {a : AlertTable V} (h : Represents toJSON t a) (calls : List (StoreCall (GivenAlert V)))
    (hfloats : ∀ call ∈ calls, ∀ g ∈ call.given, g.OfFloats toJSON) :
    let columns := serve (reply toJSON lower db) t calls
    let alerts := serve (AlertTable.reply codec lower db) a (calls.map (StoreCall.map GivenAlert.alert))
    Represents toJSON columns.1 alerts.1 ∧
      List.Forall₂ (Reply.Alike (ReadAs toJSON)) columns.2 alerts.2 := by
  refine serve_related (A := fun call call' =>
    call' = call.map GivenAlert.alert ∧ ∀ g ∈ call.given, g.OfFloats toJSON) ?_ h ?_
  · rintro t a call _ h ⟨rfl, hcall⟩
    exact reply_refines hcodec lower db h call hcall
  · exact List.forall₂_map_right_iff.mpr (List.forall₂_same.mpr fun call hmem => ⟨rfl, hfloats call hmem⟩)

/-- The members of an object of tenths, as they are written. -/
def tenths : List (String × Unit) → List Char
  | [] => []
  | [(key, _)] => '"' :: key.toList ++ "\":0.1".toList
  | (key, _) :: members => '"' :: key.toList ++ "\":0.1,".toList ++ tenths members

/-- The metadata are tenths, under keys that need no escapes. -/
def tenthCodec : MetadataCodec Unit :=
  ⟨fun members => .ok (String.ofList ('\x7b' :: tenths members ++ ['\x7d'])), storableText⟩

def tenthJSON (_ : Unit) : Except String Json := .ok (.number (1 / 10))

theorem marshalMembers_tenths (members : List (String × Unit)) :
    marshalMembers tenthJSON members = .ok (members.map (fun p => (p.1, .number (1 / 10)))) := by
  induction members with
  | nil => rfl
  | cons p members ih =>
    rw [marshalMembers, tenthJSON]
    simp only [ih, Except.map, List.map_cons]

/-- A NUL character comes from a key. -/
theorem mem_tenths (members : List (String × Unit)) :
    Char.ofNat 0 ∈ tenths members ↔ ∃ p ∈ members, Char.ofNat 0 ∈ p.1.toList := by
  have hrest : Char.ofNat 0 ∉ "\":0.1,".toList ∧ Char.ofNat 0 ∉ "\":0.1".toList ∧ Char.ofNat 0 ≠ '"' := by
    decide
  induction members with
  | nil => simp [tenths]
  | cons p members ih =>
    cases members with
    | nil => simp [tenths, hrest]
    | cons q members =>
      have hsplit : tenths (p :: q :: members) =
          '"' :: p.1.toList ++ "\":0.1,".toList ++ tenths (q :: members) := rfl
      simp [hsplit, ih, hrest]

theorem jsonbTakesMembers_tenths (members : List (String × Unit)) :
    jsonbTakesMembers (members.map (fun p => (p.1, .number (1 / 10)))) =
      members.all (fun p => storableText p.1) := by
  induction members with
  | nil => rfl
  | cons p members ih =>
    have hnumber : jsonbTakes (.number (1 / 10)) = true := rfl
    rw [List.map_cons, jsonbTakesMembers, hnumber, ih, Bool.and_true, List.all_cons]

theorem sample_writes : tenthCodec.Writes tenthJSON where
  refused members err h := by
    rw [marshalMembers_tenths] at h
    cases h
  written members json h := by
    rw [marshalMembers_tenths] at h
    cases h
    refine ⟨_, rfl, ?_⟩
    have hmem := mem_tenths members
    have hends : Char.ofNat 0 ≠ '\x7b' ∧ Char.ofNat 0 ≠ '\x7d' := by decide
    rw [jsonbTakesMembers_tenths, Bool.eq_iff_iff]
    simp [tenthCodec, storableText, hmem, hends]

theorem runs_refine_sample :
    let calls : List (StoreCall (GivenAlert Unit)) :=
      [.create (some (measuredAlert ())) ⟨1000, 2000, ""⟩, .create (some (measuredAlert ())) ⟨3000, 4000, ""⟩,
        .update (some (measuredAlert ())) ⟨5000, 6000, ""⟩, .getByID "ALT-1", .delete "ALT-1", .getByID "ALT-1"]
    let columns := serve (reply tenthJSON Char.toLower sampleLocale) Table.empty calls
    let alerts := serve (AlertTable.reply tenthCodec Char.toLower sampleLocale) Table.empty
      (calls.map (StoreCall.map GivenAlert.alert))
    Represents tenthJSON columns.1 alerts.1 ∧ List.Forall₂ (Reply.Alike (ReadAs tenthJSON)) columns.2 alerts.2 := by
  refine runs_refine sample_writes Char.toLower sampleLocale represents_empty _ ?_
  have hfloats : (measuredAlert ()).OfFloats tenthJSON := by
    rintro json h
    cases h
    decide +kernel
  simp [StoreCall.given, hfloats]

end AlertRows

end SupplyPlatform.Alerts
