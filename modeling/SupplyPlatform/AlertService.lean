import SupplyPlatform.AlertStore
import SupplyPlatform.WebRequest

namespace SupplyPlatform.Alerts

open Settlements (zeroTime)

variable {V : Type}

structure AlertStoreInterface (V : Type) where
  State : Type
  create : State → Reading → Option (Alert V) → State × Outcome
  getByID : State → String → Except RepoError (Alert V)
  update : State → Reading → Option (Alert V) → State × Outcome
  delete : State → String → State × Outcome

def Alert.resolve (alert : Alert V) (resolvedBy note : String) (now : Time) : Alert V :=
  { alert with
    status := alertStatusResolved
    resolvedAt := some now
    resolvedBy := resolvedBy
    resolveNote := note
    updatedAt := now }

/-- The resolution fields are left alone. -/
def Alert.acknowledge (alert : Alert V) (now : Time) : Alert V :=
  { alert with status := alertStatusAcknowledged, updatedAt := now }

/-- `AlertService`, over any store. The clock is read in the service and, as `r` says, in the store. -/
structure AlertService (V : Type) where
  store : AlertStoreInterface V

/-- The defaults of `CreateAlert`. -/
def Alert.prepare (alert : Alert V) (clock : Reading) : Alert V :=
  { alert with
    alertID := alert.idOr clock
    status := if alert.status = "" then alertStatusActive else alert.status
    createdAt := if alert.createdAt = zeroTime then clock.now else alert.createdAt
    updatedAt := if alert.updatedAt = zeroTime then clock.now else alert.updatedAt
    firstSeenAt := if alert.firstSeenAt = zeroTime then clock.now else alert.firstSeenAt
    lastSeenAt := if alert.lastSeenAt = zeroTime then clock.now else alert.lastSeenAt }

namespace AlertService

variable (svc : AlertService V) (s : svc.store.State)

def createAlert (clock r : Reading) : Option (Alert V) → svc.store.State × Outcome
  | none => (s, .rejected errInvalidAlertInput)
  | some alert =>
    if alert.title = "" then (s, .rejected (.message "alert title is required"))
    else svc.store.create s r (some (alert.prepare clock))

def getAlert (alertID : String) : Except RepoError (Alert V) :=
  if alertID = "" then .error errInvalidAlertInput else svc.store.getByID s alertID

def updateAlert (clock r : Reading) : Option (Alert V) → svc.store.State × Outcome
  | none => (s, .rejected errInvalidAlertInput)
  | some alert =>
    if alert.alertID = "" then (s, .rejected errInvalidAlertInput)
    else svc.store.update s r (some (alert.touch clock.now))

def deleteAlert (alertID : String) : svc.store.State × Outcome :=
  if alertID = "" then (s, .rejected errInvalidAlertInput) else svc.store.delete s alertID

def resolveAlert (clock r : Reading) (alertID resolvedBy note : String) : svc.store.State × Outcome :=
  match svc.store.getByID s alertID with
  | .error err => (s, .rejected err)
  | .ok alert => svc.store.update s r (some (alert.resolve resolvedBy note clock.now))

def acknowledgeAlert (clock r : Reading) (alertID : String) : svc.store.State × Outcome :=
  match svc.store.getByID s alertID with
  | .error err => (s, .rejected err)
  | .ok alert => svc.store.update s r (some (alert.acknowledge clock.now))

end AlertService

structure UpdateAlertRequest (V : Type) where
  title : String
  message : String
  description : String
  alertLevel : String
  status : String
  notifyEnabled : Option Bool
  notifyChannels : List String
  tags : List String
  metadata : Option (List (String × V))

/-- The fields a request changes: the status is one of them, the resolution fields are not. -/
def UpdateAlertRequest.apply (req : UpdateAlertRequest V) (alert : Alert V) : Alert V :=
  { alert with
    title := if req.title ≠ "" then req.title else alert.title
    message := if req.message ≠ "" then req.message else alert.message
    description := if req.description ≠ "" then req.description else alert.description
    alertLevel := if req.alertLevel ≠ "" then req.alertLevel else alert.alertLevel
    status := if req.status ≠ "" then req.status else alert.status
    notifyEnabled := req.notifyEnabled.getD alert.notifyEnabled
    notifyChannels := if req.notifyChannels ≠ [] then req.notifyChannels else alert.notifyChannels
    tags := if req.tags ≠ [] then req.tags else alert.tags
    metadata := req.metadata.getD alert.metadata }

/-- `strings.Split(strings.TrimPrefix(path, "/"), "/")`. -/
def pathParts (path : String) : List String :=
  let cs := match path.toList with
    | '/' :: rest => rest
    | cs => cs
  (cs.splitOn '/').map String.ofList

/-- The id from the path or else from the query. -/
def extractAlertID (r : WebRequest) : String :=
  match pathParts r.path with
  | "api" :: "v1" :: "audit" :: "alerts" :: alertID :: _ =>
    if alertID ≠ "" ∧ alertID ≠ "resolve" then alertID else r.get "alert_id"
  | _ => r.get "alert_id"

/-- The answer, with what `err.Error()` gives in place of its text. -/
inductive AlertResponse
  | ok
  | error (status : Nat) (code : String) (err : RepoError)
  | panicked
  deriving DecidableEq

/-- `AlertHandler.UpdateAlert`, the body as it is decoded. -/
def handleUpdateAlert (svc : AlertService V) (s : svc.store.State) (clock r : Reading) (req : WebRequest)
    (body : Except String (UpdateAlertRequest V)) : svc.store.State × AlertResponse :=
  let alertID := extractAlertID req
  if alertID = "" then (s, .error 400 "MISSING_PARAM" (.message "alert_id is required"))
  else
    match svc.getAlert s alertID with
    | .error err =>
      if err = errAlertNotFound then (s, .error 404 "NOT_FOUND" errAlertNotFound)
      else (s, .error 500 "GET_FAILED" err)
    | .ok alert =>
      match body with
      | .error err => (s, .error 400 "INVALID_REQUEST" (.message ("invalid request body: " ++ err)))
      | .ok req =>
        match svc.updateAlert s clock r (some (req.apply alert)) with
        | (s, .accepted) => (s, .ok)
        | (s, .rejected err) => (s, .error 500 "UPDATE_FAILED" err)
        | (s, .panicked) => (s, .panicked)

end SupplyPlatform.Alerts
