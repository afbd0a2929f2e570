import Mathlib.Data.Rat.Defs
import SupplyPlatform.Lib.Bytes
import SupplyPlatform.Settlement

namespace SupplyPlatform.Accounts

open Relational
open Settlements (AccountStatus errNotFound errConcurrencyConflict)

/-- The named providers, and whatever other text the column holds. -/
inductive Provider
  | openai
  | anthropic
  | gemini
  | baidu
  | xfyun
  | tencent
  | other (name : String)
  deriving DecidableEq

inductive AccountType
  | apiKey
  | oauth
  | other (name : String)
  deriving DecidableEq

/-- Quotas, costs and rates are float64 in Go and NUMERIC in the database; here they are the rationals
these denote, stored and read back exactly. The hash is bytes, for it may end inside a character. -/
structure Account where
  id : Int
  supplierID : Int
  provider : Provider
  accountType : AccountType
  credentialHash : Bytes.Text
  keyID : String
  accountAlias : String
  status : AccountStatus
  riskLevel : String
  totalQuota : ℚ
  availableQuota : ℚ
  frozenQuota : ℚ
  isVerified : Bool
  verifiedAt : Option Time
  lastCheckAt : Option Time
  tosCompliant : Bool
  tosCheckResult : String
  totalRequests : Int
  totalTokens : Int
  totalCost : ℚ
  successRate : ℚ
  riskScore : Int
  riskReason : String
  isFrozen : Bool
  frozenReason : String
  credentialCipherAlgo : String
  credentialKMSKeyAlias : String
  credentialKeyVersion : Int
  quotaUnit : String
  currencyCode : String
  version : Int
  createdIP : String
  updatedIP : String
  auditTraceID : String
  createdAt : Time
  updatedAt : Time
  deriving DecidableEq

/-- A row of `supply_accounts`. -/
structure AccountRow where
  id : Int
  userID : Int
  platform : Provider
  accountType : AccountType
  accountName : String
  encryptedCredentials : String
  keyID : String
  status : AccountStatus
  riskLevel : String
  totalQuota : ℚ
  availableQuota : ℚ
  frozenQuota : ℚ
  isVerified : Bool
  verifiedAt : Option Time
  lastCheckAt : Option Time
  tosCompliant : Bool
  tosCheckResult : String
  totalRequests : Int
  totalTokens : Int
  totalCost : ℚ
  successRate : ℚ
  riskScore : Int
  riskReason : String
  isFrozen : Bool
  frozenReason : String
  credentialCipherAlgo : String
  credentialKMSKeyAlias : String
  credentialKeyVersion : Int
  quotaUnit : String
  currencyCode : String
  version : Int
  createdIP : Option String
  updatedIP : Option String
  auditTraceID : String
  createdAt : Time
  updatedAt : Time
  deriving DecidableEq

/-- PRIMARY KEY (id). -/
def Apart (a b : AccountRow) : Prop := a.id ≠ b.id

instance : DecidableRel Apart := fun a b => inferInstanceAs (Decidable (a.id ≠ b.id))

instance : Std.Symm Apart := ⟨fun _ _ h => Ne.symm h⟩

abbrev AccountTable := Table AccountRow Apart

section

-- how the driver decodes an INET column into a `netip.Addr`
variable (scanAddr : Option String → Except DbError String)

def decodeAccount (r : AccountRow) : Except DbError Account :=
  match scanAddr r.createdIP, scanAddr r.updatedIP with
  | .ok createdIP, .ok updatedIP =>
    .ok { id := r.id, supplierID := r.userID, provider := r.platform, accountType := r.accountType,
          credentialHash := Bytes.utf8 r.encryptedCredentials, keyID := r.keyID, accountAlias := r.accountName,
          status := r.status, riskLevel := r.riskLevel, totalQuota := r.totalQuota,
          availableQuota := r.availableQuota, frozenQuota := r.frozenQuota,
          isVerified := r.isVerified, verifiedAt := r.verifiedAt, lastCheckAt := r.lastCheckAt,
          tosCompliant := r.tosCompliant, tosCheckResult := r.tosCheckResult,
          totalRequests := r.totalRequests, totalTokens := r.totalTokens, totalCost := r.totalCost,
          successRate := r.successRate, riskScore := r.riskScore, riskReason := r.riskReason,
          isFrozen := r.isFrozen, frozenReason := r.frozenReason,
          credentialCipherAlgo := r.credentialCipherAlgo,
          credentialKMSKeyAlias := r.credentialKMSKeyAlias,
          credentialKeyVersion := r.credentialKeyVersion, quotaUnit := r.quotaUnit,
          currencyCode := r.currencyCode, version := r.version, createdIP := createdIP,
          updatedIP := updatedIP, auditTraceID := r.auditTraceID, createdAt := r.createdAt,
          updatedAt := r.updatedAt }
  | .error e, _ => .error e
  | _, .error e => .error e

/-- `AccountRepository.GetByID`, which `DBAccountStore.GetByID` hands on. -/
def getByID (t : AccountTable) (supplierID id : Int) : Except RepoError Account :=
  match t.rows.find? (fun r => r.id = id && r.userID = supplierID) with
  | none => .error errNotFound
  | some r =>
    match decodeAccount scanAddr r with
    | .error e => .error (.wrap "failed to get account" e)
    | .ok account => .ok account

end

/-- The WHERE clause of `AccountRepository.Update`. -/
def updates (account : Account) (expectedVersion : Int) (r : AccountRow) : Bool :=
  r.id = account.id && r.userID = account.supplierID && r.version = expectedVersion

/-- What `AccountRepository.Update` sets. -/
def updatedRow (account : Account) (expectedVersion : Int) (now : Time) (r : AccountRow) : AccountRow :=
  { r with platform := account.provider, accountType := account.accountType,
           accountName := account.accountAlias, status := account.status, riskLevel := account.riskLevel,
           totalQuota := account.totalQuota, availableQuota := account.availableQuota,
           frozenQuota := account.frozenQuota, isVerified := account.isVerified,
           verifiedAt := account.verifiedAt, lastCheckAt := account.lastCheckAt,
           tosCompliant := account.tosCompliant, tosCheckResult := account.tosCheckResult,
           totalRequests := account.totalRequests, totalTokens := account.totalTokens,
           totalCost := account.totalCost, successRate := account.successRate,
           riskScore := account.riskScore, riskReason := account.riskReason,
           isFrozen := account.isFrozen, frozenReason := account.frozenReason,
           version := expectedVersion + 1, updatedAt := now }

/-- `AccountRepository.Update`, with the account as it leaves it. -/
def update (t : AccountTable) (account : Account) (expectedVersion : Int) (now : Time) :
    AccountTable × Except RepoError Account :=
  (t.updateWhere (updates account expectedVersion) (updatedRow account expectedVersion now)
    (fun _ _ h => ⟨h, h, h⟩),
    if t.rows.any (updates account expectedVersion) then
      .ok { account with version := expectedVersion + 1, updatedAt := now }
    else .error errConcurrencyConflict)

/-- `DBAccountStore.Update`: the version expected of the row is the account's own. -/
def storeUpdate (t : AccountTable) (account : Account) (now : Time) :
    AccountTable × Except RepoError Account :=
  update t account account.version now

/-- `Activate` and `Suspend`: read, check the status, set it, count the version up, store. -/
def changeStatus (allowed : AccountStatus → Bool) (refusal : RepoError) (status : AccountStatus)
    (scanAddr : Option String → Except DbError String) (t : AccountTable) (now : Time)
    (supplierID accountID : Int) : AccountTable × Except RepoError Account :=
  match getByID scanAddr t supplierID accountID with
  | .error e => (t, .error e)
  | .ok account =>
    if allowed account.status then
      storeUpdate t { account with status := status, updatedAt := now, version := account.version + 1 }
        now
    else (t, .error refusal)

def canActivate : AccountStatus → Bool
  | .pending => true
  | .suspended => true
  | _ => false

def activate := changeStatus canActivate
  (.message "SUP_ACC_4091: can only activate pending or suspended accounts") .active

def canSuspend : AccountStatus → Bool
  | .active => true
  | _ => false

def suspend := changeStatus canSuspend
  (.message "SUP_ACC_4091: can only suspend active accounts") .suspended

end SupplyPlatform.Accounts
