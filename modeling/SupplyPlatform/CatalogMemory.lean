import SupplyPlatform.Account
import SupplyPlatform.Lib.Maps
import SupplyPlatform.Package

namespace SupplyPlatform.Catalog

open Accounts (Account Provider AccountType)
open Packages (Package PackageStatus BatchPriceItem BatchPriceFailure BatchUpdatePriceResponse)
open Settlements (AccountStatus errNotFound zeroTime)

/-- What the in-memory stores read and assign of the objects they keep. -/
structure Entity (α : Type) where
  id : α → Int
  supplierID : α → Int
  -- `Create` draws the id and sets both times, `Update` sets UpdatedAt
  stamp : α → Int → Time → α
  touch : α → Time → α
  id_stamp : ∀ x n now, id (stamp x n now) = n
  id_touch : ∀ x now, id (touch x now) = id x

/-- `InMemoryAccountStore` and `InMemoryPackageStore`: a map by id and the next id. -/
structure MemoryStore {α : Type} (e : Entity α) where
  items : Int → Option α
  nextID : Int
  drawn : ∀ id x, items id = some x → id < nextID
  keyed : ∀ id x, items id = some x → e.id x = id

namespace MemoryStore

variable {α : Type} {e : Entity α}

def new : MemoryStore e := ⟨fun _ => none, 1, by simp, by simp⟩

def put (m : MemoryStore e) (x : α) (nextID : Int) (hm : m.nextID ≤ nextID) (hx : e.id x < nextID) :
    MemoryStore e where
  items := Function.update m.items (e.id x) (some x)
  nextID := nextID
  drawn := by
    intro id y hy
    by_cases hid : id = e.id x
    · omega
    · rw [Function.update_of_ne hid] at hy
      have hlt := m.drawn id y hy
      omega
  keyed := by
    intro id y hy
    by_cases hid : id = e.id x
    · subst hid
      rw [Function.update_self] at hy
      rw [Option.some.inj hy]
    · rw [Function.update_of_ne hid] at hy
      exact m.keyed id y hy

def create (m : MemoryStore e) (x : α) (now : Time) : MemoryStore e × α :=
  (m.put (e.stamp x m.nextID now) (m.nextID + 1) (by omega) (by rw [e.id_stamp]; omega),
    e.stamp x m.nextID now)

def getByID (m : MemoryStore e) (supplierID id : Int) : Except RepoError α :=
  match m.items id with
  | some x => if e.supplierID x = supplierID then .ok x else .error errNotFound
  | none => .error errNotFound

def update (m : MemoryStore e) (x : α) (now : Time) : MemoryStore e × Except RepoError α :=
  match h : m.items (e.id x) with
  | some existing =>
    if e.supplierID existing = e.supplierID x then
      (m.put (e.touch x now) m.nextID le_rfl (by rw [e.id_touch]; exact m.drawn _ existing h),
        .ok (e.touch x now))
    else (m, .error errNotFound)
  | none => (m, .error errNotFound)

end MemoryStore

def packageEntity : Entity Package where
  id p := p.id
  supplierID p := p.supplierID
  stamp p n now := { p with id := n, createdAt := now, updatedAt := now }
  touch p now := { p with updatedAt := now }
  id_stamp _ _ _ := rfl
  id_touch _ _ := rfl

def accountEntity : Entity Account where
  id a := a.id
  supplierID a := a.supplierID
  stamp a n now := { a with id := n, createdAt := now, updatedAt := now }
  touch a now := { a with updatedAt := now }
  id_stamp _ _ _ := rfl
  id_touch _ _ := rfl

structure CreatePackageDraftRequest where
  accountID : Int
  model : String
  totalQuota : ℚ
  pricePer1MInput : ℚ
  pricePer1MOutput : ℚ
  validDays : Int
  maxConcurrent : Int
  rateLimitRPM : Int

/-- The package `CreateDraft` and `Clone` build; what they do not name has Go's zero value. -/
def draft (supplierID : Int) (req : CreatePackageDraftRequest) (now : Time) : Package :=
  { id := 0, supplierID := supplierID, accountID := req.accountID, platform := "", model := req.model,
    totalQuota := req.totalQuota, availableQuota := req.totalQuota, soldQuota := 0, reservedQuota := 0,
    pricePer1MInput := req.pricePer1MInput, pricePer1MOutput := req.pricePer1MOutput, minPurchase := 0,
    startAt := zeroTime, endAt := zeroTime, validDays := req.validDays,
    maxConcurrent := req.maxConcurrent, rateLimitRPM := req.rateLimitRPM, status := .draft,
    totalOrders := 0, totalRevenue := 0, rating := 0, ratingCount := 0, quotaUnit := "",
    priceUnit := "", currencyCode := "", version := 1, createdAt := now, updatedAt := now }

abbrev PackageStore := MemoryStore packageEntity

def createDraft (m : PackageStore) (now : Time) (supplierID : Int) (req : CreatePackageDraftRequest) :
    PackageStore × Except RepoError Package :=
  ((m.create (draft supplierID req now) now).1,
    .ok (m.create (draft supplierID req now) now).2)

/-- What `Publish`, `Pause` and `Unlist` do with the package once they may change it. -/
def savePackage (m : PackageStore) (pkg : Package) (status : PackageStatus) (now : Time) :
    PackageStore × Except RepoError Package :=
  m.update { pkg with status := status, updatedAt := now, version := pkg.version + 1 } now

def changePackage (allowed : PackageStatus → Bool) (refusal : RepoError) (status : PackageStatus)
    (m : PackageStore) (now : Time) (supplierID packageID : Int) :
    PackageStore × Except RepoError Package :=
  match m.getByID supplierID packageID with
  | .error err => (m, .error err)
  | .ok pkg => if allowed pkg.status then savePackage m pkg status now else (m, .error refusal)

def publish := changePackage Packages.canPublish
  (.message "SUP_PKG_4092: can only publish draft or paused packages") .active

def pause := changePackage Packages.canPause
  (.message "SUP_PKG_4092: can only pause active packages") .paused

/-- `Unlist` asks for no status. -/
def unlist (m : PackageStore) (now : Time) (supplierID packageID : Int) :
    PackageStore × Except RepoError Package :=
  match m.getByID supplierID packageID with
  | .error err => (m, .error err)
  | .ok pkg => savePackage m pkg .expired now

def cloneRequest (original : Package) : CreatePackageDraftRequest :=
  { accountID := original.accountID, model := original.model, totalQuota := original.totalQuota,
    pricePer1MInput := original.pricePer1MInput, pricePer1MOutput := original.pricePer1MOutput,
    validDays := original.validDays, maxConcurrent := original.maxConcurrent,
    rateLimitRPM := original.rateLimitRPM }

def clone (m : PackageStore) (now : Time) (supplierID packageID : Int) :
    PackageStore × Except RepoError Package :=
  match m.getByID supplierID packageID with
  | .error err => (m, .error err)
  | .ok original => createDraft m now supplierID (cloneRequest original)

def priced (pkg : Package) (item : BatchPriceItem) (now : Time) : Package :=
  { pkg with pricePer1MInput := item.pricePer1MInput, pricePer1MOutput := item.pricePer1MOutput,
             updatedAt := now, version := pkg.version + 1 }

def updateFailure (packageID : Int) : Except RepoError Package → Option BatchPriceFailure
  | .error err => some ⟨packageID, "UPDATE_FAILED", err⟩
  | .ok _ => none

/-- One round of the loop of `BatchUpdatePrice`. -/
def updatePrice (m : PackageStore) (now : Time) (supplierID : Int) (item : BatchPriceItem) :
    PackageStore × Option BatchPriceFailure :=
  if item.pricePer1MInput < 0 ∨ item.pricePer1MOutput < 0 then
    (m, some ⟨item.packageID, "SUP_PKG_4004", .message "price cannot be negative"⟩)
  else
    match m.getByID supplierID item.packageID with
    | .error err => (m, some ⟨item.packageID, "NOT_FOUND", err⟩)
    | .ok pkg =>
      if Packages.priceable pkg.status then
        ((m.update (priced pkg item now) now).1,
          updateFailure item.packageID (m.update (priced pkg item now) now).2)
      else
        (m, some ⟨item.packageID, "SUP_PKG_4093",
          .message "cannot update price for sold_out or expired packages"⟩)

def batchUpdatePrice (m : PackageStore) (now : Time) (supplierID : Int) (items : List BatchPriceItem) :
    PackageStore × BatchUpdatePriceResponse :=
  items.foldl (fun acc item =>
      ((updatePrice acc.1 now supplierID item).1, acc.2.add (updatePrice acc.1 now supplierID item).2))
    (m, { total := items.length, successCount := 0, failedCount := 0, failures := [] })

structure CreateAccountRequest where
  supplierID : Int
  provider : Provider
  accountType : AccountType
  credential : String
  accountAlias : String
  riskAck : Bool

/-- `cred[:min(8, len(cred))]` is cut by bytes. -/
def hashCredential (cred : String) : Bytes.Text := Bytes.ascii "hash_" ++ (Bytes.utf8 cred).take 8

example : hashCredential "sk-钥匙" = Bytes.ascii "hash_sk-" ++ [233, 146, 165, 229, 140] := by decide

def newAccount (req : CreateAccountRequest) (now : Time) : Account :=
  { id := 0, supplierID := req.supplierID, provider := req.provider, accountType := req.accountType,
    credentialHash := hashCredential req.credential, keyID := "", accountAlias := req.accountAlias,
    status := .pending, riskLevel := "", totalQuota := 0, availableQuota := 0, frozenQuota := 0,
    isVerified := false, verifiedAt := none, lastCheckAt := none, tosCompliant := false,
    tosCheckResult := "", totalRequests := 0, totalTokens := 0, totalCost := 0, successRate := 0,
    riskScore := 0, riskReason := "", isFrozen := false, frozenReason := "",
    credentialCipherAlgo := "", credentialKMSKeyAlias := "", credentialKeyVersion := 0,
    quotaUnit := "", currencyCode := "", version := 1, createdIP := "", updatedIP := "",
    auditTraceID := "", createdAt := now, updatedAt := now }

abbrev AccountStore := MemoryStore accountEntity

def createAccount (m : AccountStore) (now : Time) (req : CreateAccountRequest) :
    AccountStore × Except RepoError Account :=
  if req.riskAck then
    ((m.create (newAccount req now) now).1,
      .ok (m.create (newAccount req now) now).2)
  else (m, .error (.message "risk_ack is required"))

/-- `Activate` and `Suspend`. -/
def changeAccount (allowed : AccountStatus → Bool) (refusal : RepoError) (status : AccountStatus)
    (m : AccountStore) (now : Time) (supplierID accountID : Int) :
    AccountStore × Except RepoError Account :=
  match m.getByID supplierID accountID with
  | .error err => (m, .error err)
  | .ok account =>
    if allowed account.status then
      m.update
        { account with status := status, updatedAt := now, version := account.version + 1 } now
    else (m, .error refusal)

def activate := changeAccount Accounts.canActivate
  (.message "SUP_ACC_4091: can only activate pending or suspended accounts") .active

def suspend := changeAccount Accounts.canSuspend
  (.message "SUP_ACC_4091: can only suspend active accounts") .suspended

/-- `Delete` stores nothing: it only refuses, or reports success. -/
def deleteAccount (m : AccountStore) (supplierID accountID : Int) :
    AccountStore × Except RepoError Unit :=
  match m.getByID supplierID accountID with
  | .error err => (m, .error err)
  | .ok account =>
    if account.status = .active then (m, .error (.message "SUP_ACC_4092: cannot delete active accounts"))
    else (m, .ok ())

/-- `ValidateStateTransition`. -/
def validTransitions : AccountStatus → List AccountStatus
  | .pending => [.active, .disabled]
  | .active => [.suspended, .disabled]
  | .suspended => [.active, .disabled]
  | .disabled => [.active]

def validateStateTransition (source target : AccountStatus) : Bool :=
  (validTransitions source).contains target

/-- `ValidatePackageStateTransition`. -/
def validPackageTransitions : PackageStatus → List PackageStatus
  | .draft => [.active]
  | .active => [.paused, .soldOut, .expired]
  | .paused => [.active, .expired]
  | .soldOut => []
  | .expired => []

def validatePackageStateTransition (source target : PackageStatus) : Bool :=
  (validPackageTransitions source).contains target

namespace MemoryStore

variable {α : Type} {e : Entity α}

theorem getByID_ok {m : MemoryStore e} {supplierID id : Int} {x : α}
    (h : m.getByID supplierID id = .ok x) :
    m.items id = some x ∧ e.supplierID x = supplierID ∧ e.id x = id := by
  unfold getByID at h
  split at h
  next y hy =>
    split at h
    next hs => cases Except.ok.inj h; exact ⟨hy, hs, m.keyed id x hy⟩
    next => simp at h
  next => simp at h

/-- Every item is still there, and what has become of it is related to what it was; a new item is as
it is `born`. -/
structure Evolves (r : α → α → Prop) (born : α → Prop) (m m' : MemoryStore e) : Prop where
  kept : ∀ id x, m.items id = some x → ∃ y, m'.items id = some y ∧ r x y
  made : ∀ id y, m'.items id = some y → m.items id = none → born y

section

variable {r r' : α → α → Prop} {born : α → Prop} {m m' m'' : MemoryStore e}

theorem Evolves.refl (hr : ∀ x, r x x) (m : MemoryStore e) : Evolves r born m m where
  kept _ x hx := ⟨x, hx, hr x⟩
  made _ y hy hnone := by rw [hnone] at hy; simp at hy

theorem Evolves.trans (hr : ∀ x y z, r x y → r y z → r x z) (hb : ∀ x y, born x → r x y → born y)
    (h : Evolves r born m m') (h' : Evolves r born m' m'') : Evolves r born m m'' where
  kept := by
    intro id x hx
    obtain ⟨y, hy, hxy⟩ := h.kept id x hx
    obtain ⟨z, hz, hyz⟩ := h'.kept id y hy
    exact ⟨z, hz, hr x y z hxy hyz⟩
  made := by
    intro id z hz hnone
    cases hy : m'.items id with
    | none => exact h'.made id z hz hy
    | some y =>
      obtain ⟨w, hw, hyw⟩ := h'.kept id y hy
      cases Option.some.inj (hw.symm.trans hz)
      exact hb y z (h.made id y hy hnone) hyw

theorem Evolves.mono (h : Evolves r born m m') (himp : ∀ x y, r x y → r' x y) :
    Evolves r' born m m' where
  kept := by
    intro id x hx
    obtain ⟨y, hy, hxy⟩ := h.kept id x hx
    exact ⟨y, hy, himp x y hxy⟩
  made := h.made

theorem Evolves.forall {P : α → Prop} (h : Evolves r born m m')
    (hm : ∀ id x, m.items id = some x → P x) (hkeep : ∀ x y, P x → r x y → P y)
    (hborn : ∀ x, born x → P x) : ∀ id x, m'.items id = some x → P x := by
  intro id y hy
  cases hx : m.items id with
  | none => exact hborn y (h.made id y hy hx)
  | some x =>
    obtain ⟨z, hz, hxz⟩ := h.kept id x hx
    cases Option.some.inj (hz.symm.trans hy)
    exact hkeep x y (hm id x hx) hxz

theorem create_evolves (hr : ∀ x, r x x) (m : MemoryStore e) {x : α} {now : Time}
    (hborn : born (e.stamp x m.nextID now)) : Evolves r born m (m.create x now).1 := by
  have hid : e.id (e.stamp x m.nextID now) = m.nextID := e.id_stamp x m.nextID now
  constructor
  · intro id y hy
    have hlt := m.drawn id y hy
    exact ⟨y, (Function.update_of_ne (by omega) _ _).trans hy, hr y⟩
  · intro id y hy hnone
    rcases Maps.update_some_cases hy with ⟨-, rfl⟩ | ⟨-, hold⟩
    · exact hborn
    · rw [hnone] at hold
      cases hold

theorem save_evolves (hr : ∀ x, r x x) {supplierID id : Int} {old x : α} {now : Time}
    (hget : m.getByID supplierID id = .ok old) (hid : e.id x = e.id old)
    (hmove : r old (e.touch x now)) : Evolves r born m (m.update x now).1 := by
  obtain ⟨hitem, _, hkey⟩ := getByID_ok hget
  have htouch : e.id (e.touch x now) = id := (e.id_touch x now).trans (hid.trans hkey)
  unfold update
  split
  next existing _ =>
    split
    next =>
      constructor
      · intro n y hy
        by_cases hn : n = e.id (e.touch x now)
        · subst hn
          rw [htouch, hitem] at hy
          cases Option.some.inj hy
          exact ⟨e.touch x now, Function.update_self .., hmove⟩
        · exact ⟨y, (Function.update_of_ne hn _ _).trans hy, hr y⟩
      · intro n y hy hnone
        rcases Maps.update_some_cases hy with ⟨hn, -⟩ | ⟨-, hold⟩
        · rw [hn, htouch, hitem] at hnone
          cases hnone
        · rw [hnone] at hold
          cases hold
    next => exact Evolves.refl hr m
  next => exact Evolves.refl hr m

end

theorem items_save {m : MemoryStore e} {supplierID id : Int} {old x : α} (now : Time)
    (hget : m.getByID supplierID id = .ok old) (hid : e.id x = e.id old)
    (hs : e.supplierID x = e.supplierID old) : (m.update x now).1.items id = some (e.touch x now) := by
  obtain ⟨hitem, _, hkey⟩ := getByID_ok hget
  unfold update
  split
  next existing hexisting =>
    rw [hid, hkey, hitem] at hexisting
    cases Option.some.inj hexisting
    rw [if_pos hs.symm]
    show Function.update m.items (e.id (e.touch x now)) _ id = _
    rw [e.id_touch, hid, hkey, Function.update_self]
  next hnone =>
    rw [hid, hkey, hitem] at hnone
    simp at hnone

end MemoryStore

end SupplyPlatform.Catalog
