import SupplyPlatform.IamAssignment

namespace SupplyPlatform.Iam

open Relational

namespace Db

/-- Some statement of the loop over these scopes is for this one and takes effect. -/
def Lands (faults : Nat → Fault) (scopes : List String) (x : String) : Prop :=
  ∃ k, scopes[k]? = some x ∧ faults k ≠ .unapplied

theorem lands_cons {faults : Nat → Fault} {scope x : String} {scopes : List String} :
    Lands faults (scope :: scopes) x ↔
      (scope = x ∧ faults 0 ≠ .unapplied) ∨ Lands (fun k => faults (k + 1)) scopes x := by
  constructor
  · rintro ⟨k, hk, hfault⟩
    cases k with
    | zero =>
      simp only [List.getElem?_cons_zero, Option.some.injEq] at hk
      exact .inl ⟨hk, hfault⟩
    | succ k =>
      simp only [List.getElem?_cons_succ] at hk
      exact .inr ⟨k, hk, hfault⟩
  · rintro (⟨rfl, hfault⟩ | ⟨k, hk, hfault⟩)
    · exact ⟨0, rfl, hfault⟩
    · exact ⟨k + 1, by simpa using hk, hfault⟩

theorem faulty_db (fault : Fault) (lost : RepositoryError) (db : Db)
    (write : Db × Except RepositoryError Unit) :
    (faulty fault lost db write).1 = if fault = .unapplied then db else write.1 := by
  cases fault <;> rfl

theorem removeLoop_spec {code : String} {r : RoleRow} (faults : Nat → Fault) (scopes : List String) :
    ∀ (i : Nat) (db : Db), db.activeRole code = some r →
      OnlyLinks db (eachScope (fun d scope => d.removeScopeFromRole code scope) faults i db scopes) ∧
      ∀ x, x ∈ (eachScope (fun d scope => d.removeScopeFromRole code scope) faults i db scopes).scopesOf
          r.id ↔ x ∈ db.scopesOf r.id ∧ ¬Lands (fun k => faults (i + k)) scopes x := by
  induction scopes with
  | nil => exact fun i db _ => ⟨OnlyLinks.refl db, fun x => by simp [eachScope, Lands]⟩
  | cons scope scopes ih =>
    intro i db hr
    unfold eachScope
    rw [faulty_db]
    have hshift : (fun k => faults (i + 1 + k)) = fun k => faults (i + (k + 1)) := by
      funext k
      rw [show i + 1 + k = i + (k + 1) by omega]
    by_cases hfault : faults i = .unapplied
    · rw [if_pos hfault]
      obtain ⟨honly, hmem⟩ := ih (i + 1) db hr
      refine ⟨honly, fun x => ?_⟩
      rw [hmem x, lands_cons, hshift]
      simp [hfault]
    · rw [if_neg hfault]
      obtain ⟨hfirst, hone⟩ := removeScopeFromRole_spec hr scope
      obtain ⟨honly, hmem⟩ := ih (i + 1) _ ((hfirst.activeRole code).trans hr)
      refine ⟨hfirst.trans honly, fun x => ?_⟩
      rw [hmem x, hone r.id x, lands_cons, hshift]
      constructor
      · rintro ⟨⟨hx, hne⟩, hrest⟩
        refine ⟨hx, ?_⟩
        rintro (⟨rfl, _⟩ | hland)
        · exact hne ⟨rfl, rfl⟩
        · exact hrest hland
      · rintro ⟨hx, hnot⟩
        refine ⟨⟨hx, ?_⟩, fun hland => hnot (.inr hland)⟩
        rintro ⟨_, rfl⟩
        exact hnot (.inl ⟨rfl, hfault⟩)

theorem addLoop_spec {code : String} {r : RoleRow} (faults : Nat → Fault) (scopes : List String) :
    ∀ (i : Nat) (db : Db), db.activeRole code = some r →
      OnlyLinks db (eachScope (fun d scope => d.addScopeToRole code scope) faults i db scopes) ∧
      ∀ x, x ∈ (eachScope (fun d scope => d.addScopeToRole code scope) faults i db scopes).scopesOf
          r.id ↔ x ∈ db.scopesOf r.id ∨ (db.Knows x ∧ Lands (fun k => faults (i + k)) scopes x) := by
  induction scopes with
  | nil => exact fun i db _ => ⟨OnlyLinks.refl db, fun x => by simp [eachScope, Lands]⟩
  | cons scope scopes ih =>
    intro i db hr
    unfold eachScope
    rw [faulty_db]
    have hshift : (fun k => faults (i + 1 + k)) = fun k => faults (i + (k + 1)) := by
      funext k
      rw [show i + 1 + k = i + (k + 1) by omega]
    by_cases hfault : faults i = .unapplied
    · rw [if_pos hfault]
      obtain ⟨honly, hmem⟩ := ih (i + 1) db hr
      refine ⟨honly, fun x => ?_⟩
      rw [hmem x, lands_cons, hshift]
      simp [hfault]
    · rw [if_neg hfault]
      obtain ⟨hfirst, hone⟩ := addScopeToRole_spec hr scope
      obtain ⟨honly, hmem⟩ := ih (i + 1) _ ((hfirst.activeRole code).trans hr)
      refine ⟨hfirst.trans honly, fun x => ?_⟩
      rw [hmem x, hone r.id x, lands_cons, hshift, hfirst.knows]
      constructor
      · rintro ((hx | ⟨_, rfl, hknows⟩) | ⟨hknows, hland⟩)
        · exact .inl hx
        · exact .inr ⟨hknows, .inl ⟨rfl, hfault⟩⟩
        · exact .inr ⟨hknows, .inr hland⟩
      · rintro (hx | ⟨hknows, ⟨rfl, _⟩ | hland⟩)
        · exact .inl (.inl hx)
        · exact .inl (.inr ⟨rfl, rfl, hknows⟩)
        · exact .inr ⟨hknows, hland⟩

/-- The removal of the scope takes effect: the current scopes are read and so is its DELETE. -/
def Removed (db : Db) (faults : UpdateFaults) (code : String) (x : String) : Prop :=
  faults.listScopes = false ∧ Lands faults.remove (db.getScopesByRoleCode code) x

/-- The addition of the scope takes effect: it is asked for, exists, and its INSERT lands. -/
def Added (db : Db) (faults : UpdateFaults) (scopes : List String) (x : String) : Prop :=
  db.Knows x ∧ Lands faults.add scopes x

theorem replaceScopes_spec {db : Db} (faults : UpdateFaults) {req : UpdateRoleRequest}
    {scopes : List String} {r : RoleRow} (hr : db.activeRole req.code = some r)
    (hscopes : req.scopes = some scopes) :
    OnlyLinks db (db.replaceScopes faults req) ∧ ∀ x, x ∈ (db.replaceScopes faults req).scopesOf r.id ↔
      (x ∈ db.scopesOf r.id ∧ ¬db.Removed faults req.code x) ∨ db.Added faults scopes x := by
  unfold replaceScopes
  rw [hscopes]
  obtain ⟨hremoved, hleft⟩ := removeLoop_spec faults.remove
    (if faults.listScopes then [] else db.getScopesByRoleCode req.code) 0 db hr
  obtain ⟨hadded, hafter⟩ := addLoop_spec faults.add scopes 0 _ ((hremoved.activeRole req.code).trans hr)
  refine ⟨hremoved.trans hadded, fun x => ?_⟩
  rw [hafter x, hleft x, hremoved.knows]
  have hlist : Lands (fun k => faults.remove (0 + k))
      (if faults.listScopes then [] else db.getScopesByRoleCode req.code) x ↔
        db.Removed faults req.code x := by
    unfold Removed
    cases faults.listScopes <;> simp [Lands]
  rw [hlist]
  simp [Added]

def requestedName (r : RoleRow) (req : UpdateRoleRequest) : String :=
  if req.name = "" then r.name else req.name

def requestedDescription (r : RoleRow) (req : UpdateRoleRequest) : String :=
  if req.description = "" then r.description.getD "" else req.description

def requestedActive (r : RoleRow) (req : UpdateRoleRequest) : Bool := req.isActive.getD r.isActive

def requestedScopes (db : Db) (r : RoleRow) (req : UpdateRoleRequest) : List String :=
  req.scopes.getD (db.scopesOf r.id)

/-- The role is returned with what was requested, and is stored so; or an error is returned and the
row and the scopes are as they were. -/
def AppliedOrUntouched (db : Db) (r : RoleRow) (req : UpdateRoleRequest)
    (out : Db × Except ServiceError Role) : Prop :=
  match out.2 with
  | .ok role =>
    (role.code = r.code ∧ role.name = requestedName r req ∧
      role.description = requestedDescription r req ∧ role.isActive = requestedActive r req) ∧
    (∃ r' ∈ out.1.roles.rows, r'.id = r.id ∧ r'.name = requestedName r req ∧
      r'.description = some (requestedDescription r req) ∧ r'.isActive = requestedActive r req) ∧
    ∀ x, x ∈ out.1.scopesOf r.id ↔ x ∈ db.requestedScopes r req
  | .error _ => r ∈ out.1.roles.rows ∧ ∀ x, x ∈ out.1.scopesOf r.id ↔ x ∈ db.scopesOf r.id

def Unreadable (driver : InetDriver) (faults : UpdateFaults) (r : RoleRow) : Prop :=
  faults.getRole = true ∨ r.isActive = false ∨ (decodeRole driver r).isOk = false

/-- PostgreSQL takes the UPDATE: updated_ip is not NULL, the version can be raised, the columns take name
and description. -/
def Accepted (r : RoleRow) (req : UpdateRoleRequest) : Prop :=
  r.updatedIP ≠ none ∧ r.version < maxInt4 ∧ takesVarchar 128 (requestedName r req) = true ∧
    storableText (requestedDescription r req) = true

/-- The statements on the links leave the scopes of the role as they were: what is removed is added
again and nothing else is. -/
def ScopesKept (db : Db) (faults : UpdateFaults) (r : RoleRow) (req : UpdateRoleRequest) : Prop :=
  ∀ scopes, req.scopes = some scopes →
    (∀ x ∈ db.scopesOf r.id, db.Removed faults req.code x → db.Added faults scopes x) ∧
    ∀ x, db.Added faults scopes x → x ∈ db.scopesOf r.id

/-- The statements on the links make the scopes of the role the requested ones: what is not requested
is removed, and what is requested is added or was there and is not removed. -/
def ScopesReplaced (db : Db) (faults : UpdateFaults) (r : RoleRow) (req : UpdateRoleRequest) : Prop :=
  ∀ scopes, req.scopes = some scopes →
    (∀ x ∈ db.scopesOf r.id, x ∉ scopes → db.Removed faults req.code x) ∧
    ∀ x ∈ scopes, db.Added faults scopes x ∨
      (x ∈ db.scopesOf r.id ∧ ¬db.Removed faults req.code x)

/-- The role cannot be read; or the UPDATE fails without effect and the scopes are kept; or the name is
stored whole, the request does not deactivate the role and every statement that matters takes effect and
is answered. -/
def FailsEarlyOrNever (driver : InetDriver) (faults : UpdateFaults) (db : Db) (r : RoleRow)
    (req : UpdateRoleRequest) : Prop :=
  Unreadable driver faults r ∨
  ((¬Accepted r req ∨ faults.update = .unapplied) ∧ db.ScopesKept faults r req) ∨
  (Accepted r req ∧ (requestedName r req).length ≤ 128 ∧ faults.update = .none ∧
    req.isActive ≠ some false ∧ faults.rereadRole = false ∧ faults.rereadScopes = false ∧
    db.ScopesReplaced faults r req)

theorem added_mem {db : Db} {faults : UpdateFaults} {scopes : List String} {x : String}
    (h : db.Added faults scopes x) : x ∈ scopes := by
  obtain ⟨_, k, hk, _⟩ := h
  exact List.mem_iff_getElem?.mpr ⟨k, hk⟩

theorem scopesKept_iff {db : Db} {faults : UpdateFaults} {req : UpdateRoleRequest} {r : RoleRow}
    (hr : db.activeRole req.code = some r) :
    (∀ x, x ∈ (db.replaceScopes faults req).scopesOf r.id ↔ x ∈ db.scopesOf r.id) ↔
      db.ScopesKept faults r req := by
  cases hscopes : req.scopes with
  | none => simp [replaceScopes, ScopesKept, hscopes]
  | some scopes =>
    obtain ⟨_, hafter⟩ := replaceScopes_spec faults hr hscopes
    unfold ScopesKept
    simp only [hafter, hscopes, Option.some.injEq, forall_eq']
    constructor
    · intro h
      refine ⟨fun x hx hrem => ?_, fun x hadd => (h x).mp (.inr hadd)⟩
      exact ((h x).mpr hx).resolve_left (fun hcon => hcon.2 hrem)
    · rintro ⟨hback, hnone⟩ x
      constructor
      · rintro (⟨hx, _⟩ | hadd)
        · exact hx
        · exact hnone x hadd
      · intro hx
        by_cases hrem : db.Removed faults req.code x
        · exact .inr (hback x hx hrem)
        · exact .inl ⟨hx, hrem⟩

theorem scopesReplaced_iff {db : Db} {faults : UpdateFaults} {req : UpdateRoleRequest} {r : RoleRow}
    (hr : db.activeRole req.code = some r) :
    (∀ x, x ∈ (db.replaceScopes faults req).scopesOf r.id ↔ x ∈ db.requestedScopes r req) ↔
      db.ScopesReplaced faults r req := by
  cases hscopes : req.scopes with
  | none => simp [replaceScopes, requestedScopes, ScopesReplaced, hscopes]
  | some scopes =>
    obtain ⟨_, hafter⟩ := replaceScopes_spec faults hr hscopes
    unfold ScopesReplaced requestedScopes
    simp only [hafter, hscopes, Option.some.injEq, forall_eq', Option.getD_some]
    constructor
    · intro h
      refine ⟨fun x hx hnot => ?_, fun x hx => ((h x).mpr hx).symm⟩
      by_contra hrem
      exact hnot ((h x).mp (.inl ⟨hx, hrem⟩))
    · rintro ⟨hgone, hthere⟩ x
      constructor
      · rintro (⟨hx, hrem⟩ | hadd)
        · by_contra hnot
          exact hrem (hgone x hx hnot)
        · exact added_mem hadd
      · intro hx
        exact (hthere x hx).symm

section

variable {driver : InetDriver} {db : Db} {r : RoleRow} {req : UpdateRoleRequest} {existing : ModelRole}

theorem readRole_cases (driver : InetDriver) (faults : UpdateFaults) (hr : r ∈ db.roles.rows)
    (hcode : r.code = req.code) :
    (Unreadable driver faults r ∧ ∃ e, db.readRole driver faults.getRole req.code = .error e) ∨
    (¬Unreadable driver faults r ∧ db.activeRole req.code = some r ∧
      ∃ existing, decodeRole driver r = .ok existing ∧
        db.readRole driver faults.getRole req.code = .ok existing) := by
  unfold readRole Unreadable
  by_cases hfail : faults.getRole = true
  · exact .inl ⟨.inl hfail, _, if_pos hfail⟩
  · rw [if_neg hfail]
    unfold getRoleByCode
    by_cases hactive : r.isActive = true
    · have hfind : db.activeRole req.code = some r := hcode ▸ activeRole_eq hr hactive
      rw [hfind]
      cases hdecode : decodeRole driver r with
      | error e => exact .inl ⟨.inr (.inr rfl), .wrap "failed to get role" e, by simp [hdecode]⟩
      | ok existing =>
        refine .inr ⟨?_, rfl, existing, rfl, by simp [hdecode]⟩
        rintro (h | h | h)
        · exact hfail h
        · rw [hactive] at h; simp at h
        · simp [Except.isOk, Except.toBool] at h
    · have hnone : db.activeRole req.code = none := by
        cases hfind : db.activeRole req.code with
        | none => rfl
        | some q =>
          obtain ⟨hq, hqcode, hqactive⟩ := activeRole_some hfind
          rw [role_eq_of_code hq hr (hqcode.trans hcode.symm)] at hqactive
          exact absurd hqactive hactive
      rw [hnone]
      exact .inl ⟨.inr (.inl (by simpa using hactive)), _, rfl⟩

theorem requestedRole_of_decode (req : UpdateRoleRequest) (hdecode : decodeRole driver r = .ok existing) :
    (requestedRole existing req).code = r.code ∧
    (requestedRole existing req).name = requestedName r req ∧
    (requestedRole existing req).description = requestedDescription r req ∧
    (requestedRole existing req).isActive = requestedActive r req ∧
    (∀ a, r.updatedIP = some a → driver.parse (requestedRole existing req).updatedIP = some a) ∧
    (r.updatedIP = none → driver.parse (requestedRole existing req).updatedIP = none) := by
  obtain ⟨description, requestID, createdIP, updatedIP, hd, _, _, hu, rfl⟩ := decodeRole_ok hdecode
  have hdesc : r.description.getD "" = description := by
    cases hrd : r.description with
    | none => rw [hrd] at hd; simp [scanText] at hd
    | some d => rw [hrd] at hd; exact Except.ok.inj hd
  refine ⟨rfl, rfl, by simp [requestedRole, requestedDescription, hdesc], rfl, ?_, ?_⟩
  · intro a ha
    rw [ha] at hu
    unfold scanInet at hu
    split at hu
    next => simp at *
    next b hb =>
      cases Option.some.inj hb
      split at hu
      next t ht =>
        cases Except.ok.inj hu
        exact driver.parse_read _ _ ht
      next => simp at hu
  · intro hnone
    rw [hnone] at hu
    have hempty : updatedIP = "" := (Except.ok.inj hu).symm
    subst hempty
    exact driver.parse_empty

def writtenRow (r : RoleRow) (req : UpdateRoleRequest) (now : Time) : RoleRow :=
  { r with name := varcharText 128 (requestedName r req), description := some (requestedDescription r req),
           isActive := requestedActive r req, version := r.version + 1, updatedAt := now }

/-- The UPDATE is refused, or puts the written row in the place of the one that was read. -/
theorem updateRole_cases (req : UpdateRoleRequest) (now : Time) (hr : r ∈ db.roles.rows)
    (hactive : r.isActive = true) (hdecode : decodeRole driver r = .ok existing) {db' : Db}
    (honly : OnlyLinks db db') :
    (¬Accepted r req ∧ ∃ e,
      db'.updateRole driver (requestedRole existing req) now = (db', .error e)) ∨
    (Accepted r req ∧ ∃ roles : Table RoleRow RolesApart,
      db'.updateRole driver (requestedRole existing req) now = ({ db' with roles := roles }, .ok ()) ∧
      ∀ q, q ∈ roles.rows ↔ (q ∈ db.roles.rows ∧ q ≠ r) ∨ q = writtenRow r req now) := by
  obtain ⟨hcode, hname, hdesc, hact, hsome, hnone⟩ := requestedRole_of_decode req hdecode
  unfold updateRole Accepted
  cases hip : r.updatedIP with
  | none =>
    rw [hnone hip]
    exact .inl ⟨fun h => h.1 rfl, _, rfl⟩
  | some a =>
    rw [hsome a hip]
    simp only [hname, hdesc]
    have hupdates : updates (requestedRole existing req) r = true := by simp [updates, hcode, hactive]
    have honlyR : ∀ q ∈ db.roles.rows, updates (requestedRole existing req) q = true → q = r := by
      intro q hq hup
      simp only [updates, Bool.and_eq_true, decide_eq_true_eq] at hup
      exact role_eq_of_code hq hr (hup.1.trans hcode)
    obtain ⟨t, rfl⟩ := honly
    by_cases htexts : takesVarchar 128 (requestedName r req) = true ∧
        storableText (requestedDescription r req) = true
    · rw [if_neg (by simp [htexts])]
      by_cases hversion : r.version < maxInt4
      · refine .inr ⟨⟨by simp, hversion, htexts⟩, ?_⟩
        have hrange : db.roles.rows.any
            (fun q => updates (requestedRole existing req) q && maxInt4 ≤ q.version) = false := by
          rw [List.any_eq_false]
          intro q hq hmax
          rw [Bool.and_eq_true, decide_eq_true_eq] at hmax
          rw [honlyR q hq hmax.1] at hmax
          omega
        have hwritten : updatedRow (requestedRole existing req) a now r = writtenRow r req now := by
          simp [updatedRow, writtenRow, hname, hdesc, hact, hip]
        rw [if_neg (by rw [hrange]; exact Bool.false_ne_true),
          if_pos (List.any_eq_true.mpr ⟨r, hr, hupdates⟩)]
        refine ⟨_, rfl, fun q => ?_⟩
        rw [Table.mem_updateWhere_of_sole hr hupdates honlyR, hwritten]
      · refine .inl ⟨fun h => hversion h.2.1, .wrap "failed to update role" "integer out of range", ?_⟩
        rw [if_pos]
        refine List.any_eq_true.mpr ⟨r, hr, ?_⟩
        rw [hupdates, Bool.true_and, decide_eq_true_eq]
        omega
    · refine .inl ⟨fun h => htexts h.2.2, .wrap "failed to update role" "value not valid for its column",
        ?_⟩
      rw [if_pos]
      simpa [Classical.or_iff_not_imp_left] using htexts

theorem serviceGetRole_of_active {faults : UpdateFaults} {code : String} {role : ModelRole} {now : Time}
    (hfind : db.activeRole code = some r) (hdecode : decodeRole driver r = .ok role)
    (hrole : faults.rereadRole = false) (hscopes : faults.rereadScopes = false) :
    db.serviceGetRole driver faults.rereadRole faults.rereadScopes now code =
      .ok (modelRoleToServiceRole role now) := by
  simp [serviceGetRole, readRole, getRoleByCode, hfind, hdecode, hrole, hscopes]

theorem serviceGetRole_fails {faults : UpdateFaults} {code : String} (driver : InetDriver) (now : Time)
    (h : db.activeRole code = none ∨ faults.rereadRole = true ∨ faults.rereadScopes = true) :
    ∃ e, db.serviceGetRole driver faults.rereadRole faults.rereadScopes now code = .error e := by
  unfold serviceGetRole
  cases hread : db.readRole driver faults.rereadRole code with
  | error e => exact ⟨_, rfl⟩
  | ok role =>
    refine ⟨_, if_pos ?_⟩
    unfold readRole getRoleByCode at hread
    split at hread
    next => simp at hread
    next hfail =>
      rcases h with hnone | hrole | hscopes
      · rw [hnone] at hread
        simp at hread
      · exact absurd hrole hfail
      · exact hscopes

theorem untouched_error {e : ServiceError} {db' : Db} (honly : OnlyLinks db db')
    (hr : r ∈ db.roles.rows) :
    AppliedOrUntouched db r req (db', .error e) ↔
      ∀ x, x ∈ db'.scopesOf r.id ↔ x ∈ db.scopesOf r.id := by
  obtain ⟨t, rfl⟩ := honly
  exact ⟨fun h => h.2, fun h => ⟨hr, h⟩⟩

theorem touched_error {e : ServiceError} {db' : Db} {now : Time}
    (hrows : ∀ q, q ∈ db'.roles.rows ↔ (q ∈ db.roles.rows ∧ q ≠ r) ∨ q = writtenRow r req now) :
    ¬AppliedOrUntouched db r req (db', .error e) := by
  rintro ⟨hr, _⟩
  rcases (hrows r).mp hr with ⟨_, hne⟩ | heq
  · exact hne rfl
  · -- the version of the written row is one more
    have hversion := congrArg RoleRow.version heq
    simp [writtenRow] at hversion

theorem replaceScopes_onlyLinks (faults : UpdateFaults) (hr : db.activeRole req.code = some r) :
    OnlyLinks db (db.replaceScopes faults req) := by
  cases hscopes : req.scopes with
  | none =>
    have heq : db.replaceScopes faults req = db := by simp [replaceScopes, hscopes]
    rw [heq]
    exact OnlyLinks.refl db
  | some scopes => exact (replaceScopes_spec faults hr hscopes).1

theorem decodeRole_writtenRow (hdecode : decodeRole driver r = .ok existing) (req : UpdateRoleRequest)
    (now : Time) : decodeRole driver (writtenRow r req now) =
      .ok { requestedRole existing req with
              name := varcharText 128 (requestedName r req), version := r.version + 1, updatedAt := now } := by
  obtain ⟨_, _, hdesc, _, _, _⟩ := requestedRole_of_decode req hdecode
  obtain ⟨description, requestID, createdIP, updatedIP, _, hq, hc, hu, rfl⟩ := decodeRole_ok hdecode
  have hd : scanText (writtenRow r req now).description = .ok (requestedDescription r req) := rfl
  have hq' : scanText (writtenRow r req now).requestID = .ok requestID := hq
  have hc' : scanInet driver (writtenRow r req now).createdIP = .ok createdIP := hc
  have hu' : scanInet driver (writtenRow r req now).updatedIP = .ok updatedIP := hu
  unfold decodeRole
  rw [hd, hq', hc', hu', ← hdesc]
  rfl

/-- Once the UPDATE has been applied and answered, the call keeps its word when the name has been stored
whole, the role can be read back and the scopes are the requested ones. -/
theorem reread_iff {faults : UpdateFaults} {db' : Db} {now : Time} {roles : Table RoleRow RolesApart}
    (hcode : r.code = req.code) (hdecode : decodeRole driver r = .ok existing)
    (hactive : r.isActive = true)
    (hrows : ∀ q, q ∈ roles.rows ↔ (q ∈ db.roles.rows ∧ q ≠ r) ∨ q = writtenRow r req now)
    (hr : r ∈ db.roles.rows) :
    AppliedOrUntouched db r req ({ db' with roles := roles },
        ({ db' with roles := roles } : Db).serviceGetRole driver faults.rereadRole faults.rereadScopes now
          req.code) ↔
      (requestedName r req).length ≤ 128 ∧ req.isActive ≠ some false ∧ faults.rereadRole = false ∧
        faults.rereadScopes = false ∧ ∀ x, x ∈ db'.scopesOf r.id ↔ x ∈ db.requestedScopes r req := by
  have hmem : writtenRow r req now ∈ roles.rows := (hrows _).mpr (.inr rfl)
  by_cases hread : req.isActive ≠ some false ∧ faults.rereadRole = false ∧ faults.rereadScopes = false
  · obtain ⟨hact, hrole, hscopes⟩ := hread
    have hstays : requestedActive r req = true := by
      unfold requestedActive
      cases hreq : req.isActive with
      | none => exact hactive
      | some b =>
        cases b with
        | true => rfl
        | false => exact absurd hreq hact
    have hfind : ({ db' with roles := roles } : Db).activeRole req.code = some (writtenRow r req now) := by
      rw [← hcode]
      exact @activeRole_eq { db' with roles := roles } _ hmem hstays
    rw [serviceGetRole_of_active hfind (decodeRole_writtenRow hdecode req now) hrole hscopes]
    obtain ⟨hrcode, hname, hdesc, hract, _, _⟩ := requestedRole_of_decode req hdecode
    constructor
    · rintro ⟨⟨_, hshown, _⟩, _, hset⟩
      exact ⟨varcharText_eq_iff.mp hshown, hact, hrole, hscopes, hset⟩
    · rintro ⟨hwhole, _, _, _, hset⟩
      have hkept := varcharText_eq_iff.mpr hwhole
      exact ⟨⟨hrcode, hkept, hdesc, hract⟩, ⟨writtenRow r req now, hmem, rfl, hkept, rfl, rfl⟩, hset⟩
  · have hfails : ({ db' with roles := roles } : Db).activeRole req.code = none ∨
        faults.rereadRole = true ∨ faults.rereadScopes = true := by
      by_contra hnot
      rw [not_or, not_or, Bool.not_eq_true, Bool.not_eq_true] at hnot
      refine hread ⟨fun hfalse => hnot.1 ?_, hnot.2⟩
      -- the only row with this code is the written one, and it is inactive
      cases hfind : ({ db' with roles := roles } : Db).activeRole req.code with
      | none => rfl
      | some q =>
        obtain ⟨hq, hqcode, hqactive⟩ := activeRole_some hfind
        rcases (hrows q).mp hq with ⟨hq, hne⟩ | rfl
        · exact absurd (role_eq_of_code hq hr (hqcode.trans hcode.symm)) hne
        · have hoff : (writtenRow r req now).isActive = false := by
            simp [writtenRow, requestedActive, hfalse]
          rw [hoff] at hqactive
          simp at hqactive
    obtain ⟨e, he⟩ := serviceGetRole_fails driver now hfails
    rw [he]
    constructor
    · intro h
      exact absurd h (touched_error hrows)
    · rintro ⟨_, hact, hrole, hscopes, _⟩
      exact absurd ⟨hact, hrole, hscopes⟩ hread

end

/-- For every stored role, every request and every statement that fails: the call applies the request
and returns the role, or returns an error and leaves row and scopes as they were, if and only if it
fails before the first write it does not undo, or none of its statements fails. -/
theorem update_applies_or_leaves_iff (driver : InetDriver) (faults : UpdateFaults) (db : Db) (now : Time)
    (r : RoleRow) (req : UpdateRoleRequest) (hr : r ∈ db.roles.rows) (hcode : r.code = req.code) :
    AppliedOrUntouched db r req (db.serviceUpdateRole driver faults now req) ↔
      FailsEarlyOrNever driver faults db r req := by
  unfold serviceUpdateRole FailsEarlyOrNever
  obtain ⟨hun, e, hread⟩ | ⟨hun, hfind, existing, hdecode, hread⟩ :=
    readRole_cases driver faults hr hcode
  · rw [hread]
    refine ⟨fun _ => .inl hun, fun _ => ?_⟩
    exact (untouched_error (OnlyLinks.refl db) hr).mpr (fun _ => Iff.rfl)
  rw [hread]
  have hactive := (activeRole_some hfind).2.2
  have honly := replaceScopes_onlyLinks faults hfind
  -- an error that comes with the role's row as it was
  have hkept : ∀ e, AppliedOrUntouched db r req (db.replaceScopes faults req, .error e) ↔
      db.ScopesKept faults r req := fun e => (untouched_error honly hr).trans (scopesKept_iff hfind)
  simp only [hun, false_or]
  obtain ⟨hnot, e, hupdate⟩ | ⟨hacc, roles, hupdate, hrows⟩ :=
    updateRole_cases req now hr hactive hdecode honly
  · rw [hupdate]
    simp only [hnot, not_false_eq_true, true_or, true_and, false_and, or_false]
    cases faults.update <;> exact hkept _
  · rw [hupdate]
    cases hfault : faults.update with
    | none =>
      refine (reread_iff hcode hdecode hactive hrows hr).trans ?_
      simp [hacc, scopesReplaced_iff hfind]
    | unapplied =>
      refine (hkept _).trans ?_
      simp
    | applied =>
      refine iff_of_false (touched_error hrows) ?_
      simp [hacc]

def addressedViewer : RoleRow := { storedViewer with updatedIP := some "10.0.0.1" }

def addressedDb : Db := { viewerDb with roles := ⟨[addressedViewer], List.pairwise_singleton _ _⟩ }

def renameViewer : UpdateRoleRequest :=
  { code := "viewer", name := "Reader", description := "", scopes := none, isActive := none }

def emptyViewer : UpdateRoleRequest :=
  { code := "viewer", name := "", description := "", scopes := some [], isActive := none }

theorem rename_is_applied : addressedViewer ∈ addressedDb.roles.rows ∧
    AppliedOrUntouched addressedDb addressedViewer renameViewer
      (addressedDb.serviceUpdateRole plainDriver .none 5 renameViewer) := by
  have hmem : addressedViewer ∈ addressedDb.roles.rows := by decide
  refine ⟨hmem, (update_applies_or_leaves_iff plainDriver .none addressedDb 5 addressedViewer renameViewer
    hmem rfl).mpr (.inr (.inr ⟨?_, by decide, rfl, by decide, rfl, rfl, ?_⟩))⟩
  · exact ⟨by decide, by decide, by decide, by decide⟩
  · intro scopes hscopes
    simp [renameViewer] at hscopes

/-- With updated_ip NULL the UPDATE is refused after the scopes have been removed; a request that
deactivates the role reports that it does not exist after it has been applied. -/
theorem update_fails_halfway :
    ¬(∀ (driver : InetDriver) (faults : UpdateFaults) (db : Db) (now : Time) (r : RoleRow)
        (req : UpdateRoleRequest), r ∈ db.roles.rows → r.code = req.code →
      AppliedOrUntouched db r req (db.serviceUpdateRole driver faults now req)) ∧
    ¬AppliedOrUntouched viewerDb storedViewer emptyViewer
      (viewerDb.serviceUpdateRole plainDriver .none 5 emptyViewer) ∧
    ¬AppliedOrUntouched addressedDb addressedViewer { renameViewer with isActive := some false }
      (addressedDb.serviceUpdateRole plainDriver .none 5 { renameViewer with isActive := some false }) := by
  have hnull : ¬AppliedOrUntouched viewerDb storedViewer emptyViewer
      (viewerDb.serviceUpdateRole plainDriver .none 5 emptyViewer) := by
    rintro ⟨_, hscopes⟩
    exact absurd ((hscopes "billing.read").mpr (by decide)) (by decide)
  refine ⟨fun h => hnull (h plainDriver .none viewerDb 5 storedViewer emptyViewer (by decide) rfl), hnull, ?_⟩
  rintro ⟨hr, _⟩
  exact absurd hr (by decide)

end Db

end SupplyPlatform.Iam
