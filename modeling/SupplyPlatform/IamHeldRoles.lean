import SupplyPlatform.IamRevocation

namespace SupplyPlatform.Iam

open DefaultIAMService

/-- The user holds an active role with this scope through an assignment that is active and unexpired. -/
def Memory.Entitled (m : Memory) (userID : Int) (x : String) : Prop :=
  ∃ ur ∈ m.service.userRoleStore userID, ur.live m.now = true ∧
    ∃ role, m.service.roleStore ur.roleCode = some role ∧ role.isActive = true ∧
      x ∈ m.service.scopesOf ur.roleCode

/-- Nobody holds the role through an assignment that is active and unexpired. -/
def Memory.Unheld (m : Memory) (roleCode : String) : Prop :=
  ∀ userID, ∀ ur ∈ m.service.userRoleStore userID, ur.roleCode = roleCode → ur.live m.now = false

/-- A role is deleted or deactivated only while nobody holds it, and granted only while it is active or
for a time that is over. -/
def KeepsHeldRolesActive (m : Memory) : Operation → Prop
  | .deleteRole roleCode => m.Unheld roleCode
  | .updateRole req => req.isActive = some false → m.Unheld req.code
  | .assignRole req => ∀ role, m.service.roleStore req.roleCode = some role → role.isActive = false →
      (newUserRole req).unexpired m.now = false
  | _ => True

def HeldActive (m : Memory) : Prop :=
  ∀ userID, ∀ ur ∈ m.service.userRoleStore userID, ur.live m.now = true →
    ∃ role, m.service.roleStore ur.roleCode = some role ∧ role.isActive = true

theorem live_of_tick {ur : UserRole} {now : Time} {elapsed : Nat}
    (h : ur.live (now + elapsed) = true) : ur.live now = true := by
  obtain ⟨hactive, hfresh⟩ := Bool.and_eq_true_iff.mp h
  refine Bool.and_eq_true_iff.mpr ⟨hactive, ?_⟩
  unfold UserRole.unexpired at hfresh ⊢
  cases hexp : ur.expiresAt with
  | none => rfl
  | some t =>
    rw [hexp] at hfresh
    have hlt : now + (elapsed : Int) < t := of_decide_eq_true hfresh
    have hearlier : now < t :=
      Int.lt_of_le_of_lt (Int.le_add_of_nonneg_right (Int.natCast_nonneg elapsed)) hlt
    exact decide_eq_true hearlier

theorem mem_revokeFirst {roleCode : String} {tenantID : Int} {urs urs' : List UserRole}
    (h : revokeFirst roleCode tenantID urs = some urs') {ur : UserRole} (hur : ur ∈ urs') :
    ur ∈ urs ∨ ur.isActive = false := by
  induction urs generalizing urs' with
  | nil => simp [revokeFirst] at h
  | cons x urs ih =>
    unfold revokeFirst at h
    split at h
    next =>
      cases Option.some.inj h
      rcases List.mem_cons.mp hur with rfl | hur
      · exact .inr rfl
      · exact .inl (List.mem_cons_of_mem _ hur)
    next =>
      obtain ⟨rest, hrest, rfl⟩ := Option.map_eq_some_iff.mp h
      rcases List.mem_cons.mp hur with rfl | hur
      · exact .inl List.mem_cons_self
      · rcases ih hrest hur with hur | hoff
        · exact .inl (List.mem_cons_of_mem _ hur)
        · exact .inr hoff

/-- The role a service stores under each code after a call that writes one role. -/
theorem HeldActive.of_roleStore {m : Memory} {s : DefaultIAMService} {code : String} {role : Role}
    (h : HeldActive m) (husers : s.userRoleStore = m.service.userRoleStore)
    (hroles : s.roleStore = Function.update m.service.roleStore code (some role))
    (hactive : ¬m.Unheld code → role.isActive = true) : HeldActive { m with service := s } := by
  intro userID ur hur hlive
  rw [husers] at hur
  rw [hroles]
  by_cases hcode : ur.roleCode = code
  · refine ⟨role, hcode ▸ Function.update_self .., hactive (fun hun => ?_)⟩
    rw [hun userID ur hur hcode] at hlive
    simp at hlive
  · obtain ⟨held, hheld, hact⟩ := h userID ur hur hlive
    exact ⟨held, (Function.update_of_ne hcode _ _).trans hheld, hact⟩

theorem HeldActive.createRole {m : Memory} (h : HeldActive m) (req : CreateRoleRequest) :
    HeldActive { m with service := (m.service.createRole m.now req).1 } := by
  unfold DefaultIAMService.createRole
  split
  next => exact h
  next =>
    split
    next => exact h
    next => exact h.of_roleStore rfl rfl (fun _ => rfl)

theorem HeldActive.updateRole {m : Memory} (h : HeldActive m) {req : UpdateRoleRequest}
    (hok : req.isActive = some false → m.Unheld req.code) :
    HeldActive { m with service := (m.service.updateRole m.now req).1 } := by
  unfold DefaultIAMService.updateRole
  split
  next => exact h
  next role hrole =>
    refine h.of_roleStore rfl rfl (fun hheld => ?_)
    -- somebody holds the role, so it was active and the request leaves it so
    have hstays : req.isActive ≠ some false := fun hoff => hheld (hok hoff)
    unfold Memory.Unheld at hheld
    push Not at hheld
    obtain ⟨userID, ur, hur, hcode, hlive⟩ := hheld
    obtain ⟨held, hstored, hact⟩ := h userID ur hur (by simpa using hlive)
    rw [hcode, hrole] at hstored
    cases Option.some.inj hstored
    show req.isActive.getD role.isActive = true
    cases hreq : req.isActive with
    | none => exact hact
    | some b =>
      cases b with
      | true => rfl
      | false => exact absurd hreq hstays

theorem HeldActive.deleteRole {m : Memory} (h : HeldActive m) {roleCode : String}
    (hok : m.Unheld roleCode) :
    HeldActive { m with service := (m.service.deleteRole m.now roleCode).1 } := by
  unfold DefaultIAMService.deleteRole
  split
  next => exact h
  next role hrole => exact h.of_roleStore rfl rfl (fun hheld => absurd hok hheld)

/-- The roles a user has after a call that writes those of one user. -/
theorem HeldActive.of_userRoles {m : Memory} (h : HeldActive m) {user : Int} {urs : List UserRole}
    (hurs : ∀ ur ∈ urs, ur.live m.now = true → ur ∈ m.service.userRoleStore user ∨
      ∃ role, m.service.roleStore ur.roleCode = some role ∧ role.isActive = true) :
    HeldActive { m with service := m.service.setUserRoles user urs } := by
  intro userID ur hur hlive
  by_cases huser : userID = user
  · subst huser
    rw [userRoleStore_setUserRoles] at hur
    rcases hurs ur hur hlive with hold | hactive
    · exact h _ ur hold hlive
    · exact hactive
  · rw [userRoleStore_setUserRoles_of_ne huser] at hur
    exact h userID ur hur hlive

theorem HeldActive.assignRole {m : Memory} (h : HeldActive m) {req : AssignRoleRequest}
    (hok : ∀ role, m.service.roleStore req.roleCode = some role → role.isActive = false →
      (newUserRole req).unexpired m.now = false) :
    HeldActive { m with service := (m.service.assignRole req).1 } := by
  obtain ⟨_, heq⟩ | ⟨_, _, heq⟩ | ⟨hsome, _, heq⟩ := m.service.assignRole_cases req
  · rw [heq]
    exact h
  · rw [heq]
    exact h
  · rw [heq]
    refine h.of_userRoles (fun ur hur hlive => ?_)
    rcases List.mem_append.mp hur with hur | hnew
    · exact .inl hur
    · rw [List.mem_singleton.mp hnew] at hlive ⊢
      obtain ⟨role, hrole⟩ := Option.isSome_iff_exists.mp hsome
      refine .inr ⟨role, hrole, ?_⟩
      by_contra hoff
      have hover := hok role hrole (by simpa using hoff)
      have hfresh := (Bool.and_eq_true_iff.mp hlive).2
      rw [hover] at hfresh
      cases hfresh

theorem HeldActive.revokeRole {m : Memory} (h : HeldActive m) (userID : Int) (roleCode : String)
    (tenantID : Int) :
    HeldActive { m with service := (m.service.revokeRole userID roleCode tenantID).1 } := by
  obtain ⟨_, heq⟩ | ⟨urs, hurs, heq⟩ := m.service.revokeRole_cases userID roleCode tenantID
  · rw [heq]
    exact h
  · rw [heq]
    refine h.of_userRoles (fun ur hur hlive => ?_)
    rcases mem_revokeFirst hurs hur with hur | hoff
    · exact .inl hur
    · have hactive := (Bool.and_eq_true_iff.mp hlive).1
      rw [hoff] at hactive
      cases hactive

theorem heldActive_step {m m' : Memory} {op : Operation} (h : HeldActive m)
    (hok : KeepsHeldRolesActive m op) (hstep : m.step op = some m') : HeldActive m' := by
  cases op with
  | tick elapsed =>
    cases Option.some.inj hstep
    exact fun userID ur hur hlive => h userID ur hur (live_of_tick hlive)
  | createRole req =>
    cases Option.some.inj hstep
    exact h.createRole req
  | updateRole req =>
    cases Option.some.inj hstep
    exact h.updateRole hok
  | deleteRole roleCode =>
    cases Option.some.inj hstep
    exact h.deleteRole hok
  | assignRole req =>
    cases Option.some.inj hstep
    exact h.assignRole hok
  | revokeRole userID roleCode tenantID =>
    cases Option.some.inj hstep
    exact h.revokeRole userID roleCode tenantID

theorem mem_getUserScopes_iff_entitled {m : Memory} (h : HeldActive m) {userID : Int} {x : String} :
    x ∈ m.service.getUserScopes userID m.now ↔ m.Entitled userID x := by
  rw [DefaultIAMService.mem_getUserScopes]
  constructor
  · rintro ⟨ur, hur, hlive, hx⟩
    obtain ⟨role, hrole, hactive⟩ := h userID ur hur hlive
    exact ⟨ur, hur, hlive, role, hrole, hactive, hx⟩
  · rintro ⟨ur, hur, hlive, _, _, _, hx⟩
    exact ⟨ur, hur, hlive, hx⟩

end SupplyPlatform.Iam
