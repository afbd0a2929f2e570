import SupplyPlatform.Lib.Runs

namespace Transition

variable {σ α : Type*} {step : σ → α → Option σ} {ok : σ → α → Prop}

/-- An infinite run: at each point of time an action that meets `ok` is taken, or none. -/
structure Run (step : σ → α → Option σ) (ok : σ → α → Prop) where
  state : Nat → σ
  act : Nat → Option α
  stays : ∀ n, act n = none → state (n + 1) = state n
  moves : ∀ n a, act n = some a → ok (state n) a ∧ step (state n) a = some (state (n + 1))

def Enabled (step : σ → α → Option σ) (A : α → Prop) (s : σ) : Prop :=
  ∃ a t, A a ∧ step s a = some t

namespace Run

variable (r : Run step ok)

def Takes (A : α → Prop) (n : Nat) : Prop := ∃ a, r.act n = some a ∧ A a

/-- Actions that stay enabled are taken. -/
def WeaklyFair (A : α → Prop) : Prop :=
  ∀ n, (∀ m, n ≤ m → Enabled step A (r.state m)) → ∃ m, n ≤ m ∧ r.Takes A m

/-- Actions that are enabled again and again are taken again and again. -/
def StronglyFair (A : α → Prop) : Prop :=
  (∀ n, ∃ m, n ≤ m ∧ Enabled step A (r.state m)) → ∀ n, ∃ m, n ≤ m ∧ r.Takes A m

variable {r}

theorem WeaklyFair.of_taken {A : α → Prop} (h : ∀ n, ∃ m, n ≤ m ∧ r.Takes A m) : r.WeaklyFair A :=
  fun n _ => h n

theorem StronglyFair.of_disabled {A : α → Prop} (n : Nat)
    (h : ∀ m, n ≤ m → ¬Enabled step A (r.state m)) : r.StronglyFair A := by
  intro hoften
  obtain ⟨m, hm, hen⟩ := hoften n
  exact absurd hen (h m hm)

theorem WeaklyFair.of_disabled {A : α → Prop} (n : Nat)
    (h : ∀ m, n ≤ m → ¬Enabled step A (r.state m)) : r.WeaklyFair A := by
  intro k hall
  exact absurd (hall (max n k) (Nat.le_max_right n k)) (h (max n k) (Nat.le_max_left n k))

variable (r)

theorem reach (n : Nat) : Reach step ok (r.state 0) (r.state n) := by
  induction n with
  | zero => exact Reach.refl _
  | succ n ih =>
    cases hact : r.act n with
    | none => rw [r.stays n hact]; exact ih
    | some a =>
      obtain ⟨hok, hstep⟩ := r.moves n a hact
      exact ih.next hok hstep

variable {r}

/-- Actions of `A` are always possible while `P` holds, and bring `Q` nearer; other actions do not put
it off. -/
theorem leads_to_of_rank {A : α → Prop} (fair : r.WeaklyFair A) {P Q : σ → Prop} (rank : σ → Nat)
    (enabled : ∀ s, P s → Enabled step A s)
    (progress : ∀ s a t, P s → ok s a → step s a = some t → A a → Q t ∨ (P t ∧ rank t < rank s))
    (keep : ∀ s a t, P s → ok s a → step s a = some t → ¬A a → Q t ∨ (P t ∧ rank t ≤ rank s))
    (n : Nat) (h : P (r.state n)) : ∃ m, n ≤ m ∧ Q (r.state m) := by
  -- by induction on the rank: before `Q` comes, an action of `A` is taken and lowers it
  induction hk : rank (r.state n) using Nat.strongRecOn generalizing n with
  | ind k ih =>
    by_contra hnever
    -- until then `P` holds and the rank does not rise
    have hstays : ∀ m, n ≤ m → P (r.state m) ∧ rank (r.state m) ≤ k := by
      intro m hm
      induction hm with
      | refl => exact ⟨h, Nat.le_of_eq hk⟩
      | @step m hm ihm =>
        obtain ⟨hP, hle⟩ := ihm
        cases hact : r.act m with
        | none => rw [r.stays m hact]; exact ⟨hP, hle⟩
        | some a =>
          obtain ⟨hok, hstep⟩ := r.moves m a hact
          have hnext : P (r.state (m + 1)) ∧ rank (r.state (m + 1)) ≤ rank (r.state m) := by
            by_cases hA : A a
            · rcases progress _ a _ hP hok hstep hA with hQ | ⟨hP', hlt⟩
              · exact absurd ⟨m + 1, Nat.le_succ_of_le hm, hQ⟩ hnever
              · exact ⟨hP', Nat.le_of_lt hlt⟩
            · rcases keep _ a _ hP hok hstep hA with hQ | hnext
              · exact absurd ⟨m + 1, Nat.le_succ_of_le hm, hQ⟩ hnever
              · exact hnext
          exact ⟨hnext.1, Nat.le_trans hnext.2 hle⟩
    obtain ⟨m, hm, a, hact, hA⟩ := fair n (fun m hm => enabled _ (hstays m hm).1)
    obtain ⟨hok, hstep⟩ := r.moves m a hact
    obtain ⟨hP, hle⟩ := hstays m hm
    rcases progress _ a _ hP hok hstep hA with hQ | ⟨hP', hlt⟩
    · exact hnever ⟨m + 1, Nat.le_succ_of_le hm, hQ⟩
    · obtain ⟨j, hj, hQ⟩ := ih _ (Nat.lt_of_lt_of_le hlt hle) (m + 1) hP' rfl
      exact hnever ⟨j, by omega, hQ⟩

/-- An action of `A` gives `Q`, other actions keep `P`, and while `P` holds `A` is enabled again and
again. -/
theorem leads_to_of_recurring {A : α → Prop} (fair : r.StronglyFair A) {P Q : σ → Prop}
    (progress : ∀ s a t, P s → ok s a → step s a = some t → A a → Q t)
    (keep : ∀ s a t, P s → ok s a → step s a = some t → ¬A a → P t)
    (often : ∀ n, P (r.state n) → ∃ m, n ≤ m ∧ (P (r.state m) → Enabled step A (r.state m)))
    (n : Nat) (h : P (r.state n)) : ∃ m, n ≤ m ∧ Q (r.state m) := by
  by_contra hnever
  have hstays : ∀ m, n ≤ m → P (r.state m) := by
    intro m hm
    induction hm with
    | refl => exact h
    | @step m hm hP =>
      cases hact : r.act m with
      | none => rw [r.stays m hact]; exact hP
      | some a =>
        obtain ⟨hok, hstep⟩ := r.moves m a hact
        by_cases hA : A a
        · exact absurd ⟨m + 1, Nat.le_succ_of_le hm, progress _ a _ hP hok hstep hA⟩ hnever
        · exact keep _ a _ hP hok hstep hA
  have hagain : ∀ k, ∃ m, k ≤ m ∧ Enabled step A (r.state m) := by
    intro k
    have hmax := hstays (max n k) (Nat.le_max_left n k)
    obtain ⟨m, hm, hen⟩ := often (max n k) hmax
    have hnm : n ≤ m := Nat.le_trans (Nat.le_max_left n k) hm
    exact ⟨m, Nat.le_trans (Nat.le_max_right n k) hm, hen (hstays m hnm)⟩
  obtain ⟨m, hm, a, hact, hA⟩ := fair hagain n
  obtain ⟨hok, hstep⟩ := r.moves m a hact
  exact hnever ⟨m + 1, Nat.le_succ_of_le hm, progress _ a _ (hstays m hm) hok hstep hA⟩

def constant (s : σ) : Run step ok where
  state _ := s
  act _ := none
  stays _ _ := rfl
  moves _ _ h := by simp at h

def cons (s : σ) (a : α) (r : Run step ok) (hok : ok s a) (hstep : step s a = some (r.state 0)) :
    Run step ok where
  state n := match n with
    | 0 => s
    | n + 1 => r.state n
  act n := match n with
    | 0 => some a
    | n + 1 => r.act n
  stays n h := by
    cases n with
    | zero => simp at h
    | succ n => exact r.stays n h
  moves n b h := by
    cases n with
    | zero =>
      cases Option.some.inj h
      exact ⟨hok, hstep⟩
    | succ n => exact r.moves n b h

theorem WeaklyFair.cons {A : α → Prop} (h : r.WeaklyFair A) {s : σ} {a : α} (hok : ok s a)
    (hstep : step s a = some (r.state 0)) : (Run.cons s a r hok hstep).WeaklyFair A := by
  intro n hall
  obtain ⟨m, hm, htaken⟩ := h n (fun m hm => hall (m + 1) (Nat.le_succ_of_le hm))
  exact ⟨m + 1, Nat.le_succ_of_le hm, htaken⟩

theorem StronglyFair.cons {A : α → Prop} (h : r.StronglyFair A) {s : σ} {a : α} (hok : ok s a)
    (hstep : step s a = some (r.state 0)) : (Run.cons s a r hok hstep).StronglyFair A := by
  intro hoften n
  have htail : ∀ k, ∃ m, k ≤ m ∧ Enabled step A (r.state m) := by
    intro k
    obtain ⟨m, hm, hen⟩ := hoften (k + 1)
    cases m with
    | zero => omega
    | succ m => exact ⟨m, by omega, hen⟩
  obtain ⟨m, hm, htaken⟩ := h htail n
  exact ⟨m + 1, Nat.le_succ_of_le hm, htaken⟩

/-- Finitely many steps before a run, which change nothing about its fairness. -/
theorem exists_of_exec (r : Run step ok) {s : σ} (as : List α) (hexec : exec step s as = some (r.state 0))
    (hok : EachStep step ok s as) :
    ∃ r' : Run step ok, r'.state 0 = s ∧ (∃ k, ∀ n, r'.state (k + n) = r.state n) ∧
      (∀ A, r.WeaklyFair A → r'.WeaklyFair A) ∧ ∀ A, r.StronglyFair A → r'.StronglyFair A := by
  induction as generalizing s with
  | nil =>
    cases Option.some.inj hexec
    exact ⟨r, rfl, ⟨0, fun n => by rw [Nat.zero_add]⟩, fun _ h => h, fun _ h => h⟩
  | cons a as ih =>
    obtain ⟨u, hu, hexec⟩ := Option.bind_eq_some_iff.mp hexec
    obtain ⟨hoka, hrest⟩ := hok u hu
    obtain ⟨r', h0, ⟨k, hk⟩, hweak, hstrong⟩ := ih hexec hrest
    subst h0
    refine ⟨Run.cons s a r' hoka hu, rfl, ⟨k + 1, fun n => ?_⟩, fun A h => (hweak A h).cons hoka hu,
      fun A h => (hstrong A h).cons hoka hu⟩
    rw [Nat.add_right_comm]
    exact hk n

end Run

end Transition
