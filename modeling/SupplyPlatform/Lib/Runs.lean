import Mathlib.Logic.Relation
import Mathlib.Tactic.Common

namespace Transition

variable {σ α : Type*}

/-- One step of a partial transition function, by an action that meets `ok` in its pre-state. -/
def StepBy (step : σ → α → Option σ) (ok : σ → α → Prop) (s t : σ) : Prop :=
  ∃ a, ok s a ∧ step s a = some t

/-- The states reached by runs all of whose steps meet `ok`. -/
def Reach (step : σ → α → Option σ) (ok : σ → α → Prop) : σ → σ → Prop :=
  Relation.ReflTransGen (StepBy step ok)

/-- The condition every step meets. -/
def anyStep : σ → α → Prop := fun _ _ => True

theorem Reach.refl {step : σ → α → Option σ} {ok : σ → α → Prop} (s : σ) : Reach step ok s s :=
  Relation.ReflTransGen.refl

theorem Reach.next {step : σ → α → Option σ} {ok : σ → α → Prop} {s t u : σ} {a : α}
    (h : Reach step ok s t) (hok : ok t a) (hstep : step t a = some u) : Reach step ok s u :=
  Relation.ReflTransGen.tail h ⟨a, hok, hstep⟩

theorem Reach.trans {step : σ → α → Option σ} {ok : σ → α → Prop} {s t u : σ}
    (h : Reach step ok s t) (h' : Reach step ok t u) : Reach step ok s u :=
  Relation.ReflTransGen.trans h h'

theorem Reach.mono {step : σ → α → Option σ} {ok ok' : σ → α → Prop} {s t : σ}
    (himp : ∀ s a, ok s a → ok' s a) (h : Reach step ok s t) : Reach step ok' s t :=
  Relation.ReflTransGen.mono (fun _ _ ⟨a, hok, hstep⟩ => ⟨a, himp _ a hok, hstep⟩) s t h

/-- What holds at the start and survives every step that meets `ok` holds in every state reached. -/
theorem Reach.invariant {step : σ → α → Option σ} {ok : σ → α → Prop} {I : σ → Prop} {s t : σ}
    (h : Reach step ok s t) (h0 : I s)
    (hstep : ∀ s a t, I s → ok s a → step s a = some t → I t) : I t := by
  induction h with
  | refl => exact h0
  | tail _ last ih =>
    obtain ⟨a, hok, hs⟩ := last
    exact hstep _ a _ ih hok hs

/-- A run given as a list of actions; it fails where an action is not enabled. -/
def exec (step : σ → α → Option σ) : σ → List α → Option σ
  | s, [] => some s
  | s, a :: as => (step s a).bind (fun t => exec step t as)

theorem exec_append (step : σ → α → Option σ) (s : σ) (as bs : List α) :
    exec step s (as ++ bs) = (exec step s as).bind (fun t => exec step t bs) := by
  induction as generalizing s with
  | nil => rfl
  | cons a as ih =>
    simp only [List.cons_append, exec, Option.bind_assoc]
    exact congrArg _ (funext ih)

theorem reach_of_exec_of {step : σ → α → Option σ} {ok : σ → α → Prop} {s t : σ} {as : List α}
    (h : exec step s as = some t) (hok : ∀ s, ∀ a ∈ as, ok s a) : Reach step ok s t := by
  induction as generalizing s with
  | nil => cases Option.some.inj h; exact Reach.refl _
  | cons a as ih =>
    obtain ⟨u, hu, h⟩ := Option.bind_eq_some_iff.mp h
    have hrest := ih h (fun s b hb => hok s b (List.mem_cons_of_mem _ hb))
    exact Reach.trans (Reach.next (Reach.refl s) (hok s a List.mem_cons_self) hu) hrest

theorem reach_of_exec {step : σ → α → Option σ} {s t : σ} {as : List α}
    (h : exec step s as = some t) : Reach step anyStep s t :=
  reach_of_exec_of h (fun _ _ _ => trivial)

/-- `P` holds in every state a list of actions visits; a run ends at the first action not enabled. -/
def Throughout (step : σ → α → Option σ) (P : σ → Prop) : σ → List α → Prop
  | s, [] => P s
  | s, a :: as => P s ∧ ∀ t, step s a = some t → Throughout step P t as

/-- Every step a list of actions takes meets `ok` in its pre-state. -/
def EachStep (step : σ → α → Option σ) (ok : σ → α → Prop) : σ → List α → Prop
  | _, [] => True
  | s, a :: as => ∀ t, step s a = some t → ok s a ∧ EachStep step ok t as

theorem eachStep_of_forall {step : σ → α → Option σ} {ok : σ → α → Prop} {s : σ} {as : List α}
    (h : ∀ s, ∀ a ∈ as, ok s a) : EachStep step ok s as := by
  induction as generalizing s with
  | nil => trivial
  | cons a as ih =>
    exact fun t _ => ⟨h s a List.mem_cons_self, ih (fun s b hb => h s b (List.mem_cons_of_mem _ hb))⟩

theorem EachStep.reach {step : σ → α → Option σ} {ok : σ → α → Prop} {s t : σ} {as : List α}
    (h : EachStep step ok s as) (hrun : exec step s as = some t) : Reach step ok s t := by
  induction as generalizing s with
  | nil => cases Option.some.inj hrun; exact Reach.refl _
  | cons a as ih =>
    obtain ⟨u, hu, hrun⟩ := Option.bind_eq_some_iff.mp hrun
    obtain ⟨hok, hrest⟩ := h u hu
    exact Reach.trans (Reach.next (Reach.refl s) hok hu) (ih hrest hrun)

/-- A test of every step a list of actions takes. -/
def testSteps (step : σ → α → Option σ) (test : σ → α → Bool) : σ → List α → Bool
  | _, [] => true
  | s, a :: as => test s a && (step s a).all (fun t => testSteps step test t as)

theorem eachStep_of_test {step : σ → α → Option σ} {test : σ → α → Bool} {ok : σ → α → Prop} {I : σ → Prop}
    (keep : ∀ s a t, I s → step s a = some t → I t) (sound : ∀ s a, I s → test s a = true → ok s a)
    {s : σ} (h0 : I s) {as : List α} (h : testSteps step test s as = true) : EachStep step ok s as := by
  induction as generalizing s with
  | nil => trivial
  | cons a as ih =>
    intro t ht
    obtain ⟨hfirst, hrest⟩ := Bool.and_eq_true_iff.mp h
    rw [ht] at hrest
    exact ⟨sound s a h0 hfirst, ih (keep s a t h0 ht) hrest⟩

/-- The same, said of each action with the state that the actions before it lead to. -/
theorem eachStep_iff_split {step : σ → α → Option σ} {ok : σ → α → Prop} {s : σ} {as : List α} :
    EachStep step ok s as ↔ ∀ before a after t u, as = before ++ a :: after →
      exec step s before = some t → step t a = some u → ok t a := by
  induction as generalizing s with
  | nil =>
    refine ⟨fun _ before a after t u hsplit => ?_, fun _ => trivial⟩
    exact absurd hsplit (List.append_ne_nil_of_right_ne_nil before (List.cons_ne_nil a after)).symm
  | cons a as ih =>
    constructor
    · intro h before b after t u hsplit hrun hstep
      cases before with
      | nil =>
        obtain ⟨rfl, -⟩ := List.cons.inj hsplit
        cases Option.some.inj hrun
        exact (h u hstep).1
      | cons c before =>
        obtain ⟨rfl, hrest⟩ := List.cons.inj hsplit
        obtain ⟨v, hv, hrun⟩ := Option.bind_eq_some_iff.mp hrun
        exact ih.mp (h v hv).2 before b after t u hrest hrun hstep
    · intro h t ht
      refine ⟨h [] a as s t rfl rfl ht, ih.mpr (fun before b after v u hsplit hrun hstep => ?_)⟩
      have hcons : a :: as = (a :: before) ++ b :: after := by rw [hsplit, List.cons_append]
      exact h (a :: before) b after v u hcons (Option.bind_eq_some_iff.mpr ⟨t, ht, hrun⟩) hstep

theorem Throughout.start {step : σ → α → Option σ} {P : σ → Prop} {s : σ} {as : List α}
    (h : Throughout step P s as) : P s := by
  cases as with
  | nil => exact h
  | cons a as => exact h.1

theorem Throughout.of_exec {step : σ → α → Option σ} {P : σ → Prop} {s t : σ} {as : List α}
    (h : Throughout step P s as) (hrun : exec step s as = some t) : P t := by
  induction as generalizing s with
  | nil => cases Option.some.inj hrun; exact h
  | cons a as ih =>
    obtain ⟨u, hu, hrest⟩ := Option.bind_eq_some_iff.mp hrun
    exact ih (h.2 u hu) hrest

/-- What an invariant gives that every step keeps holds throughout any run. -/
theorem throughout_of_invariant {step : σ → α → Option σ} {I P : σ → Prop}
    (keep : ∀ s a t, I s → step s a = some t → I t) (gives : ∀ s, I s → P s) {s : σ} (h0 : I s)
    (as : List α) : Throughout step P s as := by
  induction as generalizing s with
  | nil => exact gives s h0
  | cons a as ih => exact ⟨gives s h0, fun t ht => ih (keep s a t h0 ht)⟩

/-- When steps that meet `ok` keep an invariant that gives `P`, and every other step breaks `P`,
a run satisfies `P` throughout exactly when each of its steps meets `ok`. -/
theorem throughout_iff_eachStep {step : σ → α → Option σ} {ok : σ → α → Prop} {I P : σ → Prop}
    (keep : ∀ s a t, I s → ok s a → step s a = some t → I t)
    (gives : ∀ s, I s → P s)
    (breaks : ∀ s a t, I s → ¬ok s a → step s a = some t → ¬P t)
    {s : σ} (h0 : I s) (as : List α) :
    Throughout step P s as ↔ EachStep step ok s as := by
  induction as generalizing s with
  | nil => exact ⟨fun _ => trivial, fun _ => gives s h0⟩
  | cons a as ih =>
    constructor
    · rintro ⟨_, h⟩ t ht
      have hok : ok s a := by
        by_contra hn
        exact breaks s a t h0 hn ht (h t ht).start
      exact ⟨hok, (ih (keep s a t h0 hok ht)).mp (h t ht)⟩
    · intro h
      refine ⟨gives s h0, fun t ht => ?_⟩
      obtain ⟨hok, hrest⟩ := h t ht
      exact (ih (keep s a t h0 hok ht)).mpr hrest

/-- Two conditions agree on every run of actions that meet `D`, if they do on every step from where an
invariant holds which the steps that meet the second condition keep. -/
theorem eachStep_congr_of {step : σ → α → Option σ} {ok ok' : σ → α → Prop} {I : σ → Prop} {D : α → Prop}
    (keep : ∀ s a t, I s → D a → ok' s a → step s a = some t → I t)
    (agree : ∀ s a t, I s → D a → step s a = some t → (ok s a ↔ ok' s a))
    {s : σ} (h0 : I s) {as : List α} (hD : ∀ a ∈ as, D a) : EachStep step ok s as ↔ EachStep step ok' s as := by
  induction as generalizing s with
  | nil => exact Iff.rfl
  | cons a as ih =>
    have ha : D a := hD a List.mem_cons_self
    have hrest : ∀ b ∈ as, D b := fun b hb => hD b (List.mem_cons_of_mem _ hb)
    constructor
    · intro h t ht
      obtain ⟨hok, h⟩ := h t ht
      have hok' : ok' s a := (agree s a t h0 ha ht).mp hok
      exact ⟨hok', (ih (keep s a t h0 ha hok' ht) hrest).mp h⟩
    · intro h t ht
      obtain ⟨hok', h⟩ := h t ht
      exact ⟨(agree s a t h0 ha ht).mpr hok', (ih (keep s a t h0 ha hok' ht) hrest).mpr h⟩

/-- The same for every action, where each step keeps the invariant. -/
theorem eachStep_congr {step : σ → α → Option σ} {ok ok' : σ → α → Prop} {I : σ → Prop}
    (keep : ∀ s a t, I s → step s a = some t → I t)
    (agree : ∀ s a t, I s → step s a = some t → (ok s a ↔ ok' s a))
    {s : σ} (h0 : I s) (as : List α) : EachStep step ok s as ↔ EachStep step ok' s as :=
  eachStep_congr_of (D := fun _ => True) (fun s a t h _ _ => keep s a t h) (fun s a t h _ => agree s a t h)
    h0 (fun _ _ => trivial)

/-- A loop with an error exit: what holds of the part gone over, if each round keeps it, holds of the
whole where no round fails. -/
theorem foldlM_invariant {ε β : Type*} {f : β → α → Except ε β} (I : List α → β → Prop)
    (keep : ∀ done a b b', I done b → f b a = .ok b' → I (done ++ [a]) b') (done : List α)
    {as : List α} {b b' : β} (h0 : I done b) (h : as.foldlM f b = .ok b') : I (done ++ as) b' := by
  induction as generalizing done b with
  | nil =>
    cases h
    rw [List.append_nil]
    exact h0
  | cons a as ih =>
    rw [List.foldlM_cons] at h
    cases hf : f b a with
    | error e =>
      rw [hf] at h
      cases h
    | ok c =>
      rw [hf] at h
      have hrest := ih (done ++ [a]) (keep done a b c h0 hf) h
      rwa [List.append_assoc] at hrest

end Transition
