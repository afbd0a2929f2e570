import Mathlib.Data.List.Forall2

namespace Transition

variable {σ σ' α α' β β' : Type*}

/-- A machine that answers each request: the state after a list of them, and the answers. -/
def serve (answer : σ → α → σ × β) : σ → List α → σ × List β
  | s, [] => (s, [])
  | s, a :: as =>
    let next := answer s a
    let rest := serve answer next.1 as
    (rest.1, next.2 :: rest.2)

@[simp] theorem serve_cons (answer : σ → α → σ × β) (s : σ) (a : α) (as : List α) :
    serve answer s (a :: as) =
      ((serve answer (answer s a).1 as).1, (answer s a).2 :: (serve answer (answer s a).1 as).2) := rfl

/-- Two machines that answer one request alike, and stay related, answer all requests alike. -/
theorem serve_related {answer : σ → α → σ × β} {answer' : σ' → α' → σ' × β'} {R : σ → σ' → Prop}
    {A : α → α' → Prop} {B : β → β' → Prop}
    (alike : ∀ s s' a a', R s s' → A a a' →
      R (answer s a).1 (answer' s' a').1 ∧ B (answer s a).2 (answer' s' a').2)
    {s : σ} {s' : σ'} (h : R s s') {as : List α} {as' : List α'} (has : List.Forall₂ A as as') :
    R (serve answer s as).1 (serve answer' s' as').1 ∧
      List.Forall₂ B (serve answer s as).2 (serve answer' s' as').2 := by
  induction has generalizing s s' with
  | nil => exact ⟨h, .nil⟩
  | @cons a a' as as' ha _ ih =>
    obtain ⟨hnext, hanswer⟩ := alike s s' a a' h ha
    obtain ⟨hend, hrest⟩ := ih hnext
    exact ⟨hend, .cons hanswer hrest⟩

end Transition
