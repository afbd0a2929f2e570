import Mathlib.Data.List.Infix
import Mathlib.Tactic.Common

namespace Readers

/-- Something to read from, with what it still yields and a bound on the reads that may still come before
it reports its end. A read fills a buffer of a given length in part or whole and may report the end along
with the last items or after them. -/
structure Source (σ α : Type) where
  read : σ → Nat → σ × List α × Bool
  yields : σ → List α
  left : σ → Nat
  read_yields : ∀ s k, (read s k).2.1 ++ yields (read s k).1 = yields s
  read_length : ∀ s k, (read s k).2.1.length ≤ k
  read_eof : ∀ s k, (read s k).2.2 = true → yields (read s k).1 = []
  read_left : ∀ s k, 0 < k → (read s k).2.2 = true ∨ left (read s k).1 < left s

/-- Items that a script hands out: of each read to come, how many items it may return at most and whether
it reports the end as soon as it has returned the last of them. After the script a read returns all that
fits. -/
structure Scripted (α : Type) where
  rest : List α
  script : List (Nat × Bool)
  deriving DecidableEq

def Scripted.read {α : Type} (r : Scripted α) (k : Nat) : Scripted α × List α × Bool :=
  match r.script with
  | [] => (⟨r.rest.drop k, []⟩, r.rest.take k, r.rest.isEmpty)
  | (most, early) :: script =>
    (⟨r.rest.drop (min most k), script⟩, r.rest.take (min most k),
      early && (r.rest.drop (min most k)).isEmpty)

def Scripted.left {α : Type} (r : Scripted α) : Nat := r.script.length + r.rest.length

theorem Scripted.read_yields {α : Type} (r : Scripted α) (k : Nat) :
    (r.read k).2.1 ++ (r.read k).1.rest = r.rest := by
  unfold Scripted.read
  split
  · exact List.take_append_drop _ _
  · exact List.take_append_drop _ _

theorem Scripted.read_length {α : Type} (r : Scripted α) (k : Nat) : (r.read k).2.1.length ≤ k := by
  unfold Scripted.read
  split
  · exact List.length_take_le _ _
  · exact (List.length_take_le _ _).trans (Nat.min_le_right _ _)

theorem Scripted.read_eof {α : Type} (r : Scripted α) (k : Nat) (h : (r.read k).2.2 = true) :
    (r.read k).1.rest = [] := by
  unfold Scripted.read at h ⊢
  split at h
  · simp [List.isEmpty_iff.mp h]
  · exact List.isEmpty_iff.mp (Bool.and_eq_true_iff.mp h).2

theorem Scripted.read_left {α : Type} (r : Scripted α) (k : Nat) (hk : 0 < k) :
    (r.read k).2.2 = true ∨ (r.read k).1.left < r.left := by
  obtain ⟨rest, script⟩ := r
  cases script with
  | nil =>
    cases rest with
    | nil => exact .inl rfl
    | cons a rest => exact .inr (by simp only [Scripted.read, Scripted.left, List.length_drop]; simp; omega)
  | cons step script =>
    refine .inr ?_
    simp only [Scripted.read, Scripted.left, List.length_drop, List.length_cons]
    omega

def Scripted.source (α : Type) : Source (Scripted α) α where
  read := Scripted.read
  yields := Scripted.rest
  left := Scripted.left
  read_yields := Scripted.read_yields
  read_length := Scripted.read_length
  read_eof := Scripted.read_eof
  read_left := Scripted.read_left

namespace Source

variable {σ α : Type} (src : Source σ α)

/-- The reads into buffers of the given lengths, up to the one that reports the end. -/
def readMany : List Nat → σ → σ × List α × Bool
  | [], s => (s, [], false)
  | k :: sizes, s =>
    if (src.read s k).2.2 then src.read s k
    else
      let later := readMany sizes (src.read s k).1
      (later.1, (src.read s k).2.1 ++ later.2.1, later.2.2)

theorem readMany_yields (sizes : List Nat) (s : σ) :
    (src.readMany sizes s).2.1 ++ src.yields (src.readMany sizes s).1 = src.yields s := by
  induction sizes generalizing s with
  | nil => rfl
  | cons k sizes ih =>
    unfold readMany
    split
    · exact src.read_yields s k
    · dsimp only
      rw [List.append_assoc, ih, src.read_yields]

theorem readMany_eof {sizes : List Nat} {s : σ} (h : (src.readMany sizes s).2.2 = true) :
    src.yields (src.readMany sizes s).1 = [] := by
  induction sizes generalizing s with
  | nil => cases h
  | cons k sizes ih =>
    unfold readMany at h ⊢
    split at h
    next heof =>
      rw [if_pos heof]
      exact src.read_eof s k heof
    next heof =>
      rw [if_neg heof]
      exact ih h

/-- What is read is the beginning of what the source yields, -/
theorem readMany_prefix (sizes : List Nat) (s : σ) :
    (src.readMany sizes s).2.1 <+: src.yields s :=
  ⟨_, src.readMany_yields sizes s⟩

/-- all of it when the end is reported, -/
theorem readMany_whole {sizes : List Nat} {s : σ} (h : (src.readMany sizes s).2.2 = true) :
    (src.readMany sizes s).2.1 = src.yields s := by
  have happend := src.readMany_yields sizes s
  rwa [src.readMany_eof h, List.append_nil] at happend

/-- and enough reads into buffers that are not empty do report it. -/
theorem readMany_ends {sizes : List Nat} {s : σ} (hpos : ∀ k ∈ sizes, 0 < k)
    (hleft : src.left s < sizes.length) : (src.readMany sizes s).2.2 = true := by
  induction sizes generalizing s with
  | nil => cases hleft
  | cons k sizes ih =>
    unfold readMany
    split
    next heof => exact heof
    next heof =>
      have hless := (src.read_left s k (hpos k List.mem_cons_self)).resolve_left heof
      exact ih (fun j hj => hpos j (List.mem_cons_of_mem _ hj)) (by rw [List.length_cons] at hleft; omega)

end Source

end Readers
