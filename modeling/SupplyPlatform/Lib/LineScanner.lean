import Mathlib.Data.List.TakeWhile
import Mathlib.Tactic.Common

namespace LineScanner

def dropCR (line : List UInt8) : List UInt8 :=
  if line.getLast? = some 13 then line.dropLast else line

/-- The lines of a text, without their ends. A line that has filled the buffer of `max` bytes before its end
is seen ends the scan; `cur` is what has been seen of the line. -/
def scanLines (max : Nat) : List UInt8 → List UInt8 → List (List UInt8)
  | cur, [] => if cur = [] ∨ max ≤ cur.length then [] else [dropCR cur]
  | cur, c :: cs =>
    if max ≤ cur.length then []
    else if c = 10 then dropCR cur :: scanLines max [] cs
    else scanLines max (cur ++ [c]) cs

/-- A line with either of the two ends. -/
structure Line where
  text : List UInt8
  crlf : Bool
  no_lf : 10 ∉ text
  no_cr : 13 ∉ text

namespace Line

/-- What the buffer has to hold up to the newline. -/
def held (line : Line) : List UInt8 := line.text ++ if line.crlf then [13] else []

def ended (line : Line) : List UInt8 := line.held ++ [10]

theorem dropCR_held (line : Line) : dropCR line.held = line.text := by
  unfold dropCR held
  cases line.crlf with
  | true => simp
  | false =>
    have hlast : line.text.getLast? ≠ some 13 := fun h => line.no_cr (List.mem_of_getLast? h)
    simp [hlast]

theorem lf_not_mem_held (line : Line) : 10 ∉ line.held := by
  unfold held
  cases line.crlf with
  | true => simp [line.no_lf]
  | false => simp [line.no_lf]

end Line

theorem scanLines_of_fits {max : Nat} {cur text rest : List UInt8} (hlf : 10 ∉ text)
    (hfits : (cur ++ text).length < max) :
    scanLines max cur (text ++ 10 :: rest) = dropCR (cur ++ text) :: scanLines max [] rest := by
  induction text generalizing cur with
  | nil =>
    rw [List.append_nil] at hfits ⊢
    rw [List.nil_append, scanLines, if_neg (by omega), if_pos rfl]
  | cons c cs ih =>
    have hc : c ≠ 10 := fun h => hlf (by rw [h]; exact List.mem_cons_self)
    have hlength : cur.length < max := by
      rw [List.length_append, List.length_cons] at hfits
      omega
    have happend : cur ++ c :: cs = cur ++ [c] ++ cs := by rw [List.append_assoc, List.singleton_append]
    rw [happend] at hfits ⊢
    rw [List.cons_append, scanLines, if_neg (by omega), if_neg hc,
      ih (fun h => hlf (List.mem_cons_of_mem _ h)) hfits]

theorem scanLines_of_full {max : Nat} {cur text rest : List UInt8} (hlf : 10 ∉ text)
    (hfull : max ≤ (cur ++ text).length) : scanLines max cur (text ++ 10 :: rest) = [] := by
  induction text generalizing cur with
  | nil =>
    rw [List.append_nil] at hfull
    rw [List.nil_append, scanLines, if_pos hfull]
  | cons c cs ih =>
    have hc : c ≠ 10 := fun h => hlf (by rw [h]; exact List.mem_cons_self)
    have happend : cur ++ c :: cs = cur ++ [c] ++ cs := by rw [List.append_assoc, List.singleton_append]
    rw [happend] at hfull
    rw [List.cons_append, scanLines, if_neg hc, ih (fun h => hlf (List.mem_cons_of_mem _ h)) hfull,
      ite_self]

/-- The scanner yields the lines up to the first that is too long. -/
theorem scanLines_ended (max : Nat) (lines : List Line) :
    scanLines max [] (lines.flatMap Line.ended) =
      (lines.takeWhile (fun line => line.held.length < max)).map Line.text := by
  induction lines with
  | nil => rfl
  | cons line lines ih =>
    rw [List.flatMap_cons, Line.ended, List.append_assoc, List.singleton_append, List.takeWhile_cons]
    by_cases hfits : line.held.length < max
    · rw [scanLines_of_fits line.lf_not_mem_held hfits, ih, List.nil_append, line.dropCR_held]
      simp [hfits]
    · rw [scanLines_of_full line.lf_not_mem_held (by rw [List.nil_append]; omega)]
      simp [hfits]

/-- Someone who goes through items up to the first that stops them, and makes something of some. -/
structure Follower (α β : Type) where
  stops : α → Bool
  gives : α → Option β

namespace Follower

variable {α β : Type}

def follow (f : Follower α β) (xs : List α) : List β :=
  (xs.takeWhile (fun x => !f.stops x)).filterMap f.gives

@[simp] theorem follow_nil (f : Follower α β) : f.follow [] = [] := rfl

theorem follow_cons_of_stops {f : Follower α β} {x : α} (h : f.stops x = true) (xs : List α) :
    f.follow (x :: xs) = [] := by
  simp [follow, h]

theorem follow_cons {f : Follower α β} {x : α} (h : f.stops x = false) (xs : List α) :
    f.follow (x :: xs) = (f.gives x).toList ++ f.follow xs := by
  cases hx : f.gives x with
  | none => simp [follow, h, hx]
  | some y => simp [follow, h, hx]

theorem follow_eq_nil {f : Follower α β} {xs : List α} :
    f.follow xs = [] ↔ ∀ x ∈ xs.takeWhile (fun x => !f.stops x), f.gives x = none :=
  List.filterMap_eq_nil_iff

/-- What is made of a first part of the items is a first part of what is made of all. -/
theorem follow_take_prefix (f : Follower α β) (xs : List α) (k : Nat) :
    f.follow (xs.take k) <+: f.follow xs := by
  induction xs generalizing k with
  | nil => simp
  | cons x xs ih =>
    cases k with
    | zero => exact List.nil_prefix
    | succ k =>
      rw [List.take_succ_cons]
      cases hx : f.stops x with
      | true =>
        simp only [follow_cons_of_stops hx, List.nil_prefix]
      | false =>
        rw [follow_cons hx, follow_cons hx]
        exact (List.prefix_append_right_inj _).mpr (ih k)

/-- The items up to the first that stops one of two. -/
def together (f g : Follower α β) (xs : List α) : List α :=
  xs.takeWhile (fun x => !(f.stops x || g.stops x))

/-- The items from the first that stops one of two. -/
def apart (f g : Follower α β) (xs : List α) : List α :=
  xs.dropWhile (fun x => !(f.stops x || g.stops x))

/-- Two make the same of each item as long as none is stopped, and the one who goes on further makes nothing
of the items from there on. -/
structure Agree (f g : Follower α β) (xs : List α) : Prop where
  alike : ∀ x ∈ together f g xs, f.gives x = g.gives x
  left : f.follow (apart f g xs) = []
  right : g.follow (apart f g xs) = []

theorem agree_nil (f g : Follower α β) : Agree f g [] where
  alike _ h := nomatch h
  left := rfl
  right := rfl

theorem agree_cons {f g : Follower α β} {x : α} {xs : List α} (hf : f.stops x = false)
    (hg : g.stops x = false) : Agree f g (x :: xs) ↔ f.gives x = g.gives x ∧ Agree f g xs := by
  have hgo : (!(f.stops x || g.stops x)) = true := by rw [hf, hg]; rfl
  have htogether : together f g (x :: xs) = x :: together f g xs := List.takeWhile_cons_of_pos hgo
  have hapart : apart f g (x :: xs) = apart f g xs := List.dropWhile_cons_of_pos hgo
  constructor
  · rintro ⟨halike, hleft, hright⟩
    rw [htogether] at halike
    rw [hapart] at hleft hright
    exact ⟨halike x List.mem_cons_self, fun y hy => halike y (List.mem_cons_of_mem _ hy), hleft, hright⟩
  · rintro ⟨hx, halike, hleft, hright⟩
    refine ⟨?_, by rw [hapart]; exact hleft, by rw [hapart]; exact hright⟩
    rw [htogether]
    exact List.forall_mem_cons.mpr ⟨hx, halike⟩

theorem agree_cons_of_stops {f g : Follower α β} {x : α} {xs : List α}
    (h : (f.stops x || g.stops x) = true) :
    Agree f g (x :: xs) ↔ f.follow (x :: xs) = [] ∧ g.follow (x :: xs) = [] := by
  have hstop : ¬(!(f.stops x || g.stops x)) = true := by simp [h]
  have htogether : together f g (x :: xs) = [] := List.takeWhile_cons_of_neg hstop
  have hapart : apart f g (x :: xs) = x :: xs := List.dropWhile_cons_of_neg hstop
  constructor
  · rintro ⟨_, hleft, hright⟩
    rw [hapart] at hleft hright
    exact ⟨hleft, hright⟩
  · rintro ⟨hleft, hright⟩
    refine ⟨?_, by rw [hapart]; exact hleft, by rw [hapart]; exact hright⟩
    rw [htogether]
    exact fun _ hy => nomatch hy

theorem agree_of_alike {f g : Follower α β} {xs : List α} (hstops : ∀ x ∈ xs, f.stops x = g.stops x)
    (hgives : ∀ x ∈ xs, f.gives x = g.gives x) : Agree f g xs := by
  induction xs with
  | nil => exact agree_nil f g
  | cons x xs ih =>
    rw [List.forall_mem_cons] at hstops hgives
    cases hf : f.stops x with
    | true =>
      have hg : g.stops x = true := hstops.1.symm.trans hf
      rw [agree_cons_of_stops (by rw [hf]; rfl)]
      exact ⟨follow_cons_of_stops hf xs, follow_cons_of_stops hg xs⟩
    | false =>
      rw [agree_cons hf (hstops.1.symm.trans hf)]
      exact ⟨hgives.1, ih hstops.2 hgives.2⟩

/-- Two have made the same after each of the items exactly when they agree. -/
theorem forall_follow_take_iff (f g : Follower α β) (xs : List α) :
    (∀ k, f.follow (xs.take k) = g.follow (xs.take k)) ↔ Agree f g xs := by
  induction xs with
  | nil => exact ⟨fun _ => agree_nil f g, fun _ k => by rw [List.take_nil]; rfl⟩
  | cons x xs ih =>
    by_cases hstop : (f.stops x || g.stops x) = true
    · rw [agree_cons_of_stops hstop]
      constructor
      · intro h
        have hall := h (x :: xs).length
        rw [List.take_length] at hall
        rcases Bool.or_eq_true_iff.mp hstop with hs | hs
        · have hnil := follow_cons_of_stops hs xs
          exact ⟨hnil, hall.symm.trans hnil⟩
        · have hnil := follow_cons_of_stops hs xs
          exact ⟨hall.trans hnil, hnil⟩
      · rintro ⟨hleft, hright⟩ k
        have hf := f.follow_take_prefix (x :: xs) k
        have hg := g.follow_take_prefix (x :: xs) k
        rw [hleft] at hf
        rw [hright] at hg
        rw [List.prefix_nil.mp hf, List.prefix_nil.mp hg]
    · rw [Bool.not_eq_true, Bool.or_eq_false_iff] at hstop
      obtain ⟨hf, hg⟩ := hstop
      rw [agree_cons hf hg, ← ih]
      constructor
      · intro h
        have hone := h 1
        rw [List.take_succ_cons, List.take_zero, follow_cons hf, follow_cons hg, follow_nil, follow_nil,
          List.append_nil, List.append_nil] at hone
        have hx : f.gives x = g.gives x := by
          simpa only [Option.head?_toList] using congrArg List.head? hone
        refine ⟨hx, fun k => ?_⟩
        have hk := h (k + 1)
        rw [List.take_succ_cons, follow_cons hf, follow_cons hg, hone] at hk
        exact List.append_cancel_left hk
      · rintro ⟨hx, h⟩ k
        cases k with
        | zero => rfl
        | succ k => rw [List.take_succ_cons, follow_cons hf, follow_cons hg, hx, h k]

end Follower

end LineScanner
