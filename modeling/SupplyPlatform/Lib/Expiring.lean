import Mathlib.Data.List.Induction
import Mathlib.Logic.Function.Basic
import Mathlib.Tactic.Common

namespace Expiring

/-- Whether a deadline is still to come; `none` never comes. -/
def ahead (now : Int) : Option Int → Bool
  | none => true
  | some t => decide (now < t)

/-- The deadline of something that starts at `now`. -/
def deadline (now : Int) (lifetime : Option Int) : Option Int := lifetime.map (now + ·)

/-- `d` comes no earlier than `e`. -/
def NotBefore (d e : Option Int) : Prop := ∀ now, ahead now e = true → ahead now d = true

theorem ahead_mono {now later : Int} {d : Option Int} (h : now ≤ later) (hd : ahead later d = true) :
    ahead now d = true := by
  cases d with
  | none => rfl
  | some t =>
    have hlt : later < t := of_decide_eq_true hd
    exact decide_eq_true (by omega)

theorem notBefore_deadline {now l l' : Int} (h : l ≤ l') :
    NotBefore (deadline now (some l')) (deadline now (some l)) := by
  intro t ht
  have hlt : t < now + l := of_decide_eq_true ht
  have hlt' : t < now + l' := by omega
  exact decide_eq_true hlt'

theorem notBefore_none (d : Option Int) : NotBefore none d := fun _ _ => rfl

/-- A value with the deadline at which it is dropped. -/
structure Entry (ν : Type*) where
  value : ν
  deadline : Option Int
  deriving DecidableEq

variable {κ ν : Type*}

/-- What is found under a key at `now`. -/
def get (store : κ → Option (Entry ν)) (now : Int) (key : κ) : Option (Entry ν) :=
  (store key).filter (fun e => ahead now e.deadline)

theorem get_eq_some {store : κ → Option (Entry ν)} {now : Int} {key : κ} {e : Entry ν} :
    get store now key = some e ↔ store key = some e ∧ ahead now e.deadline = true := by
  simp only [get, Option.filter_eq_some_iff]

variable [DecidableEq κ]

/-- Stores a value where there is none, and says whether it did. -/
def setNX (store : κ → Option (Entry ν)) (now : Int) (key : κ) (value : ν) (lifetime : Option Int) :
    (κ → Option (Entry ν)) × Bool :=
  match get store now key with
  | some _ => (store, false)
  | none => (Function.update store key (some ⟨value, Expiring.deadline now lifetime⟩), true)

def del (store : κ → Option (Entry ν)) (key : κ) : κ → Option (Entry ν) :=
  Function.update store key none

/-- Counts under a key, from nothing where there is none; the deadline stays. -/
def incr (store : κ → Option (Entry Int)) (now : Int) (key : κ) : (κ → Option (Entry Int)) × Int :=
  match get store now key with
  | some e => (Function.update store key (some { e with value := e.value + 1 }), e.value + 1)
  | none => (Function.update store key (some ⟨1, none⟩), 1)

/-- Gives what is under a key a new lifetime; one that is not positive drops it at once. -/
def expire (store : κ → Option (Entry ν)) (now : Int) (key : κ) (lifetime : Int) :
    κ → Option (Entry ν) :=
  match get store now key with
  | some e => Function.update store key (some { e with deadline := some (now + lifetime) })
  | none => store

theorem incr_snd (store : κ → Option (Entry Int)) (now : Int) (key : κ) :
    (incr store now key).2 = (get store now key).elim 0 Entry.value + 1 := by
  unfold incr
  cases get store now key <;> rfl

/-- After a count and a new lifetime, the count is there until that has run out. -/
theorem expire_incr (store : κ → Option (Entry Int)) (now : Int) (key : κ) (lifetime : Int) :
    expire (incr store now key).1 now key lifetime key =
      some ⟨(incr store now key).2, some (now + lifetime)⟩ := by
  have counted : get (incr store now key).1 now key =
      some ⟨(incr store now key).2, (get store now key).elim none Entry.deadline⟩ := by
    unfold incr
    cases hget : get store now key with
    | none => exact get_eq_some.mpr ⟨Function.update_self _ _ _, rfl⟩
    | some e => exact get_eq_some.mpr ⟨Function.update_self _ _ _, (get_eq_some.mp hget).2⟩
  simp only [expire, counted, Function.update_self]

omit [DecidableEq κ] in
theorem get_congr {s s' : κ → Option (Entry ν)} {key : κ} (now : Int) (h : s key = s' key) :
    get s now key = get s' now key := by
  unfold Expiring.get
  rw [h]

/-- Counting under a key and giving it a lifetime look at no other key. -/
theorem incr_congr {s s' : κ → Option (Entry Int)} {key : κ} (now : Int) (h : s key = s' key) :
    (incr s now key).1 key = (incr s' now key).1 key ∧ (incr s now key).2 = (incr s' now key).2 := by
  unfold incr
  rw [get_congr now h]
  cases get s' now key with
  | none => simp only [Function.update_self, and_self]
  | some e => simp only [Function.update_self, and_self]

theorem expire_congr {s s' : κ → Option (Entry ν)} {key : κ} (now lifetime : Int) (h : s key = s' key) :
    expire s now key lifetime key = expire s' now key lifetime key := by
  unfold expire
  rw [get_congr now h]
  cases get s' now key with
  | none => exact h
  | some e => simp only [Function.update_self]

theorem incr_of_ne (s : κ → Option (Entry Int)) (now : Int) {key other : κ} (h : other ≠ key) :
    (incr s now key).1 other = s other := by
  unfold incr
  cases get s now key with
  | none => exact Function.update_of_ne h _ _
  | some e => exact Function.update_of_ne h _ _

theorem expire_of_ne (s : κ → Option (Entry ν)) (now lifetime : Int) {key other : κ} (h : other ≠ key) :
    expire s now key lifetime other = s other := by
  unfold expire
  cases get s now key with
  | none => rfl
  | some e => exact Function.update_of_ne h _ _

section Agreement

variable {ε : Type*} {ends : ε → Int} {s m : κ → Option ε} {now : Int}

/-- What is found under a key at `now`, where every entry ends at some time. -/
def shown (ends : ε → Int) (s : κ → Option ε) (now : Int) (key : κ) : Option ε :=
  (s key).filter (fun e => now < ends e)

/-- A store without the entries that `ended` holds of. -/
def drop (ended : ε → Bool) (s : κ → Option ε) : κ → Option ε := fun key => (s key).filter (fun e => !ended e)

/-- From `now` on the two stores show the same. -/
def Agree (ends : ε → Int) (now : Int) (s m : κ → Option ε) : Prop :=
  ∀ later, now ≤ later → shown ends s later = shown ends m later

omit [DecidableEq κ] in
theorem Agree.refl (s : κ → Option ε) : Agree ends now s s := fun _ _ => rfl

omit [DecidableEq κ] in
theorem Agree.later {later : Int} (h : Agree ends now s m) (hle : now ≤ later) : Agree ends later s m :=
  fun t ht => h t (by omega)

theorem Agree.update (h : Agree ends now s m) (key : κ) (e : Option ε) :
    Agree ends now (Function.update s key e) (Function.update m key e) := by
  intro later hle
  funext key'
  by_cases hk : key' = key
  · subst hk
    simp only [shown, Function.update_self]
  · simpa only [shown, Function.update_of_ne hk] using congrFun (h later hle) key'

omit [DecidableEq κ] in
/-- Dropping entries that have ended is not seen. -/
theorem Agree.drop {ended : ε → Bool} (h : Agree ends now s m) (hall : ∀ e, ended e = true → ends e ≤ now) :
    Agree ends now (drop ended s) m := by
  intro later hle
  rw [← h later hle]
  funext key
  simp only [shown, Expiring.drop, Option.filter_filter]
  congr 1
  funext e
  by_cases hlt : later < ends e
  · have hstays : ended e = false := by
      by_contra hne
      have hended := hall e (by simpa using hne)
      omega
    rw [hstays]
    simp
  · simp [hlt]

omit [DecidableEq κ] in
/-- Two machines whose stores agree, step by step, over a clock that does not go back. A step may use
that the stores agreed at any time it reads, and at the end of it. -/
theorem agree_foldl {σ α : Type*} {clock : α → List Int} {step : σ → α → σ} {store : σ → κ → Option ε}
    {record : (κ → Option ε) → α → κ → Option ε}
    (hstep : ∀ s m a now, (clock a).Pairwise (· ≤ ·) → (∀ t ∈ clock a, t ≤ now) →
      (∀ t ∈ now :: clock a, Agree ends t (store s) m) → Agree ends now (store (step s a)) (record m a))
    {s : σ} {m : κ → Option ε} (hstart : ∀ t, Agree ends t (store s) m) {history : List α}
    (hclock : (history.flatMap clock).Pairwise (· ≤ ·)) {now : Int}
    (hnow : ∀ t ∈ history.flatMap clock, t ≤ now) :
    Agree ends now (store (history.foldl step s)) (history.foldl record m) := by
  induction history using List.reverseRecOn generalizing now with
  | nil => exact hstart now
  | append_singleton history a ih =>
    rw [List.flatMap_append, List.flatMap_singleton] at hclock hnow
    obtain ⟨hbefore, hown, hcross⟩ := List.pairwise_append.mp hclock
    rw [List.foldl_append, List.foldl_append]
    refine hstep _ _ a now hown (fun t ht => hnow t (List.mem_append_right _ ht)) (fun t ht => ih hbefore ?_)
    intro u hu
    rcases List.mem_cons.mp ht with rfl | ht
    · exact hnow u (List.mem_append_left _ hu)
    · exact hcross u hu t ht

end Agreement

end Expiring
