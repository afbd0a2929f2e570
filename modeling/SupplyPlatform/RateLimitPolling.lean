import Mathlib.Algebra.Field.Rat
import Mathlib.Data.Rat.Floor
import Mathlib.Tactic.Linarith
import SupplyPlatform.RateLimit
import SupplyPlatform.TokenBucketRemaining

namespace SupplyPlatform.RateLimits

open Gateway (truncate)
open Gateway.TokenBucketLimiter (truncate_of_nonneg)

/-- `TokenBucket` with its rate and its times, in seconds, in exact arithmetic. -/
@[ext] structure ExactBucket where
  capacity : Int
  rate : ℚ
  tokens : Int
  lastRefill : ℚ
  deriving DecidableEq

def newExactBucket (capacity : Int) (rate now : ℚ) : ExactBucket :=
  { capacity := capacity, rate := rate, tokens := capacity, lastRefill := now }

inductive Ask
  | allow
  | remaining
  deriving DecidableEq

/-- A call at a time; the extra ones are those that a history could do without. -/
structure Asked where
  time : ℚ
  ask : Ask
  extra : Bool
  deriving DecidableEq

namespace ExactBucket

def refill (tb : ExactBucket) (now : ℚ) : ExactBucket :=
  let tokensToAdd := truncate ((now - tb.lastRefill) * tb.rate) + tb.tokens
  { tb with tokens := if tb.capacity < tokensToAdd then tb.capacity else tokensToAdd, lastRefill := now }

/-- `tb.tokens--`. -/
def taken (tb : ExactBucket) : ExactBucket := { tb with tokens := tb.tokens - 1 }

def allow (tb : ExactBucket) (now : ℚ) : ExactBucket × Bool :=
  if 0 < (tb.refill now).tokens then ((tb.refill now).taken, true) else (tb.refill now, false)

def remaining (tb : ExactBucket) (now : ℚ) : ExactBucket × Int :=
  (tb.refill now, (tb.refill now).tokens)

/-- The bucket after a call, and the answer if it was of `Allow`. -/
def call (tb : ExactBucket) (a : Asked) : ExactBucket × Option Bool :=
  match a.ask with
  | .allow => ((tb.allow a.time).1, some (tb.allow a.time).2)
  | .remaining => ((tb.remaining a.time).1, none)

/-- The answers of the calls of `Allow` that are not extra. -/
def answers : ExactBucket → List Asked → List Bool
  | _, [] => []
  | tb, a :: rest => (if a.extra then [] else (tb.call a).2.toList) ++ answers (tb.call a).1 rest

/-- The condition holds of the bucket before each call of the history. -/
def Along (P : ExactBucket → Asked → Prop) : ExactBucket → List Asked → Prop
  | _, [] => True
  | tb, a :: rest => P tb a ∧ Along P (tb.call a).1 rest

/-- An extra call is one of `Remaining`, or one of `Allow` that is rejected. -/
def Idle (tb : ExactBucket) (a : Asked) : Prop :=
  a.extra = true → (tb.call a).2 ≠ some true

/-- Since the last call a whole number of token periods has passed, or the bucket is full. -/
def Harmless (tb : ExactBucket) (now : ℚ) : Prop :=
  (∃ n : Int, (now - tb.lastRefill) * tb.rate = n) ∨
    tb.capacity ≤ tb.tokens + ⌊(now - tb.lastRefill) * tb.rate⌋

/-- The times of a history do not go back. -/
def Ordered (start : ℚ) (history : List Asked) : Prop :=
  (start :: history.map (·.time)).Pairwise (· ≤ ·)

/-- However a beginning of the history goes on, its answers are those of the history without the extra
calls. -/
def Unaffected (tb : ExactBucket) (history : List Asked) : Prop :=
  ∀ beginning later, beginning <+: history → (∀ a ∈ later, a.extra = false) →
    Ordered tb.lastRefill (beginning ++ later) →
      tb.answers (beginning ++ later) = tb.answers ((beginning ++ later).filter (!·.extra))

end ExactBucket

/-- The bucket of the source, whose clock counts nanoseconds and whose rate is whole. -/
def TokenBucket.exact (tb : TokenBucket) : ExactBucket :=
  { capacity := tb.capacity, rate := tb.rate, tokens := tb.tokens,
    lastRefill := (tb.lastRefill : ℚ) / second }

namespace ExactBucket

theorem truncate_div {a : Int} (ha : 0 ≤ a) : truncate ((a : ℚ) / second) = Int.tdiv a second := by
  have hq : (0 : ℚ) ≤ (a : ℚ) / second := div_nonneg (by exact_mod_cast ha) (by norm_num [second])
  rw [truncate_of_nonneg hq, Int.tdiv_eq_ediv_of_nonneg ha]
  exact Rat.floor_intCast_div_natCast a 1000000000

/-- The bucket of the source computes the same tokens. -/
theorem refill_exact (tb : TokenBucket) {now : Time} (hnow : tb.lastRefill ≤ now) (hrate : 0 ≤ tb.rate) :
    (tb.refill now).exact = tb.exact.refill ((now : ℚ) / second) := by
  have howed : (((now : ℚ) / second - (tb.lastRefill : ℚ) / second) * tb.rate) =
      (((now - tb.lastRefill) * tb.rate : Int) : ℚ) / second := by
    push_cast
    ring
  have hnonneg : 0 ≤ (now - tb.lastRefill) * tb.rate := mul_nonneg (sub_nonneg.mpr hnow) hrate
  simp only [TokenBucket.refill, TokenBucket.exact, refill, howed, truncate_div hnonneg]

variable {tb p b : ExactBucket} {now later : ℚ}

theorem owed_nonneg (hr : 0 < tb.rate) (h : tb.lastRefill ≤ now) :
    0 ≤ (now - tb.lastRefill) * tb.rate :=
  mul_nonneg (sub_nonneg.mpr h) hr.le

theorem tokens_refill (h : 0 ≤ (now - tb.lastRefill) * tb.rate) :
    (tb.refill now).tokens =
      min tb.capacity (tb.tokens + ⌊(now - tb.lastRefill) * tb.rate⌋) := by
  simp only [refill, truncate_of_nonneg h]
  split <;> omega

theorem tokens_refill_le (tb : ExactBucket) (now : ℚ) : (tb.refill now).tokens ≤ tb.capacity := by
  simp only [refill]
  split <;> omega

theorem tokens_refill_self (tb : ExactBucket) (h : tb.tokens ≤ tb.capacity) :
    (tb.refill tb.lastRefill).tokens = tb.tokens := by
  have hzero : (tb.lastRefill - tb.lastRefill) * tb.rate = 0 := by rw [sub_self, zero_mul]
  rw [tokens_refill hzero.ge, hzero, Int.floor_zero]
  omega

/-- What runs in after a call adds to what had run in before it. -/
theorem owed_add (tb : ExactBucket) (now later : ℚ) :
    (later - tb.lastRefill) * tb.rate =
      (now - tb.lastRefill) * tb.rate + (later - now) * tb.rate := by
  ring

theorem tokens_refill_refill (hr : 0 < tb.rate) (h : tb.lastRefill ≤ now) (hnow : now ≤ later) :
    ((tb.refill now).refill later).tokens =
      min tb.capacity (min tb.capacity (tb.tokens + ⌊(now - tb.lastRefill) * tb.rate⌋) +
        ⌊(later - now) * tb.rate⌋) := by
  have howed : 0 ≤ (later - (tb.refill now).lastRefill) * (tb.refill now).rate := owed_nonneg hr hnow
  rw [tokens_refill howed, tokens_refill (owed_nonneg hr h)]
  rfl

/-- No later refill can tell that there was a harmless one. -/
theorem Harmless.refill_refill (hh : tb.Harmless now) (hr : 0 < tb.rate) (h : tb.lastRefill ≤ now)
    (hnow : now ≤ later) : (tb.refill now).refill later = tb.refill later := by
  have htokens : ((tb.refill now).refill later).tokens = (tb.refill later).tokens := by
    have hy : 0 ≤ (later - now) * tb.rate := mul_nonneg (sub_nonneg.mpr hnow) hr.le
    have hyfloor : 0 ≤ ⌊(later - now) * tb.rate⌋ := Int.floor_nonneg.mpr hy
    rw [tokens_refill_refill hr h hnow, tokens_refill (owed_nonneg hr (h.trans hnow)),
      owed_add tb now later]
    rcases hh with ⟨n, hn⟩ | hfull
    · rw [hn, Int.floor_intCast, Int.floor_intCast_add]
      omega
    · have hmono : ⌊(now - tb.lastRefill) * tb.rate⌋ ≤
          ⌊(now - tb.lastRefill) * tb.rate + (later - now) * tb.rate⌋ :=
        Int.floor_le_floor (le_add_of_nonneg_right hy)
      omega
  exact ExactBucket.ext rfl rfl htokens rfl

/-- After a call that is not harmless there is a time at which a token is missing. -/
theorem exists_missing (hh : ¬tb.Harmless now) (hr : 0 < tb.rate) (h : tb.lastRefill ≤ now) :
    ∃ later, now ≤ later ∧
      (tb.refill later).tokens = ((tb.refill now).refill later).tokens + 1 ∧
      ((tb.refill now).refill later).tokens = tb.tokens + ⌊(now - tb.lastRefill) * tb.rate⌋ := by
  set x := (now - tb.lastRefill) * tb.rate with hx
  have hwhole : ∀ n : Int, x ≠ n := fun n hn => hh (.inl ⟨n, hn⟩)
  have hroom : tb.tokens + ⌊x⌋ < tb.capacity := not_le.mp (fun hfull => hh (.inr hfull))
  have hpos : 0 < Int.fract x := (Int.fract_nonneg x).lt_of_ne (fun hzero =>
    hwhole ⌊x⌋ (by rw [Int.fract] at hzero; linarith))
  have hlt := Int.fract_lt_one x
  have hy : (now + (1 - Int.fract x) / tb.rate - now) * tb.rate = 1 - Int.fract x := by
    rw [add_sub_cancel_left, div_mul_cancel₀ _ hr.ne']
  have hle : now ≤ now + (1 - Int.fract x) / tb.rate :=
    le_add_of_nonneg_right (div_nonneg (by linarith) hr.le)
  have hfloor : ⌊(now + (1 - Int.fract x) / tb.rate - now) * tb.rate⌋ = 0 := by
    rw [hy, Int.floor_eq_zero_iff]
    exact ⟨by linarith, by linarith⟩
  have hsum : ⌊(now + (1 - Int.fract x) / tb.rate - tb.lastRefill) * tb.rate⌋ = ⌊x⌋ + 1 := by
    rw [owed_add tb now, hy, ← hx]
    have heq : x + (1 - Int.fract x) = ((⌊x⌋ + 1 : Int) : ℚ) := by
      rw [Int.fract]
      push_cast
      ring
    rw [heq, Int.floor_intCast]
  have hpolled : ((tb.refill now).refill (now + (1 - Int.fract x) / tb.rate)).tokens =
      tb.tokens + ⌊x⌋ := by
    rw [tokens_refill_refill hr h hle, hfloor, ← hx]
    omega
  refine ⟨_, hle, ?_, hpolled⟩
  rw [hpolled, tokens_refill (owed_nonneg hr (h.trans hle)), hsum]
  omega

/-- The tokens stay within the capacity, and go below zero only with a capacity that does. -/
structure Sound (tb : ExactBucket) : Prop where
  rate : 0 < tb.rate
  le : tb.tokens ≤ tb.capacity
  nonneg : 0 ≤ tb.tokens ∨ tb.tokens = tb.capacity

theorem Sound.new (capacity : Int) {rate : ℚ} (hr : 0 < rate) (now : ℚ) :
    Sound (newExactBucket capacity rate now) :=
  ⟨hr, le_refl capacity, .inr rfl⟩

theorem Sound.refill (hs : Sound tb) (h : tb.lastRefill ≤ now) : Sound (tb.refill now) where
  rate := hs.rate
  le := tokens_refill_le tb now
  nonneg := by
    have howed := owed_nonneg hs.rate h
    have hfloor := Int.floor_nonneg.mpr howed
    have hle := hs.le
    rw [tokens_refill howed]
    change _ ∨ _ = tb.capacity
    rcases hs.nonneg with hn | hn <;> omega

theorem call_allow (a : Asked) (ha : a.ask = .allow) :
    tb.call a = if 0 < (tb.refill a.time).tokens then ((tb.refill a.time).taken, some true)
      else (tb.refill a.time, some false) := by
  simp only [call, ha, allow]
  split <;> rfl

theorem call_remaining (a : Asked) (ha : a.ask = .remaining) :
    tb.call a = (tb.refill a.time, none) := by
  simp only [call, ha, remaining]

/-- A call does not look behind its refill. -/
theorem call_congr {a : Asked} (h : p.refill a.time = b.refill a.time) : p.call a = b.call a := by
  cases ha : a.ask with
  | allow => rw [call_allow a ha, call_allow a ha, h]
  | remaining => rw [call_remaining a ha, call_remaining a ha, h]

theorem call_lastRefill (tb : ExactBucket) (a : Asked) : (tb.call a).1.lastRefill = a.time := by
  cases ha : a.ask with
  | allow =>
    rw [call_allow a ha]
    split <;> rfl
  | remaining => rw [call_remaining a ha]; rfl

theorem call_of_not_granted {a : Asked} (h : (tb.call a).2 ≠ some true) :
    (tb.call a).1 = tb.refill a.time := by
  cases ha : a.ask with
  | allow =>
    rw [call_allow a ha] at h ⊢
    split at h
    next => exact absurd rfl h
    next hn => rw [if_neg hn]
  | remaining => rw [call_remaining a ha]

theorem Sound.call (hs : Sound tb) {a : Asked} (h : tb.lastRefill ≤ a.time) : Sound (tb.call a).1 := by
  have hrefill := hs.refill h
  cases ha : a.ask with
  | allow =>
    rw [call_allow a ha]
    split
    next hpos =>
      have hle := hrefill.le
      exact ⟨hrefill.rate, (sub_le_self _ zero_le_one).trans hle, .inl (Int.le_sub_one_of_lt hpos)⟩
    next => exact hrefill
  | remaining =>
    rw [call_remaining a ha]
    exact hrefill

theorem ordered_cons {start : ℚ} {a : Asked} {history : List Asked} :
    Ordered start (a :: history) ↔ start ≤ a.time ∧ Ordered a.time history := by
  unfold Ordered
  rw [List.map_cons, List.pairwise_cons]
  constructor
  · rintro ⟨hstart, hrest⟩
    exact ⟨hstart _ List.mem_cons_self, hrest⟩
  · rintro ⟨hstart, hrest⟩
    refine ⟨fun t ht => ?_, hrest⟩
    rcases List.mem_cons.mp ht with rfl | ht
    · exact hstart
    · exact hstart.trans ((List.pairwise_cons.mp hrest).1 t ht)

theorem along_of_forall {P : ExactBucket → Asked → Prop} {history : List Asked}
    (h : ∀ a ∈ history, ∀ q, P q a) (tb : ExactBucket) : Along P tb history := by
  induction history generalizing tb with
  | nil => trivial
  | cons a history ih =>
    exact ⟨h a List.mem_cons_self tb, ih (fun x hx => h x (List.mem_cons_of_mem _ hx)) _⟩

theorem Along.append {P : ExactBucket → Asked → Prop} {xs ys : List Asked} (h : Along P tb xs)
    (hys : ∀ a ∈ ys, ∀ q, P q a) : Along P tb (xs ++ ys) := by
  induction xs generalizing tb with
  | nil => exact along_of_forall hys tb
  | cons x xs ih => exact ⟨h.1, ih h.2⟩

theorem Along.of_append {P : ExactBucket → Asked → Prop} {xs ys : List Asked}
    (h : Along P tb (xs ++ ys)) : Along P tb xs := by
  induction xs generalizing tb with
  | nil => trivial
  | cons x xs ih => exact ⟨h.1, ih h.2⟩

/-- From the last call of the first bucket on, the two are refilled to the same. -/
def Alike (p b : ExactBucket) : Prop := ∀ now, p.lastRefill ≤ now → p.refill now = b.refill now

/-- Extra calls that are harmless change no answer. -/
theorem answers_of_harmless {history : List Asked} (hr : 0 < p.rate) (hal : Alike p b)
    (hord : Ordered p.lastRefill history) (hidle : Along Idle p history)
    (hharm : Along (fun tb a => a.extra = true → tb.Harmless a.time) p history) :
    p.answers history = b.answers (history.filter (!·.extra)) := by
  induction history generalizing p b with
  | nil => rfl
  | cons a history ih =>
    obtain ⟨hle, hord⟩ := ordered_cons.mp hord
    have hrate : 0 < (p.call a).1.rate := by
      cases ha : a.ask with
      | allow =>
        rw [call_allow a ha]
        split <;> exact hr
      | remaining => rw [call_remaining a ha]; exact hr
    rw [← call_lastRefill p a] at hord
    cases ha : a.extra with
    | true =>
      have hcall := call_of_not_granted (hidle.1 ha)
      have hnext : Alike (p.call a).1 b := by
        intro now hnow
        rw [call_lastRefill] at hnow
        rw [hcall, (hharm.1 ha).refill_refill hr hle hnow]
        exact hal now (hle.trans hnow)
      rw [answers, if_pos ha, List.nil_append, List.filter_cons_of_neg (by simp [ha])]
      exact ih hrate hnext hord hidle.2 hharm.2
    | false =>
      rw [List.filter_cons_of_pos (by simp [ha]), answers, answers, ← call_congr (hal a.time hle)]
      congr 1
      exact ih hrate (fun _ _ => rfl) hord hidle.2 hharm.2

/-- The calls of `Allow` at one moment are granted until the tokens are gone. -/
theorem count_answers (tb : ExactBucket) (now : ℚ) (k : Nat) :
    (tb.answers (List.replicate k ⟨now, .allow, false⟩)).count true =
      min k (tb.refill now).tokens.toNat := by
  induction k generalizing tb with
  | zero => simp [answers]
  | succ k ih =>
    have hle := tokens_refill_le tb now
    rw [List.replicate_succ, answers, call_allow _ rfl]
    by_cases hpos : 0 < (tb.refill now).tokens
    · have hself : ((tb.refill now).taken.refill now).tokens = (tb.refill now).tokens - 1 :=
        tokens_refill_self (tb.refill now).taken ((sub_le_self _ zero_le_one).trans hle)
      rw [if_pos hpos, List.count_append, ih, hself]
      simp
      omega
    · have hself : ((tb.refill now).refill now).tokens = (tb.refill now).tokens :=
        tokens_refill_self (tb.refill now) hle
      rw [if_neg hpos, List.count_append, ih, hself]
      simp
      omega

/-- One call that is not harmless is enough: some time later, calls of `Allow` find a token fewer. -/
theorem harmless_of_answers (hs : Sound p) (hal : Alike p b) {a : Asked} (ha : a.extra = true)
    (hle : p.lastRefill ≤ a.time) (hidle : Idle p a)
    (h : ∀ later k, a.time ≤ later →
      p.answers (a :: List.replicate k ⟨later, .allow, false⟩) =
        b.answers (List.replicate k ⟨later, .allow, false⟩)) : p.Harmless a.time := by
  by_contra hn
  obtain ⟨later, hlater, hmissing, htokens⟩ := exists_missing hn hs.rate hle
  have hroom : ¬p.capacity ≤ p.tokens + ⌊(a.time - p.lastRefill) * p.rate⌋ := fun hf => hn (.inr hf)
  have hfloor := Int.floor_nonneg.mpr (owed_nonneg hs.rate hle)
  have hnonneg : 0 ≤ p.tokens := by
    rcases hs.nonneg with h0 | hcap
    · exact h0
    · omega
  set m := ((p.refill a.time).refill later).tokens with hm
  have heq := congrArg (List.count true) (h later (m.toNat + 1) hlater)
  rw [answers, if_pos ha, List.nil_append, call_of_not_granted (hidle ha), count_answers,
    count_answers, ← hal later (hle.trans hlater), hmissing, ← hm] at heq
  omega

theorem ordered_replicate {start later : ℚ} (h : start ≤ later) (k : Nat) :
    Ordered start (List.replicate k ⟨later, .allow, false⟩) := by
  induction k generalizing start with
  | zero => exact List.pairwise_singleton _ _
  | succ k ih => exact ordered_cons.mpr ⟨h, ih le_rfl⟩

/-- If no continuation of any beginning can tell, every extra call has been harmless. -/
theorem harmless_of_unaffected {history : List Asked} (hs : Sound p) (hal : Alike p b)
    (hord : Ordered p.lastRefill history) (hidle : Along Idle p history)
    (h : ∀ beginning later, beginning <+: history → (∀ a ∈ later, a.extra = false) →
      Ordered p.lastRefill (beginning ++ later) →
        p.answers (beginning ++ later) = b.answers ((beginning ++ later).filter (!·.extra))) :
    Along (fun tb a => a.extra = true → tb.Harmless a.time) p history := by
  induction history generalizing p b with
  | nil => trivial
  | cons a history ih =>
    obtain ⟨hle, hord⟩ := ordered_cons.mp hord
    rw [← call_lastRefill p a] at hord
    have hhead : a.extra = true → p.Harmless a.time := by
      intro ha
      refine harmless_of_answers hs hal ha hle hidle.1 (fun later k hlater => ?_)
      have hrun := h [a] (List.replicate k ⟨later, .allow, false⟩)
        (List.prefix_iff_eq_append.mpr rfl) (fun x hx => by rw [List.eq_of_mem_replicate hx])
        (ordered_cons.mpr ⟨hle, ordered_replicate hlater k⟩)
      simpa [ha] using hrun
    refine ⟨hhead, ?_⟩
    have hlast : ∀ xs, Ordered (p.call a).1.lastRefill xs → Ordered p.lastRefill (a :: xs) := by
      intro xs hxs
      rw [call_lastRefill] at hxs
      exact ordered_cons.mpr ⟨hle, hxs⟩
    cases ha : a.extra with
    | true =>
      have hcall := call_of_not_granted (hidle.1 ha)
      refine ih (hs.call hle) (b := b) (fun now hnow => ?_) hord hidle.2 ?_
      · rw [call_lastRefill] at hnow
        rw [hcall, (hhead ha).refill_refill hs.rate hle hnow]
        exact hal now (hle.trans hnow)
      · intro beginning later hbeg hlater hol
        have hrun := h (a :: beginning) later (List.cons_prefix_cons.mpr ⟨rfl, hbeg⟩) hlater
          (hlast _ hol)
        rw [List.cons_append, answers, if_pos ha, List.nil_append,
          List.filter_cons_of_neg (by simp [ha])] at hrun
        exact hrun
    | false =>
      refine ih (hs.call hle) (b := (p.call a).1) (fun _ _ => rfl) hord hidle.2 ?_
      intro beginning later hbeg hlater hol
      have hrun := h (a :: beginning) later (List.cons_prefix_cons.mpr ⟨rfl, hbeg⟩) hlater
        (hlast _ hol)
      rw [List.cons_append, List.filter_cons_of_pos (by simp [ha]), answers, answers,
        ← call_congr (hal a.time hle)] at hrun
      exact List.append_cancel_left hrun

/-- Polling a bucket goes unnoticed exactly when each extra call comes after whole token periods or
finds the bucket full. -/
theorem polling_unnoticed_iff (capacity : Int) {rate : ℚ} (hrate : 0 < rate) (start : ℚ)
    {history : List Asked} (hord : Ordered start history)
    (hidle : Along Idle (newExactBucket capacity rate start) history) :
    Unaffected (newExactBucket capacity rate start) history ↔
      Along (fun tb a => a.extra = true → tb.Harmless a.time) (newExactBucket capacity rate start)
        history := by
  constructor
  · intro h
    exact harmless_of_unaffected (Sound.new capacity hrate start) (fun _ _ => rfl) hord hidle h
  · rintro hharm beginning later ⟨rest, rfl⟩ hlater hol
    refine answers_of_harmless hrate (fun _ _ => rfl) hol
      (hidle.of_append.append (fun a ha q hx => ?_)) (hharm.of_append.append (fun a ha q hx => ?_))
    · rw [hlater a ha] at hx
      cases hx
    · rw [hlater a ha] at hx
      cases hx

/-- One call in a second, with a look at the rest of the tokens at `polled` in between. -/
def polledAt (polled : ℚ) : List Asked :=
  [⟨0, .allow, false⟩, ⟨polled, .remaining, true⟩, ⟨1, .allow, false⟩]

theorem idle_of_remaining {a : Asked} (ha : a.ask = .remaining) (q : ExactBucket) : Idle q a := by
  intro _ h
  rw [call_remaining a ha] at h
  cases h

theorem polling_unnoticed_after_a_period : Unaffected (newExactBucket 1 1 0) (polledAt 1) := by
  have hord : Ordered 0 (polledAt 1) := by
    unfold Ordered polledAt
    decide
  have hidle : Along Idle (newExactBucket 1 1 0) (polledAt 1) := by
    simp only [polledAt, Along, and_true]
    exact ⟨fun h => Bool.noConfusion h, idle_of_remaining rfl _, fun h => Bool.noConfusion h⟩
  refine (polling_unnoticed_iff 1 one_pos 0 hord hidle).mpr ?_
  simp only [polledAt, Along, and_true]
  refine ⟨fun h => Bool.noConfusion h, fun _ => .inl ⟨1, ?_⟩, fun h => Bool.noConfusion h⟩
  decide +kernel

/-- A look after half a token period costs the token that was on its way. -/
theorem polling_costs_a_token :
    (newExactBucket 1 1 0).answers (polledAt (1 / 2)) = [true, false] ∧
      (newExactBucket 1 1 0).answers ((polledAt (1 / 2)).filter (!·.extra)) = [true, true] := by
  decide +kernel

end ExactBucket

end SupplyPlatform.RateLimits
