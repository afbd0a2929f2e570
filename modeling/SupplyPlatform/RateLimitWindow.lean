import SupplyPlatform.RateLimit
import Mathlib.Data.List.Induction

namespace SupplyPlatform.RateLimits

def Arrival.key (config : RateLimitConfig) (a : Arrival) : String := getRateLimitKey config a.request

/-- How many of the arrivals have the key. -/
def sent (config : RateLimitConfig) (key : String) (arrivals : List Arrival) : Nat :=
  arrivals.countP (fun a => a.key config = key)

/-- Nothing with the key of `a` has come within a window before it. -/
def Silent (config : RateLimitConfig) (before : List Arrival) (a : Arrival) : Prop :=
  ∀ b ∈ before, b.key config = a.key config → b.time + config.window ≤ a.time

/-- Whether `a` is admitted after the arrivals before it. -/
def admits (config : RateLimitConfig) (before : List Arrival) (a : Arrival) : Bool :=
  ((serveAll config before).1.serveHTTP a.request a.time).2.admitted

/-- What the limiter is for: no more than `requests` in less than a window, and room again after one. -/
structure Limits (config : RateLimitConfig) (arrivals : List Arrival) : Prop where
  atMost : ∀ key since upto, upto - since < config.window →
    ((serveAll config arrivals).2.countP
      (fun a => a.key config = key && since ≤ a.time && a.time ≤ upto) : Int) ≤ config.requests
  restored : ∀ before a after, arrivals = before ++ a :: after → Silent config before a →
    admits config before a = true

@[simp] theorem sent_nil (config : RateLimitConfig) (key : String) : sent config key [] = 0 := rfl

theorem sent_snoc_self (config : RateLimitConfig) (before : List Arrival) (a : Arrival) :
    sent config (a.key config) (before ++ [a]) = sent config (a.key config) before + 1 := by
  simp [sent, List.countP_append]

theorem sent_snoc_of_ne {config : RateLimitConfig} {key : String} (before : List Arrival) {a : Arrival}
    (h : key ≠ a.key config) : sent config key (before ++ [a]) = sent config key before := by
  simp [sent, List.countP_append, h.symm]

/-- A bucket of the middleware, with its tokens. -/
def Filled (config : RateLimitConfig) (tokens : Int) (tb : TokenBucket) : Prop :=
  tb.capacity = config.requests ∧ tb.rate = 0 ∧ tb.tokens = tokens

/-- At rate 0 the bucket is never refilled, however late the call. -/
theorem Filled.refill {config : RateLimitConfig} {tokens : Int} {tb : TokenBucket}
    (h : Filled config tokens tb) (hle : tokens ≤ config.requests) (now : Time) :
    Filled config tokens (tb.refill now) := by
  obtain ⟨hcap, hrate, htok⟩ := h
  refine ⟨hcap, hrate, ?_⟩
  have hadd : Int.tdiv ((now - tb.lastRefill) * tb.rate) second + tb.tokens = tokens := by
    rw [hrate, htok, Int.mul_zero, Int.zero_tdiv, Int.zero_add]
  have hnot : ¬tb.capacity < tokens := by
    rw [hcap]
    exact Int.not_lt.mpr hle
  simp only [TokenBucket.refill, hadd, if_neg hnot]

theorem Filled.allow {config : RateLimitConfig} {tokens : Int} {tb : TokenBucket}
    (h : Filled config tokens tb) (hle : tokens ≤ config.requests) (now : Time) :
    (0 < tokens ∧ (tb.allow now).2 = true ∧ Filled config (tokens - 1) (tb.allow now).1) ∨
      (tokens ≤ 0 ∧ (tb.allow now).2 = false ∧ Filled config tokens (tb.allow now).1) := by
  have hfull := h.refill hle now
  obtain ⟨hcap, hrate, htok⟩ := hfull
  by_cases hpos : 0 < tokens
  · left
    have hpos' : 0 < (tb.refill now).tokens := htok ▸ hpos
    refine ⟨hpos, ?_, ?_⟩
    · simp [TokenBucket.allow, hpos']
    · simp only [TokenBucket.allow, if_pos hpos']
      exact ⟨hcap, hrate, by rw [htok]⟩
  · right
    have hpos' : ¬0 < (tb.refill now).tokens := htok ▸ hpos
    refine ⟨Int.not_lt.mp hpos, ?_, ?_⟩
    · simp [TokenBucket.allow, hpos']
    · simp only [TokenBucket.allow, if_neg hpos']
      exact ⟨hcap, hrate, htok⟩

/-- What is left of the first `requests` with the key. -/
def tokensLeft (config : RateLimitConfig) (key : String) (before : List Arrival) : Int :=
  max 0 (config.requests - sent config key before)

theorem tokensLeft_le {config : RateLimitConfig} (hpos : 1 ≤ config.requests) (key : String)
    (before : List Arrival) : tokensLeft config key before ≤ config.requests := by
  unfold tokensLeft
  omega

/-- The state of the middleware after `before`. -/
structure Spent (config : RateLimitConfig) (before : List Arrival)
    (s : RateLimitMiddleware × List Arrival) : Prop where
  config_eq : s.1.config = config
  buckets : ∀ key now, Filled config (tokensLeft config key before) (s.1.getBucket key now)
  bounded : ∀ key, (sent config key s.2 : Int) + tokensLeft config key before ≤ config.requests

/-- The next arrival is admitted exactly when its key has tokens left; its bucket is the only one that
changes. -/
theorem Spent.serveHTTP {config : RateLimitConfig} {before : List Arrival}
    {s : RateLimitMiddleware × List Arrival} (h : Spent config before s)
    (hon : config.enabled = true) (hpos : 1 ≤ config.requests) (a : Arrival) :
    ∃ bucket resp, s.1.serveHTTP a.request a.time = (s.1.store (a.key config) bucket, resp) ∧
      ((0 < tokensLeft config (a.key config) before ∧ resp.admitted = true ∧
          Filled config (tokensLeft config (a.key config) before - 1) bucket) ∨
        (tokensLeft config (a.key config) before ≤ 0 ∧ resp.admitted = false ∧
          Filled config (tokensLeft config (a.key config) before) bucket)) := by
  have hle := tokensLeft_le hpos (a.key config) before
  have hkey : getRateLimitKey s.1.config a.request = a.key config := by rw [h.config_eq]; rfl
  have hon' : s.1.config.enabled ≠ false := by simp [h.config_eq, hon]
  have hallow := (h.buckets (a.key config) a.time).allow hle a.time
  cases hcase : (s.1.getBucket (a.key config) a.time).allow a.time with
  | mk bucket ok =>
    rw [hcase] at hallow
    cases ok with
    | false =>
      refine ⟨bucket, RateLimitMiddleware.handleRateLimitExceeded s.1.config a.time, ?_, .inr ?_⟩
      · simp [RateLimitMiddleware.serveHTTP, hon', hkey, hcase]
      · rcases hallow with ⟨_, hok, _⟩ | ⟨hnone, _, hfilled⟩
        · cases hok
        · refine ⟨hnone, ?_, hfilled⟩
          unfold RateLimitMiddleware.handleRateLimitExceeded
          dsimp only
          split <;> rfl
    | true =>
      refine ⟨(bucket.remaining a.time).1,
        .next (RateLimitMiddleware.rateLimitHeaders s.1.config (bucket.remaining a.time).2 a.time), ?_,
        .inl ?_⟩
      · simp [RateLimitMiddleware.serveHTTP, hon', hkey, hcase]
      · rcases hallow with ⟨hsome, _, hfilled⟩ | ⟨_, hok, _⟩
        -- the header's `Remaining` refills the bucket a second time
        · exact ⟨hsome, rfl, hfilled.refill (by omega) a.time⟩
        · cases hok

theorem tokensLeft_snoc_self (config : RateLimitConfig) (before : List Arrival) (a : Arrival) :
    tokensLeft config (a.key config) (before ++ [a]) =
      if 0 < tokensLeft config (a.key config) before then tokensLeft config (a.key config) before - 1
      else tokensLeft config (a.key config) before := by
  unfold tokensLeft
  rw [sent_snoc_self]
  split <;> omega

theorem getBucket_store_self (rl : RateLimitMiddleware) (key : String) (bucket : TokenBucket) (now : Time) :
    (rl.store key bucket).getBucket key now = bucket := by
  simp [RateLimitMiddleware.getBucket, RateLimitMiddleware.store]

theorem getBucket_store_of_ne (rl : RateLimitMiddleware) {key other : String} (h : other ≠ key)
    (bucket : TokenBucket) (now : Time) :
    (rl.store key bucket).getBucket other now = rl.getBucket other now := by
  simp [RateLimitMiddleware.getBucket, RateLimitMiddleware.store, h]

theorem Spent.serve {config : RateLimitConfig} {before : List Arrival}
    {s : RateLimitMiddleware × List Arrival} (h : Spent config before s)
    (hon : config.enabled = true) (hpos : 1 ≤ config.requests) (a : Arrival) :
    Spent config (before ++ [a]) (serve s a) := by
  obtain ⟨bucket, resp, hserve, hcases⟩ := h.serveHTTP hon hpos a
  have hsnoc := tokensLeft_snoc_self config before a
  have hfilled : Filled config (tokensLeft config (a.key config) (before ++ [a])) bucket := by
    rcases hcases with ⟨hsome, _, hfilled⟩ | ⟨hnone, _, hfilled⟩
    · rwa [hsnoc, if_pos hsome]
    · rwa [hsnoc, if_neg (Int.not_lt.mpr hnone)]
  unfold RateLimits.serve
  rw [hserve]
  refine ⟨h.config_eq, fun key now => ?_, fun key => ?_⟩
  · by_cases hkey : key = a.key config
    · subst key
      rw [getBucket_store_self]
      exact hfilled
    · rw [getBucket_store_of_ne _ hkey, tokensLeft, sent_snoc_of_ne before hkey]
      exact h.buckets key now
  · by_cases hkey : key = a.key config
    · subst key
      have hbound := h.bounded (a.key config)
      rcases hcases with ⟨hsome, hadmitted, _⟩ | ⟨hnone, hrejected, _⟩
      · rw [hsnoc, if_pos hsome]
        simp only [hadmitted, if_true]
        rw [sent_snoc_self]
        omega
      · rw [hsnoc, if_neg (Int.not_lt.mpr hnone)]
        simpa [hrejected] using hbound
    · have hbound := h.bounded key
      rw [tokensLeft, sent_snoc_of_ne before hkey]
      split
      · rw [sent_snoc_of_ne _ hkey]
        exact hbound
      · exact hbound

theorem spent_serveAll {config : RateLimitConfig} (hon : config.enabled = true)
    (hpos : 1 ≤ config.requests) (arrivals : List Arrival) :
    Spent config arrivals (serveAll config arrivals) := by
  induction arrivals using List.reverseRecOn with
  | nil =>
    refine ⟨rfl, fun key now => ⟨rfl, rfl, ?_⟩, fun key => ?_⟩
    · simp [tokensLeft, serveAll, newRateLimitHandler, RateLimitMiddleware.getBucket, newTokenBucket]
      omega
    · simp [tokensLeft, serveAll]
      omega
  | append_singleton before a ih =>
    have hsnoc : serveAll config (before ++ [a]) = RateLimits.serve (serveAll config before) a := by
      simp [serveAll]
    rw [hsnoc]
    exact ih.serve hon hpos a

/-- A request is admitted exactly when it is among the first `requests` with its key, whatever time has
passed. -/
theorem admits_iff {config : RateLimitConfig} (hon : config.enabled = true)
    (hpos : 1 ≤ config.requests) (before : List Arrival) (a : Arrival) :
    admits config before a = true ↔ (sent config (a.key config) before : Int) < config.requests := by
  obtain ⟨bucket, resp, hserve, hcases⟩ := (spent_serveAll hon hpos before).serveHTTP hon hpos a
  unfold admits
  rw [hserve]
  rcases hcases with ⟨hsome, hadmitted, _⟩ | ⟨hnone, hrejected, _⟩
  · simp only [hadmitted, true_iff]
    unfold tokensLeft at hsome
    omega
  · simp only [hrejected, Bool.false_eq_true, false_iff]
    unfold tokensLeft at hnone
    omega

/-- In the whole run, and so in any part of it, no more than `requests` are admitted for a key. -/
theorem admitted_le {config : RateLimitConfig} (hon : config.enabled = true)
    (hpos : 1 ≤ config.requests) (arrivals : List Arrival) (key : String) (since upto : Time) :
    ((serveAll config arrivals).2.countP
      (fun a => a.key config = key && since ≤ a.time && a.time ≤ upto) : Int) ≤ config.requests := by
  have hbound := (spent_serveAll hon hpos arrivals).bounded key
  have hsub : (serveAll config arrivals).2.countP
      (fun a => a.key config = key && since ≤ a.time && a.time ≤ upto) ≤
      sent config key (serveAll config arrivals).2 := by
    apply List.countP_mono_left
    intro a _ ha
    simp only [Bool.and_eq_true] at ha
    exact ha.1.1
  have hleft : 0 ≤ tokensLeft config key arrivals := by
    unfold tokensLeft
    omega
  omega

/-- The limiter does what it is for exactly when no request that follows a silent window comes after the
first `requests` with its key. -/
theorem rate_limits_iff {config : RateLimitConfig} (hon : config.enabled = true)
    (hpos : 1 ≤ config.requests) (arrivals : List Arrival) :
    Limits config arrivals ↔
      ∀ before a after, arrivals = before ++ a :: after → Silent config before a →
        (sent config (a.key config) before : Int) < config.requests := by
  constructor
  · intro h before a after harr hsilent
    exact (admits_iff hon hpos before a).mp (h.restored before a after harr hsilent)
  · intro h
    refine ⟨fun key since upto _ => admitted_le hon hpos arrivals key since upto, ?_⟩
    intro before a after harr hsilent
    exact (admits_iff hon hpos before a).mpr (h before a after harr hsilent)

/-- Two requests a minute. -/
def sampleConfig : RateLimitConfig := { defaultRateLimitConfig with requests := 2 }

def sampleArrival (time : Time) : Arrival :=
  ⟨⟨"/api/v1/supply/accounts", "203.0.113.7:4000", none, some ⟨"jti-1", "9", 3⟩⟩, time⟩

/-- Three requests at once: the third is too many, and no window has passed. -/
theorem rate_limits_iff_sample : Limits sampleConfig (List.replicate 3 (sampleArrival 0)) := by
  refine (rate_limits_iff rfl (by decide) _).mpr (fun before a after harr hsilent => ?_)
  have hall : ∀ b ∈ before ++ a :: after, b = sampleArrival 0 := by
    rw [← harr]
    exact fun b hb => List.eq_of_mem_replicate hb
  have ha : a = sampleArrival 0 := hall a (by simp)
  cases before with
  | nil =>
    rw [sent_nil]
    decide
  | cons b rest =>
    have hb : b = sampleArrival 0 := hall b (by simp)
    have hle := hsilent b List.mem_cons_self (by rw [ha, hb])
    rw [ha, hb] at hle
    exact absurd hle (by decide)

/-- Two requests, and after an hour of silence the third is turned away, with the advice to come back in
a minute. -/
theorem third_request_counterexample :
    Silent sampleConfig [sampleArrival 0, sampleArrival 0] (sampleArrival (3600 * second)) ∧
      ((serveAll sampleConfig [sampleArrival 0, sampleArrival 0]).1.serveHTTP
          (sampleArrival (3600 * second)).request (3600 * second)).2 =
        .error [("Retry-After", "60"), ("X-RateLimit-Reset", "3660")] "rate limit exceeded" 429 ∧
      ¬Limits sampleConfig [sampleArrival 0, sampleArrival 0, sampleArrival (3600 * second)] := by
  have hsilent : Silent sampleConfig [sampleArrival 0, sampleArrival 0] (sampleArrival (3600 * second)) := by
    intro b hb _
    have hb : b = sampleArrival 0 := by simpa using hb
    rw [hb]
    decide
  refine ⟨hsilent, by decide, fun h => ?_⟩
  have hadmitted := h.restored [sampleArrival 0, sampleArrival 0] (sampleArrival (3600 * second)) [] rfl hsilent
  exact absurd hadmitted (by decide)

end SupplyPlatform.RateLimits
