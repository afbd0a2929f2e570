import Mathlib.Algebra.Group.Int.Defs
import SupplyPlatform.GatewayHealth

namespace SupplyPlatform.Gateway

open Transition

/-- The latencies that calls of `RecordResult` have given for the provider, without those that are no
sample. -/
def positiveLatencies (name : String) (results : List Result) : List Int :=
  ((results.filter (fun c => c.providerName = name)).map (·.latencyMs)).filter (fun l => 0 < l)

/-- Zero stands for no sample; otherwise the latency is between two of the samples. -/
structure Averages (samples : List Int) (latencyMs : Int) : Prop where
  none : samples = [] → latencyMs = 0
  low : samples ≠ [] → ∃ l ∈ samples, l ≤ latencyMs
  high : samples ≠ [] → ∃ l ∈ samples, latencyMs ≤ l

theorem positiveLatencies_append (name : String) (results more : List Result) :
    positiveLatencies name (results ++ more) =
      positiveLatencies name results ++ positiveLatencies name more := by
  simp [positiveLatencies]

theorem positiveLatencies_of_ne {name : String} {c : Result} (hne : c.providerName ≠ name) :
    positiveLatencies name [c] = [] := by
  simp [positiveLatencies, hne]

theorem positiveLatencies_of_pos {c : Result} (hpos : 0 < c.latencyMs) :
    positiveLatencies c.providerName [c] = [c.latencyMs] := by
  simp [positiveLatencies, hpos]

theorem positiveLatencies_of_nonpos {c : Result} (hpos : ¬0 < c.latencyMs) :
    positiveLatencies c.providerName [c] = [] := by
  simp only [positiveLatencies, List.filter_singleton]
  simpa using hpos

namespace Averages

variable {samples : List Int} {latencyMs : Int}

theorem pos (h : Averages samples latencyMs) (hpos : ∀ l ∈ samples, 0 < l) (hne : samples ≠ []) :
    0 < latencyMs := by
  obtain ⟨l, hl, hle⟩ := h.low hne
  have := hpos l hl
  omega

theorem eq_zero_iff (h : Averages samples latencyMs) (hpos : ∀ l ∈ samples, 0 < l) :
    latencyMs = 0 ↔ samples = [] := by
  refine ⟨fun hzero => ?_, h.none⟩
  by_contra hne
  have := h.pos hpos hne
  omega

theorem bounded (h : Averages samples latencyMs) (hpos : ∀ l ∈ samples, 0 < l ∧ l < 2 ^ 60) :
    0 ≤ latencyMs ∧ latencyMs < 2 ^ 60 := by
  by_cases hne : samples = []
  · have := h.none hne
    omega
  · have hlow := h.pos (fun l hl => (hpos l hl).1) hne
    obtain ⟨l, hl, hle⟩ := h.high hne
    have := (hpos l hl).2
    omega

/-- The truncated quotient stays between the smaller and the larger of the average and the sample. -/
theorem quotient_between {a l : Int} (ha : 0 < a) (hl : 0 < l) :
    min a l ≤ Int.tdiv (a * 7 + l) 8 ∧ Int.tdiv (a * 7 + l) 8 ≤ max a l := by
  rw [Int.tdiv_eq_ediv_of_nonneg (by omega)]
  omega

theorem append_sample (h : Averages samples latencyMs) (hpos : ∀ l ∈ samples, 0 < l ∧ l < 2 ^ 60)
    {health : ProviderHealth} (hhealth : health.latencyMs = latencyMs) {l : Int} (hl : 0 < l)
    (hlt : l < 2 ^ 60) : Averages (samples ++ [l]) (health.recordLatency l) := by
  subst hhealth
  have hmem : l ∈ samples ++ [l] := List.mem_append_right _ (List.mem_singleton.mpr rfl)
  have hnonempty : samples ++ [l] = [] → health.recordLatency l = 0 := by simp
  by_cases hne : samples = []
  · have hfirst : health.recordLatency l = l := by
      rw [ProviderHealth.recordLatency, if_pos hl, if_pos (h.none hne)]
    exact ⟨hnonempty, fun _ => ⟨l, hmem, by omega⟩, fun _ => ⟨l, hmem, by omega⟩⟩
  · have ha := h.pos (fun l hl => (hpos l hl).1) hne
    have hbound := (h.bounded hpos).2
    have hfits : Int.bmod (health.latencyMs * 7 + l) (2 ^ 64) = health.latencyMs * 7 + l :=
      Int.bmod_eq_of_le (by omega) (by omega)
    have hnext : health.recordLatency l = Int.tdiv (health.latencyMs * 7 + l) 8 := by
      rw [ProviderHealth.recordLatency, if_pos hl, if_neg (by omega), hfits]
    obtain ⟨hmin, hmax⟩ := quotient_between ha hl
    obtain ⟨lo, hlo, hlole⟩ := h.low hne
    obtain ⟨hi, hhi, hhile⟩ := h.high hne
    rw [hnext]
    refine ⟨by simp, fun _ => ?_, fun _ => ?_⟩
    · rcases Int.le_total health.latencyMs l with hle | hle
      · exact ⟨lo, List.mem_append_left _ hlo, by omega⟩
      · exact ⟨l, hmem, by omega⟩
    · rcases Int.le_total health.latencyMs l with hle | hle
      · exact ⟨l, hmem, by omega⟩
      · exact ⟨hi, List.mem_append_left _ hhi, by omega⟩

theorem between (h : Averages samples latencyMs) {lo hi : Int} (hmin : samples.min? = some lo)
    (hmax : samples.max? = some hi) : lo ≤ latencyMs ∧ latencyMs ≤ hi := by
  obtain ⟨hlo, hall⟩ := List.min?_eq_some_iff.mp hmin
  obtain ⟨_, hall'⟩ := List.max?_eq_some_iff.mp hmax
  obtain ⟨l, hl, hle⟩ := h.low (List.ne_nil_of_mem hlo)
  obtain ⟨l', hl', hle'⟩ := h.high (List.ne_nil_of_mem hlo)
  exact ⟨(hall l hl).trans hle, hle'.trans (hall' l' hl')⟩

end Averages

namespace Router

/-- The numbers the call computes with for the provider are 64-bit integers. -/
def Fits (name : String) (r : Router) (c : Result) : Prop :=
  c.providerName = name → 0 < c.latencyMs →
    ∀ health, r.health.lookup name = some health →
      (-2 ^ 63 ≤ health.latencyMs * 7 ∧ health.latencyMs * 7 < 2 ^ 63) ∧
      -2 ^ 63 ≤ health.latencyMs * 7 + c.latencyMs ∧ health.latencyMs * 7 + c.latencyMs < 2 ^ 63

/-- The provider's entry averages the samples recorded for it so far. -/
structure AveragesSamples (name : String) (r : Router) (samples : List Int) : Prop where
  sample : ∀ l ∈ samples, 0 < l ∧ l < 2 ^ 60
  entry : ∃ health, r.health.lookup name = some health ∧ Averages samples health.latencyMs

theorem AveragesSamples.fits {name : String} {r : Router} {samples : List Int}
    (h : AveragesSamples name r samples) {c : Result}
    (hlt : c.providerName = name → c.latencyMs < 2 ^ 60) : Fits name r c := by
  intro hname hpos health hh
  obtain ⟨hsamples, entry, hentry, haverages⟩ := h
  cases Option.some.inj (hh.symm.trans hentry)
  have hbound := haverages.bounded hsamples
  have := hlt hname
  omega

theorem AveragesSamples.step {name : String} {r : Router} {samples : List Int}
    (h : AveragesSamples name r samples) {c : Result}
    (hlt : c.providerName = name → c.latencyMs < 2 ^ 60) :
    AveragesSamples name (r.recordResult c.providerName c.success c.latencyMs c.now)
      (samples ++ positiveLatencies name [c]) := by
  obtain ⟨hsamples, health, hh, haverages⟩ := h
  by_cases hname : c.providerName = name
  · subst hname
    have hself := recordResult_self hh c.success c.latencyMs c.now
    by_cases hpos : 0 < c.latencyMs
    · rw [positiveLatencies_of_pos hpos]
      refine ⟨fun l hl => ?_, _, hself, haverages.append_sample hsamples rfl hpos (hlt rfl)⟩
      rcases List.mem_append.mp hl with hl | hl
      · exact hsamples l hl
      · rw [List.mem_singleton.mp hl]
        exact ⟨hpos, hlt rfl⟩
    · have hkept : (health.record c.success c.latencyMs c.now).latencyMs = health.latencyMs := if_neg hpos
      rw [positiveLatencies_of_nonpos hpos, List.append_nil]
      exact ⟨hsamples, _, hself, by rwa [hkept]⟩
  · rw [positiveLatencies_of_ne hname, List.append_nil]
    exact ⟨hsamples, health, (recordResult_of_ne hname _ _ _).trans hh, haverages⟩

/-- Over a run the samples add up, and no step leaves the 64-bit integers. -/
theorem AveragesSamples.run {name : String} {r : Router} {samples : List Int}
    (h : AveragesSamples name r samples) {results : List Result}
    (hlt : ∀ c ∈ results, c.providerName = name → c.latencyMs < 2 ^ 60) :
    (∃ s, exec recordStep r results = some s ∧
      AveragesSamples name s (samples ++ positiveLatencies name results)) ∧
    EachStep recordStep (Fits name) r results := by
  induction results generalizing r samples with
  | nil =>
    refine ⟨⟨r, rfl, ?_⟩, trivial⟩
    simpa [positiveLatencies] using h
  | cons c results ih =>
    have hfirst := hlt c List.mem_cons_self
    have hrest := fun d hd => hlt d (List.mem_cons_of_mem c hd)
    obtain ⟨⟨s, hrun, hs⟩, heach⟩ := ih (h.step hfirst) hrest
    rw [← List.singleton_append, positiveLatencies_append, ← List.append_assoc]
    refine ⟨⟨s, hrun, hs⟩, fun t ht => ⟨h.fits hfirst, ?_⟩⟩
    cases ht
    exact heach

theorem AveragesSamples.register (r : Router) (name : String) (provider : OpenAIAdapter) (now : Time) :
    AveragesSamples name (r.registerProvider name provider now) [] :=
  ⟨nofun, _, Finmap.lookup_insert _, fun _ => rfl, fun h => absurd rfl h, fun h => absurd rfl h⟩

/-- From a registration on, whatever is recorded: the provider's latency is zero just as long as no
sample has come in, it then stays between the least and the greatest sample, and no call overflows. -/
theorem latencyMs_between_samples (r : Router) (name : String) (provider : OpenAIAdapter) (now : Time)
    (results : List Result) (hlt : ∀ c ∈ results, c.providerName = name → c.latencyMs < 2 ^ 60) :
    (∃ s health, exec recordStep (r.registerProvider name provider now) results = some s ∧
      s.health.lookup name = some health ∧
      (health.latencyMs = 0 ↔ positiveLatencies name results = []) ∧
      ∀ lo hi, (positiveLatencies name results).min? = some lo →
        (positiveLatencies name results).max? = some hi →
        lo ≤ health.latencyMs ∧ health.latencyMs ≤ hi) ∧
    EachStep recordStep (Fits name) (r.registerProvider name provider now) results := by
  obtain ⟨⟨s, hrun, hsamples, health, hh, haverages⟩, heach⟩ :=
    (AveragesSamples.register r name provider now).run hlt
  rw [List.nil_append] at hsamples haverages
  refine ⟨⟨s, health, hrun, hh, ?_, fun lo hi hmin hmax => haverages.between hmin hmax⟩, heach⟩
  exact haverages.eq_zero_iff (fun l hl => (hsamples l hl).1)

/-- Three samples, a call of another provider and a failure without a latency. -/
theorem latencyMs_between_samples_sample :
    ∃ s health, exec recordStep sampleRouter
        [⟨"openai", false, 0, 0⟩, ⟨"openai", true, 9, 0⟩, ⟨"azure", true, 1, 0⟩, ⟨"openai", true, 1, 0⟩,
          ⟨"openai", true, 3, 0⟩] = some s ∧
      s.health.lookup "openai" = some health ∧ 1 ≤ health.latencyMs ∧ health.latencyMs ≤ 9 := by
  obtain ⟨⟨s, health, hrun, hh, -, hbetween⟩, -⟩ := latencyMs_between_samples (newRouter .latency) "openai"
    ⟨"https://api.openai.com", "key", ["gpt-4"]⟩ 0
    [⟨"openai", false, 0, 0⟩, ⟨"openai", true, 9, 0⟩, ⟨"azure", true, 1, 0⟩, ⟨"openai", true, 1, 0⟩,
      ⟨"openai", true, 3, 0⟩] (by decide)
  obtain ⟨hlow, hhigh⟩ := hbetween 1 9 (by decide) (by decide)
  exact ⟨s, health, hrun, hh, hlow, hhigh⟩

end Router

end SupplyPlatform.Gateway
