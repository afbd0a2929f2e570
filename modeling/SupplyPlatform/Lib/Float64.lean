import Mathlib.Algebra.Order.Round
import Mathlib.Data.Int.Log
import Mathlib.Data.Rat.Floor
import Mathlib.Tactic.FieldSimp
import Mathlib.Tactic.GCongr
import Mathlib.Tactic.Linarith
import Mathlib.Tactic.NormNum
import Mathlib.Tactic.Positivity
import Mathlib.Tactic.Ring

/-! The numbers of binary64 as the rationals they denote, and the decimals they are written as. -/

namespace Float64

/-- The nearest integer, of two the even one. -/
def roundEven (x : ℚ) : ℤ :=
  if x - ⌊x⌋ < 1 / 2 ∨ (x - ⌊x⌋ = 1 / 2 ∧ ⌊x⌋ % 2 = 0) then ⌊x⌋ else ⌊x⌋ + 1

/-- The exponent of the last of the 53 bits of a number as large as `x`; subnormal numbers have fewer. -/
def lastPlace (x : ℚ) : ℤ := max (Int.log 2 |x| - 52) (-1074)

/-- The number of 53 bits nearest to `x`, with no bound on its size. -/
def float64 (x : ℚ) : ℚ := roundEven (x / 2 ^ lastPlace x) * 2 ^ lastPlace x

/-- The number that a decimal is read as, if it is not out of range. -/
@[irreducible] def parseFloat (x : ℚ) : Option ℚ := if |float64 x| < 2 ^ 1024 then some (float64 x) else none

/-- The multiples of `10 ^ j` next to `f`, the nearest one first. -/
def neighbours (f : ℚ) (j : ℤ) : List ℚ :=
  [roundEven (f / 10 ^ j), ⌊f / 10 ^ j⌋, ⌈f / 10 ^ j⌉].map (fun n : ℤ => (n : ℚ) * 10 ^ j)

/-- The decimal with the fewest digits that is read as `f`, of those whose last digit is at `10 ^ j` or
behind it. -/
def shortestFrom (f : ℚ) : ℕ → ℤ → ℚ
  | 0, _ => f
  | digits + 1, j =>
    match (neighbours f j).find? (fun g => float64 g = f) with
    | some g => g
    | none => shortestFrom f digits (j - 1)

/-- The decimal that `f` is written as; 17 digits always do. -/
def shortestDecimal (f : ℚ) : ℚ := shortestFrom f 18 (Int.log 10 |f| + 1)

theorem abs_roundEven_sub_le (x : ℚ) : |(roundEven x : ℚ) - x| ≤ 1 / 2 := by
  have hlo := Int.floor_le x
  have hhi := Int.lt_floor_add_one x
  unfold roundEven
  split_ifs with h
  · have hhalf : x - ⌊x⌋ ≤ 1 / 2 := h.elim le_of_lt (fun h => h.1.le)
    rw [abs_le]
    constructor <;> linarith
  · have hhalf : 1 / 2 ≤ x - ⌊x⌋ := not_lt.mp (fun hlt => h (.inl hlt))
    rw [abs_le]
    push_cast
    constructor <;> linarith

theorem eq_of_abs_sub_lt_one {m n : ℤ} (h : |(m : ℚ) - n| < 1) : m = n := by
  have hint : |m - n| < 1 := by exact_mod_cast h
  rw [Int.abs_lt_one_iff] at hint
  omega

theorem roundEven_eq {x : ℚ} {n : ℤ} (h : |(n : ℚ) - x| < 1 / 2) : roundEven x = n := by
  have hround := abs_roundEven_sub_le x
  refine eq_of_abs_sub_lt_one ?_
  calc |(roundEven x : ℚ) - n| = |((roundEven x : ℚ) - x) - (n - x)| := by ring_nf
    _ ≤ |(roundEven x : ℚ) - x| + |(n : ℚ) - x| := abs_sub _ _
    _ < 1 := by linarith

theorem two_zpow_pos (k : ℤ) : (0 : ℚ) < 2 ^ k := zpow_pos (by norm_num) k

theorem abs_float64_sub_le (x : ℚ) : |float64 x - x| ≤ 2 ^ lastPlace x / 2 := by
  have hpos := two_zpow_pos (lastPlace x)
  have hround := abs_roundEven_sub_le (x / 2 ^ lastPlace x)
  have heq : float64 x - x = (roundEven (x / 2 ^ lastPlace x) - x / 2 ^ lastPlace x) * 2 ^ lastPlace x := by
    rw [float64, sub_mul, div_mul_cancel₀ _ hpos.ne']
  rw [heq, abs_mul, abs_of_pos hpos]
  calc _ ≤ 1 / 2 * 2 ^ lastPlace x := mul_le_mul_of_nonneg_right hround hpos.le
    _ = 2 ^ lastPlace x / 2 := by ring

theorem float64_zero : float64 0 = 0 := by
  have hround : roundEven 0 = 0 := roundEven_eq (by norm_num)
  rw [float64, zero_div, hround, Int.cast_zero, zero_mul]

/-- Below `2 ^ k` the last place is 53 bits below that. -/
theorem abs_float64_sub_le_of_lt {x : ℚ} {k : ℕ} (h : |x| < 2 ^ k) :
    |float64 x - x| ≤ 2 ^ ((k : ℤ) - 53) / 2 := by
  rcases eq_or_ne x 0 with rfl | hx
  · rw [float64_zero, sub_zero, abs_zero]
    exact (half_pos (two_zpow_pos _)).le
  have hlog : Int.log 2 |x| < k :=
    (Int.lt_zpow_iff_log_lt (b := 2) (by norm_num) (abs_pos.mpr hx)).mp (by exact_mod_cast h)
  have hplace : lastPlace x ≤ (k : ℤ) - 53 := by
    unfold lastPlace
    omega
  calc |float64 x - x| ≤ 2 ^ lastPlace x / 2 := abs_float64_sub_le x
    _ ≤ 2 ^ ((k : ℤ) - 53) / 2 := by gcongr; norm_num

theorem pow_le_abs_float64 {x : ℚ} {k : ℕ} (h : 2 ^ k ≤ |x|) : 2 ^ k ≤ |float64 x| := by
  have hx : 0 < |x| := lt_of_lt_of_le (by positivity) h
  have hlog : (k : ℤ) ≤ Int.log 2 |x| :=
    (Int.zpow_le_iff_le_log (b := 2) (by norm_num) hx).mp (by exact_mod_cast h)
  have hplace : lastPlace x = Int.log 2 |x| - 52 := by
    unfold lastPlace
    omega
  have hpos := two_zpow_pos (lastPlace x)
  have hscale : (2 : ℚ) ^ 52 * 2 ^ lastPlace x = 2 ^ Int.log 2 |x| := by
    rw [hplace, ← zpow_natCast, ← zpow_add₀ (by norm_num)]
    congr 1
    push_cast
    ring
  have hquot : (2 : ℚ) ^ 52 ≤ |x / 2 ^ lastPlace x| := by
    rw [abs_div, abs_of_pos hpos, le_div_iff₀ hpos, hscale]
    exact_mod_cast Int.zpow_log_le_self (b := 2) (by norm_num) hx
  -- The quotient has 53 bits in front of the point, and rounding takes none of them away.
  have hround : (2 : ℤ) ^ 52 ≤ |roundEven (x / 2 ^ lastPlace x)| := by
    have hnear := abs_roundEven_sub_le (x / 2 ^ lastPlace x)
    have hless := abs_sub_abs_le_abs_sub (x / 2 ^ lastPlace x) (roundEven (x / 2 ^ lastPlace x))
    rw [abs_sub_comm] at hless
    have hint : ((2 ^ 52 - 1 : ℤ) : ℚ) < |roundEven (x / 2 ^ lastPlace x)| := by
      push_cast
      linarith
    have := Int.cast_lt.mp hint
    omega
  calc (2 : ℚ) ^ k ≤ 2 ^ Int.log 2 |x| := by
        rw [← zpow_natCast]
        gcongr
        norm_num
    _ = 2 ^ 52 * 2 ^ lastPlace x := hscale.symm
    _ ≤ |(roundEven (x / 2 ^ lastPlace x) : ℚ)| * 2 ^ lastPlace x := by
        gcongr
        exact_mod_cast hround
    _ = |float64 x| := by rw [float64, abs_mul, abs_of_pos hpos]

section

variable {m n : ℤ} {k s : ℕ}

/-- Fewer than 16 digits: decimals of `s` places below `2 ^ k` are further apart than the numbers there. -/
theorem float64_near (hk : 2 ^ k * 10 ^ s < 2 ^ 53) (h : |(m : ℚ) / 10 ^ s| < 2 ^ k) :
    |float64 (m / 10 ^ s) - m / 10 ^ s| < 1 / 10 ^ s / 2 := by
  have hten : (0 : ℚ) < 10 ^ s := by positivity
  have hulp : (2 : ℚ) ^ ((k : ℤ) - 53) < 1 / 10 ^ s := by
    have hq : (2 : ℚ) ^ k * 10 ^ s < 2 ^ 53 := by exact_mod_cast hk
    rw [zpow_sub₀ (by norm_num), zpow_natCast, div_lt_div_iff₀ (two_zpow_pos _) hten, one_mul]
    exact_mod_cast hq
  calc _ ≤ (2 : ℚ) ^ ((k : ℤ) - 53) / 2 := abs_float64_sub_le_of_lt h
    _ < 1 / 10 ^ s / 2 := by gcongr

theorem abs_div_lt (hm : |m| < 2 ^ k * 10 ^ s) : |(m : ℚ) / 10 ^ s| < 2 ^ k := by
  have hten : (0 : ℚ) < 10 ^ s := by positivity
  rw [abs_div, abs_of_pos hten, div_lt_iff₀ hten]
  exact_mod_cast hm

/-- What such a decimal is read as stays below `2 ^ k` too. -/
theorem abs_float64_lt (hk : 2 ^ k * 10 ^ s < 2 ^ 53) (hm : |m| < 2 ^ k * 10 ^ s) :
    |float64 (m / 10 ^ s)| < 2 ^ k := by
  have hten : (0 : ℚ) < 10 ^ s := by positivity
  have hnear := float64_near hk (abs_div_lt hm)
  have hroom : |(m : ℚ) / 10 ^ s| ≤ 2 ^ k - 1 / 10 ^ s := by
    have hint : |m| + 1 ≤ 2 ^ k * 10 ^ s := hm
    have hq : |(m : ℚ)| + 1 ≤ 2 ^ k * 10 ^ s := by exact_mod_cast hint
    rw [abs_div, abs_of_pos hten, le_sub_iff_add_le, ← add_div, div_le_iff₀ hten]
    exact hq
  have hdiff := abs_sub_abs_le_abs_sub (float64 (m / 10 ^ s)) (m / 10 ^ s)
  have hgap : (0 : ℚ) < 1 / 10 ^ s := by positivity
  linarith

/-- No two decimals are read as the same number. -/
theorem eq_of_float64_eq (hk : 2 ^ k * 10 ^ s < 2 ^ 53) (hm : |m| < 2 ^ k * 10 ^ s)
    (h : float64 (n / 10 ^ s) = float64 (m / 10 ^ s)) : n = m := by
  have hten : (0 : ℚ) < 10 ^ s := by positivity
  have hbelow : |(n : ℚ) / 10 ^ s| < 2 ^ k := by
    by_contra hnot
    have hlarge := pow_le_abs_float64 (not_lt.mp hnot)
    rw [h] at hlarge
    exact absurd (abs_float64_lt hk hm) (not_lt.mpr hlarge)
  have hn := float64_near hk hbelow
  have hm' := float64_near hk (abs_div_lt hm)
  rw [h, abs_sub_comm] at hn
  have hdiff : |(n : ℚ) / 10 ^ s - m / 10 ^ s| < 1 / 10 ^ s :=
    calc |(n : ℚ) / 10 ^ s - m / 10 ^ s|
      _ ≤ |(n : ℚ) / 10 ^ s - float64 (m / 10 ^ s)| + |float64 (m / 10 ^ s) - m / 10 ^ s| :=
        abs_sub_le _ _ _
      _ < 1 / 10 ^ s := by linarith
  refine eq_of_abs_sub_lt_one ?_
  rw [← sub_div, abs_div, abs_of_pos hten, div_lt_div_iff_of_pos_right hten] at hdiff
  exact hdiff

theorem shortestFrom_float64 (hk : 2 ^ k * 10 ^ s < 2 ^ 53) (hm : |m| < 2 ^ k * 10 ^ s) {digits : ℕ} {j : ℤ}
    (hj : -(s : ℤ) ≤ j) (hdigits : j + s < digits) :
    shortestFrom (float64 (m / 10 ^ s)) digits j = m / 10 ^ s := by
  have hten : (0 : ℚ) < 10 ^ s := by positivity
  induction digits generalizing j with
  | zero => omega
  | succ digits ih =>
    rw [shortestFrom]
    split
    next g hg =>
      -- A multiple of `10 ^ j` is a decimal of `s` places.
      have hsame : float64 g = float64 (m / 10 ^ s) := by simpa using List.find?_some hg
      obtain ⟨q, -, rfl⟩ := List.mem_map.mp (List.mem_of_find?_eq_some hg)
      obtain ⟨i, hi⟩ := Int.eq_ofNat_of_zero_le (show 0 ≤ j + s by omega)
      have hplaces : (q : ℚ) * 10 ^ j = ((q * 10 ^ i : ℤ) : ℚ) / 10 ^ s := by
        have hsum : j = (i : ℤ) - s := by omega
        rw [hsum, zpow_sub₀ (by norm_num), zpow_natCast, zpow_natCast]
        push_cast
        ring
      rw [hplaces] at hsame ⊢
      rw [eq_of_float64_eq hk hm hsame]
    next hnone =>
      -- At `10 ^ -s` the decimal itself is found.
      have hne : j ≠ -(s : ℤ) := by
        rintro rfl
        have hunit : roundEven (float64 (m / 10 ^ s) / 10 ^ (-(s : ℤ))) = m := by
          refine roundEven_eq ?_
          have hnear := float64_near hk (abs_div_lt hm)
          rw [zpow_neg, zpow_natCast, div_inv_eq_mul, abs_sub_comm]
          have heq : float64 (m / 10 ^ s) * 10 ^ s - m = (float64 (m / 10 ^ s) - m / 10 ^ s) * 10 ^ s := by
            rw [sub_mul, div_mul_cancel₀ _ hten.ne']
          rw [heq, abs_mul, abs_of_pos hten]
          calc _ < 1 / 10 ^ s / 2 * (10 : ℚ) ^ s := mul_lt_mul_of_pos_right hnear hten
            _ = 1 / 2 := by field_simp
        have hfirst := List.find?_eq_none.mp hnone ((m : ℚ) * 10 ^ (-(s : ℤ)))
          (by rw [neighbours, hunit]; exact List.mem_cons_self)
        rw [zpow_neg, zpow_natCast, ← div_eq_mul_inv] at hfirst
        exact hfirst (decide_eq_true rfl)
      exact ih (by omega) (by omega)

/-- A decimal of fewer than 16 digits is written as it was read. -/
theorem shortestDecimal_float64 (hk : 2 ^ k * 10 ^ s < 2 ^ 53) (hm : |m| < 2 ^ k * 10 ^ s) :
    shortestDecimal (float64 (m / 10 ^ s)) = m / 10 ^ s := by
  have hten : (0 : ℚ) < 10 ^ s := by positivity
  have hpow : 10 ^ s < 10 ^ 16 := by
    have := Nat.le_mul_of_pos_left (10 ^ s) (Nat.two_pow_pos k)
    omega
  have hs : s < 16 := (Nat.pow_lt_pow_iff_right (by norm_num)).mp hpow
  rcases eq_or_ne (float64 (m / 10 ^ s)) 0 with hzero | hne
  · refine shortestFrom_float64 hk hm ?_ ?_ <;> rw [hzero, abs_zero, Int.log_zero_right] <;> omega
  have hpos := abs_pos.mpr hne
  have hlow : -(s : ℤ) - 1 ≤ Int.log 10 |float64 (m / 10 ^ s)| := by
    have hm0 : m ≠ 0 := by
      rintro rfl
      rw [Int.cast_zero, zero_div, float64_zero] at hne
      exact hne rfl
    have hunit : 1 / 10 ^ s ≤ |(m : ℚ) / 10 ^ s| := by
      rw [abs_div, abs_of_pos hten]
      gcongr
      exact_mod_cast Int.one_le_abs hm0
    have hnear := float64_near hk (abs_div_lt hm)
    have hdiff := abs_sub_abs_le_abs_sub ((m : ℚ) / 10 ^ s) (float64 (m / 10 ^ s))
    rw [abs_sub_comm] at hdiff
    refine (Int.zpow_le_iff_le_log (b := 10) (by norm_num) hpos).mp ?_
    have htenth : ((10 : ℕ) : ℚ) ^ (-(s : ℤ) - 1) = 1 / 10 ^ s / 10 := by
      rw [zpow_sub_one₀ (by norm_num), zpow_neg, zpow_natCast]
      norm_num [div_eq_mul_inv]
    rw [htenth]
    linarith
  have hhigh : Int.log 10 |float64 (m / 10 ^ s)| < 16 - s := by
    refine (Int.lt_zpow_iff_log_lt (b := 10) (by norm_num) hpos).mp ?_
    have hbound : (2 : ℚ) ^ k * 10 ^ s < 10 ^ 16 := by
      have hnat : 2 ^ k * 10 ^ s < 10 ^ 16 := by omega
      exact_mod_cast hnat
    calc |float64 (m / 10 ^ s)| < 2 ^ k := abs_float64_lt hk hm
      _ < 10 ^ 16 / 10 ^ s := (lt_div_iff₀ hten).mpr hbound
      _ = ((10 : ℕ) : ℚ) ^ ((16 : ℤ) - s) := by
        rw [zpow_sub₀ (by norm_num), zpow_natCast]
        norm_cast
  exact shortestFrom_float64 hk hm (by omega) (by omega)

end

theorem roundEven_intCast (n : ℤ) : roundEven n = n := roundEven_eq (by norm_num)

theorem float64_of_multiple {f : ℚ} {n : ℤ} (h : f = n * 2 ^ lastPlace f) : float64 f = f := by
  have hquot : f / 2 ^ lastPlace f = n := by
    rw [div_eq_iff (two_zpow_pos _).ne']
    exact h
  rw [float64, hquot, roundEven_intCast]
  exact h.symm

/-- The significand has 53 bits, or is the first number of 54. -/
theorem abs_roundEven_le (x : ℚ) : |roundEven (x / 2 ^ lastPlace x)| ≤ 2 ^ 53 := by
  have hpos := two_zpow_pos (lastPlace x)
  have hplace : Int.log 2 |x| + 1 ≤ 53 + lastPlace x := by
    unfold lastPlace
    omega
  have hquot : |x / 2 ^ lastPlace x| < 2 ^ 53 := by
    rw [abs_div, abs_of_pos hpos, div_lt_iff₀ hpos]
    calc |x| < 2 ^ (Int.log 2 |x| + 1) := by
          exact_mod_cast Int.lt_zpow_succ_log_self (b := 2) (by norm_num) |x|
      _ ≤ 2 ^ (53 + lastPlace x) := zpow_le_zpow_right₀ (by norm_num) hplace
      _ = 2 ^ 53 * 2 ^ lastPlace x := by
        rw [zpow_add₀ (by norm_num)]
        norm_cast
  have hnear := abs_roundEven_sub_le (x / 2 ^ lastPlace x)
  have hdiff := abs_sub_abs_le_abs_sub (roundEven (x / 2 ^ lastPlace x) : ℚ) (x / 2 ^ lastPlace x)
  have hlt : |(roundEven (x / 2 ^ lastPlace x) : ℚ)| < 2 ^ 53 + 1 := by linarith
  have hint : |roundEven (x / 2 ^ lastPlace x)| < 2 ^ 53 + 1 := by exact_mod_cast hlt
  omega

/-- What has been rounded is rounded to itself. -/
theorem float64_float64 (x : ℚ) : float64 (float64 x) = float64 x := by
  have hpos := two_zpow_pos (lastPlace x)
  have hm := abs_roundEven_le x
  have hf : float64 x = roundEven (x / 2 ^ lastPlace x) * 2 ^ lastPlace x := rfl
  have hmin : -1074 ≤ lastPlace x := le_max_right _ _
  generalize roundEven (x / 2 ^ lastPlace x) = m at hm hf
  generalize float64 x = f at hf
  generalize lastPlace x = place at hpos hf hmin
  rcases eq_or_ne m 0 with rfl | hm0
  · rw [hf, Int.cast_zero, zero_mul, float64_zero]
  have habs : |f| = |(m : ℚ)| * 2 ^ place := by rw [hf, abs_mul, abs_of_pos hpos]
  have hfpos : 0 < |f| := by
    have hmpos : (0 : ℚ) < |(m : ℚ)| := abs_pos.mpr (Int.cast_ne_zero.mpr hm0)
    rw [habs]
    positivity
  rcases hm.lt_or_eq with hlt | heq
  · -- The last place has not moved up.
    have hlog : Int.log 2 |f| < 53 + place := by
      refine (Int.lt_zpow_iff_log_lt (b := 2) (by norm_num) hfpos).mp ?_
      have hq : |(m : ℚ)| < 2 ^ 53 := by exact_mod_cast hlt
      push_cast
      rw [habs, zpow_add₀ (by norm_num)]
      exact mul_lt_mul_of_pos_right (by exact_mod_cast hq) hpos
    have hplace : lastPlace f ≤ place := by
      unfold lastPlace
      omega
    obtain ⟨i, hi⟩ := Int.eq_ofNat_of_zero_le (sub_nonneg.mpr hplace)
    have hsum : place = i + lastPlace f := by omega
    refine float64_of_multiple (n := m * 2 ^ i) ?_
    calc f = m * 2 ^ ((i : ℤ) + lastPlace f) := by rw [← hsum, hf]
      _ = ((m * 2 ^ i : ℤ) : ℚ) * 2 ^ lastPlace f := by
        rw [zpow_add₀ (by norm_num), zpow_natCast]
        push_cast
        ring
  · -- It has moved up by one, and the significand is even.
    have hlog : Int.log 2 |f| = 53 + place := by
      have hq : |(m : ℚ)| = 2 ^ 53 := by exact_mod_cast heq
      have hpow : |f| = ((2 : ℕ) : ℚ) ^ (53 + place) := by
        push_cast
        rw [habs, hq, zpow_add₀ (by norm_num)]
        norm_cast
      rw [hpow, Int.log_zpow (by norm_num)]
    have hplace : lastPlace f = place + 1 := by
      unfold lastPlace
      omega
    have heven : ∃ n : ℤ, m = 2 * n := by
      rcases abs_choice m with h | h
      · exact ⟨2 ^ 52, by omega⟩
      · exact ⟨-2 ^ 52, by omega⟩
    obtain ⟨n, hn⟩ := heven
    refine float64_of_multiple (n := n) ?_
    rw [hplace, zpow_add_one₀ (by norm_num), hf, hn]
    push_cast
    ring

theorem float64_shortestFrom {f : ℚ} (h : float64 f = f) (digits : ℕ) (j : ℤ) :
    float64 (shortestFrom f digits j) = f := by
  induction digits generalizing j with
  | zero => exact h
  | succ digits ih =>
    rw [shortestFrom]
    split
    next g hg => simpa using List.find?_some hg
    next => exact ih (j - 1)

/-- A number is read again as it was written. -/
theorem float64_shortestDecimal {f : ℚ} (h : float64 f = f) : float64 (shortestDecimal f) = f :=
  float64_shortestFrom h _ _

theorem parseFloat_shortestDecimal {x f : ℚ} (h : parseFloat x = some f) :
    parseFloat (shortestDecimal f) = some f := by
  unfold parseFloat at h
  split at h
  next hlt =>
    cases Option.some.inj h
    rw [parseFloat, float64_shortestDecimal (float64_float64 x), if_pos hlt]
  next => cases h

example : float64 9007199254740993 = 9007199254740992 := by decide +kernel

example : shortestDecimal (float64 (8589934592000001 / 1000000)) = 8589934592000002 / 1000000 := by
  decide +kernel

end Float64
