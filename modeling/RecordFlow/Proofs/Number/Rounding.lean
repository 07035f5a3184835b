import Mathlib.Algebra.Order.Field.Power
import Mathlib.Data.Rat.Cast.Order
import Mathlib.Tactic.FieldSimp
import Mathlib.Tactic.Linarith
import Mathlib.Tactic.NormNum
import Mathlib.Tactic.Positivity
import Mathlib.Tactic.Ring
import RecordFlow.Number.Binary64

/-!
# Rounding — how far a number is from the exact result

An operation rounds the exact ratio to a number at most half a unit of its last place away
(`Binary64.abs_roundHalfEven_sub_le`), which is a small part of a ratio that is neither too small
nor too large.  `Binary64.Approximates` says that a number that is not negative is a ratio but for
some such steps; each operation adds one step to those of its operands.
-/

namespace RecordFlow
namespace Binary64

/-! ## Whole numbers -/

/-- A quotient is rounded by one half at most. -/
theorem roundHalfEven_bounds (num : Nat) {den : Nat} (hden : 0 < den) :
    2 * (roundHalfEven num den * den) ≤ 2 * num + den ∧
      2 * num ≤ 2 * (roundHalfEven num den * den) + den := by
  have hsplit : num / den * den + num % den = num := Nat.div_add_mod' num den
  have hrest : num % den < den := Nat.mod_lt num hden
  have hnext : (num / den + 1) * den = num / den * den + den := Nat.succ_mul _ _
  unfold roundHalfEven
  dsimp only
  split
  case h_1 hless =>
    have hless := Nat.compare_eq_lt.1 hless
    omega
  case h_2 hmore =>
    have hmore := Nat.compare_eq_gt.1 hmore
    omega
  case h_3 hhalf =>
    have hhalf := Nat.compare_eq_eq.1 hhalf
    split <;> omega

theorem abs_roundHalfEven_sub_le (num : Nat) {den : Nat} (hden : 0 < den) :
    |(roundHalfEven num den : ℚ) - num / den| ≤ 1 / 2 := by
  have hpositive : (0 : ℚ) < den := by exact_mod_cast hden
  have hquotient : (num : ℚ) / den * den = num := div_mul_cancel₀ _ hpositive.ne'
  rcases roundHalfEven_bounds num hden with ⟨habove, hbelow⟩
  have habove : 2 * ((roundHalfEven num den : ℚ) * den) ≤ 2 * num + den := by exact_mod_cast habove
  have hbelow : 2 * (num : ℚ) ≤ 2 * (roundHalfEven num den * den) + den := by exact_mod_cast hbelow
  rw [abs_le]
  constructor
  · refine le_of_mul_le_mul_right ?_ hpositive
    linarith
  · refine le_of_mul_le_mul_right ?_ hpositive
    linarith

/-! ## The place of the last digit -/

/-- A ratio in units of a power of two. -/
theorem scaled_div (num den : Nat) (q : Int) :
    ((scaled num den q).1 : ℚ) / (scaled num den q).2 = num / den / 2 ^ q := by
  show ((num * 2 ^ (-q).toNat : Nat) : ℚ) / (den * 2 ^ q.toNat : Nat) = num / den / 2 ^ q
  push_cast
  rcases Int.eq_nat_or_neg q with ⟨k, rfl | rfl⟩
  · simp only [Int.toNat_neg_natCast, Int.toNat_natCast, pow_zero, mul_one, zpow_natCast]
    exact (div_div _ _ _).symm
  · simp only [Int.toNat_neg_natCast, neg_neg, Int.toNat_natCast, pow_zero, mul_one, zpow_neg,
      zpow_natCast, div_inv_eq_mul]
    exact mul_div_right_comm _ _ _

theorem scaled_pos {den : Nat} (num : Nat) (hden : 0 < den) (q : Int) :
    0 < (scaled num den q).2 := Nat.mul_pos hden (Nat.pow_pos (by decide))

theorem two_pow_log2_bounds {n : Nat} (hn : 0 < n) :
    (2 : ℚ) ^ (Nat.log2 n : Int) ≤ n ∧ (n : ℚ) < 2 ^ ((Nat.log2 n : Int) + 1) := by
  have hle : 2 ^ Nat.log2 n ≤ n := Nat.log2_self_le hn.ne'
  have hlt : n < 2 ^ (Nat.log2 n + 1) := Nat.lt_log2_self
  constructor
  · exact_mod_cast hle
  · exact_mod_cast hlt

/-- The logarithm is the place of the first binary digit of a ratio. -/
theorem log2Ratio_bounds {num den : Nat} (hnum : 0 < num) (hden : 0 < den) :
    (2 : ℚ) ^ log2Ratio num den ≤ num / den ∧ (num : ℚ) / den < 2 ^ (log2Ratio num den + 1) := by
  have hpositive : (0 : ℚ) < den := by exact_mod_cast hden
  have hbelow : (2 : ℚ) ^ ((Nat.log2 num : Int) - Nat.log2 den - 1) ≤ num / den := by
    rw [le_div_iff₀ hpositive]
    calc
      (2 : ℚ) ^ ((Nat.log2 num : Int) - Nat.log2 den - 1) * den
          ≤ 2 ^ ((Nat.log2 num : Int) - Nat.log2 den - 1) * 2 ^ ((Nat.log2 den : Int) + 1) :=
            mul_le_mul_of_nonneg_left (two_pow_log2_bounds hden).2.le (by positivity)
      _ = 2 ^ (Nat.log2 num : Int) := by
            rw [← zpow_add₀ (by norm_num)]
            congr 1
            ring
      _ ≤ num := (two_pow_log2_bounds hnum).1
  have habove : (num : ℚ) / den < 2 ^ ((Nat.log2 num : Int) - Nat.log2 den + 1) := by
    rw [div_lt_iff₀ hpositive]
    calc
      (num : ℚ)
          < 2 ^ ((Nat.log2 num : Int) + 1) := (two_pow_log2_bounds hnum).2
      _ = 2 ^ ((Nat.log2 num : Int) - Nat.log2 den + 1) * 2 ^ (Nat.log2 den : Int) := by
            rw [← zpow_add₀ (by norm_num)]
            congr 1
            ring
      _ ≤ 2 ^ ((Nat.log2 num : Int) - Nat.log2 den + 1) * den :=
            mul_le_mul_of_nonneg_left (two_pow_log2_bounds hden).1 (by positivity)
  have hscaled := scaled_div num den ((Nat.log2 num : Int) - Nat.log2 den)
  have hscale := scaled_pos num hden ((Nat.log2 num : Int) - Nat.log2 den)
  have hunit : (0 : ℚ) < 2 ^ ((Nat.log2 num : Int) - Nat.log2 den) := by positivity
  unfold log2Ratio
  dsimp only
  generalize scaled num den ((Nat.log2 num : Int) - Nat.log2 den) = pair at hscaled hscale
  have hscale : (0 : ℚ) < pair.2 := by exact_mod_cast hscale
  split
  case isTrue hless =>
    refine ⟨hbelow, ?_⟩
    have hless : (pair.1 : ℚ) / pair.2 < 1 := by
      rw [div_lt_one hscale]
      exact_mod_cast hless
    rw [hscaled, div_lt_one hunit] at hless
    rwa [Int.sub_add_cancel]
  case isFalse hmore =>
    refine ⟨?_, habove⟩
    have hmore : 1 ≤ (pair.1 : ℚ) / pair.2 := by
      rw [one_le_div hscale]
      exact_mod_cast Nat.le_of_not_lt hmore
    rwa [hscaled, one_le_div hunit] at hmore

/-! ## One rounding -/

/-- A positive ratio in units of the fifty-third place behind its first one, rounded. -/
def significand (num den : Nat) : Nat :=
  roundHalfEven (scaled num den (log2Ratio num den - 52)).1
    (scaled num den (log2Ratio num den - 52)).2

section Significand

variable {num den : Nat} (hnum : 0 < num) (hden : 0 < den)
include hnum hden

theorem abs_significand_sub_le :
    |(significand num den : ℚ) * 2 ^ (log2Ratio num den - 52) - num / den| ≤
      num / den * 2 ^ (-53 : Int) := by
  have hunit : (0 : ℚ) < 2 ^ (log2Ratio num den - 52) := by positivity
  have hround := abs_roundHalfEven_sub_le (scaled num den (log2Ratio num den - 52)).1
    (scaled_pos num hden (log2Ratio num den - 52))
  rw [scaled_div] at hround
  calc
    |(significand num den : ℚ) * 2 ^ (log2Ratio num den - 52) - num / den|
        = |(significand num den : ℚ) - num / den / 2 ^ (log2Ratio num den - 52)| *
            2 ^ (log2Ratio num den - 52) := by
          rw [← abs_of_pos hunit, ← abs_mul, abs_of_pos hunit, sub_mul,
            div_mul_cancel₀ _ hunit.ne']
    _ ≤ 1 / 2 * 2 ^ (log2Ratio num den - 52) := mul_le_mul_of_nonneg_right hround hunit.le
    _ = 2 ^ log2Ratio num den * 2 ^ (-53 : Int) := by
          rw [zpow_sub₀ (by norm_num)]
          norm_num
          ring
    _ ≤ num / den * 2 ^ (-53 : Int) :=
          mul_le_mul_of_nonneg_right (log2Ratio_bounds hnum hden).1 (by positivity)

theorem significand_le : significand num den ≤ 2 ^ 53 := by
  have hunit : (0 : ℚ) < 2 ^ (log2Ratio num den - 52) := by positivity
  have hround := abs_roundHalfEven_sub_le (scaled num den (log2Ratio num den - 52)).1
    (scaled_pos num hden (log2Ratio num den - 52))
  rw [scaled_div] at hround
  have hratio : (num : ℚ) / den / 2 ^ (log2Ratio num den - 52) < 2 ^ 53 := by
    rw [div_lt_iff₀ hunit]
    calc
      (num : ℚ) / den
          < 2 ^ (log2Ratio num den + 1) := (log2Ratio_bounds hnum hden).2
      _ = 2 ^ 53 * 2 ^ (log2Ratio num den - 52) := by
            rw [← zpow_natCast, ← zpow_add₀ (by norm_num)]
            congr 1
            push_cast
            ring
  have hlt : (significand num den : ℚ) < (2 ^ 53 + 1 : Nat) := by
    have := (abs_le.1 hround).2
    have hsame : (significand num den : ℚ) = roundHalfEven
      (scaled num den (log2Ratio num den - 52)).1 (scaled num den (log2Ratio num den - 52)).2 := rfl
    push_cast
    linarith
  exact Nat.le_of_lt_succ (by exact_mod_cast hlt)

end Significand

/-- A ratio that is neither too small nor too large is rounded by a small part of itself. -/
theorem ofRatio_of_range (negative : Bool) {num den : Nat} (hden : 0 < den)
    (hlow : (2 : ℚ) ^ (-1022 : Int) ≤ num / den) (hhigh : (num : ℚ) / den < 2 ^ (1023 : Int)) :
    ∃ m q, ofRatio negative num den = .finite negative m q ∧ m < 2 ^ 53 ∧
      |(m : ℚ) * 2 ^ q - num / den| ≤ num / den * 2 ^ (-53 : Int) := by
  have hnum : 0 < num := by
    rcases Nat.eq_zero_or_pos num with rfl | hnum
    · have hzero : (2 : ℚ) ^ (-1022 : Int) ≤ 0 := by simpa using hlow
      exact absurd hzero (not_le.2 (by positivity))
    · exact hnum
  rcases log2Ratio_bounds hnum hden with ⟨hbelow, habove⟩
  -- the exponent is in the range of the format
  have hleast : -1022 < log2Ratio num den + 1 :=
    (zpow_lt_zpow_iff_right₀ (by norm_num : (1 : ℚ) < 2)).1 (hlow.trans_lt habove)
  have hgreatest : log2Ratio num den < 1023 :=
    (zpow_lt_zpow_iff_right₀ (by norm_num : (1 : ℚ) < 2)).1 (hbelow.trans_lt hhigh)
  have hplace : placeOf num den = log2Ratio num den - 52 := by
    unfold placeOf
    omega
  have hwithin : ¬ 971 < log2Ratio num den - 52 := by omega
  have hnext : ¬ 971 < log2Ratio num den - 52 + 1 := by omega
  have hround : ofRatio negative num den =
      if significand num den = Nat.pow 2 53 then
        .finite negative (Nat.pow 2 52) (log2Ratio num den - 52 + 1)
      else .finite negative (significand num den) (log2Ratio num den - 52) := by
    simp only [ofRatio, hplace, if_neg hnum.ne']
    split
    case isTrue hcarry => exact (if_pos hcarry).symm
    case isFalse hcarry => exact (if_neg hcarry).symm
  have herror := abs_significand_sub_le hnum hden
  by_cases hcarry : significand num den = Nat.pow 2 53
  · -- the significand is carried over into the next exponent
    refine ⟨_, _, hround.trans (if_pos hcarry), by decide, ?_⟩
    have hsame : ((Nat.pow 2 52 : Nat) : ℚ) * 2 ^ (log2Ratio num den - 52 + 1) =
        significand num den * 2 ^ (log2Ratio num den - 52) := by
      rw [hcarry, zpow_add_one₀ (by norm_num)]
      push_cast
      ring
    rwa [hsame]
  · have hlimit : significand num den < 2 ^ 53 :=
      Nat.lt_of_le_of_ne (significand_le hnum hden) hcarry
    exact ⟨_, _, hround.trans (if_neg hcarry), hlimit, herror⟩

/-! ## Any number of roundings -/

/-- What one rounding can make of a ratio at most, as a factor. -/
def slack : ℚ := 1 + 2 ^ (-52 : Int)

theorem slack_pos : 0 < slack := by
  unfold slack
  positivity

theorem one_le_slack_pow (steps : Nat) : 1 ≤ slack ^ steps := by
  refine one_le_pow₀ ?_
  unfold slack
  norm_num

/-- Whether two ratios are the same but for some roundings. -/
structure Near (steps : Nat) (v r : ℚ) : Prop where
  le : v ≤ r * slack ^ steps
  ge : r ≤ v * slack ^ steps

namespace Near

variable {j k : Nat} {v w r s : ℚ}

theorem refl (v : ℚ) : Near 0 v v := ⟨by simp, by simp⟩

theorem mono (h : Near j v r) (hv : 0 ≤ v) (hr : 0 ≤ r) (hle : j ≤ k) : Near k v r := by
  have hpower : slack ^ j ≤ slack ^ k :=
    pow_le_pow_right₀ (by simpa using one_le_slack_pow 1) hle
  exact ⟨h.le.trans (mul_le_mul_of_nonneg_left hpower hr),
    h.ge.trans (mul_le_mul_of_nonneg_left hpower hv)⟩

theorem add (hv : Near k v r) (hw : Near k w s) : Near k (v + w) (r + s) := by
  constructor
  · rw [add_mul]
    exact add_le_add hv.le hw.le
  · rw [add_mul]
    exact add_le_add hv.ge hw.ge

theorem mul (hv : Near j v r) (hw : Near k w s) (hv₀ : 0 ≤ v) (hw₀ : 0 ≤ w) (hr₀ : 0 ≤ r)
    (hs₀ : 0 ≤ s) : Near (j + k) (v * w) (r * s) := by
  have hslack := slack_pos
  constructor
  · calc
      v * w
          ≤ r * slack ^ j * (s * slack ^ k) := mul_le_mul hv.le hw.le hw₀ (by positivity)
      _ = r * s * slack ^ (j + k) := by rw [pow_add]; ring
  · calc
      r * s
          ≤ v * slack ^ j * (w * slack ^ k) := mul_le_mul hv.ge hw.ge hs₀ (by positivity)
      _ = v * w * slack ^ (j + k) := by rw [pow_add]; ring

theorem div (hv : Near j v r) (hw : Near k w s) (hv₀ : 0 ≤ v) (hw₀ : 0 < w) (hr₀ : 0 ≤ r)
    (hs₀ : 0 < s) : Near (j + k) (v / w) (r / s) := by
  have hslack := slack_pos
  constructor
  · rw [div_mul_eq_mul_div, div_le_div_iff₀ hw₀ hs₀]
    calc
      v * s
          ≤ r * slack ^ j * (w * slack ^ k) := mul_le_mul hv.le hw.ge hs₀.le (by positivity)
      _ = r * slack ^ (j + k) * w := by rw [pow_add]; ring
  · rw [div_mul_eq_mul_div, div_le_div_iff₀ hs₀ hw₀]
    calc
      r * w
          ≤ v * slack ^ j * (s * slack ^ k) := mul_le_mul hv.ge hw.le hw₀.le (by positivity)
      _ = v * slack ^ (j + k) * s := by rw [pow_add]; ring

theorem pos (h : Near k v r) (hr : 0 < r) : 0 < v := by
  have hslack : 0 < slack ^ k := pow_pos slack_pos k
  by_contra hv
  have := mul_nonpos_of_nonpos_of_nonneg (not_lt.1 hv) hslack.le
  exact absurd (h.ge.trans this) (not_le.2 hr)

end Near

/-- A number that is not negative, and is a ratio but for some roundings. -/
def Approximates (x : Binary64) (steps : Nat) (r : ℚ) : Prop :=
  ∃ m q, x = .finite false m q ∧ m < 2 ^ 53 ∧ Near steps (m * 2 ^ q) r

/-- Whether a ratio is far from the ends of the range, if it is not zero. -/
def Moderate (r : ℚ) : Prop := r = 0 ∨ (2 ^ (-1000 : Int) ≤ r ∧ r ≤ 2 ^ (1000 : Int))

theorem moderate_of_bounds {r : ℚ} (hlow : 1 / 2 ^ 200 ≤ r) (hhigh : r ≤ 2 ^ 200) :
    Moderate r := by
  refine .inr ⟨le_trans ?_ hlow, hhigh.trans ?_⟩
  · rw [one_div, ← zpow_natCast, ← zpow_neg]
    exact zpow_le_zpow_right₀ (by norm_num) (by norm_num)
  · rw [← zpow_natCast]
    exact zpow_le_zpow_right₀ (by norm_num) (by norm_num)

/-- A ratio that is itself exact but for some roundings takes one more. -/
theorem approximates_ofRatio {num den steps : Nat} {r : ℚ} (hden : 0 < den) (hsteps : steps ≤ 16)
    (hmoderate : Moderate r) (hnear : Near steps (num / den) r) :
    (ofRatio false num den).Approximates (steps + 1) r := by
  rcases hnear with ⟨habove, hbelow⟩
  -- a few roundings do not double a ratio, so that it stays clear of the ends of the range
  have hpower : slack ^ steps ≤ 2 := by
    calc
      slack ^ steps
          ≤ slack ^ 16 := pow_le_pow_right₀ (by simpa using one_le_slack_pow 1) hsteps
      _ ≤ 2 := by
            unfold slack
            norm_num
  have hpositive : 0 < slack ^ steps := pow_pos slack_pos steps
  have hnonneg : (0 : ℚ) ≤ num / den := by positivity
  rcases hmoderate with rfl | ⟨hlow, hhigh⟩
  · -- nothing is rounded to nothing
    have hratio : (num : ℚ) / den = 0 := le_antisymm (by simpa using habove) hnonneg
    have hnum : num = 0 := by
      have hden : (den : ℚ) ≠ 0 := by exact_mod_cast hden.ne'
      simpa [hden] using hratio
    refine ⟨0, -1074, ?_, by norm_num, ⟨by simp, by simp⟩⟩
    rw [hnum]
    rfl
  · have hleast : (2 : ℚ) ^ (-1022 : Int) ≤ num / den := by
      have hhalf : (2 : ℚ) ^ (-1000 : Int) ≤ num / den * 2 :=
        calc
          (2 : ℚ) ^ (-1000 : Int)
              ≤ r := hlow
          _ ≤ num / den * slack ^ steps := hbelow
          _ ≤ num / den * 2 := mul_le_mul_of_nonneg_left hpower hnonneg
      have hpowers : (2 : ℚ) ^ (-1022 : Int) * 2 ≤ 2 ^ (-1000 : Int) := by
        rw [← zpow_add_one₀ (by norm_num)]
        exact zpow_le_zpow_right₀ (by norm_num) (by norm_num)
      linarith
    have hmost : (num : ℚ) / den < 2 ^ (1023 : Int) := by
      have hpowers : (2 : ℚ) ^ (1000 : Int) * 2 < 2 ^ (1023 : Int) := by
        rw [← zpow_add_one₀ (by norm_num)]
        exact zpow_lt_zpow_right₀ (by norm_num) (by norm_num)
      have hr : 0 ≤ r := le_trans (by positivity) hlow
      calc
        (num : ℚ) / den
            ≤ r * slack ^ steps := habove
        _ ≤ r * 2 := mul_le_mul_of_nonneg_left hpower hr
        _ ≤ 2 ^ (1000 : Int) * 2 := mul_le_mul_of_nonneg_right hhigh (by norm_num)
        _ < 2 ^ (1023 : Int) := hpowers
    rcases ofRatio_of_range false hden hleast hmost with ⟨m, q, hround, hm, herror⟩
    rcases abs_le.1 herror with ⟨hless, hmore⟩
    refine ⟨m, q, hround, hm, ⟨?_, ?_⟩⟩
    · have hone : (m : ℚ) * 2 ^ q ≤ num / den * slack := by
        unfold slack
        norm_num at hmore ⊢
        linarith
      calc
        (m : ℚ) * 2 ^ q
            ≤ num / den * slack := hone
        _ ≤ r * slack ^ steps * slack := mul_le_mul_of_nonneg_right habove slack_pos.le
        _ = r * slack ^ (steps + 1) := by rw [pow_succ, mul_assoc]
    · have hone : (num : ℚ) / den ≤ m * 2 ^ q * slack := by
        unfold slack
        norm_num at hless ⊢
        linarith
      calc
        r
            ≤ num / den * slack ^ steps := hbelow
        _ ≤ m * 2 ^ q * slack * slack ^ steps := mul_le_mul_of_nonneg_right hone hpositive.le
        _ = m * 2 ^ q * slack ^ (steps + 1) := by rw [pow_succ]; ring

theorem ratio_pos (m : Nat) (q : Int) : 0 < (ratio m q).2 := Nat.pow_pos (by decide)

theorem ratio_div (m : Nat) (q : Int) :
    ((ratio m q).1 : ℚ) / (ratio m q).2 = m * 2 ^ q := by
  show ((m * 2 ^ q.toNat : Nat) : ℚ) / (2 ^ (-q).toNat : Nat) = m * 2 ^ q
  push_cast
  rcases Int.eq_nat_or_neg q with ⟨k, rfl | rfl⟩
  · simp only [Int.toNat_neg_natCast, Int.toNat_natCast, pow_zero, div_one, zpow_natCast]
  · simp only [Int.toNat_neg_natCast, neg_neg, Int.toNat_natCast, pow_zero, mul_one, zpow_neg,
      zpow_natCast, div_eq_mul_inv]

/-- Numbers that are not negative are compared by their values. -/
theorem ble_finite_iff (m n : Nat) (q p : Int) :
    ble (.finite false m q) (.finite false n p) = true ↔ (m : ℚ) * 2 ^ q ≤ n * 2 ^ p := by
  have hm : (0 : ℚ) < (ratio m q).2 := by exact_mod_cast ratio_pos m q
  have hn : (0 : ℚ) < (ratio n p).2 := by exact_mod_cast ratio_pos n p
  rw [← ratio_div, ← ratio_div, div_le_div_iff₀ hm hn]
  have hproducts : ((ratio m q).1 : ℚ) * (ratio n p).2 ≤ (ratio n p).1 * (ratio m q).2 ↔
      ((ratio m q).1 : Int) * (ratio n p).2 ≤ (ratio n p).1 * (ratio m q).2 := by
    exact_mod_cast Iff.rfl
  rw [hproducts]
  simp only [ble, compare?, signedNum, Bool.false_eq_true, if_false]
  cases hcompare : compare (((ratio m q).1 : Int) * (ratio n p).2)
    ((ratio n p).1 * (ratio m q).2) with
  | lt => simpa [hcompare] using (Int.compare_eq_lt.1 hcompare).le
  | eq => simpa [hcompare] using (Int.compare_eq_eq.1 hcompare).le
  | gt => simpa [hcompare] using Int.compare_eq_gt.1 hcompare

section Operations

variable {x y : Binary64} {j k : Nat} {r s : ℚ}

theorem Approximates.mono (h : x.Approximates j r) (hr : 0 ≤ r) (hle : j ≤ k) :
    x.Approximates k r := by
  rcases h with ⟨m, q, hx, hm, hnear⟩
  exact ⟨m, q, hx, hm, hnear.mono (by positivity) hr hle⟩

theorem approximates_ofNat {n : Nat} (hn : n ≤ 2 ^ 64) : (ofNat n).Approximates 1 n := by
  have hmoderate : Moderate (n : ℚ) := by
    rcases Nat.eq_zero_or_pos n with rfl | hpositive
    · exact .inl Nat.cast_zero
    · have hone : (1 : ℚ) ≤ n := by exact_mod_cast hpositive
      have hword : (n : ℚ) ≤ 2 ^ 64 := by exact_mod_cast hn
      exact moderate_of_bounds (le_trans (by norm_num) hone) (hword.trans (by norm_num))
  have hexact : Near 0 ((n : ℚ) / (1 : Nat)) n := by
    rw [Nat.cast_one, div_one]
    exact .refl _
  exact approximates_ofRatio Nat.one_pos (by norm_num) hmoderate hexact

theorem Approximates.mul (hx : x.Approximates j r) (hy : y.Approximates k s)
    (hr : 0 ≤ r) (hs : 0 ≤ s) (hsteps : j + k ≤ 16) (hmoderate : Moderate (r * s)) :
    (x * y).Approximates (j + k + 1) (r * s) := by
  rcases hx with ⟨m, q, rfl, _, hx⟩
  rcases hy with ⟨n, p, rfl, _, hy⟩
  have hratio : (((ratio m q).1 * (ratio n p).1 : Nat) : ℚ) /
      ((ratio m q).2 * (ratio n p).2 : Nat) = m * 2 ^ q * (n * 2 ^ p) := by
    push_cast
    rw [← ratio_div, ← ratio_div, div_mul_div_comm]
  have hnear := hx.mul hy (by positivity) (by positivity) hr hs
  rw [← hratio] at hnear
  exact approximates_ofRatio (Nat.mul_pos (ratio_pos m q) (ratio_pos n p)) hsteps hmoderate hnear

theorem Approximates.div (hx : x.Approximates j r) (hy : y.Approximates k s)
    (hr : 0 ≤ r) (hs : 0 < s) (hsteps : j + k ≤ 16) (hmoderate : Moderate (r / s)) :
    (x / y).Approximates (j + k + 1) (r / s) := by
  rcases hx with ⟨m, q, rfl, _, hx⟩
  rcases hy with ⟨n, p, rfl, _, hy⟩
  have hdivisor : (0 : ℚ) < n * 2 ^ p := hy.pos hs
  have hn : n ≠ 0 := by
    rintro rfl
    simp at hdivisor
  have hnumerator : 0 < (ratio n p).1 :=
    Nat.mul_pos (Nat.pos_of_ne_zero hn) (Nat.pow_pos (by decide))
  have hratio : (((ratio m q).1 * (ratio n p).2 : Nat) : ℚ) /
      ((ratio m q).2 * (ratio n p).1 : Nat) = m * 2 ^ q / (n * 2 ^ p) := by
    push_cast
    rw [← ratio_div, ← ratio_div, div_div_div_eq]
  have hnear := hx.div hy (by positivity) hdivisor hr hs
  rw [← hratio] at hnear
  have hround := approximates_ofRatio (Nat.mul_pos (ratio_pos m q) hnumerator) hsteps hmoderate
    hnear
  have hquotient : (finite false m q / finite false n p) =
      ofRatio false ((ratio m q).1 * (ratio n p).2) ((ratio m q).2 * (ratio n p).1) :=
    if_neg hn
  rwa [hquotient]

theorem Approximates.add (hx : x.Approximates k r) (hy : y.Approximates k s)
    (hsteps : k ≤ 16) (hmoderate : Moderate (r + s)) :
    (x + y).Approximates (k + 1) (r + s) := by
  rcases hx with ⟨m, q, rfl, _, hx⟩
  rcases hy with ⟨n, p, rfl, _, hy⟩
  have hratio : (((ratio m q).1 * (ratio n p).2 + (ratio n p).1 * (ratio m q).2 : Nat) : ℚ) /
      ((ratio m q).2 * (ratio n p).2 : Nat) = m * 2 ^ q + n * 2 ^ p := by
    push_cast
    rw [← ratio_div, ← ratio_div, div_add_div]
    · ring
    · exact_mod_cast (ratio_pos m q).ne'
    · exact_mod_cast (ratio_pos n p).ne'
  have hnear := hx.add hy
  rw [← hratio] at hnear
  have hround := approximates_ofRatio (Nat.mul_pos (ratio_pos m q) (ratio_pos n p)) hsteps
    hmoderate hnear
  have hsum : (finite false m q + finite false n p) =
      ofRatio false ((ratio m q).1 * (ratio n p).2 + (ratio n p).1 * (ratio m q).2)
        ((ratio m q).2 * (ratio n p).2) := by
    show add (finite false m q) (finite false n p) = _
    have hnatural : ((ratio m q).1 : Int) * (ratio n p).2 + (ratio n p).1 * (ratio m q).2 =
        ((ratio m q).1 * (ratio n p).2 + (ratio n p).1 * (ratio m q).2 : Nat) := by push_cast; rfl
    -- a sum of numbers that are not negative has no sign
    have hsign : ∀ n : Nat, (if (n : Int) = 0 then false && false else decide ((n : Int) < 0)) =
        false := by
      intro n
      split
      · rfl
      · exact decide_eq_false (by omega)
    simp only [add, signedNum, Bool.false_eq_true, if_false, hnatural, Int.natAbs_natCast, hsign]
  rwa [hsum]

end Operations

end Binary64
end RecordFlow
