import Mathlib.Algebra.Order.Ring.Nat
import Mathlib.Data.Nat.Digits.Defs
import RecordFlow.Number.Shortest

/-!
# Digits — the digits that are printed

The digits of a number begin at its first place.  `Shortest.magnitude` finds that place, so that the
grids that are tried for the shortest digits are fine enough for one unit of them to lie below the
number, and the digits found are not zero.
-/

namespace RecordFlow
namespace Shortest

/-- Whether a ratio is at least one unit of the decimal place at a scale. -/
def Reaches (num den : Nat) (scale : Int) : Prop :=
  den * 10 ^ scale.toNat ≤ num * 10 ^ (-scale).toNat

/-- A ratio that reaches a place reaches the next one behind it. -/
theorem Reaches.pred {num den : Nat} {scale : Int} (h : Reaches num den scale) :
    Reaches num den (scale - 1) := by
  unfold Reaches at *
  rcases Int.lt_or_le 0 scale with hpositive | hnegative
  · have hexponent : (-(scale - 1)).toNat = (-scale).toNat := by omega
    rw [hexponent]
    calc
      den * 10 ^ (scale - 1).toNat
          ≤ den * 10 ^ scale.toNat :=
            Nat.mul_le_mul_left _ (Nat.pow_le_pow_right (by decide) (by omega))
      _ ≤ num * 10 ^ (-scale).toNat := h
  · have hexponent : (scale - 1).toNat = scale.toNat := by omega
    rw [hexponent]
    calc
      den * 10 ^ scale.toNat
          ≤ num * 10 ^ (-scale).toNat := h
      _ ≤ num * 10 ^ (-(scale - 1)).toNat :=
            Nat.mul_le_mul_left _ (Nat.pow_le_pow_right (by decide) (by omega))

theorem pow_length_toDigits_le {n : Nat} (hn : n ≠ 0) :
    10 ^ ((Nat.toDigits 10 n).length - 1) ≤ n := by
  rcases Nat.eq_zero_or_pos ((Nat.toDigits 10 n).length - 1) with hone | hmore
  · rw [hone]
    exact Nat.one_le_iff_ne_zero.2 hn
  · by_contra hlt
    have := (Nat.length_toDigits_le_iff (b := 10) (by decide) hmore).2 (Nat.lt_of_not_le hlt)
    omega

theorem lt_pow_length_toDigits (n : Nat) : n < 10 ^ (Nat.toDigits 10 n).length :=
  (Nat.length_toDigits_le_iff (by decide) Nat.length_toDigits_pos).1 (Nat.le_refl _)

/-- A ratio reaches the place that its magnitude begins with. -/
theorem reaches_magnitude {num : Nat} (den : Nat) (hnum : 0 < num) :
    Reaches num den (magnitude num den - 1) := by
  unfold Reaches magnitude
  dsimp only
  split
  case isFalse hwhole =>
    -- the digits before the point
    have hplace : ((Nat.toDigits 10 (num / den)).length - 1 : Int).toNat =
        (Nat.toDigits 10 (num / den)).length - 1 := by omega
    have hnone : (-((Nat.toDigits 10 (num / den)).length - 1 : Int)).toNat = 0 := by
      have := Nat.length_toDigits_pos (b := 10) (n := num / den)
      omega
    rw [hplace, hnone, Nat.pow_zero, Nat.mul_one]
    calc
      den * 10 ^ ((Nat.toDigits 10 (num / den)).length - 1)
          ≤ den * (num / den) := Nat.mul_le_mul_left _ (pow_length_toDigits_le hwhole)
      _ ≤ num := Nat.mul_div_le num den
  case isTrue hwhole =>
    -- the digits of the inverse count the places behind the point
    split
    case isTrue hexact =>
      have hzero : (2 - ((Nat.toDigits 10 (den / num)).length : Int) - 1).toNat = 0 := by
        have := Nat.length_toDigits_pos (b := 10) (n := den / num)
        omega
      have hplace : (-(2 - ((Nat.toDigits 10 (den / num)).length : Int) - 1)).toNat =
          (Nat.toDigits 10 (den / num)).length - 1 := by omega
      rw [hzero, hplace, Nat.pow_zero, Nat.mul_one]
      exact Nat.le_of_eq hexact.symm
    case isFalse =>
      have hzero : (1 - ((Nat.toDigits 10 (den / num)).length : Int) - 1).toNat = 0 := by omega
      have hplace : (-(1 - ((Nat.toDigits 10 (den / num)).length : Int) - 1)).toNat =
          (Nat.toDigits 10 (den / num)).length := by omega
      rw [hzero, hplace, Nat.pow_zero, Nat.mul_one]
      have hlt := lt_pow_length_toDigits (den / num)
      calc
        den ≤ num * (den / num + 1) := (Nat.lt_mul_div_succ den hnum).le
        _ ≤ num * 10 ^ (Nat.toDigits 10 (den / num)).length := Nat.mul_le_mul_left _ hlt

/-! ## Shortest digits -/

theorem Interval.onGrid?_ne_zero {i : Interval} {tie : Tie} {scale : Int} {x : Digits}
    (h : i.onGrid? tie scale = some x) : x.digits ≠ 0 := by
  unfold Interval.onGrid? at h
  dsimp only at h
  split at h
  case h_1 hbelow _ =>
    split at h
    · cases h
      simp only [Bool.and_eq_true, bne_iff_ne] at hbelow
      exact hbelow.1
    · cases h
      exact Nat.succ_ne_zero _
  case h_2 hbelow _ =>
    cases h
    simp only [Bool.and_eq_true, bne_iff_ne] at hbelow
    exact hbelow.1
  case h_3 =>
    cases h
    exact Nat.succ_ne_zero _
  case h_4 => cases h

theorem Interval.search_ne_zero {i : Interval} (tie : Tie) (fuel : Nat) {scale : Int}
    (hden : 0 < i.denominator) (hreaches : Reaches i.value i.denominator scale) :
    (i.search tie fuel scale).digits ≠ 0 := by
  induction fuel generalizing scale with
  | zero =>
    have hpositive : 0 < i.denominator * 10 ^ scale.toNat :=
      Nat.mul_pos hden (Nat.pow_pos (by decide))
    exact (Nat.div_pos hreaches hpositive).ne'
  | succ fuel ih =>
    rw [Interval.search]
    cases hgrid : i.onGrid? tie scale with
    | some x => exact Interval.onGrid?_ne_zero hgrid
    | none => exact ih hreaches.pred

/-- Zeros that move into the scale leave other digits behind. -/
theorem Digits.trimmed_ne_zero {x : Digits} (fuel : Nat) (hx : x.digits ≠ 0) :
    (x.trimmed fuel).digits ≠ 0 := by
  induction fuel generalizing x with
  | zero => exact hx
  | succ fuel ih =>
    rw [Digits.trimmed]
    split
    case isTrue h => exact ih (by show x.digits / 10 ≠ 0; omega)
    case isFalse => exact hx

theorem digits_shortest_ne_zero (tie : Tie) {m : Nat} (hm : m ≠ 0) (q : Int) :
    (shortest tie m q).digits ≠ 0 := by
  have hden : 0 < (intervalOf m q).denominator := by
    show 0 < Nat.pow 2 _
    exact Nat.pow_pos (by decide)
  have hvalue : 0 < (intervalOf m q).value := by
    show 0 < 4 * m * (1 * Nat.pow 2 _)
    have hpower : 0 < Nat.pow 2 (q - 2).toNat := Nat.pow_pos (by decide)
    exact Nat.mul_pos (by omega) (by omega)
  exact Digits.trimmed_ne_zero _ (Interval.search_ne_zero _ _ hden (reaches_magnitude _ hvalue))

end Shortest
end RecordFlow
