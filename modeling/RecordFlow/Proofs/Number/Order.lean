import RecordFlow.Number.Binary64
import Mathlib.Algebra.Order.Ring.Nat

/-!
# Order — comparing numbers of the format

Two numbers that are both numbers are comparable, so that "not below or equal" is "strictly above"
(`Binary64.not_ble_iff`).  A quotient of two counts is a number as long as the counts are in the
range of the format, and nothing divided by a count is a zero, which no positive number is below.
-/

namespace RecordFlow
namespace Binary64

/-! ## Comparable numbers -/

theorem compare?_swap (a b : Binary64) : (compare? a b).map Ordering.swap = compare? b a := by
  cases a with
  | nan s => cases b <;> rfl
  | infinite s =>
    cases b with
    | nan t => rfl
    | infinite t => cases s <;> cases t <;> rfl
    | finite t k p => cases s <;> rfl
  | finite s m q =>
    cases b with
    | nan t => rfl
    | infinite t => cases t <;> rfl
    | finite t k p =>
      simp only [compare?, Option.map_some]
      exact congrArg some (Std.OrientedCmp.eq_swap).symm

theorem compare?_isSome {a b : Binary64} (ha : a.isNaN = false) (hb : b.isNaN = false) :
    (compare? a b).isSome := by
  cases a with
  | nan s => cases ha
  | infinite s =>
    cases b with
    | nan t => cases hb
    | infinite t => rfl
    | finite t k p => rfl
  | finite s m q =>
    cases b with
    | nan t => cases hb
    | infinite t => rfl
    | finite t k p => rfl

/-- What is not at most a number, and is a number, is above it. -/
theorem not_ble_iff {a b : Binary64} (ha : a.isNaN = false) (hb : b.isNaN = false) :
    ble a b = false ↔ blt b a = true := by
  have hswap := compare?_swap a b
  rcases Option.isSome_iff_exists.1 (compare?_isSome ha hb) with ⟨o, ho⟩
  rw [ho, Option.map_some] at hswap
  cases o <;> simp [ble, blt, ho, ← hswap]

/-- A number is not at most another one exactly when it is above it or is no number at all. -/
theorem not_ble_iff_of_right {a b : Binary64} (hb : b.isNaN = false) :
    ble a b = false ↔ blt b a = true ∨ a.isNaN = true := by
  cases ha : a.isNaN with
  | false => simp [not_ble_iff ha hb]
  | true =>
    have hle : ble a b = false := by
      cases a with
      | nan s => rfl
      | infinite s => cases ha
      | finite s m q => cases ha
    simp [hle]

/-! ## Quotients of counts -/

/-- The last place of a count that is not zero stands fifty-two places behind its first one. -/
theorem placeOf_one {n : Nat} (hn : n ≠ 0) : placeOf n 1 = (Nat.log2 n : Int) - 52 := by
  have hle : 2 ^ Nat.log2 n ≤ n := Nat.log2_self_le hn
  have hlog : log2Ratio n 1 = Nat.log2 n := by
    have hone : Nat.log2 1 = 0 := by decide
    have hnot : ¬ n < 2 ^ Nat.log2 n := by omega
    simp [log2Ratio, scaled, hone, hnot]
  rw [placeOf, hlog]
  omega

theorem le_roundHalfEven (num den : Nat) : num / den ≤ roundHalfEven num den := by
  unfold roundHalfEven
  dsimp only
  split
  · exact Nat.le_refl _
  · exact Nat.le_succ _
  · split
    · exact Nat.le_refl _
    · exact Nat.le_succ _

theorem significand_pos {n : Nat} (hn : n ≠ 0) :
    0 < roundHalfEven (scaled n 1 (placeOf n 1)).1 (scaled n 1 (placeOf n 1)).2 := by
  have hle : 2 ^ Nat.log2 n ≤ n := Nat.log2_self_le hn
  -- before it is rounded the quotient is one at least
  refine Nat.lt_of_lt_of_le ?_ (le_roundHalfEven _ _)
  refine Nat.div_pos ?_ (by simp [scaled])
  rw [placeOf_one hn]
  simp only [scaled, Nat.one_mul]
  calc
    2 ^ ((Nat.log2 n : Int) - 52).toNat
        ≤ 2 ^ Nat.log2 n := Nat.pow_le_pow_right (by decide) (by omega)
    _ ≤ n := hle
    _ ≤ n * 2 ^ (-((Nat.log2 n : Int) - 52)).toNat :=
        Nat.le_mul_of_pos_right n (Nat.two_pow_pos _)

theorem ofRatio_eq {negative : Bool} {num den : Nat} (hnum : num ≠ 0) :
    ∃ m q, (0 < roundHalfEven (scaled num den (placeOf num den)).1
        (scaled num den (placeOf num den)).2 → 0 < m) ∧ q ≤ placeOf num den + 1 ∧
      ofRatio negative num den =
        if 971 < q then .infinite negative else .finite negative m q := by
  by_cases hcarry : roundHalfEven (scaled num den (placeOf num den)).1
      (scaled num den (placeOf num den)).2 = Nat.pow 2 53
  · refine ⟨Nat.pow 2 52, placeOf num den + 1, fun _ => by decide, by omega, ?_⟩
    simp [ofRatio, hnum, hcarry]
  · refine ⟨_, placeOf num den, id, by omega, ?_⟩
    simp only [ofRatio, if_neg hnum, if_neg hcarry]

/-- A count is a number, if not an infinite one, and only zero has a zero for its significand. -/
theorem ofNat_cases (n : Nat) :
    (∃ q, ofNat n = .finite false 0 q) ∧ n = 0 ∨
      (n ≠ 0 ∧ ((2 ^ 64 ≤ n ∧ ofNat n = .infinite false) ∨
        ∃ m q, 0 < m ∧ ofNat n = .finite false m q)) := by
  by_cases hn : n = 0
  · subst hn
    exact .inl ⟨⟨-1074, by simp [ofNat, ofRatio]⟩, rfl⟩
  · refine .inr ⟨hn, ?_⟩
    rcases @ofRatio_eq false n 1 hn with ⟨m, q, hm, hq, heq⟩
    by_cases hlarge : 971 < q
    · refine .inl ⟨?_, by rw [ofNat, heq, if_pos hlarge]⟩
      -- an exponent out of range takes a count of more than a word
      have hlog : 64 ≤ Nat.log2 n := by
        rw [placeOf_one hn] at hq
        omega
      exact Nat.le_trans (Nat.pow_le_pow_right (by decide) hlog) (Nat.log2_self_le hn)
    · exact .inr ⟨m, q, hm (significand_pos hn), by rw [ofNat, heq, if_neg hlarge]⟩

theorem zero_div_ofNat {total : Nat} (htotal : total ≠ 0) :
    ∃ q, ofNat 0 / ofNat total = .finite false 0 q := by
  show ∃ q, div (ofNat 0) (ofNat total) = .finite false 0 q
  rcases ofNat_cases 0 with ⟨⟨q, hq⟩, _⟩ | ⟨h, _⟩
  · rw [hq]
    rcases ofNat_cases total with ⟨_, h⟩ | ⟨_, ⟨_, hp⟩ | ⟨k, p, hk, hp⟩⟩
    · exact absurd h htotal
    · exact ⟨-1074, by simp [hp, div]⟩
    · have hk : k ≠ 0 := by omega
      exact ⟨-1074, by simp [hp, div, hk, ratio, ofRatio]⟩
  · exact absurd rfl h

theorem blt_zero_eq_false {a : Binary64} {q : Int} (ha : blt .zero a = true) :
    blt a (.finite false 0 q) = false := by
  cases a with
  | nan s => rfl
  | infinite s =>
    cases s with
    | true => cases ha
    | false => rfl
  | finite s m p =>
    -- both comparisons are comparisons of products of integers
    simp only [blt, compare?, zero, ratio, signedNum] at ha ⊢
    simp only [beq_eq_false_iff_ne, beq_iff_eq, Option.some.injEq, ne_eq, Int.compare_eq_lt,
      Nat.zero_mul] at ha ⊢
    simp only [Bool.false_eq_true, if_false, Int.natCast_zero, Int.zero_mul] at ha ⊢
    generalize (if s = true then -((m * Nat.pow 2 p.toNat : Nat) : Int)
      else ((m * Nat.pow 2 p.toNat : Nat) : Int)) = x at ha ⊢
    have hx : 0 ≤ x := by
      by_contra hneg
      have := Int.mul_nonpos_of_nonpos_of_nonneg (a := x) (by omega)
        (Int.natCast_nonneg (Nat.pow 2 (- -1074 : Int).toNat))
      omega
    have := Int.mul_nonneg hx (Int.natCast_nonneg (Nat.pow 2 (-q).toNat))
    omega

end Binary64
end RecordFlow
