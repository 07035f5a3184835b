import RecordFlow.Proofs.Number.Rounding
import RecordFlow.Progress.Stats

/-!
# Remaining — when the time that is left is a duration

The time that is left is the time for each record so far times the records that are left, in binary
numbers, and stats are derived only if it is below the greatest duration.  That is decided by the
product of the numbers (`Duration.ofSeconds?_eq_none_iff`), and the product is within eight
roundings of the exact time (`Stats.approximates_secondsLeft`), so that the exact time decides it
but for a day in either direction.
-/

namespace RecordFlow

/-! ## Durations as numbers -/

namespace Duration

open Binary64 (Approximates Moderate ratio_div ratio_pos)

/-- Whether seconds and nanoseconds are in their ranges. -/
structure IsProper (d : Duration) : Prop where
  secs : d.secs < 2 ^ 64
  nanos : d.nanos < 10 ^ 9

def exactSeconds (d : Duration) : ℚ := d.secs + d.nanos / 10 ^ 9

theorem exactSeconds_eq (d : Duration) : d.exactSeconds = d.toNanos / 10 ^ 9 := by
  unfold exactSeconds toNanos nanosPerSecond
  push_cast
  field_simp
  norm_num

theorem exactSeconds_nonneg (d : Duration) : 0 ≤ d.exactSeconds := by
  unfold exactSeconds
  positivity

theorem IsProper.exactSeconds_bounds {d : Duration} (h : d.IsProper) :
    d.exactSeconds = 0 ∨ (1 / 10 ^ 9 ≤ d.exactSeconds ∧ d.exactSeconds ≤ 2 ^ 64) := by
  rcases Nat.eq_zero_or_pos d.toNanos with hzero | hpositive
  · exact .inl (by rw [exactSeconds_eq, hzero]; simp)
  · refine .inr ⟨?_, ?_⟩
    · have hone : (1 : ℚ) ≤ d.toNanos := by exact_mod_cast hpositive
      rw [exactSeconds_eq]
      exact div_le_div_of_nonneg_right hone (by norm_num)
    · have hsecs : (d.secs : ℚ) + 1 ≤ 2 ^ 64 := by exact_mod_cast h.secs
      have hnanos : (d.nanos : ℚ) / 10 ^ 9 ≤ 1 := by
        rw [div_le_one (by norm_num)]
        exact_mod_cast h.nanos.le
      unfold exactSeconds
      linarith

theorem IsProper.moderate {d : Duration} (h : d.IsProper) : Moderate d.exactSeconds := by
  rcases h.exactSeconds_bounds with hzero | ⟨hlow, hhigh⟩
  · exact .inl hzero
  · exact Binary64.moderate_of_bounds (le_trans (by norm_num) hlow) (hhigh.trans (by norm_num))

/-- The number of seconds is within four roundings of the exact one. -/
theorem IsProper.approximates_seconds {d : Duration} (h : d.IsProper) :
    d.seconds.Approximates 4 d.exactSeconds := by
  have hsecs := Binary64.approximates_ofNat h.secs.le
  have hnanos := Binary64.approximates_ofNat (h.nanos.le.trans (by norm_num : 10 ^ 9 ≤ 2 ^ 64))
  have hunit := Binary64.approximates_ofNat (by decide : nanosPerSecond ≤ 2 ^ 64)
  have hbillion : (nanosPerSecond : ℚ) = 10 ^ 9 := by norm_num [nanosPerSecond]
  rw [hbillion] at hunit
  have hfraction : Moderate ((d.nanos : ℚ) / 10 ^ 9) := by
    have hproper : IsProper ⟨0, d.nanos⟩ := ⟨by norm_num, h.nanos⟩
    simpa [exactSeconds] using hproper.moderate
  have hquotient := hnanos.div hunit (Nat.cast_nonneg _) (by norm_num) (by norm_num) hfraction
  have hwhole := hsecs.mono (k := 3) (Nat.cast_nonneg _) (by norm_num)
  exact hwhole.add hquotient (by norm_num) h.moderate

/-! ## Numbers as durations -/

/-- A number below all words that do not fit is below them by one, since it is whole or small. -/
theorem le_of_lt_word {m : Nat} {q : Int} (hm : m < 2 ^ 53) (hlt : (m : ℚ) * 2 ^ q < 2 ^ 64) :
    (m : ℚ) * 2 ^ q ≤ 2 ^ 64 - 1 := by
  rcases Int.eq_nat_or_neg q with ⟨k, rfl | rfl⟩
  · have hwhole : m * 2 ^ k < 2 ^ 64 := by exact_mod_cast hlt
    have hwhole : m * 2 ^ k + 1 ≤ 2 ^ 64 := hwhole
    have hwhole : (m : ℚ) * 2 ^ k + 1 ≤ 2 ^ 64 := by exact_mod_cast hwhole
    rw [zpow_natCast]
    linarith
  · have hm : (m : ℚ) ≤ 2 ^ 53 := by exact_mod_cast hm.le
    calc
      (m : ℚ) * 2 ^ (-(k : Int))
          ≤ m * 1 := mul_le_mul_of_nonneg_left
            (zpow_le_one_of_nonpos₀ (by norm_num) (by simp)) (Nat.cast_nonneg _)
      _ ≤ 2 ^ 53 := by linarith
      _ ≤ 2 ^ 64 - 1 := by norm_num

/-- A number of seconds is no duration exactly when the seconds do not fit: rounding to nanoseconds
never goes over the limit. -/
theorem ofSeconds?_eq_none_iff {m : Nat} (q : Int) (hm : m < 2 ^ 53) :
    ofSeconds? (.finite false m q) = none ↔ 2 ^ 64 ≤ (m : ℚ) * 2 ^ q := by
  have hround := Binary64.abs_roundHalfEven_sub_le
    ((Binary64.ratio m q).1 * nanosPerSecond) (ratio_pos m q)
  have hvalue : (((Binary64.ratio m q).1 * nanosPerSecond : Nat) : ℚ) / (Binary64.ratio m q).2 =
      m * 2 ^ q * 10 ^ 9 := by
    have hbillion : (nanosPerSecond : ℚ) = 10 ^ 9 := by norm_num [nanosPerSecond]
    rw [Nat.cast_mul, hbillion, ← ratio_div, div_mul_eq_mul_div]
  rw [hvalue] at hround
  have hnone : ofSeconds? (.finite false m q) = none ↔ secondsLimit * nanosPerSecond ≤
      Binary64.roundHalfEven ((Binary64.ratio m q).1 * nanosPerSecond) (Binary64.ratio m q).2 := by
    unfold ofSeconds?
    simp only [Bool.false_and, Bool.false_eq_true, if_false]
    split
    case isTrue hfits => exact ⟨nofun, fun h => absurd hfits (Nat.not_lt.2 h)⟩
    case isFalse hover => exact ⟨fun _ => Nat.not_lt.1 hover, fun _ => rfl⟩
  have hlimit : secondsLimit * nanosPerSecond = 2 ^ 64 * 10 ^ 9 := by
    norm_num [secondsLimit, nanosPerSecond]
  generalize Binary64.roundHalfEven ((Binary64.ratio m q).1 * nanosPerSecond)
    (Binary64.ratio m q).2 = total at hround hnone
  rw [hlimit] at hnone
  rcases abs_le.1 hround with ⟨hbelow, habove⟩
  -- a number below the limit is a second below it, and rounding makes up for half a nanosecond only
  rw [hnone]
  constructor
  · intro hover
    by_contra hfits
    have hgap := le_of_lt_word hm (not_le.1 hfits)
    have hover : (2 : ℚ) ^ 64 * 10 ^ 9 ≤ total := by exact_mod_cast hover
    linarith
  · intro hover
    by_contra hfits
    have hfits : total + 1 ≤ 2 ^ 64 * 10 ^ 9 := Nat.lt_of_not_le hfits
    have hfits : (total : ℚ) + 1 ≤ 2 ^ 64 * 10 ^ 9 := by exact_mod_cast hfits
    linarith

end Duration

/-! ## Stats -/

namespace Stats

open Binary64 (Approximates Moderate)

/-- Whether the counters and the elapsed time of a sample are in their ranges. -/
structure InRange (s : Sample) : Prop where
  processed : s.counts.processed < 2 ^ 64
  total : s.total < 2 ^ 64
  elapsed : s.elapsed.IsProper

/-- Whether some records are done and some are left. -/
def IsUnderWay (s : Sample) : Prop := 0 < s.counts.processed ∧ s.counts.processed < s.total

def secondsLeft (s : Sample) : Binary64 :=
  s.elapsed.seconds / .ofNat s.counts.processed * .ofNat (s.total - s.counts.processed)

def exactSecondsLeft (s : Sample) : ℚ :=
  s.elapsed.exactSeconds / s.counts.processed * (s.total - s.counts.processed : Nat)

variable {s : Sample}

theorem derive?_eq_none_iff (s : Sample) :
    derive? s = none ↔ IsUnderWay s ∧ Duration.ofSeconds? (secondsLeft s) = none := by
  unfold derive? remaining? IsUnderWay
  rw [Option.map_eq_none_iff]
  dsimp only
  split
  case isTrue hsettled =>
    constructor
    · nofun
    · rintro ⟨hway, _⟩
      omega
  case isFalse hopen =>
    constructor
    · intro hnone
      exact ⟨by omega, hnone⟩
    · rintro ⟨_, hnone⟩
      exact hnone

/-- Nothing is left of a sample that is not under way. -/
theorem exactSecondsLeft_of_not_isUnderWay (hway : ¬ IsUnderWay s) : exactSecondsLeft s = 0 := by
  unfold IsUnderWay at hway
  unfold exactSecondsLeft
  rcases Nat.eq_zero_or_pos s.counts.processed with hzero | hpositive
  · simp [hzero]
  · have hdone : s.total - s.counts.processed = 0 := by omega
    simp [hdone]

/-- The time for a record is zero, or not too small and not too large. -/
theorem pace_bounds (hrange : InRange s) (hway : IsUnderWay s) :
    s.elapsed.exactSeconds / s.counts.processed = 0 ∨
      (1 / 10 ^ 9 / 2 ^ 64 ≤ s.elapsed.exactSeconds / s.counts.processed ∧
        s.elapsed.exactSeconds / s.counts.processed ≤ 2 ^ 64) := by
  have hone : (1 : ℚ) ≤ s.counts.processed := by exact_mod_cast hway.1
  have hword : (s.counts.processed : ℚ) ≤ 2 ^ 64 := by exact_mod_cast hrange.processed.le
  have hnonneg := s.elapsed.exactSeconds_nonneg
  rcases hrange.elapsed.exactSeconds_bounds with hzero | ⟨hlow, hhigh⟩
  · exact .inl (by rw [hzero, zero_div])
  · exact .inr ⟨div_le_div₀ hnonneg hlow (by linarith) hword,
      (div_le_self hnonneg hone).trans hhigh⟩

/-- The time for a record, and the time for all that are left, are far from the ends of the range
of the numbers. -/
theorem moderate_pace (hrange : InRange s) (hway : IsUnderWay s) :
    Moderate (s.elapsed.exactSeconds / s.counts.processed) ∧ Moderate (exactSecondsLeft s) := by
  have hsome : (1 : ℚ) ≤ (s.total - s.counts.processed : Nat) := by
    exact_mod_cast Nat.sub_pos_of_lt hway.2
  have hmost : ((s.total - s.counts.processed : Nat) : ℚ) ≤ 2 ^ 64 := by
    exact_mod_cast (Nat.sub_le _ _).trans hrange.total.le
  unfold exactSecondsLeft
  rcases pace_bounds hrange hway with hzero | ⟨hlow, hhigh⟩
  · rw [hzero, zero_mul]
    exact ⟨.inl rfl, .inl rfl⟩
  · have hpace : 0 ≤ s.elapsed.exactSeconds / s.counts.processed := le_trans (by norm_num) hlow
    refine ⟨Binary64.moderate_of_bounds (le_trans (by norm_num) hlow) (hhigh.trans (by norm_num)),
      Binary64.moderate_of_bounds ?_ ?_⟩
    · calc
        (1 : ℚ) / 2 ^ 200
            ≤ 1 / 10 ^ 9 / 2 ^ 64 * 1 := by norm_num
        _ ≤ s.elapsed.exactSeconds / s.counts.processed *
              (s.total - s.counts.processed : Nat) := mul_le_mul hlow hsome (by norm_num) hpace
    · calc
        s.elapsed.exactSeconds / s.counts.processed * (s.total - s.counts.processed : Nat)
            ≤ 2 ^ 64 * 2 ^ 64 := mul_le_mul hhigh hmost (by positivity) (by norm_num)
        _ ≤ 2 ^ 200 := by norm_num

/-- The product is within eight roundings of the exact time. -/
theorem approximates_secondsLeft (hrange : InRange s) (hway : IsUnderWay s) :
    (secondsLeft s).Approximates 8 (exactSecondsLeft s) := by
  have hprocessed := Binary64.approximates_ofNat hrange.processed.le
  have hleft := Binary64.approximates_ofNat
    ((Nat.sub_le s.total s.counts.processed).trans hrange.total.le)
  have hsome : (0 : ℚ) < s.counts.processed := by exact_mod_cast hway.1
  have hnonneg := s.elapsed.exactSeconds_nonneg
  rcases moderate_pace hrange hway with ⟨hpace, hproduct⟩
  have hquotient := hrange.elapsed.approximates_seconds.div hprocessed hnonneg hsome (by norm_num)
    hpace
  exact hquotient.mul hleft (by positivity) (by positivity) (by norm_num) hproduct

theorem slack_pow_le : Binary64.slack ^ 8 ≤ 1 + 1 / 2 ^ 48 := by
  unfold Binary64.slack
  norm_num

theorem limit_eq : Binary64.ofNat (2 ^ 64) = .finite false (2 ^ 52) 12 := by decide +kernel

/-- The exact time decides, but for what eight roundings change near the limit, which is less than a
day in either direction. -/
theorem isSome_derive?_of_le (hrange : InRange s) (hfits : exactSecondsLeft s ≤ 2 ^ 64 - 2 ^ 16) :
    (derive? s).isSome = true := by
  refine Option.isSome_iff_ne_none.2 fun hfails => ?_
  rcases (derive?_eq_none_iff s).1 hfails with ⟨hway, hnone⟩
  rcases approximates_secondsLeft hrange hway with ⟨m, q, hproduct, hm, hnear⟩
  rw [hproduct, Duration.ofSeconds?_eq_none_iff q hm] at hnone
  have hnonneg : 0 ≤ exactSecondsLeft s := by
    have := s.elapsed.exactSeconds_nonneg
    unfold exactSecondsLeft
    positivity
  have hslack := mul_le_mul_of_nonneg_left slack_pow_le hnonneg
  have hle := hnear.le
  linarith

/-- Stats are derived unless the time that is left does not fit a duration.  That happens exactly
when records are done, records are left, and the product of the pace and the records left is at
least the limit in binary numbers; so it never happens while the exact time is a day below the
limit, and it always happens once the exact time is a day above it. -/
theorem derive?_fails_iff_over_limit (hrange : InRange s) :
    (derive? s = none ↔
      IsUnderWay s ∧ Binary64.ble (.ofNat (2 ^ 64)) (secondsLeft s) = true) ∧
    (exactSecondsLeft s ≤ 2 ^ 64 - 2 ^ 16 → (derive? s).isSome = true) ∧
    (2 ^ 64 + 2 ^ 16 ≤ exactSecondsLeft s → derive? s = none) := by
  by_cases hway : IsUnderWay s
  case neg =>
    have hreturns : derive? s ≠ none := fun hnone =>
      hway ((derive?_eq_none_iff s).1 hnone).1
    refine ⟨?_, ?_, ?_⟩
    · exact ⟨fun hnone => absurd hnone hreturns, fun h => absurd h.1 hway⟩
    · intro _
      exact Option.isSome_iff_ne_none.2 hreturns
    · intro hover
      rw [exactSecondsLeft_of_not_isUnderWay hway] at hover
      norm_num at hover
  case pos =>
    rcases approximates_secondsLeft hrange hway with ⟨m, q, hproduct, hm, hnear⟩
    have hnone : derive? s = none ↔ 2 ^ 64 ≤ (m : ℚ) * 2 ^ q := by
      rw [derive?_eq_none_iff, hproduct, Duration.ofSeconds?_eq_none_iff q hm]
      exact and_iff_right hway
    have hvalue : (0 : ℚ) ≤ m * 2 ^ q := by positivity
    refine ⟨?_, ?_, ?_⟩
    · have hlimit : ((2 ^ 52 : Nat) : ℚ) * 2 ^ (12 : Int) = 2 ^ 64 := by norm_num
      rw [hnone, hproduct, limit_eq, Binary64.ble_finite_iff, hlimit]
      exact (and_iff_right hway).symm
    · exact isSome_derive?_of_le hrange
    · intro hover
      by_contra hreturns
      have hfits := not_le.1 (mt hnone.2 hreturns)
      have hslack := mul_le_mul_of_nonneg_left slack_pow_le hvalue
      have hge := hnear.ge
      linarith

/-- One record of the greatest total that there is. -/
def oneOfMany (elapsed : Duration) : Sample := ⟨⟨1, 1, 0, 0⟩, 2 ^ 64 - 1, elapsed⟩

/-- After half a second the time that is left is a duration, after two seconds it is none. -/
theorem derive?_oneOfMany :
    (derive? (oneOfMany ⟨0, 500000000⟩)).isSome = true ∧ derive? (oneOfMany ⟨2, 0⟩) = none := by
  have hhalf := derive?_fails_iff_over_limit (s := oneOfMany ⟨0, 500000000⟩)
    ⟨by decide, by decide, ⟨by decide, by decide⟩⟩
  have htwo := derive?_fails_iff_over_limit (s := oneOfMany ⟨2, 0⟩)
    ⟨by decide, by decide, ⟨by decide, by decide⟩⟩
  refine ⟨hhalf.2.1 ?_, htwo.2.2 ?_⟩
  · norm_num [exactSecondsLeft, oneOfMany, Duration.exactSeconds]
  · norm_num [exactSecondsLeft, oneOfMany, Duration.exactSeconds]

/-- A sample with all counters in their ranges, from which no stats are derived. -/
theorem derive?_oneOfMany_fails :
    InRange (oneOfMany ⟨2, 0⟩) ∧
      (oneOfMany ⟨2, 0⟩).counts.success + (oneOfMany ⟨2, 0⟩).counts.failed +
        (oneOfMany ⟨2, 0⟩).counts.skipped = (oneOfMany ⟨2, 0⟩).counts.processed ∧
      derive? (oneOfMany ⟨2, 0⟩) = none :=
  ⟨⟨by decide, by decide, ⟨by decide, by decide⟩⟩, rfl, by decide +kernel⟩

end Stats
end RecordFlow
