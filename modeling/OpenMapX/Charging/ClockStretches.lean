import OpenMapX.Charging.TariffCost

/-!
# The clock between two cuts

The times of the day are in the order of their texts, and between two cuts of a
session the station's clock passes no edge of a window.
-/

namespace OpenMapX.Charging.ClockStretches

open Foundation.JsText Foundation.Stretches Foundation.TextOrder TariffCost List Int

/-- A time of the day, `24:00` included. -/
def IsClock (text : String) : Prop := ∃ minute ≤ 1440, text = clockText minute

theorem digit_units (digit : ℕ) (below : digit < 10) : codeUnitsOf (digitChar digit) = [48 + digit] := by
  interval_cases digit <;> rfl

theorem clock_units (minute : ℕ) (inDay : minute ≤ 1440) :
    codeUnits (clockText minute) = [48 + minute / 600, 48 + minute / 60 % 10, 58,
      48 + minute % 60 / 10, 48 + minute % 10] := by
  have mark : codeUnitsOf ':' = [58] := rfl
  unfold codeUnits clockText
  rw [String.toList_ofList]
  simp only [flatMap_cons, flatMap_nil, mark]
  rw [digit_units _ (by omega), digit_units _ (by omega), digit_units _ (by omega),
    digit_units _ (by omega)]
  rfl

theorem clock_digits (minute : ℕ) :
    minute = 600 * (minute / 600) + 60 * (minute / 60 % 10) + 10 * (minute % 60 / 10)
        + minute % 10 ∧ minute / 60 % 10 < 10 ∧ minute % 60 / 10 < 6 ∧ minute % 10 < 10 := by
  have tens : minute / 600 = minute / 60 / 10 := (Nat.div_div_eq_div_mul minute 60 10).symm
  omega

theorem clock_text_le {first second : ℕ} (firstDay : first ≤ 1440) (secondDay : second ≤ 1440) :
    textLe (clockText first) (clockText second) = true ↔ first ≤ second := by
  unfold textLe
  rw [clock_units first firstDay, clock_units second secondDay, decide_eq_true_iff]
  rw [← not_lt]
  simp only [cons_lt_cons_iff, and_false, or_false, lt_self_iff_false, false_or, true_and]
  have firstDigits := clock_digits first
  have secondDigits := clock_digits second
  generalize first / 600 = a at *
  generalize first / 60 % 10 = b at *
  generalize first % 60 / 10 = c at *
  generalize first % 10 = d at *
  generalize second / 600 = e at *
  generalize second / 60 % 10 = f at *
  generalize second % 60 / 10 = g at *
  generalize second % 10 = h at *
  omega

theorem empty_text_le (text : String) : textLe "" text = true := by
  have units : codeUnits "" = [] := rfl
  unfold textLe
  rw [units, decide_eq_true_iff]
  exact not_lt.mp (not_lt_nil _)

theorem digit_of (digit : ℕ) (below : digit < 10) : digitOf (48 + digit) = some (digit : ℚ) := by
  unfold digitOf
  rw [if_pos (by omega)]
  push_cast
  ring_nf

theorem number_of_digits (tens ones : ℕ) (tensBelow : tens < 10) (onesBelow : ones < 10) :
    numberOf [48 + tens, 48 + ones] = some (10 * tens + ones : ℚ) := by
  have seen : ∀ digit, digit < 10 → isWhiteSpace (48 + digit) = false := by
    intro digit below
    interval_cases digit <;> rfl
  unfold numberOf
  simp only [filter_cons, filter_nil, seen tens tensBelow, seen ones onesBelow,
    Bool.not_false, if_true]
  have plus : '+'.toNat = 43 := rfl
  have minus : '-'.toNat = 45 := rfl
  have point : '.'.toNat = 46 := rfl
  rw [plus, minus, point, if_neg (by omega), if_neg (by omega), if_neg (by omega),
    if_neg (by omega), digit_of tens tensBelow, digit_of ones onesBelow]
  rfl

theorem minutes_of_clock (minute : ℕ) (inDay : minute ≤ 1440) :
    minutesOf (clockText minute) = some (minute : ℚ) := by
  unfold minutesOf
  rw [clock_units minute inDay]
  dsimp only [List.take, List.drop]
  rw [number_of_digits _ _ (by omega) (by omega), number_of_digits _ _ (by omega) (by omega)]
  simp only [Option.bind_some, Option.map_some, Option.some.injEq]
  have whole : (10 * (minute / 600) + minute / 60 % 10) * 60
      + (10 * (minute % 60 / 10) + minute % 10) = minute := by
    omega
  exact_mod_cast congrArg (fun value : ℕ => (value : ℚ)) whole

section

variable {K : Type} [Field K] [LinearOrder K] [IsStrictOrderedRing K] [FloorRing K]

def minutesAt (session : Session K) (share : K) : ℤ := ⌊share * session.chargeSeconds / (60 : ℕ)⌋

omit [IsStrictOrderedRing K] in
theorem minutes_at_floor (session : Session K) (share : K) :
    minutesAt session share = ⌊share * session.chargeSeconds / 60⌋ := by
  unfold minutesAt
  rw [Nat.cast_ofNat]

def clockAt (session : Session K) (share : K) : ℤ :=
  session.arrivalLocal.minute + minutesAt session share

theorem minute_of_day_int (minutes : ℤ) : minuteOfDay (minutes : ℚ) = ((minutes % 1440 : ℤ) : ℚ) := by
  have floor : ⌊(minutes : ℚ) / 1440⌋ = minutes / 1440 := by
    have cast := Rat.floor_intCast_div_natCast minutes 1440
    exact_mod_cast cast
  unfold minuteOfDay
  rw [floor]
  have parts := emod_add_mul_ediv minutes 1440
  have same : minutes % 1440 = minutes - 1440 * (minutes / 1440) := by omega
  rw [same]
  push_cast
  ring

section

variable (elements : List (TariffElement K)) (session : Session K)

theorem pass_is_cut (edge at_ : ℤ) (listed : (edge : ℚ) ∈ clockEdges elements) (later : 0 < at_)
    (before : (at_ : K) < session.chargeSeconds / 60)
    (shows : (session.arrivalLocal.minute + at_ - edge) % 1440 = 0) :
    (at_ : K) / (session.chargeSeconds / 60) ∈ clockCuts elements session := by
  have running : 0 < session.chargeSeconds / 60 := lt_trans (by exact_mod_cast later) before
  let first : ℤ := (edge - session.arrivalLocal.minute) % 1440
  have firstBelow : first < 1440 := emod_lt_of_pos _ (by decide)
  have firstAbove : 0 ≤ first := emod_nonneg _ (by decide)
  have pass : at_ = first + 1440 * (at_ / 1440) := by
    have same : at_ % 1440 = first := by
      show at_ % 1440 = (edge - session.arrivalLocal.minute) % 1440
      omega
    omega
  have turns : 0 ≤ at_ / 1440 := by omega
  unfold clockCuts
  simp only [Nat.cast_ofNat]
  rw [if_pos running]
  apply mem_flatMap.mpr
  refine ⟨(edge : ℚ), listed, ?_⟩
  have start : minuteOfDay ((edge : ℚ) - (session.arrivalLocal.minute : ℚ)) = (first : ℚ) := by
    have cast : ((edge : ℚ) - (session.arrivalLocal.minute : ℚ)) =
        ((edge - session.arrivalLocal.minute : ℤ) : ℚ) := by push_cast; ring
    rw [cast, minute_of_day_int]
  rw [start]
  apply mem_map.mpr
  refine ⟨(at_ : K), ?_, rfl⟩
  apply mem_filter.mpr
  refine ⟨?_, by simpa using later⟩
  unfold passesOf
  simp only [Nat.cast_ofNat, Nat.cast_mul]
  apply mem_map.mpr
  refine ⟨(at_ / 1440).toNat, ?_, ?_⟩
  · rw [mem_range, lt_toNat]
    rw [toNat_of_nonneg turns, lt_ceil, lt_div_iff₀ (by norm_num)]
    have cast : (at_ : K) = (first : K) + 1440 * ((at_ / 1440 : ℤ) : K) := by
      exact_mod_cast congrArg (fun value : ℤ => (value : K)) pass
    have firstCast : (((first : ℤ) : ℚ) : K) = (first : K) := by norm_cast
    rw [firstCast]
    linarith
  · have turn : (((at_ / 1440).toNat : ℕ) : K) = ((at_ / 1440 : ℤ) : K) := by
      exact_mod_cast congrArg (fun value : ℤ => (value : K)) (toNat_of_nonneg turns)
    rw [turn]
    have cast := congrArg (fun value : ℤ => (value : K)) pass.symm
    push_cast at cast ⊢
    exact cast

theorem same_turn (edge : ℤ)
    (listed : (edge : ℚ) ∈ clockEdges elements) {start cut first second : K}
    (avoids : Avoids (clockCuts elements session) start cut) (opens : 0 ≤ start) (ends : cut ≤ 1)
    (firstAfter : start < first) (order : first ≤ second) (secondBefore : second < cut) :
    (clockAt session first - edge) / 1440 = (clockAt session second - edge) / 1440 := by
  have grows : minutesAt session first ≤ minutesAt session second := by
    rw [minutes_at_floor, minutes_at_floor]
    apply floor_le_floor
    apply div_le_div_of_nonneg_right _ (by norm_num)
    exact mul_le_mul_of_nonneg_right order session.nonneg
  by_contra apart
  let at_ : ℤ := edge + 1440 * ((clockAt session second - edge) / 1440)
    - session.arrivalLocal.minute
  have reached : minutesAt session first < at_ ∧ at_ ≤ minutesAt session second := by
    show minutesAt session first < edge + 1440 * ((clockAt session second - edge) / 1440)
        - session.arrivalLocal.minute ∧
      edge + 1440 * ((clockAt session second - edge) / 1440) - session.arrivalLocal.minute ≤
        minutesAt session second
    unfold clockAt at apart ⊢
    omega
  have started : 0 ≤ minutesAt session first := by
    rw [minutes_at_floor]
    apply Int.floor_nonneg.mpr
    apply div_nonneg _ (by norm_num)
    exact mul_nonneg (le_trans opens (le_of_lt firstAfter)) session.nonneg
  have later : 0 < at_ := by omega
  have reachedSecond : (at_ : K) ≤ second * session.chargeSeconds / 60 :=
    le_trans (by rw [← minutes_at_floor]; exact_mod_cast reached.2) (floor_le _)
  have passedFirst : first * session.chargeSeconds / 60 < (at_ : K) := by
    have next := lt_floor_add_one (first * session.chargeSeconds / 60)
    have whole : minutesAt session first + 1 ≤ at_ := reached.1
    rw [minutes_at_floor] at whole
    have cast : ((⌊first * session.chargeSeconds / 60⌋ : ℤ) : K) + 1 ≤ (at_ : K) := by
      exact_mod_cast whole
    linarith
  have positive : (0 : K) < at_ := by exact_mod_cast later
  have running : 0 < session.chargeSeconds := by
    rcases lt_or_eq_of_le session.nonneg with running | still
    · exact running
    · rw [← still, mul_zero, zero_div] at reachedSecond
      exact absurd positive (not_lt_of_ge reachedSecond)
  have span : 0 < session.chargeSeconds / 60 := div_pos running (by norm_num)
  have inSession : (at_ : K) < session.chargeSeconds / 60 := by
    have ended : second < 1 := lt_of_lt_of_le secondBefore ends
    have shorter : second * session.chargeSeconds < 1 * session.chargeSeconds :=
      mul_lt_mul_of_pos_right ended running
    have quotient : second * session.chargeSeconds / 60 < session.chargeSeconds / 60 := by
      rw [one_mul] at shorter
      exact div_lt_div_of_pos_right shorter (by norm_num)
    exact lt_of_le_of_lt reachedSecond quotient
  have shows : (session.arrivalLocal.minute + at_ - edge) % 1440 = 0 := by
    show (session.arrivalLocal.minute + (edge + 1440 *
      ((clockAt session second - edge) / 1440) - session.arrivalLocal.minute) - edge) % 1440 = 0
    omega
  cases avoids _ (pass_is_cut elements session edge at_ listed later inSession shows) with
  | inl early =>
    rw [div_le_iff₀ span] at early
    have below : start * (session.chargeSeconds / 60) < first * (session.chargeSeconds / 60) :=
      mul_lt_mul_of_pos_right firstAfter span
    rw [mul_div_assoc] at passedFirst
    linarith
  | inr late =>
    rw [le_div_iff₀ span] at late
    have below : second * (session.chargeSeconds / 60) < cut * (session.chargeSeconds / 60) :=
      mul_lt_mul_of_pos_right secondBefore span
    rw [mul_div_assoc] at reachedSecond
    linarith

end

end

end OpenMapX.Charging.ClockStretches
