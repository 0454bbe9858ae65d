import OpenMapX.Foundation.FileBytes

/-!
# Traffic speed records

The 8-byte record of one edge: its speeds are halved, a first breakpoint of zero says that
there is no live speed, and a valid record of speed zero that the edge is closed.
-/

namespace OpenMapX.Traffic.TrafficSpeed

open Foundation.FileBytes

def MAX_REAL_ENCODED_SPEED : Nat := 126

def UNKNOWN_TRAFFIC_SPEED_RAW : Nat := 127

def WHOLE_EDGE_BREAKPOINT : Nat := 255

def TRAFFIC_SPEED_RECORD_SIZE : Nat := 8

def isUnknown (kph : Option ℚ) : Bool :=
  match kph with
  | none => true
  | some speed => decide (speed < 2)

def overallEncodedSpeed (kph : Option ℚ) : Nat :=
  match kph with
  | none => UNKNOWN_TRAFFIC_SPEED_RAW
  | some speed =>
    if speed < 2 then UNKNOWN_TRAFFIC_SPEED_RAW
    else min ⌊speed / 2⌋.toNat MAX_REAL_ENCODED_SPEED

def recordValue (speed breakpoint : Nat) : Nat :=
  speed ||| speed <<< 7 ||| breakpoint <<< 28 ||| breakpoint <<< 36

def encodeTrafficSpeed (kph : Option ℚ) : List UInt8 :=
  littleEndianBytes TRAFFIC_SPEED_RECORD_SIZE
    (recordValue (overallEncodedSpeed kph) (if isUnknown kph then 0 else WHOLE_EDGE_BREAKPOINT))

def encodeClosedTrafficSpeed : List UInt8 :=
  littleEndianBytes TRAFFIC_SPEED_RECORD_SIZE (recordValue 0 WHOLE_EDGE_BREAKPOINT)

/-- `breakpoint1` of a record. -/
def breakpointOf (record : List UInt8) : Nat := (littleEndian record >>> 28) &&& 0xff

/-- `overall_encoded_speed` of a record. -/
def encodedSpeedOf (record : List UInt8) : Nat := littleEndian record &&& 0x7f

@[simp]
theorem encode_length (kph : Option ℚ) : (encodeTrafficSpeed kph).length = 8 :=
  little_endian_length _ _

@[simp]
theorem encode_closed_length : encodeClosedTrafficSpeed.length = 8 := little_endian_length _ _

theorem unknown_record {kph} (unknown : isUnknown kph = true) :
    encodeTrafficSpeed kph = encodeTrafficSpeed none := by
  cases kph with
  | none => rfl
  | some speed =>
    have slow : speed < 2 := of_decide_eq_true unknown
    simp [encodeTrafficSpeed, overallEncodedSpeed, isUnknown, slow]

theorem breakpoint_cleared : breakpointOf (encodeTrafficSpeed none) = 0 := by decide +kernel

theorem breakpoint_unknown {kph} (unknown : isUnknown kph = true) :
    breakpointOf (encodeTrafficSpeed kph) = 0 := by
  rw [unknown_record unknown]
  exact breakpoint_cleared

theorem speed_fields : ∀ speed ≤ MAX_REAL_ENCODED_SPEED,
    let record := littleEndianBytes TRAFFIC_SPEED_RECORD_SIZE
      (recordValue speed WHOLE_EDGE_BREAKPOINT)
    breakpointOf record = WHOLE_EDGE_BREAKPOINT ∧ encodedSpeedOf record = speed := by
  decide +kernel

theorem breakpoint_closed : breakpointOf encodeClosedTrafficSpeed = WHOLE_EDGE_BREAKPOINT :=
  (speed_fields 0 (Nat.zero_le _)).1

theorem speed_closed : encodedSpeedOf encodeClosedTrafficSpeed = 0 :=
  (speed_fields 0 (Nat.zero_le _)).2

theorem known_record {kph} (known : isUnknown kph = false) :
    breakpointOf (encodeTrafficSpeed kph) = WHOLE_EDGE_BREAKPOINT ∧
      encodedSpeedOf (encodeTrafficSpeed kph) = overallEncodedSpeed kph := by
  cases kph with
  | none => cases known
  | some speed =>
    have fast : ¬speed < 2 := of_decide_eq_false known
    unfold encodeTrafficSpeed
    rw [known, if_neg Bool.false_ne_true]
    apply speed_fields
    rw [overallEncodedSpeed, if_neg fast]
    exact Nat.min_le_right _ _

theorem encoded_speed_bounds {speed : ℚ} (fast : 2 ≤ speed) : 0 < overallEncodedSpeed (some speed) ∧
      ((2 * overallEncodedSpeed (some speed) : Nat) : ℚ) ≤ speed := by
  have half : (1 : ℤ) ≤ ⌊speed / 2⌋ := by
    apply Int.le_floor.mpr
    rw [Int.cast_one, le_div_iff₀ (by norm_num : (0 : ℚ) < 2)]
    linarith only [fast]
  have whole : (⌊speed / 2⌋.toNat : ℤ) = ⌊speed / 2⌋ := Int.toNat_of_nonneg (by omega)
  rw [overallEncodedSpeed, if_neg (not_lt.mpr fast)]
  apply And.intro
  · apply lt_min
    · omega
    · exact Nat.lt_of_sub_eq_succ rfl
  · have below : (⌊speed / 2⌋ : ℚ) ≤ speed / 2 := Int.floor_le _
    have cast : ((⌊speed / 2⌋.toNat : Nat) : ℚ) = (⌊speed / 2⌋ : ℚ) := by
      exact_mod_cast whole
    have smaller : ((min ⌊speed / 2⌋.toNat MAX_REAL_ENCODED_SPEED : Nat) : ℚ) ≤
        (⌊speed / 2⌋.toNat : ℚ) := by
      exact_mod_cast Nat.min_le_left _ _
    push_cast at smaller ⊢
    rw [← cast] at below
    linarith only [below, smaller]

/-- A speed is never read as a closed edge, reads as unknown exactly below 2 km/h, and else
reads as it was, rounded down to 2 km/h and capped. -/
theorem speed_read_back (kph : Option ℚ) :
    (breakpointOf (encodeTrafficSpeed kph) = 0 ↔ ∀ speed ∈ kph, speed < 2) ∧
    ∀ speed ∈ kph, 2 ≤ speed → 0 < encodedSpeedOf (encodeTrafficSpeed kph) ∧
      (2 * encodedSpeedOf (encodeTrafficSpeed kph) : ℚ) ≤ speed ∧
      (speed < 2 * encodedSpeedOf (encodeTrafficSpeed kph) + 2 ∨
        encodedSpeedOf (encodeTrafficSpeed kph) = MAX_REAL_ENCODED_SPEED) := by
  cases read : isUnknown kph with
  | true =>
    have slow : ∀ speed ∈ kph, speed < 2 := by
      rintro speed rfl
      exact of_decide_eq_true read
    exact ⟨iff_of_true (breakpoint_unknown read) slow,
      fun speed given fast => absurd (slow speed given) (not_lt.mpr fast)⟩
  | false =>
    obtain ⟨whole, same⟩ := known_record read
    obtain _ | speed := kph
    · cases read
    have fast : 2 ≤ speed := not_lt.mp (of_decide_eq_false read)
    have bounds := encoded_speed_bounds fast
    simp only [whole, same]
    refine ⟨iff_of_false (by decide) fun slow => absurd (slow speed rfl) (not_lt.mpr fast), ?_⟩
    rintro _ ⟨⟩ -
    refine ⟨bounds.1, by exact_mod_cast bounds.2, ?_⟩
    rw [overallEncodedSpeed, if_neg (not_lt.mpr fast)]
    rcases le_total ⌊speed / 2⌋.toNat MAX_REAL_ENCODED_SPEED with low | high
    · have half := Int.toNat_of_nonneg (Int.floor_nonneg.mpr (by linarith only [fast] : 0 ≤ speed / 2))
      have above := Int.lt_floor_add_one (speed / 2)
      rw [← half] at above
      push_cast at above
      rw [min_eq_left low]
      exact Or.inl (by linarith only [above])
    · exact Or.inr (min_eq_right high)

end OpenMapX.Traffic.TrafficSpeed
