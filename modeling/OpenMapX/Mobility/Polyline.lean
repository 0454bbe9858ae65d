import Mathlib

/-!
# Encoded polylines

Coordinates as differences of rounded numbers, each in groups of five bits. A string is the list
of its code units. A difference is shifted and put together in 32 bits and comes back exactly if
it has 31.
-/

namespace OpenMapX.Mobility.Polyline

open List

def toInt32 (x : ℤ) : ℤ := (x + 2 ^ 31) % 2 ^ 32 - 2 ^ 31

/-- The groups that are left, each as a code unit: `0x20 |` marks all but the last. -/
def encodeGroups (remaining : ℤ) : List ℕ :=
  if 0x20 ≤ remaining then (0x20 + remaining % 0x20 + 63).toNat :: encodeGroups (remaining / 2 ^ 5)
  else [((remaining + 63) % 2 ^ 16).toNat]
termination_by remaining.toNat
decreasing_by omega

def remainingOf (value : ℤ) : ℤ :=
  if value < 0 then -toInt32 (value * 2) - 1 else toInt32 (value * 2)

def encodeSignedValue (value : ℤ) : List ℕ := encodeGroups (remainingOf value)

/-- Longitude and latitude, by `Math.round`. -/
def roundedAt (precision : ℕ) (coord : ℚ × ℚ) : ℤ × ℤ :=
  (⌊coord.1 * 10 ^ precision + 1 / 2⌋, ⌊coord.2 * 10 ^ precision + 1 / 2⌋)

def encodeFrom (precision : ℕ) : ℤ × ℤ → List (ℚ × ℚ) → List ℕ
  | _, [] => []
  | previous, coord :: coords =>
    let rounded := roundedAt precision coord
    encodeSignedValue (rounded.2 - previous.2) ++ (encodeSignedValue (rounded.1 - previous.1) ++
      encodeFrom precision rounded coords)

def encodePolyline (coords : List (ℚ × ℚ)) (precision : ℕ) : List ℕ :=
  encodeFrom precision (0, 0) coords

/-- The word that the groups make, and the code units after it. After the last code unit there
is no number, which adds no bits and ends the loop. -/
def readValue (shift value : ℕ) : List ℕ → ℕ × List ℕ
  | [] => (value, [])
  | code :: rest =>
    let byte : ℤ := code - 63
    -- the count of a shift is taken modulo 32
    let added := value ||| (byte % 0x20).toNat <<< (shift % 32) % 2 ^ 32
    if 0x20 ≤ byte then readValue (shift + 5) added rest else (added, rest)

/-- The difference in a word; `~` where the lowest bit is set. -/
def signedValue (value : ℕ) : ℤ :=
  if value % 2 = 1 then -(toInt32 value / 2) - 1 else toInt32 value / 2

theorem read_length (chars : List ℕ) : ∀ shift value,
    (readValue shift value chars).2.length ≤ chars.length - 1 := by
  induction chars with
  | nil => exact fun _ _ => le_rfl
  | cons code rest ih =>
    intro shift value
    rw [readValue]
    split
    · exact (ih _ _).trans (by simp)
    · simp

def decodeFrom (precision : ℕ) (lat lng : ℤ) : List ℕ → List (ℚ × ℚ)
  | [] => []
  | code :: rest =>
    let first := readValue 0 0 (code :: rest)
    let second := readValue 0 0 first.2
    let nextLat := lat + signedValue first.1
    let nextLng := lng + signedValue second.1
    (nextLng / 10 ^ precision, nextLat / 10 ^ precision) ::
      decodeFrom precision nextLat nextLng second.2
termination_by chars => chars.length
decreasing_by
  have after := read_length (readValue 0 0 (code :: rest)).2 0 0
  have before := read_length (code :: rest) 0 0
  rw [length_cons] at before ⊢
  omega

def decodePolyline (encoded : List ℕ) (precision : ℕ) : List (ℚ × ℚ) :=
  decodeFrom precision 0 0 encoded

def Fits (difference : ℤ) : Prop := -2 ^ 30 ≤ difference ∧ difference < 2 ^ 30

def StepFits (previous rounded : ℤ × ℤ) : Prop :=
  Fits (rounded.1 - previous.1) ∧ Fits (rounded.2 - previous.2)

def atPrecision (precision : ℕ) (rounded : ℤ × ℤ) : ℚ × ℚ :=
  (rounded.1 / 10 ^ precision, rounded.2 / 10 ^ precision)

theorem signed_fits (value : ℕ) : Fits (signedValue value) := by
  unfold signedValue toInt32 Fits
  split <;> omega

theorem remaining_word {difference : ℤ} (fits : Fits difference) :
    ∃ word : ℕ, remainingOf difference = word ∧ word < 2 ^ 31 ∧ signedValue word = difference := by
  obtain ⟨low, high⟩ := fits
  refine ⟨(remainingOf difference).toNat, ?_, ?_, ?_⟩
  · unfold remainingOf toInt32
    split <;> omega
  · unfold remainingOf toInt32
    split <;> omega
  · unfold signedValue remainingOf toInt32
    split <;> split <;> omega

theorem groups_of (word : ℕ) : encodeGroups word =
    if 32 ≤ word then (32 + word % 32 + 63) :: encodeGroups (word / 32 : ℕ) else [word + 63] := by
  rw [encodeGroups]
  by_cases more : 32 ≤ word
  · rw [if_pos more, if_pos (by omega)]
    congr 1
  · rw [if_neg more, if_neg (by omega)]
    congr 1
    omega

theorem or_group {shift value group : ℕ} (low : value < 2 ^ shift) (count : shift < 32)
    (room : group * 2 ^ shift < 2 ^ 32) :
    value ||| group <<< (shift % 32) % 2 ^ 32 = group * 2 ^ shift + value := by
  rw [Nat.mod_eq_of_lt count, Nat.shiftLeft_eq, Nat.mod_eq_of_lt room, Nat.or_comm, Nat.mul_comm,
    ← Nat.two_pow_add_eq_or_of_lt low]

theorem read_groups (rest : List ℕ) (word : ℕ) : ∀ shift value, value < 2 ^ shift → shift < 32 →
    word * 2 ^ shift + value < 2 ^ 31 →
    readValue shift value (encodeGroups word ++ rest) = (word * 2 ^ shift + value, rest) := by
  induction word using Nat.strongRecOn with
  | ind word ih =>
    intro shift value low count room
    have group : word % 32 * 2 ^ shift ≤ word * 2 ^ shift :=
      Nat.mul_le_mul_right _ (Nat.mod_le word 32)
    rw [groups_of]
    split
    · rename_i more
      have least : 32 * 2 ^ shift ≤ word * 2 ^ shift := Nat.mul_le_mul_right _ more
      have next : 2 ^ (shift + 5) = 32 * 2 ^ shift := by ring
      have count' : shift + 5 < 31 := by
        apply (Nat.pow_lt_pow_iff_right (by decide : 1 < 2)).mp
        omega
      have part : word % 32 * 2 ^ shift ≤ 31 * 2 ^ shift := Nat.mul_le_mul_right _ (by omega)
      have whole : word / 32 * (32 * 2 ^ shift) + word % 32 * 2 ^ shift = word * 2 ^ shift := by
        conv_rhs => rw [← Nat.div_add_mod word 32]
        ring
      have byte : (((32 + word % 32 + 63 : ℕ) : ℤ) - 63) % 32 = (word % 32 : ℕ) := by omega
      rw [cons_append, readValue]
      rw [if_pos (by omega), byte, Int.toNat_natCast, or_group low count (by omega),
        ih (word / 32) (by omega) (shift + 5) _ (by omega) (by omega) (by rw [next]; omega), next,
        ← Nat.add_assoc, whole]
    · rename_i last
      have byte : (((word + 63 : ℕ) : ℤ) - 63) % 32 = word := by omega
      rw [singleton_append, readValue]
      rw [if_neg (by omega), byte, Int.toNat_natCast, or_group low count (by omega)]

theorem read_encoded {difference : ℤ} (fits : Fits difference) (rest : List ℕ) :
    ∃ word, readValue 0 0 (encodeSignedValue difference ++ rest) = (word, rest) ∧
      signedValue word = difference := by
  obtain ⟨word, remaining, bound, same⟩ := remaining_word fits
  refine ⟨word, ?_, same⟩
  rw [encodeSignedValue, remaining, read_groups rest word 0 0 (by decide) (by decide) (by omega)]
  simp

theorem encoded_nonempty (value : ℤ) : encodeSignedValue value ≠ [] := by
  unfold encodeSignedValue encodeGroups
  split <;> exact cons_ne_nil _ _

theorem decode_step {precision : ℕ} {lat lng : ℤ} {chars} (more : chars ≠ []) :
    decodeFrom precision lat lng chars =
      let first := readValue 0 0 chars
      let second := readValue 0 0 first.2
      atPrecision precision (lng + signedValue second.1, lat + signedValue first.1) ::
        decodeFrom precision (lat + signedValue first.1) (lng + signedValue second.1) second.2 := by
  cases chars with
  | nil => exact absurd rfl more
  | cons code rest =>
    rw [decodeFrom]
    simp [atPrecision]

theorem decode_encoded (precision : ℕ) (coords : List (ℚ × ℚ)) : ∀ previous : ℤ × ℤ,
    (previous :: coords.map (roundedAt precision)).IsChain StepFits →
    decodeFrom precision previous.2 previous.1 (encodeFrom precision previous coords) =
      (coords.map (roundedAt precision)).map (atPrecision precision) := by
  induction coords with
  | nil =>
    intro previous _
    rw [encodeFrom, decodeFrom]
    rfl
  | cons coord coords ih =>
    intro previous steps
    obtain ⟨⟨lngFits, latFits⟩, more⟩ := isChain_cons_cons.mp steps
    rw [encodeFrom]
    rw [decode_step (append_ne_nil_of_left_ne_nil (encoded_nonempty _) _)]
    obtain ⟨first, readFirst, latStep⟩ := read_encoded latFits _
    obtain ⟨second, readSecond, lngStep⟩ := read_encoded lngFits _
    dsimp only
    rw [readFirst]
    dsimp only
    rw [readSecond]
    dsimp only
    rw [latStep, lngStep, add_sub_cancel, add_sub_cancel, ih _ more]
    rfl

theorem scaled_inj (precision : ℕ) {here there}
    (same : atPrecision precision here = atPrecision precision there) : here = there := by
  have factor : (10 : ℚ) ^ precision ≠ 0 := by positivity
  obtain ⟨lng, lat⟩ := Prod.mk.inj same
  exact Prod.ext (Int.cast_inj.mp ((div_left_inj' factor).mp lng))
    (Int.cast_inj.mp ((div_left_inj' factor).mp lat))

theorem decoded_steps (precision : ℕ) (points : List (ℤ × ℤ)) : ∀ (previous : ℤ × ℤ) chars,
    decodeFrom precision previous.2 previous.1 chars = points.map (atPrecision precision) →
    (previous :: points).IsChain StepFits := by
  induction points with
  | nil => exact fun previous _ _ => List.IsChain.singleton previous
  | cons point points ih =>
    intro previous chars decoded
    have more : chars ≠ [] := by
      rintro rfl
      rw [decodeFrom] at decoded
      cases decoded
    rw [decode_step more] at decoded
    obtain ⟨here, later⟩ := List.cons.inj decoded
    obtain rfl := scaled_inj precision here
    apply isChain_cons_cons.mpr
    refine ⟨⟨?_, ?_⟩, ih _ _ later⟩
    · rw [add_sub_cancel_left]
      exact signed_fits _
    · rw [add_sub_cancel_left]
      exact signed_fits _

/-- Coordinates come back rounded exactly if each step, from the origin on, fits. -/
theorem decode_encode_iff (precision : ℕ) (coords : List (ℚ × ℚ)) :
    decodePolyline (encodePolyline coords precision) precision =
        coords.map (fun coord => atPrecision precision (roundedAt precision coord)) ↔
      ((0, 0) :: coords.map (roundedAt precision)).IsChain StepFits := by
  have mapped : coords.map (fun coord => atPrecision precision (roundedAt precision coord)) =
      (coords.map (roundedAt precision)).map (atPrecision precision) := by
    rw [map_map]
    rfl
  rw [mapped]
  exact ⟨decoded_steps precision _ (0, 0) _, decode_encoded precision coords (0, 0)⟩

/-- One point at 108 degrees east, with seven decimals. -/
theorem east_not_decoded :
    decodePolyline (encodePolyline [(108, 0)] 7) 7 ≠ [atPrecision 7 (roundedAt 7 (108, 0))] := by
  intro decoded
  have steps := decoded_steps 7 [roundedAt 7 (108, 0)] (0, 0) _ decoded
  have fits := (isChain_cons_cons.mp steps).1.1.2
  revert fits
  decide +kernel

end OpenMapX.Mobility.Polyline
