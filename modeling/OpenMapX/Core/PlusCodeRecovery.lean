import OpenMapX.Core.PlusCode

/-!
# Short plus codes

A short code is completed with the first four characters of the code of a
reference location. These name the degree that the reference lies in, so the
place is found again exactly when it lies in the same degree.
-/

namespace OpenMapX.Core.PlusCodeRecovery

open Foundation.DigitLadder PlusCode

def rebase (reference ds : List ℤ) : List ℤ := reference.take 2 ++ ds.drop 2

theorem rebase_digits {reference ds} (known : Digits reference) (digits : Digits ds) :
    Digits (rebase reference ds) := by
  constructor
  · simp [rebase, known.1, digits.1]
  · intro d member
    rcases List.mem_append.mp member with first | later
    · exact known.2 d (List.mem_of_mem_take first)
    · exact digits.2 d (List.mem_of_mem_drop later)

theorem recover_code (upper : UpperCase) {ds es} (lat : Digits ds) (lng : Digits es)
    (ref : LngLat) (valid : ref.Valid) :
    recoverShortPlusCode upper (shortenPlusCode (withPlus (interleave ds es))) ref =
      some (withPlus (interleave (rebase (latDigits ref) ds) (rebase (lngDigits ref) es))) := by
  have letters := interleave_mem lat.2 lng.2
  have known := computePlusCode_eq valid.1 valid.2
  have lat_known : (latDigits ref).length = 5 := length_digits _ _
  have lng_known : (lngDigits ref).length = 5 := length_digits _ _
  generalize latDigits ref = lat_ref at known lat_known ⊢
  generalize lngDigits ref = lng_ref at known lng_known ⊢
  match ds, es, lat_ref, lng_ref, lat.1, lng.1, lat_known, lng_known with
  | [_, _, d, e, f], [_, _, g, h, i], [a, b, _, _, _], [j, k, _, _, _], _, _, _, _ =>
    simp only [interleave, List.mem_cons, List.not_mem_nil, or_false] at letters
    have shorted : normalize upper ([letter d, letter g, letter e, letter h] ++
        '+' :: [letter f, letter i]) =
        [letter d, letter g, letter e, letter h] ++ '+' :: [letter f, letter i] :=
      normalize_code upper fun c member => by
        simp only [List.cons_append, List.nil_append, List.mem_cons, List.not_mem_nil,
          or_false] at member ⊢
        grind
    have plus : ([letter d, letter g, letter e, letter h] ++ '+' :: [letter f, letter i]).idxOf?
        '+' = some 4 :=
      idxOf_plus (fun c member => by
        simp only [List.mem_cons, List.not_mem_nil, or_false] at member
        grind) _
    have shortened : ∀ k l m n : ℤ,
        shortenPlusCode (withPlus (interleave [k, l, d, e, f] [m, n, g, h, i])) =
          [letter d, letter g, letter e, letter h] ++ '+' :: [letter f, letter i] :=
      fun _ _ _ _ => rfl
    simp only [recoverShortPlusCode, shortened, shorted, plus, known]
    rfl

theorem digitsOf_head (value : ℚ) :
    (digitsOf value).take 2 = [⌊value / 20⌋, ⌊value⌋ - ⌊value / 20⌋ * 20] := by
  have second : ⌊(value - ⌊value / 20⌋ * 20) / 1⌋ = ⌊value⌋ - ⌊value / 20⌋ * 20 := by
    rw [div_one]
    exact_mod_cast Int.floor_sub_intCast value (⌊value / 20⌋ * 20)
  simp only [digitsOf, pairResolutions, digits, List.take_succ_cons, List.take_zero, second]

theorem valueOf_rebase (value reference : ℚ) :
    valueOf pairResolutions (rebase (digitsOf reference) (digitsOf value)) =
      valueOf pairResolutions (digitsOf value) + (⌊reference⌋ - ⌊value⌋ : ℤ) := by
  have split := List.take_append_drop 2 (digitsOf value)
  rw [rebase, digitsOf_head reference]
  nth_rewrite 2 [← split]
  rw [digitsOf_head value]
  simp only [pairResolutions, valueOf, List.cons_append, List.nil_append]
  push_cast
  ring

theorem recovers_iff_same_degree (upper : UpperCase) (place ref : LngLat) (valid : place.Valid)
    (known : ref.Valid) : decodeShortPlusCode upper (shortenPlusCode (computePlusCode place)) ref =
        decodePlusCode upper (computePlusCode place) ↔
      ⌊place.lat⌋ = ⌊ref.lat⌋ ∧ ⌊place.lng⌋ = ⌊ref.lng⌋ := by
  have lat := abs_le.mp valid.1
  have lng := abs_le.mp valid.2
  have lat_known := abs_le.mp known.1
  have lng_known := abs_le.mp known.2
  have lat_digits : Digits (latDigits place) := digitsOf_digits (by linarith) (by linarith)
  have lng_digits : Digits (lngDigits place) := digitsOf_digits (by linarith) (by linarith)
  have lat_first : Digits (latDigits ref) := digitsOf_digits (by linarith) (by linarith)
  have lng_first : Digits (lngDigits ref) := digitsOf_digits (by linarith) (by linarith)
  have recovered := recover_code upper lat_digits lng_digits ref known
  rw [← computePlusCode_eq valid.1 valid.2] at recovered
  rw [decode_compute upper place valid, decodeShortPlusCode, recovered]
  simp only
  rw [decode_code upper (rebase_digits lat_first lat_digits) (rebase_digits lng_first lng_digits),
    Option.some_inj]
  have lat_floor : ⌊ref.lat + 90⌋ - ⌊place.lat + 90⌋ = ⌊ref.lat⌋ - ⌊place.lat⌋ := by
    have shift : ∀ x : ℚ, ⌊x + 90⌋ = ⌊x⌋ + 90 :=
      fun x => by exact_mod_cast Int.floor_add_intCast x 90
    rw [shift, shift]
    ring
  have lng_floor : ⌊ref.lng + 180⌋ - ⌊place.lng + 180⌋ = ⌊ref.lng⌋ - ⌊place.lng⌋ := by
    have shift : ∀ x : ℚ, ⌊x + 180⌋ = ⌊x⌋ + 180 :=
      fun x => by exact_mod_cast Int.floor_add_intCast x 180
    rw [shift, shift]
    ring
  simp only [centre, latDigits, lngDigits, valueOf_rebase, lat_floor, lng_floor, LngLat.mk.injEq]
  constructor
  · rintro ⟨same_lng, same_lat⟩
    have lat_zero : ((⌊ref.lat⌋ - ⌊place.lat⌋ : ℤ) : ℚ) = 0 := by linarith
    have lng_zero : ((⌊ref.lng⌋ - ⌊place.lng⌋ : ℤ) : ℚ) = 0 := by linarith
    rw [Int.cast_eq_zero] at lat_zero lng_zero
    omega
  · rintro ⟨same_lat, same_lng⟩
    rw [same_lat, same_lng]
    simp

theorem recovers_nearby : decodeShortPlusCode asciiUpper
        (shortenPlusCode (computePlusCode { lng := 67 / 5, lat := 263 / 5 }))
        { lng := 66 / 5, lat := 262 / 5 } =
      decodePlusCode asciiUpper (computePlusCode { lng := 67 / 5, lat := 263 / 5 }) := by
  refine (recovers_iff_same_degree asciiUpper { lng := 67 / 5, lat := 263 / 5 }
    { lng := 66 / 5, lat := 262 / 5 } ?_ ?_).mpr ?_
  · norm_num [LngLat.Valid, abs_of_pos]
  · norm_num [LngLat.Valid, abs_of_pos]
  · norm_num

/-- Across a degree line the code is read a whole degree away. -/
theorem lost_across_degree : |(519 / 10 : ℚ) - 521 / 10| < 1 / 2 ∧ decodeShortPlusCode asciiUpper
          (shortenPlusCode (computePlusCode { lng := 67 / 5, lat := 519 / 10 }))
          { lng := 67 / 5, lat := 521 / 10 } ≠
        decodePlusCode asciiUpper (computePlusCode { lng := 67 / 5, lat := 519 / 10 }) := by
  constructor
  · norm_num
  · decide +kernel

end OpenMapX.Core.PlusCodeRecovery
