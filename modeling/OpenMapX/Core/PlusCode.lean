import OpenMapX.Foundation.DigitLadder
import OpenMapX.Foundation.JsText

/-!
# Plus codes

A code interleaves the digits of a latitude and a longitude at five
resolutions. Decoding gives the centre of the cell. The round trip is lost at
the pole and at the antimeridian, where the cell lies outside the globe.
-/

namespace OpenMapX.Core.PlusCode

open Foundation.DigitLadder Foundation.JsText List Int

structure LngLat where
  lng : ℚ
  lat : ℚ
  deriving DecidableEq

def alphabet : List Char :=
  ['2', '3', '4', '5', '6', '7', '8', '9', 'C', 'F', 'G', 'H', 'J', 'M', 'P', 'Q', 'R', 'V', 'W',
    'X']

def pairResolutions : List ℚ := [20, 1, 5 / 100, 25 / 10000, 125 / 1000000]

/-- `toUpperCase`, which leaves the characters of a code as they are. -/
structure UpperCase where
  map : Char → List Char
  fixed : ∀ c ∈ '+' :: alphabet, map c = [c]

def asciiUpper : UpperCase where
  map c := [c.toUpper]
  fixed := by simp [alphabet]

def letter (digit : ℤ) : Char := alphabet.getD digit.toNat '2'

def encodeLoop : List ℚ → ℚ → ℚ → List Char
  | [], _, _ => []
  | res :: rest, latVal, lngVal =>
    let latDigit := tmod ⌊latVal / res⌋ 20
    let lngDigit := tmod ⌊lngVal / res⌋ 20
    letter latDigit :: letter lngDigit ::
      encodeLoop rest (latVal - latDigit * res) (lngVal - lngDigit * res)

def clip (bound x : ℚ) : ℚ := max (-bound) (min bound x)

def computePlusCode (place : LngLat) : List Char :=
  let code := encodeLoop pairResolutions (clip 90 place.lat + 90) (clip 180 place.lng + 180)
  code.take 8 ++ '+' :: code.drop 8

def shortenPlusCode (fullCode : List Char) : List Char := fullCode.drop 4

def normalize (upper : UpperCase) (code : List Char) : List Char :=
  (code.filter fun c => !isWhiteSpace c.toNat).flatMap upper.map

def decodeLoop : List ℚ → List Char → ℚ → ℚ → LngLat
  | res :: rest, lat :: lng :: digits, latLow, lngLow =>
    decodeLoop rest digits (latLow + alphabet.idxOf lat * res) (lngLow + alphabet.idxOf lng * res)
  | _, _, latLow, lngLow => { lng := lngLow, lat := latLow }

def decodePlusCode (upper : UpperCase) (code : List Char) : Option LngLat :=
  let normalized := normalize upper code
  match normalized.idxOf? '+' with
  | none => none
  | some plusIdx =>
    let area := normalized.take plusIdx
    let suffix := normalized.drop (plusIdx + 1)
    if area.length ≠ 8 ∨ suffix.length < 2 then none
    else
      let digits := area ++ suffix.take 2
      if digits.all fun ch => alphabet.contains ch then
        let low := decodeLoop pairResolutions digits 0 0
        let res := pairResolutions.getD 4 0
        some { lng := low.lng - 180 + res / 2, lat := low.lat - 90 + res / 2 }
      else none

def recoverShortPlusCode (upper : UpperCase) (shortCode : List Char) (ref : LngLat) :
    Option (List Char) :=
  let c := normalize upper shortCode
  match c.idxOf? '+' with
  | none => none
  | some plusIdx =>
    let shortPrefix := c.take plusIdx
    if shortPrefix.length ≠ 4 ∧ shortPrefix.length ≠ 6 then none
    else
      let refCode := computePlusCode ref
      let missingChars := 8 - shortPrefix.length
      some (refCode.take missingChars ++ shortPrefix ++ '+' :: c.drop (plusIdx + 1))

def decodeShortPlusCode (upper : UpperCase) (code : List Char) (refLngLat : LngLat) :
    Option LngLat :=
  match recoverShortPlusCode upper code refLngLat with
  | none => none
  | some fullCode => decodePlusCode upper fullCode

theorem resolutions_ladder : Ladder 20 pairResolutions := by
  norm_num [Ladder, pairResolutions]

theorem finest_resolution : finest pairResolutions = 1 / 8000 := by
  norm_num [finest, pairResolutions]

def digitsOf (value : ℚ) : List ℤ := digits pairResolutions value

def latDigits (place : LngLat) : List ℤ := digitsOf (place.lat + 90)

def lngDigits (place : LngLat) : List ℤ := digitsOf (place.lng + 180)

def interleave : List ℤ → List ℤ → List Char
  | d :: ds, e :: es => letter d :: letter e :: interleave ds es
  | _, _ => []

def Digits (ds : List ℤ) : Prop := ds.length = 5 ∧ ∀ d ∈ ds, 0 ≤ d ∧ d < 20

theorem digitsOf_digits {value : ℚ} (nonneg : 0 ≤ value) (below : value < 400) :
    Digits (digitsOf value) := by
  constructor
  · exact length_digits _ _
  · exact digits_range (by norm_num) resolutions_ladder nonneg
      (by simpa [coarsest, pairResolutions] using (by linarith : value < 20 * 20))

theorem letter_mem {d : ℤ} (nonneg : 0 ≤ d) (below : d < 20) : letter d ∈ alphabet := by
  interval_cases d <;> decide

theorem letter_index {d : ℤ} (nonneg : 0 ≤ d) (below : d < 20) :
    (alphabet.idxOf (letter d) : ℚ) = d := by
  interval_cases d <;> rfl

theorem encodeLoop_eq {ladder} (steps : Ladder 20 ladder) {lat lng : ℚ}
    (lat_nonneg : 0 ≤ lat) (lat_below : lat < (20 : ℕ) * coarsest ladder) (lng_nonneg : 0 ≤ lng)
    (lng_below : lng < (20 : ℕ) * coarsest ladder) :
    encodeLoop ladder lat lng = interleave (digits ladder lat) (digits ladder lng) := by
  induction ladder generalizing lat lng with
  | nil => rfl
  | cons r rest ih =>
    have positive : 0 < r := coarsest_pos (by norm_num) steps
    -- The remainder never changes a digit, the value being in range.
    have whole : ∀ v : ℚ, 0 ≤ v → v < (20 : ℕ) * r → tmod ⌊v / r⌋ 20 = ⌊v / r⌋ := by
      intro v nonneg below
      have top := digit_lt positive below
      exact tmod_eq_of_lt (Int.floor_nonneg.mpr (div_nonneg nonneg positive.le))
        (by omega)
    rw [encodeLoop, digits, digits, interleave]
    simp only [whole lat lat_nonneg lat_below, whole lng lng_nonneg lng_below]
    cases rest with
    | nil => rfl
    | cons s rest =>
      have lat_rest := rest_bounds positive lat
      have lng_rest := rest_bounds positive lng
      rw [ih steps.2 lat_rest.1 (lat_rest.2.trans_eq steps.1) lng_rest.1
        (lng_rest.2.trans_eq steps.1)]

theorem decodeLoop_eq (ladder : List ℚ) {ds es} (lat_digits : ∀ d ∈ ds, 0 ≤ d ∧ d < 20)
    (lng_digits : ∀ e ∈ es, 0 ≤ e ∧ e < 20) (same : ds.length = es.length) (a b : ℚ) :
    decodeLoop ladder (interleave ds es) a b =
      { lng := b + valueOf ladder es, lat := a + valueOf ladder ds } := by
  induction ladder generalizing ds es a b with
  | nil => simp [decodeLoop, valueOf]
  | cons r rest ih =>
    cases ds with
    | nil =>
      cases es with
      | nil => simp [decodeLoop, valueOf, interleave]
      | cons e es => simp at same
    | cons d ds =>
      cases es with
      | nil => simp at same
      | cons e es =>
        have lat_head := lat_digits d (by simp)
        have lng_head := lng_digits e (by simp)
        rw [interleave, decodeLoop, letter_index lat_head.1 lat_head.2,
          letter_index lng_head.1 lng_head.2,
          ih (fun x member => lat_digits x (by simp [member]))
            (fun x member => lng_digits x (by simp [member])) (by simpa using same)]
        simp only [valueOf, add_assoc]

theorem interleave_mem {ds es} (lat_digits : ∀ d ∈ ds, 0 ≤ d ∧ d < 20)
    (lng_digits : ∀ e ∈ es, 0 ≤ e ∧ e < 20) : ∀ c ∈ interleave ds es, c ∈ alphabet := by
  induction ds generalizing es with
  | nil => simp [interleave]
  | cons d ds ih =>
    cases es with
    | nil => simp [interleave]
    | cons e es =>
      have lat_head := lat_digits d (by simp)
      have lng_head := lng_digits e (by simp)
      intro c member
      rcases mem_cons.mp member with rfl | member
      · exact letter_mem lat_head.1 lat_head.2
      rcases mem_cons.mp member with rfl | member
      · exact letter_mem lng_head.1 lng_head.2
      exact ih (fun x here => lat_digits x (by simp [here]))
        (fun x here => lng_digits x (by simp [here])) c member

theorem normalize_code (upper : UpperCase) {code}
    (letters : ∀ c ∈ code, c ∈ '+' :: alphabet) : normalize upper code = code := by
  have visible : ∀ c ∈ '+' :: alphabet, isWhiteSpace c.toNat = false := by
    simp [alphabet, isWhiteSpace]
  induction code with
  | nil => rfl
  | cons c code ih =>
    have here := letters c (by simp)
    have inner := ih fun x member => letters x (by simp [member])
    rw [normalize] at inner ⊢
    rw [filter_cons_of_pos (by simp [visible c here]), flatMap_cons, inner,
      upper.fixed c here]
    rfl

def withPlus (code : List Char) : List Char := code.take 8 ++ '+' :: code.drop 8

theorem computePlusCode_eq {place : LngLat} (lat : |place.lat| ≤ 90) (lng : |place.lng| ≤ 180) :
    computePlusCode place = withPlus (interleave (latDigits place) (lngDigits place)) := by
  rw [abs_le] at lat lng
  have lat_clip : clip 90 place.lat = place.lat := by simp [clip, lat.1, lat.2]
  have lng_clip : clip 180 place.lng = place.lng := by simp [clip, lng.1, lng.2]
  have top : ((20 : ℕ) : ℚ) * coarsest pairResolutions = 400 := by
    norm_num [coarsest, pairResolutions]
  rw [computePlusCode, lat_clip, lng_clip, encodeLoop_eq resolutions_ladder]
  · rfl
  · linarith [lat.1]
  · linarith [lat.2]
  · linarith [lng.1]
  · linarith [lng.2]

theorem idxOf_plus {area} (letters : ∀ c ∈ area, c ∈ alphabet) (rest : List Char) :
    (area ++ '+' :: rest).idxOf? '+' = some area.length := by
  induction area with
  | nil => rfl
  | cons c area ih =>
    have apart : c ≠ '+' := fun same => absurd (letters c (by simp)) (by rw [same]; decide)
    have inner := ih fun x member => letters x (by simp [member])
    rw [cons_append, idxOf?_cons, inner]
    simp [apart]

def centre (ds es : List ℤ) : LngLat :=
  { lng := valueOf pairResolutions es - 180 + 1 / 16000
    lat := valueOf pairResolutions ds - 90 + 1 / 16000 }

theorem length_interleave {ds es} (lat : ds.length = 5) (lng : es.length = 5) :
    (interleave ds es).length = 10 := by
  match ds, es, lat, lng with
  | [_, _, _, _, _], [_, _, _, _, _], _, _ => rfl

theorem decode_code (upper : UpperCase) {ds es} (lat : Digits ds) (lng : Digits es) :
    decodePlusCode upper (withPlus (interleave ds es)) = some (centre ds es) := by
  have letters := interleave_mem lat.2 lng.2
  have size := length_interleave lat.1 lng.1
  have loop := decodeLoop_eq pairResolutions lat.2 lng.2 (lat.1.trans lng.1.symm) 0 0
  generalize interleave ds es = code at letters size loop
  have area : (code.take 8).length = 8 := by simp [size]
  have plus : (withPlus code).idxOf? '+' = some 8 := by
    rw [withPlus, idxOf_plus fun c member => letters c (mem_of_mem_take member), area]
  have seen : ∀ c ∈ withPlus code, c ∈ '+' :: alphabet := by
    intro c member
    rcases mem_append.mp member with before | after
    · exact mem_cons_of_mem _ (letters c (mem_of_mem_take before))
    · rcases mem_cons.mp after with rfl | after
      · exact mem_cons_self
      · exact mem_cons_of_mem _ (letters c (mem_of_mem_drop after))
  have front : (withPlus code).take 8 = code.take 8 := take_left' area
  have back : (withPlus code).drop 9 = code.drop 8 := by
    rw [withPlus, drop_append, area, drop_eq_nil_of_le (by simp [size])]
    rfl
  have tail : (code.drop 8).take 2 = code.drop 8 := take_of_length_le (by simp [size])
  have accepted : (code.all fun ch => alphabet.contains ch) = true := by
    rw [all_eq_true]
    intro c member
    simpa using letters c member
  simp only [decodePlusCode, normalize_code upper seen, plus, front, back, tail,
    take_append_drop, accepted, if_true, loop]
  rw [if_neg (by simp [size])]
  simp only [centre, zero_add]
  norm_num [pairResolutions]

def LngLat.Valid (place : LngLat) : Prop := |place.lat| ≤ 90 ∧ |place.lng| ≤ 180

/-- The decoded centre is a place on the globe, within half a cell, and has the same code. -/
def RoundTrips (upper : UpperCase) (place : LngLat) : Prop :=
  ∃ found, decodePlusCode upper (computePlusCode place) = some found ∧ found.Valid ∧
    |found.lat - place.lat| ≤ 1 / 16000 ∧
    (∃ turns : ℤ, |found.lng - place.lng + 360 * turns| ≤ 1 / 16000) ∧
    computePlusCode found = computePlusCode place

theorem digits_of_end : valueOf pairResolutions (digitsOf 180) = 180 ∧
    valueOf pairResolutions (digitsOf 360) = 360 := by
  constructor <;> norm_num [digitsOf, digits, valueOf, pairResolutions]

theorem digitsOf_bounds (value : ℚ) : valueOf pairResolutions (digitsOf value) ≤ value ∧
      value < valueOf pairResolutions (digitsOf value) + 1 / 8000 := by
  rw [← finest_resolution]
  exact value_bounds (by norm_num) resolutions_ladder value

theorem digitsOf_eq {value other : ℚ} (nonneg : 0 ≤ value) (below : value < 400)
    (lower : valueOf pairResolutions (digitsOf value) ≤ other)
    (upper : other < valueOf pairResolutions (digitsOf value) + 1 / 8000) :
    digitsOf other = digitsOf value := by
  have top : ((20 : ℕ) : ℚ) * coarsest pairResolutions = 400 := by
    norm_num [coarsest, pairResolutions]
  exact digits_eq (by norm_num) resolutions_ladder nonneg (by rwa [top]) lower
    (by rwa [finest_resolution])

theorem cell_end {value bound : ℚ} (nonneg : 0 ≤ value) (below : value < bound)
    (top : bound < 400) (own : valueOf pairResolutions (digitsOf bound) = bound) :
    valueOf pairResolutions (digitsOf value) + 1 / 8000 ≤ bound := by
  by_contra inside
  have bounds := digitsOf_bounds value
  have same : digitsOf bound = digitsOf value :=
    digitsOf_eq nonneg (below.trans top) (by linarith) (not_le.mp inside)
  rw [same] at own
  linarith

theorem digits_of_middle (value : ℚ) (nonneg : 0 ≤ value) (below : value < 400) :
    digitsOf (valueOf pairResolutions (digitsOf value) + 1 / 16000) = digitsOf value :=
  digitsOf_eq nonneg below (by linarith) (by linarith)

theorem decode_compute (upper : UpperCase) (place : LngLat) (valid : place.Valid) :
    decodePlusCode upper (computePlusCode place) =
      some (centre (latDigits place) (lngDigits place)) := by
  have lat := abs_le.mp valid.1
  have lng := abs_le.mp valid.2
  rw [computePlusCode_eq valid.1 valid.2]
  exact decode_code upper (digitsOf_digits (by linarith) (by linarith))
    (digitsOf_digits (by linarith) (by linarith))

theorem round_trips_iff (upper : UpperCase) (place : LngLat) (lat : |place.lat| ≤ 90)
    (lng : |place.lng| ≤ 180) : RoundTrips upper place ↔ place.lat < 90 ∧ place.lng < 180 := by
  have lat_range := abs_le.mp lat
  have lng_range := abs_le.mp lng
  have decoded := decode_compute upper place ⟨lat, lng⟩
  constructor
  · rintro ⟨found, found_eq, valid, -⟩
    rw [decoded, Option.some_inj] at found_eq
    subst found_eq
    constructor
    · by_contra pole
      have at_pole : place.lat + 90 = 180 := by linarith
      have outside := (abs_le.mp valid.1).2
      simp only [centre, latDigits, at_pole, digits_of_end.1] at outside
      linarith
    · by_contra seam
      have at_seam : place.lng + 180 = 360 := by linarith
      have outside := (abs_le.mp valid.2).2
      simp only [centre, lngDigits, at_seam, digits_of_end.2] at outside
      linarith
  · rintro ⟨lat_below, lng_below⟩
    have lat_bounds := digitsOf_bounds (place.lat + 90)
    have lng_bounds := digitsOf_bounds (place.lng + 180)
    have lat_floor : 0 ≤ valueOf pairResolutions (digitsOf (place.lat + 90)) :=
      value_nonneg (by norm_num) resolutions_ladder (by linarith)
    have lng_floor : 0 ≤ valueOf pairResolutions (digitsOf (place.lng + 180)) :=
      value_nonneg (by norm_num) resolutions_ladder (by linarith)
    have lat_end : valueOf pairResolutions (digitsOf (place.lat + 90)) + 1 / 8000 ≤ 180 :=
      cell_end (by linarith) (by linarith) (by norm_num) digits_of_end.1
    have lng_end : valueOf pairResolutions (digitsOf (place.lng + 180)) + 1 / 8000 ≤ 360 :=
      cell_end (by linarith) (by linarith) (by norm_num) digits_of_end.2
    have valid : (centre (latDigits place) (lngDigits place)).Valid := by
      constructor
      · rw [abs_le]
        simp only [centre, latDigits]
        constructor <;> linarith
      · rw [abs_le]
        simp only [centre, lngDigits]
        constructor <;> linarith
    refine ⟨_, decoded, valid, ?_, ⟨0, ?_⟩, ?_⟩
    · rw [abs_le]
      simp only [centre, latDigits]
      constructor <;> linarith
    · rw [abs_le]
      simp only [centre, lngDigits, cast_zero, mul_zero, add_zero]
      constructor <;> linarith
    · rw [computePlusCode_eq valid.1 valid.2, computePlusCode_eq lat lng]
      have same_lat : latDigits (centre (latDigits place) (lngDigits place)) =
          latDigits place := by
        refine Eq.trans ?_ (digits_of_middle (place.lat + 90) (by linarith) (by linarith))
        simp only [latDigits, centre]
        congr 1
        ring
      have same_lng : lngDigits (centre (latDigits place) (lngDigits place)) =
          lngDigits place := by
        refine Eq.trans ?_ (digits_of_middle (place.lng + 180) (by linarith) (by linarith))
        simp only [lngDigits, centre]
        congr 1
        ring
      rw [same_lat, same_lng]

theorem round_trips_home :
    RoundTrips asciiUpper { lng := 13, lat := 52 } ↔ (52 : ℚ) < 90 ∧ (13 : ℚ) < 180 :=
  round_trips_iff asciiUpper { lng := 13, lat := 52 } (by norm_num) (by norm_num)

/-- The centre decoded for the pole lies beyond it. -/
theorem pole_decoded_outside :
    |(90 : ℚ)| ≤ 90 ∧ |(0 : ℚ)| ≤ 180 ∧ ¬RoundTrips asciiUpper { lng := 0, lat := 90 } := by
  refine ⟨by norm_num, by norm_num, ?_⟩
  rintro ⟨found, found_eq, valid, -⟩
  have decoded : decodePlusCode asciiUpper (computePlusCode { lng := 0, lat := 90 }) =
      some { lng := 1 / 16000, lat := 90 + 1 / 16000 } := by
    decide +kernel
  rw [decoded, Option.some_inj] at found_eq
  have outside := (abs_le.mp valid.1).2
  rw [← found_eq] at outside
  norm_num at outside

end OpenMapX.Core.PlusCode
