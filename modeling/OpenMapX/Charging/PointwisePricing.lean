import OpenMapX.Charging.ElementStretches

/-!
# Pointwise pricing

What a session is charged by energy or time is the integral of the price at each
instant, and it has no cost where its base price covers only part of it or nothing is
charged.
-/

namespace OpenMapX.Charging.PointwisePricing

open MeasureTheory Foundation.Stretches TariffCost ClockStretches ElementStretches List

section

variable (tariff : EnergyTariff ℝ) (session : Session ℝ)

noncomputable def sessionRate (c : PlacedComponent ℝ) : ℝ :=
  match c.component.type with
  | .energy => c.component.price * gross tariff c.component * session.addedKwh
  | .time => c.component.price * gross tariff c.component * (session.chargeSeconds / (3600 : ℕ))
  | _ => 0

/-- The price of the first element that applies at an instant, for the whole session. -/
noncomputable def priceAt (type : ComponentType) (share : ℝ) : ℝ :=
  rateOf (sessionRate tariff session) (firstAt tariff session type share)

def unpriced (type : ComponentType) : Set ℝ :=
  {share | share ∈ Set.Icc (0 : ℝ) 1 ∧ firstAt tariff session type share = none}

def Stepless : Prop :=
  ∀ element ∈ tariff.elements, ∀ c ∈ element.components, ∀ step, c.stepSize = some step → step ≤ 0

def ByStretch (type : ComponentType) : Prop := type = .energy ∨ type = .time

theorem cuts_real : ∃ cut rest, cutsFrom (cutPoints tariff session) = 0 :: cut :: rest ∧
    endOf 0 (cut :: rest) = 1 ∧ (0 :: cut :: rest).Pairwise (· < ·) ∧
    (ClockWindows tariff → ∀ type, Steady (componentAt tariff session type) 0 (cut :: rest)) := by
  obtain ⟨cut, rest, cuts, last⟩ := cuts_ends
    (show (0 : ℝ) ∈ cutPoints tariff session from mem_cons_self)
    (show (1 : ℝ) ∈ cutPoints tariff session by simp [cutPoints])
  have sorted := cuts_sorted (cutPoints tariff session)
  have chain := cuts_chain (cutPoints tariff session)
  rw [cuts] at sorted chain
  refine ⟨cut, rest, cuts, end_of_last _ 0 1 last, sorted, ?_⟩
  intro windows type
  exact steady_of_chain (fun start cut between =>
    first_steady tariff session windows type between.2.1 between.2.2.1 between.2.2.2) _ 0 chain

variable {type : ComponentType} {c : PlacedComponent ℝ}

theorem first_at_type {tariff session} {share : ℝ}
    (found : firstAt tariff session type share = some c) :
    c.component.type = type ∧ ∃ element ∈ tariff.elements, c.component ∈ element.components ∧
      appliesNow session element share = true := by
  have type_ := find?_some found
  have member := mem_of_find?_eq_some found
  obtain ⟨entry, applies, among⟩ := mem_flatMap.mp member
  obtain ⟨listed, now⟩ := mem_filter.mp applies
  obtain ⟨placed, inside, rfl⟩ := mem_map.mp among
  exact ⟨of_decide_eq_true type_, entry.1, fst_mem_of_mem_zipIdx listed,
    fst_mem_of_mem_zipIdx inside, now⟩

theorem stepless_charge (stepless : Stepless tariff) (byStretch : ByStretch type) {entry}
    (typed : entry.1.component.type = type)
    (listed : ∃ element ∈ tariff.elements, entry.1.component ∈ element.components) :
    (chargeOf tariff session entry).amount = sessionRate tariff session entry.1 * entry.2 := by
  obtain ⟨element, member, among⟩ := listed
  have plain : ∀ quantity : ℝ, billed quantity entry.1.component.stepSize = quantity := by
    intro quantity
    unfold billed
    cases steps : entry.1.component.stepSize with
    | none => rfl
    | some step => exact if_pos (stepless element member _ among step steps)
  unfold chargeOf quantityOf sessionRate
  rcases byStretch with energy | time
  · rw [typed, energy]
    dsimp only
    rw [plain]
    ring
  · rw [typed, time]
    dsimp only
    rw [plain]
    ring

theorem charges_integral (windows : ClockWindows tariff) (stepless : Stepless tariff)
    (byStretch : ByStretch type) (charges : List (Charge ℝ))
    (charged : chargeType tariff session (cutsFrom (cutPoints tariff session)) type =
      some charges) :
    (charges.map Charge.amount).sum = ∫ share in (0 : ℝ)..1, priceAt tariff session type share := by
  obtain ⟨cut, rest, cuts, ends, sorted, steady⟩ := cuts_real tariff session
  have notFlat : ¬ (type = .flat ∨ type = .session) := by
    rcases byStretch with energy | time
    · rw [energy]; decide
    · rw [time]; decide
  unfold chargeType at charged
  rw [if_neg notFlat, cuts] at charged
  dsimp only at charged
  split at charged
  · cases charged
  · cases charged
    have typed := @take_stretches_values _ _ _ _
      (fun c => c.component.type = type ∧
        ∃ element ∈ tariff.elements, c.component ∈ element.components)
      (componentAt tariff session type)
      (fun share c found => by
        rw [component_at_first] at found
        have known := first_at_type found
        obtain ⟨element, member, among, _⟩ := known.2
        exact ⟨known.1, element, member, among⟩)
      (cut :: rest) 0 noShares (fun entry none_ => by cases none_)
    have total := (weigh_stretches (sessionRate tariff session) (componentAt tariff session type)
      (cut :: rest) 0 noShares sorted (steady windows type)).2
    rw [ends] at total
    have sum : ((sharesOf (componentAt tariff session type) (0 :: cut :: rest)).entries.map
        (chargeOf tariff session)).map Charge.amount =
        (sharesOf (componentAt tariff session type) (0 :: cut :: rest)).entries.map
          fun entry => sessionRate tariff session entry.1 * entry.2 := by
      rw [map_map]
      apply map_congr_left
      intro entry member
      exact stepless_charge tariff session stepless byStretch (typed entry member).1
        (typed entry member).2
    have price : ∀ share, rateOf (sessionRate tariff session)
        (componentAt tariff session type share) = priceAt tariff session type share := by
      intro share
      rw [component_at_first]
      rfl
    simp only [price] at total
    rw [sum]
    unfold weigh at total
    simpa [noShares, sharesOf] using total

theorem uncovered_unpriced (windows : ClockWindows tariff) (type : ComponentType) :
    (sharesOf (componentAt tariff session type)
        (cutsFrom (cutPoints tariff session))).uncovered = true ↔
      0 < volume (unpriced tariff session type) := by
  obtain ⟨cut, rest, cuts, ends, sorted, steady⟩ := cuts_real tariff session
  have open_ := uncovered_iff (componentAt tariff session type) (cut :: rest) 0 noShares sorted
    (steady windows type)
  rw [ends] at open_
  rw [cuts]
  have closed : 0 < volume {share | share ∈ Set.Ioc (0 : ℝ) 1 ∧
      componentAt tariff session type share = none} ↔
      0 < volume (unpriced tariff session type) := by
    have same : {share | share ∈ Set.Ioc (0 : ℝ) 1 ∧
        componentAt tariff session type share = none} =ᵐ[volume] unpriced tariff session type := by
      have ends := @Ioc_ae_eq_Icc ℝ _ volume _ _ 0 1
      filter_upwards [ends] with share both
      apply propext
      have there : share ∈ Set.Ioc (0 : ℝ) 1 ↔ share ∈ Set.Icc (0 : ℝ) 1 := iff_of_eq both
      show (share ∈ Set.Ioc (0 : ℝ) 1 ∧ componentAt tariff session type share = none) ↔
        (share ∈ Set.Icc (0 : ℝ) 1 ∧ firstAt tariff session type share = none)
      rw [there, component_at_first]
    rw [measure_congr same]
  rw [← closed]
  show (takeStretches (componentAt tariff session type) 0 (cut :: rest) noShares).uncovered = true ↔ _
  rw [open_]
  simp [noShares]

theorem first_priced {tariff session} {share : ℝ}
    (found : firstAt tariff session type share = some c) : priced tariff session type = true := by
  obtain ⟨typed, element, member, among, now⟩ := first_at_type found
  have eligible : eligibleFor element session = true := by
    unfold appliesNow at now
    rw [Bool.and_eq_true] at now
    have matching := now.2
    unfold appliesAt tariffMatches at matching
    cases restricted : element.restrictions with
    | none =>
      unfold eligibleFor
      rw [restricted]
    | some r =>
      rw [restricted] at matching
      dsimp only at matching
      repeat' split at matching
      all_goals first
        | cases matching
        | exact matching
  unfold priced
  apply any_eq_true.mpr
  refine ⟨element, member, ?_⟩
  rw [Bool.and_eq_true]
  exact ⟨eligible, any_eq_true.mpr ⟨c.component, among, by simpa using typed⟩⟩

theorem spanned_element {session : Session ℝ} {entry : TariffElement ℝ × ℕ}
    {e : SpannedElement ℝ} (found : spanned entry session = some e) : e.element = entry.1 := by
  unfold spanned at found
  split at found
  · split at found
    · cases found
      rfl
    · cases found
  · cases found

theorem arrival_listed {tariff : EnergyTariff ℝ} {session : Session ℝ}
    (found : componentOnArrival tariff session type = some c) :
    c.component.type = type ∧ ∃ element ∈ tariff.elements, c.component ∈ element.components := by
  have typed := find?_some found
  obtain ⟨e, applies, among⟩ := mem_flatMap.mp (mem_of_find?_eq_some found)
  obtain ⟨entry, listed, taken⟩ := mem_filterMap.mp (mem_filter.mp applies).1
  obtain ⟨placed, inside, rfl⟩ := mem_map.mp among
  refine ⟨of_decide_eq_true typed, entry.1, fst_mem_of_mem_zipIdx listed, ?_⟩
  rw [spanned_element taken] at inside
  exact fst_mem_of_mem_zipIdx inside

/-- No energy and no time is priced by an element that the session can use, and on arrival
no fee is due. -/
structure NothingCharged : Prop where
  base : baseType tariff session = none
  flat : componentOnArrival tariff session .flat = none
  fee : componentOnArrival tariff session .session = none

theorem charges_over_cases (cuts : List ℝ) (energy time)
    (ofEnergy : chargeType tariff session cuts .energy = energy)
    (ofTime : chargeType tariff session cuts .time = time) :
    chargesOver tariff session cuts = energy.bind fun energy => time.map fun time =>
      energy ++ (time ++ (((componentOnArrival tariff session .flat).map fun c =>
            ({ component := c, amount := c.component.price * gross tariff c.component } :
              Charge ℝ)).toList ++
          ((componentOnArrival tariff session .session).map fun c =>
            ({ component := c, amount := c.component.price * gross tariff c.component } :
              Charge ℝ)).toList)) := by
  have flat : chargeType tariff session cuts .flat =
      some ((componentOnArrival tariff session .flat).map fun c =>
        ({ component := c, amount := c.component.price * gross tariff c.component } :
          Charge ℝ)).toList := by
    unfold chargeType
    exact if_pos (Or.inl rfl)
  have fee : chargeType tariff session cuts .session =
      some ((componentOnArrival tariff session .session).map fun c =>
        ({ component := c, amount := c.component.price * gross tariff c.component } :
          Charge ℝ)).toList := by
    unfold chargeType
    exact if_pos (Or.inr rfl)
  unfold chargesOver COSTED
  simp only [mapM_cons, mapM_nil, ofEnergy, ofTime, flat, fee]
  cases energy with
  | none => rfl
  | some energy =>
    cases time with
    | none => rfl
    | some time => simp

theorem cost_none_iff (charges : List (Charge ℝ)) : costOf tariff charges = none ↔ charges = [] := by
  cases charges with
  | nil => simp [costOf]
  | cons main rest => simp [costOf]

theorem charge_type_stretch {cuts} (byStretch : ByStretch type) :
    chargeType tariff session cuts type =
      if (sharesOf (componentAt tariff session type) cuts).uncovered = true ∧
          baseType tariff session = some type then none
      else some ((sharesOf (componentAt tariff session type) cuts).entries.map
        (chargeOf tariff session)) := by
  unfold chargeType
  rcases byStretch with energy | time
  · rw [energy, if_neg (by decide)]
  · rw [time, if_neg (by decide)]

theorem baseless_charges (base : baseType tariff session = none) (cuts : List ℝ)
    (byStretch : ByStretch type) : chargeType tariff session cuts type = some [] := by
  have unpriced_ : priced tariff session type = false := by
    unfold baseType at base
    cases energy : priced tariff session .energy with
    | true =>
      rw [energy, if_pos rfl] at base
      cases base
    | false =>
      cases time : priced tariff session .time with
      | true =>
        rw [energy, time] at base
        cases base
      | false =>
        rcases byStretch with same | same
        · rw [same, energy]
        · rw [same, time]
  have never : ∀ share, componentAt tariff session type share = none := by
    intro share
    rw [component_at_first]
    cases found : firstAt tariff session type share with
    | none => rfl
    | some c =>
      rw [first_priced found] at unpriced_
      cases unpriced_
  rw [charge_type_stretch tariff session byStretch, base, if_neg (by simp)]
  have empty : (sharesOf (componentAt tariff session type) cuts).entries = [] := by
    cases cuts with
    | nil => rfl
    | cons start rest => exact valueless_entries _ never rest start noShares
  rw [empty]
  rfl

theorem cost_missing_iff (windows : ClockWindows tariff) : costOn tariff session = none ↔
      (∃ base, baseType tariff session = some base ∧ 0 < volume (unpriced tariff session base)) ∨
        NothingCharged tariff session := by
  obtain ⟨cut, rest, cuts, ends, sorted, steady⟩ := cuts_real tariff session
  have unfolded : costOn tariff session =
      (chargesOver tariff session (cutsFrom (cutPoints tariff session))).bind (costOf tariff) := rfl
  rw [unfolded]
  cases base : baseType tariff session with
  | none =>
    have charges := charges_over_cases tariff session (cutsFrom (cutPoints tariff session)) _ _
      (baseless_charges tariff session base _ (Or.inl rfl))
      (baseless_charges tariff session base _ (Or.inr rfl))
    rw [charges]
    simp only [Option.bind_some, Option.map_some, nil_append]
    rw [cost_none_iff]
    apply Iff.intro
    · intro empty
      apply Or.inr
      have parts := append_eq_nil_iff.mp empty
      exact {
        base := base
        flat := by simpa using parts.1
        fee := by simpa using parts.2 }
    · intro either
      rcases either with based | nothing
      · obtain ⟨_, impossible, _⟩ := based
        cases impossible
      · rw [nothing.flat, nothing.fee]; rfl
  | some type =>
    have byStretch : ByStretch type := by
      unfold baseType at base
      split at base
      · exact Or.inl (Option.some.inj base).symm
      · split at base
        · exact Or.inr (Option.some.inj base).symm
        · cases base
    have open_ := uncovered_unpriced tariff session windows type
    have right : ((∃ other, some type = some other ∧
        0 < volume (unpriced tariff session other)) ∨ NothingCharged tariff session) ↔
        0 < volume (unpriced tariff session type) := by
      apply Iff.intro
      · intro either
        rcases either with based | nothing
        · obtain ⟨other, same, part⟩ := based
          cases same
          exact part
        · rw [nothing.base] at base
          cases base
      · intro part
        exact Or.inl ⟨type, rfl, part⟩
    rw [right, ← open_]
    cases uncovered : (sharesOf (componentAt tariff session type)
        (cutsFrom (cutPoints tariff session))).uncovered with
    | true =>
      have none_ : chargeType tariff session (cutsFrom (cutPoints tariff session)) type =
          none := by
        rw [charge_type_stretch tariff session byStretch, if_pos ⟨uncovered, base⟩]
      apply iff_of_true _ rfl
      rcases byStretch with energy | time
      · rw [energy] at none_
        rw [charges_over_cases tariff session _ _ _ none_ rfl]
        rfl
      · rw [time] at none_
        rw [charges_over_cases tariff session _ _ _ rfl none_]
        cases chargeType tariff session (cutsFrom (cutPoints tariff session)) .energy <;> rfl
    | false =>
      have covered : (sharesOf (componentAt tariff session type)
          (cutsFrom (cutPoints tariff session))).entries ≠ [] := by
        rw [cuts] at uncovered ⊢
        exact covered_nonempty _ _ _ _ uncovered
      have paid : ∀ other, ByStretch other → ∃ charges,
          chargeType tariff session (cutsFrom (cutPoints tariff session)) other =
            some charges ∧ (other = type → charges ≠ []) := by
        intro other stretches
        have notBoth : ¬ ((sharesOf (componentAt tariff session other)
            (cutsFrom (cutPoints tariff session))).uncovered = true ∧
            baseType tariff session = some other) := by
          intro both
          rw [base] at both
          cases both.2
          rw [uncovered] at both
          cases both.1
        refine ⟨_, by rw [charge_type_stretch tariff session stretches, if_neg notBoth], ?_⟩
        intro same
        rw [same]
        simpa using covered
      obtain ⟨energy, ofEnergy, energyPaid⟩ := paid .energy (Or.inl rfl)
      obtain ⟨time, ofTime, timePaid⟩ := paid .time (Or.inr rfl)
      rw [charges_over_cases tariff session _ _ _ ofEnergy ofTime]
      simp only [Option.bind_some, Option.map_some]
      rw [cost_none_iff]
      apply iff_of_false _ (by decide)
      intro empty
      have parts := append_eq_nil_iff.mp empty
      rcases byStretch with same | same
      · exact energyPaid same.symm parts.1
      · exact timePaid same.symm (append_eq_nil_iff.mp parts.2).1

theorem tariff_priced_pointwise (windows : ClockWindows tariff) :
    ((cutsFrom (cutPoints tariff session)).IsChain fun start cut => ∀ element ∈ tariff.elements,
        (∀ share, start < share → share < cut → appliesNow session element share = true) ∨
          (∀ share, start < share → share < cut → appliesNow session element share = false)) ∧
    (∀ extra, costOver tariff session (cutPoints tariff session ++ extra) = costOn tariff session) ∧
    (Stepless tariff → ∀ type, ByStretch type → ∀ charges,
      chargeType tariff session (cutsFrom (cutPoints tariff session)) type = some charges →
      (charges.map Charge.amount).sum = ∫ share in (0 : ℝ)..1, priceAt tariff session type share) ∧
    (costOn tariff session = none ↔
      (∃ base, baseType tariff session = some base ∧ 0 < volume (unpriced tariff session base)) ∨
        NothingCharged tariff session) := by
  refine ⟨?_, cost_refined tariff session windows, ?_, cost_missing_iff tariff session windows⟩
  · apply (cuts_chain (cutPoints tariff session)).imp
    intro start cut between element member
    have steady : ∀ first second, start < first ∧ first < cut → start < second ∧ second < cut →
        appliesNow session element first = appliesNow session element second :=
      fun first second => element_steady windows member between.2.1 between.2.2.1 between.2.2.2
    have inside : start < middle start cut ∧ middle start cut < cut :=
      ⟨middle_after between.1, middle_before between.1⟩
    cases applies : appliesNow session element (middle start cut) with
    | true =>
      left
      intro share after before
      rw [steady share _ ⟨after, before⟩ inside, applies]
    | false =>
      right
      intro share after before
      rw [steady share _ ⟨after, before⟩ inside, applies]
  · intro stepless type byStretch charges charged
    exact charges_integral tariff session windows stepless byStretch charges charged

end

section

variable (K : Type) [Field K] [LinearOrder K] [IsStrictOrderedRing K]

def evening : Session K where
  powerKw := (10 : ℕ)
  arrivalLocal := { day := 20000, minute := 1260, inDay := by decide }
  addedKwh := (20 : ℕ)
  chargeSeconds := (7200 : ℕ)
  maxAmperage := none
  nonneg := Nat.cast_nonneg 7200

variable {K}

def priceOf (type : ComponentType) (price : ℕ) : Component K where
  type := type
  price := price
  vatPct := none
  stepSize := none

def fromTime (startTime : String) : EnergyTariffRestrictions K where
  startTime := some startTime
  endTime := none
  startDate := none
  endDate := none
  days := none
  minKwh := none
  maxKwh := none
  minCurrentA := none
  maxCurrentA := none
  minPowerKw := none
  maxPowerKw := none
  minDurationSec := none
  maxDurationSec := none
  reservation := none

def tariffOf (elements : List (TariffElement K)) : EnergyTariff K where
  id := "t"
  currency := "EUR"
  type := none
  elements := elements
  minPrice := none
  maxPrice := none
  priceIncludesVat := true

def nightTariff (startTime : String) : EnergyTariff K :=
  tariffOf [⟨[priceOf .energy 3], some (fromTime startTime)⟩, ⟨[priceOf .energy 5], none⟩]

def parkingTariff : EnergyTariff K := tariffOf [⟨[priceOf .parking_time 1], none⟩]

theorem night_windows : ClockWindows (nightTariff "22:00" : EnergyTariff ℝ) := by
  intro element member r restricted text edge
  simp only [nightTariff, tariffOf, mem_cons, not_mem_nil, or_false] at member
  rcases member with rfl | rfl
  · cases restricted
    have known : present (some "22:00") = some "22:00" := by decide
    rcases edge with opens | closes
    · have same := Option.some.inj (known.symm.trans opens)
      exact ⟨1320, by decide, same.symm.trans (by decide +kernel)⟩
    · cases closes
  · cases restricted

/-- The night rate begins at ten. -/
theorem night_priced_pointwise : (∀ extra, costOver (nightTariff "22:00") (evening ℝ)
        (cutPoints (nightTariff "22:00") (evening ℝ) ++ extra) =
      costOn (nightTariff "22:00") (evening ℝ)) ∧
    (∀ charges, chargeType (nightTariff "22:00") (evening ℝ)
        (cutsFrom (cutPoints (nightTariff "22:00") (evening ℝ))) .energy = some charges →
      (charges.map Charge.amount).sum =
        ∫ share in (0 : ℝ)..1, priceAt (nightTariff "22:00") (evening ℝ) .energy share) := by
  have priced := tariff_priced_pointwise (nightTariff "22:00") (evening ℝ) night_windows
  apply And.intro priced.2.1
  apply priced.2.2.1
  · intro element member c among step billed_
    simp only [nightTariff, tariffOf, mem_cons, not_mem_nil, or_false] at member
    rcases member with rfl | rfl <;>
      simp only [mem_cons, not_mem_nil, or_false] at among <;>
      rw [among] at billed_ <;> cases billed_
  · exact Or.inl rfl

/-- A window that starts with a second has no cut where it starts, and a tariff that prices
nothing a session pays for has no base type, but no cost either. -/
theorem seconds_and_parking : ((1 / 2 : ℚ) ∈ cutPoints (nightTariff "22:00:30") (evening ℚ) ∧
      (1 : ℚ) ∈ cutPoints (nightTariff "22:00:30") (evening ℚ) ∧
      (∀ point ∈ cutPoints (nightTariff "22:00:30") (evening ℚ), point ≤ 1 / 2 ∨ 1 ≤ point) ∧
      appliesNow (evening ℚ) ⟨[priceOf .energy 3], some (fromTime "22:00:30")⟩ (121 / 240) = false ∧
      appliesNow (evening ℚ) ⟨[priceOf .energy 3], some (fromTime "22:00:30")⟩ (3 / 4) = true) ∧
    (costOn parkingTariff (evening ℝ) = none ∧ baseType parkingTariff (evening ℝ) = none) := by
  have windows : ClockWindows (parkingTariff : EnergyTariff ℝ) := by
    intro element member r restricted
    rw [mem_singleton.mp member] at restricted
    cases restricted
  have base : baseType parkingTariff (evening ℝ) = none := by
    simp [baseType, priced, parkingTariff, tariffOf, priceOf]
  have unpaid : ∀ type, type ≠ .parking_time →
      componentOnArrival parkingTariff (evening ℝ) type = none := by
    intro type other
    cases found : componentOnArrival parkingTariff (evening ℝ) type with
    | none => rfl
    | some c =>
      obtain ⟨typed, element, member, among⟩ := arrival_listed found
      rw [mem_singleton.mp member] at among
      rw [mem_singleton.mp among] at typed
      exact absurd typed.symm other
  have nothing : NothingCharged parkingTariff (evening ℝ) := {
    base := base
    flat := unpaid .flat (by decide)
    fee := unpaid .session (by decide) }
  refine ⟨⟨?_, ?_, ?_, ?_, ?_⟩, (cost_missing_iff _ _ windows).mpr (Or.inr nothing), base⟩
  all_goals decide +kernel

end

end OpenMapX.Charging.PointwisePricing
