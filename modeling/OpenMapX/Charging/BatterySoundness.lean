import OpenMapX.Charging.Plan

/-!
# The battery stays sound

Between zero and full at every moment of a plan, never below the arrival reserve
before a detour, and enough at the end when the plan carries no warning.
-/

namespace OpenMapX.Charging.BatterySoundness

open RunningTotals BoundedLoop Consumption Sites Plan List

variable {Tariffs : Type}

structure SoundInput (input : PlanInput) : Prop where
  battery : 0 < input.vehicle.batteryKwh
  start : 0 ≤ input.socStartKwh
  start_le : input.socStartKwh ≤ input.vehicle.batteryKwh
  arrivalMin : 0 ≤ input.socArrivalMinKwh
  consumption : 0 ≤ input.vehicle.baseWhPerKm

def NonNegativeKm (callbacks : PlanCallbacks Tariffs) : Prop :=
  ∀ call sources targets matrix row column cell,
    callbacks.requestMatrix call sources targets = some matrix →
    matrixCell matrix row column = some cell → 0 ≤ cell.km

structure SoundStop (vehicle : EvVehicleSpec) (stop : PlannedStop Tariffs) : Prop where
  arrive_nonneg : 0 ≤ stop.arriveSocKwh
  arrive_le_depart : stop.arriveSocKwh ≤ stop.departSocKwh
  depart_le_battery : stop.departSocKwh ≤ vehicle.batteryKwh
  added : stop.addedKwh = stop.departSocKwh - stop.arriveSocKwh

def detourReserve (input : PlanInput) : ℚ := input.vehicle.batteryKwh * DETOUR_RESERVE_KWH_FRAC

def approachKwh (input : PlanInput) (cell : MatrixCell) : ℚ :=
  cell.km * input.vehicle.baseWhPerKm * DETOUR_UPLIFT / 1000

/-- The matrix the callback returned has this cell from the divert point to the stop. -/
def ApproachCell (callbacks : PlanCallbacks Tariffs) (stop : PlannedStop Tariffs)
    (cell : MatrixCell) : Prop :=
  ∃ call sources targets matrix column,
    callbacks.requestMatrix call sources targets = some matrix ∧
    targets[column]? = some stop.coordinates ∧ matrixCell matrix 0 column = some cell

structure Drives (services : PlanServices Tariffs) (input : PlanInput)
    (callbacks : PlanCallbacks Tariffs) (before : LoopState) (visit : Visit Tariffs)
    (after : LoopState) : Prop where
  advances : before.startIdx < visit.divertIdx
  onProfile : visit.divertIdx < (profileOf services input).cumulativeKwh.length
  spent : visit.socAtDivert = before.soc -
    (remainingKwh (profileOf services input) before.startIdx -
      remainingKwh (profileOf services input) visit.divertIdx)
  keepsReserve : input.socArrivalMinKwh + detourReserve input ≤ visit.socAtDivert
  approach : ∃ cell, ApproachCell callbacks visit.stop cell ∧
    visit.divertEnergy = approachKwh input cell
  coversApproach : visit.divertEnergy ≤ visit.socAtDivert
  arrives : visit.stop.arriveSocKwh = visit.socAtDivert - visit.divertEnergy
  stop : SoundStop input.vehicle visit.stop
  soc : after.soc = visit.stop.departSocKwh
  index : after.startIdx = visit.divertIdx
  count : after.stopCount = before.stopCount + 1

def SoundCharge (input : PlanInput) (state : LoopState) : Prop :=
  0 ≤ state.soc ∧ state.soc ≤ input.vehicle.batteryKwh

section

variable (services : PlanServices Tariffs) (input : PlanInput) (callbacks : PlanCallbacks Tariffs)

theorem profile_ascending (sound : SoundInput input) (before after : ℕ) (le : before ≤ after)
    (bound : after < (profileOf services input).cumulativeKwh.length) :
    (profileOf services input).cumulativeKwh.getD before 0 ≤
      (profileOf services input).cumulativeKwh.getD after 0 := by
  have derate : (0 : ℚ) ≤ if input.hasElevation then 1 else 1.1 := by
    split <;> norm_num
  have ascending := route_energy_ascending services.geodesy input.route input.vehicle
    ⟨input.ambientTempC, if input.hasElevation then 1 else 1.1⟩ sound.consumption derate
  rcases Nat.eq_or_lt_of_le le with rfl | lt
  · exact le_rfl
  · have held := pairwise_iff_getElem.mp ascending before after (by
      change _ < (profileOf services input).cumulativeKwh.length
      omega) bound lt
    rw [getD_eq_getElem?_getD, getD_eq_getElem?_getD,
      getElem?_eq_getElem (by omega), getElem?_eq_getElem bound]
    exact held

theorem reach_offset_within (cumulativeKwh : List ℚ) (startIdx : ℕ) (socKwh floorKwh : ℚ)
    (advances : startIdx < startIdx + reachOffset cumulativeKwh startIdx socKwh floorKwh) :
    startIdx + reachOffset cumulativeKwh startIdx socKwh floorKwh < cumulativeKwh.length ∧
      cumulativeKwh.getD (startIdx + reachOffset cumulativeKwh startIdx socKwh floorKwh) 0 -
        cumulativeKwh.getD startIdx 0 ≤ socKwh - floorKwh := by
  obtain ⟨offset, isOffset⟩ : ∃ offset,
      reachOffset cumulativeKwh startIdx socKwh floorKwh = offset + 1 :=
    ⟨reachOffset cumulativeKwh startIdx socKwh floorKwh - 1, by omega⟩
  have counted : offset < reach (socKwh - floorKwh)
      ((cumulativeKwh.drop (startIdx + 1)).map (· - cumulativeKwh.getD startIdx 0)) := by
    rw [show reach _ _ = reachOffset cumulativeKwh startIdx socKwh floorKwh from rfl, isOffset]
    exact Nat.lt_succ_self offset
  obtain ⟨level, levelAt, within⟩ := reached_within _ _ offset counted
  rw [getElem?_map, getElem?_drop] at levelAt
  obtain ⟨total, totalAt, rfl⟩ := Option.map_eq_some_iff.mp levelAt
  have position : startIdx + (offset + 1) = startIdx + 1 + offset := by omega
  rw [isOffset, position]
  refine ⟨(List.getElem?_eq_some_iff.mp totalAt).1, ?_⟩
  rw [getD_eq_getElem?_getD, totalAt]
  exact within

theorem best_of_mem (score : Scored Tariffs → ℚ) (scored)
    (best : Scored Tariffs) (chosen : bestOf score scored = some best) : best ∈ scored := by
  cases scored with
  | nil => cases chosen
  | cons first rest =>
    obtain rfl := Option.some.inj chosen
    have kept : ∀ (rest : List (Scored Tariffs)) (held : Scored Tariffs),
        rest.foldl (fun best s => if score s < score best then s else best) held ∈
          held :: rest := by
      intro rest
      induction rest with
      | nil => intro held; exact mem_cons_self
      | cons next others ih =>
        intro held
        rw [foldl_cons]
        by_cases lower : score next < score held
        · rw [if_pos lower]
          exact mem_cons_of_mem _ (ih next)
        · rw [if_neg lower]
          rcases mem_cons.mp (ih held) with same | later
          · rw [same]
            exact mem_cons_self
          · exact mem_cons_of_mem _ (mem_cons_of_mem _ later)
    exact kept rest first

theorem scored_candidate (divert : Divert) (matrix compatible) (s : Scored Tariffs)
    (member : s ∈ scoredCandidates services input divert matrix compatible) :
    ∃ i cell, compatible[i]? = some s.candidate ∧ matrixCell matrix 0 i = some cell ∧
      s.divertEnergy = approachKwh input cell ∧
      s.reachKwh = divert.socAtDivert - s.divertEnergy ∧ 0 ≤ s.reachKwh := by
  obtain ⟨slot, slotIn, isSome⟩ := mem_filterMap.mp member
  obtain rfl : slot = some s := isSome
  obtain ⟨i, bound, isSlot⟩ := mem_mapIdx.mp slotIn
  have candidateAt := getElem?_eq_getElem bound
  generalize compatible[i] = candidate at isSlot candidateAt
  unfold scoreCandidate at isSlot
  cases toCand : matrixCell matrix 0 i with
  | none => simp [toCand] at isSlot
  | some toCell =>
    cases fromCand : matrixCell matrix (i + 1) compatible.length with
    | none => simp [toCand, fromCand] at isSlot
    | some fromCell =>
      simp only [toCand, fromCand] at isSlot
      by_cases short : divert.socAtDivert -
          toCell.km * input.vehicle.baseWhPerKm * DETOUR_UPLIFT / 1000 < 0
      · simp [short] at isSlot
      · rw [if_neg short] at isSlot
        obtain rfl := Option.some.inj isSlot
        exact ⟨i, toCell, candidateAt, toCand, rfl, rfl, not_lt.mp short⟩

theorem depart_kwh_bounds (profile : Profile) (divertIdx : ℕ) (arriveKwh : ℚ)
    (reserve : 0 ≤ profile.detourReserve) (arrive : arriveKwh ≤ input.vehicle.batteryKwh) :
    arriveKwh ≤ departKwhOf input profile divertIdx arriveKwh ∧
      departKwhOf input profile divertIdx arriveKwh ≤ input.vehicle.batteryKwh := by
  unfold departKwhOf
  constructor
  · apply le_min arrive
    exact (le_add_of_nonneg_right reserve).trans (le_max_left _ _)
  · exact min_le_left _ _

theorem choose_stop_next (profile : Profile) (state : LoopState) (divert : Divert) (candidates)
    (visit : Visit Tariffs) (later : LoopState)
    (chose : chooseStop services input callbacks profile state divert candidates =
      .next visit later) : ∃ matrix i cell chosen sources targets,
      callbacks.requestMatrix state.stopCount sources targets = some matrix ∧
      targets[i]? = some visit.stop.coordinates ∧ matrixCell matrix 0 i = some cell ∧
      chosen.divertEnergy = approachKwh input cell ∧
      chosen.reachKwh = divert.socAtDivert - chosen.divertEnergy ∧ 0 ≤ chosen.reachKwh ∧
      visit = ⟨divert.divertIdx, divert.socAtDivert, chosen.divertEnergy,
        plannedStop services input profile divert chosen⟩ ∧
      later.soc = visit.stop.departSocKwh ∧ later.startIdx = divert.divertIdx ∧
      later.stopCount = state.stopCount + 1 := by
  unfold chooseStop at chose
  simp only at chose
  split at chose
  · cases chose
  · split at chose
    · cases chose
    · split at chose
      · cases chose
      · split at chose
        · cases chose
        · rename_i matrix answered
          split at chose
          · cases chose
          · rename_i chosen best
            obtain ⟨i, cell, candidateAt, cellAt, energy, reach, nonneg⟩ :=
              scored_candidate services input divert matrix _ chosen (best_of_mem _ _ _ best)
            simp only [Outcome.next.injEq] at chose
            obtain ⟨rfl, rfl⟩ := chose
            refine ⟨matrix, i, cell, chosen, _, _, answered, ?_, cellAt, energy, reach, nonneg, rfl,
              rfl, rfl, rfl⟩
            have within := (List.getElem?_eq_some_iff.mp candidateAt).1
            rw [getElem?_append_left (by simpa using within), getElem?_map, candidateAt]
            rfl

theorem plan_step_drives (sound : SoundInput input) (matrices : NonNegativeKm callbacks)
    (state : LoopState) (visit : Visit Tariffs) (later : LoopState)
    (charge : SoundCharge input state)
    (stepped : planStep services input callbacks (profileOf services input) state =
      .next visit later) :
    Drives services input callbacks state visit later ∧ SoundCharge input later := by
  unfold planStep at stepped
  split at stepped
  · cases stepped
  · simp only at stepped
    split at stepped
    · cases stepped
    · rename_i notReached advances
      split at stepped
      · cases stepped
      · cases stepped
      · rename_i candidates answered
        obtain ⟨matrix, i, cell, chosen, sources, targets, asked, target, cellAt, energy, reach,
          nonneg, rfl, soc, index, count⟩ := choose_stop_next services input callbacks _ state _
            candidates visit later stepped
        have moved := not_le.mp advances
        obtain ⟨onProfile, within⟩ := reach_offset_within
          (profileOf services input).cumulativeKwh state.startIdx state.soc
          (input.socArrivalMinKwh + (profileOf services input).detourReserve) moved
        have ascends := profile_ascending services input sound _ _ moved.le onProfile
        have km := matrices _ _ _ _ _ _ _ asked cellAt
        have energyNonneg : 0 ≤ chosen.divertEnergy := by
          rw [energy, approachKwh]
          have product := mul_nonneg km sound.consumption
          have uplift : (0 : ℚ) ≤ DETOUR_UPLIFT := by norm_num [DETOUR_UPLIFT]
          exact div_nonneg (mul_nonneg product uplift) (by norm_num)
        have reserve : 0 ≤ (profileOf services input).detourReserve :=
          mul_nonneg sound.battery.le (by norm_num [DETOUR_RESERVE_KWH_FRAC])
        have left : (divertOf services input (profileOf services input) state).socAtDivert ≤
            state.soc := sub_le_self _ (sub_nonneg.mpr ascends)
        have arriveLe : max 0 chosen.reachKwh ≤ input.vehicle.batteryKwh := by
          rw [max_eq_right nonneg, reach]
          exact (sub_le_self _ energyNonneg).trans (left.trans charge.2)
        obtain ⟨rises, full⟩ := depart_kwh_bounds input (profileOf services input)
          (divertOf services input (profileOf services input) state).divertIdx _ reserve arriveLe
        constructor
        · exact {
            advances := moved
            onProfile := onProfile
            spent := by simp only [divertOf, remainingKwh]; ring
            keepsReserve := by
              have floor : (divertOf services input (profileOf services input) state).socAtDivert =
                state.soc - _ := rfl
              change _ + (profileOf services input).detourReserve ≤ _
              rw [floor]
              change _ ≤ _ - _ at within
              linarith
            approach := ⟨cell, ⟨_, _, _, matrix, i, asked, target, cellAt⟩, energy⟩
            coversApproach := by rw [reach] at nonneg; exact sub_nonneg.mp nonneg
            arrives := by rw [← reach]; exact max_eq_right nonneg
            stop := ⟨le_max_left _ _, rises, full, rfl⟩
            soc := soc
            index := index
            count := count }
        · rw [SoundCharge, soc]
          exact ⟨(le_max_left _ _).trans rises, full⟩

end

def chargeAfter (input : PlanInput) (visits : List (Visit Tariffs)) : ℚ :=
  ((visits.getLast?).map (·.stop.departSocKwh)).getD input.socStartKwh

def sampleAfter (visits : List (Visit Tariffs)) : ℕ := ((visits.getLast?).map (·.divertIdx)).getD 0

section

variable (services : PlanServices Tariffs) (input : PlanInput) (callbacks : PlanCallbacks Tariffs)

theorem choose_stop_warns (profile : Profile) (state : LoopState) (divert : Divert) (candidates) :
    chooseStop services input callbacks profile state divert candidates ≠ .leave (.warned []) := by
  intro left
  unfold chooseStop at left
  simp only at left
  split at left
  · cases left
  · split at left
    · cases left
    · split at left
      · cases left
      · split at left
        · cases left
        · split at left
          · cases left
          · cases left

theorem plan_step_quiet (profile : Profile) (state : LoopState)
    (left : planStep services input callbacks profile state = .leave (.warned [])) :
    input.socArrivalMinKwh - REACH_EPS_KWH ≤ state.soc - remainingKwh profile state.startIdx := by
  unfold planStep at left
  split at left
  · rename_i covered
    exact covered
  · simp only at left
    split at left
    · cases left
    · split at left
      · cases left
      · cases left
      · exact absurd left (choose_stop_warns services input callbacks profile state _ _)

theorem no_warning_covered (plan) (planned : planCharges services input callbacks = some plan)
    (quiet : plan.warnings = []) (counted : (planLoop services input callbacks).state.stopCount =
      (planLoop services input callbacks).entries.length) :
    input.socArrivalMinKwh - REACH_EPS_KWH ≤ (planLoop services input callbacks).state.soc -
      remainingKwh (profileOf services input) (planLoop services input callbacks).state.startIdx := by
  unfold planCharges at planned
  simp only at planned
  cases left : (planLoop services input callbacks).exit with
  | none =>
    rw [left] at planned
    obtain rfl := Option.some.inj planned
    simp only [nil_append, capWarnings] at quiet
    have full := run_length_eq (planStep services input callbacks (profileOf services input))
      MAX_STOPS (initialState input) left
    have enough : ¬ (planLoop services input callbacks).state.soc -
        remainingKwh (profileOf services input) (planLoop services input callbacks).state.startIdx <
          input.socArrivalMinKwh := by
      intro short
      rw [if_pos ⟨by rw [counted]; exact full.ge, short⟩] at quiet
      cases quiet
    have slack : (0 : ℚ) ≤ REACH_EPS_KWH := by norm_num [REACH_EPS_KWH]
    linarith [not_lt.mp enough]
  | some exit =>
    rw [left] at planned
    cases exit with
    | failed => cases planned
    | warned warnings =>
      obtain rfl := Option.some.inj planned
      obtain ⟨none_, _⟩ := append_eq_nil_iff.mp quiet
      have taken := run_exit (planStep services input callbacks (profileOf services input))
        MAX_STOPS (initialState input) _ left
      rw [none_] at taken
      exact plan_step_quiet services input callbacks _ _ taken

end

/-- A plan keeps the battery sound: few stops, each charged upwards within the
battery, reached over diverts that advance along the route with the reserve in
hand, and enough charge at the end unless a warning says otherwise. -/
theorem plan_charges_sound (services : PlanServices Tariffs) (input : PlanInput)
    (callbacks : PlanCallbacks Tariffs) (sound : SoundInput input)
    (matrices : NonNegativeKm callbacks) (plan : ChargePlan Tariffs)
    (planned : planCharges services input callbacks = some plan) :
    ∃ visits : List (Visit Tariffs), ∃ last : LoopState,
      plan.stops = visits.map (·.stop) ∧ plan.stops.length ≤ 12 ∧
      LoopPath (Drives services input callbacks) (initialState input) visits last ∧
      (∀ stop ∈ plan.stops, SoundStop input.vehicle stop) ∧
      (visits.map (·.divertIdx)).Pairwise (· < ·) ∧
      (∀ visit ∈ visits, input.socArrivalMinKwh + detourReserve input ≤ visit.socAtDivert ∧
        visit.divertEnergy ≤ visit.socAtDivert) ∧
      (plan.warnings = [] → input.socArrivalMinKwh - 0.05 ≤ chargeAfter input visits -
        remainingKwh (profileOf services input) (sampleAfter visits)) := by
  have path : LoopPath (Drives services input callbacks) (initialState input)
      (planLoop services input callbacks).entries (planLoop services input callbacks).state :=
    run_path (SoundCharge input)
      (fun state visit later charge stepped =>
        plan_step_drives services input callbacks sound matrices state visit later charge stepped)
      MAX_STOPS (initialState input) ⟨sound.start, sound.start_le⟩
  have stops : plan.stops = (planLoop services input callbacks).entries.map (·.stop) := by
    unfold planCharges at planned
    simp only at planned
    split at planned
    · obtain rfl := Option.some.inj planned
      rfl
    · obtain rfl := Option.some.inj planned
      rfl
    · cases planned
  refine ⟨_, _, stops, ?_, path, ?_, ?_, ?_, ?_⟩
  · rw [stops, length_map]
    exact run_length_le _ MAX_STOPS (initialState input)
  · intro stop member
    rw [stops] at member
    obtain ⟨visit, visited, rfl⟩ := mem_map.mp member
    exact path.forall (fun visit => SoundStop input.vehicle visit.stop)
      (fun _ _ _ drives => drives.stop) visit visited
  · exact (path.marks_increase (·.startIdx) (·.divertIdx)
      (fun _ _ _ drives => ⟨drives.advances, drives.index.symm⟩)).2
  · exact path.forall _ (fun _ _ _ drives => ⟨drives.keepsReserve, drives.coversApproach⟩)
  · intro quiet
    have counted := path.length_eq (·.stopCount) (fun _ _ _ drives => drives.count)
    have covered := no_warning_covered services input callbacks plan planned quiet
      (counted.trans (Nat.zero_add _))
    have charge := path.final_value (·.soc) (·.stop.departSocKwh)
      (fun _ _ _ drives => drives.soc)
    have sample := path.final_value (·.startIdx) (·.divertIdx)
      (fun _ _ _ drives => drives.index)
    rw [charge, sample] at covered
    exact covered

def flatServices : PlanServices Unit where
  geodesy := ⟨fun _ _ => 0, fun _ _ => le_rfl⟩
  normalizeOperator _ := ""
  estimateSessionCost _ _ _ := none

def sixtyKilometres : PlanInput where
  route := ⟨3600, [⟨0, 0⟩, ⟨1, 0⟩], some [0, 0, 0], some 30000⟩
  vehicle := ⟨20, 200, 2, 100, 11, 80, [.ccs2]⟩
  socStartKwh := 10
  socArrivalMinKwh := 1
  socTargetKwh := 16
  ambientTempC := 20
  hasElevation := true
  nowMs := 0
  tripStartMs := 0
  preferredNetworkKeys := none
  avoidedNetworkKeys := none
  exclusiveNetworkKeys := none
  costWeight := none

def roadsideCharger : ChargingSite Unit where
  coordinates := ⟨0, 0⟩
  operator := none
  closed := false
  planned := false
  evses := [⟨1, none, none, false, [⟨"1/1", "IEC_62196_T2_COMBO", none, some 50, none, false⟩]⟩]
  tariffs := ()

def roadsideCallbacks : PlanCallbacks Unit where
  requestCorridorChargers _ _ _ := .sites [roadsideCharger]
  requestMatrix _ _ _ := some [[some ⟨60, 5⟩, none], [none, some ⟨60, 5⟩]]

theorem matrix_cell_mem (matrix) (row column : ℕ) (cell : MatrixCell)
    (found : matrixCell matrix row column = some cell) : some cell ∈ matrix.flatten := by
  obtain ⟨slot, slotAt, isCell⟩ := Option.bind_eq_some_iff.mp (Option.join_eq_some_iff.mp found)
  exact mem_flatten.mpr ⟨slot, mem_of_getElem? slotAt, mem_of_getElem? isCell⟩

theorem roadside_km : NonNegativeKm roadsideCallbacks := by
  intro call sources targets matrix row column cell answered found
  obtain rfl := Option.some.inj answered
  have member := matrix_cell_mem _ _ _ _ found
  simp only [flatten_cons, flatten_nil, cons_append, nil_append,
    mem_cons, Option.some.injEq, reduceCtorEq, not_mem_nil, or_false, false_or] at member
  rcases member with rfl | rfl <;> norm_num

theorem sixty_kilometres_sound :
    ∃ plan, planCharges flatServices sixtyKilometres roadsideCallbacks = some plan ∧
      plan.stops.length ≤ 12 ∧ (∀ stop ∈ plan.stops, SoundStop sixtyKilometres.vehicle stop) := by
  have answered : (planCharges flatServices sixtyKilometres roadsideCallbacks).isSome := by
    decide +kernel
  obtain ⟨plan, planned⟩ := Option.isSome_iff_exists.mp answered
  obtain ⟨_, _, _, few, _, stops, _⟩ := plan_charges_sound flatServices sixtyKilometres
    roadsideCallbacks
    ⟨by norm_num [sixtyKilometres], by norm_num [sixtyKilometres], by norm_num [sixtyKilometres],
      by norm_num [sixtyKilometres], by norm_num [sixtyKilometres]⟩
    roadside_km plan planned
  exact ⟨plan, planned, few, stops⟩

example : (planCharges flatServices sixtyKilometres roadsideCallbacks).map
    (fun plan => (plan.stops.map (·.departSocKwh), plan.warnings)) = some ([16], []) := by
  decide +kernel

end OpenMapX.Charging.BatterySoundness
