import OpenMapX.Charging.BatterySoundness

/-!
# The warnings of a plan

A plan warns when its charge does not last to the destination. The loop forgives a shortage of
`REACH_EPS_KWH`; the check behind the loop, which only the stop limit reaches, forgives nothing.
-/

namespace OpenMapX.Charging.PlanWarnings

open BoundedLoop Consumption Sites Plan BatterySoundness

variable {Tariffs : Type}

structure Hands (state : LoopState) (visit : Visit Tariffs) (later : LoopState) : Prop where
  soc : later.soc = visit.stop.departSocKwh
  index : later.startIdx = visit.divertIdx
  count : later.stopCount = state.stopCount + 1

section

variable (services : PlanServices Tariffs) (input : PlanInput) (callbacks : PlanCallbacks Tariffs)

section

variable (profile : Profile) (state : LoopState)

theorem plan_step_hands (visit : Visit Tariffs) (later : LoopState)
    (stepped : planStep services input callbacks profile state = .next visit later) :
    Hands state visit later := by
  unfold planStep at stepped
  split at stepped
  · cases stepped
  · simp only at stepped
    split at stepped
    · cases stepped
    · split at stepped
      · cases stepped
      · cases stepped
      · obtain ⟨_, _, _, _, _, _, _, _, _, _, _, _, chosen, soc, index, count⟩ :=
          choose_stop_next services input callbacks _ _ _ _ visit later stepped
        apply Hands.mk soc
        · rw [index, chosen]
        · exact count

theorem choose_stop_count (divert : Divert) (candidates) (warnings : List PlanWarning)
    (left : chooseStop services input callbacks profile state divert candidates =
      .leave (.warned warnings)) : warnings ≠ [] := by
  intro none
  rw [none] at left
  exact choose_stop_warns services input callbacks profile state divert candidates left

theorem plan_step_warns_iff (warnings : List PlanWarning)
    (left : planStep services input callbacks profile state = .leave (.warned warnings)) :
    warnings ≠ [] ↔
      state.soc - remainingKwh profile state.startIdx < input.socArrivalMinKwh - REACH_EPS_KWH := by
  unfold planStep at left
  split at left
  · rename_i covered
    cases left
    simp only [ne_eq, not_true_eq_false, false_iff, not_lt]
    exact covered
  · rename_i short
    apply iff_of_true _ (not_le.mp short)
    simp only at left
    split at left
    · cases left
      exact List.cons_ne_nil _ _
    · split at left
      · cases left
      · cases left
        exact List.cons_ne_nil _ _
      · exact choose_stop_count services input callbacks _ _ _ _ warnings left

end

end

def leftAtEnd (services : PlanServices Tariffs) (input : PlanInput)
    (visits : List (Visit Tariffs)) : ℚ :=
  chargeAfter input visits - remainingKwh (profileOf services input) (sampleAfter visits)

/-- The stop limit ends the loop with a charge that the loop itself would take as enough and
the check behind it does not. -/
def CappedInTolerance (services : PlanServices Tariffs) (input : PlanInput)
    (visits : List (Visit Tariffs)) : Prop :=
  visits.length = MAX_STOPS ∧
    input.socArrivalMinKwh - REACH_EPS_KWH ≤ leftAtEnd services input visits ∧
    leftAtEnd services input visits < input.socArrivalMinKwh

theorem plan_warns_iff (services : PlanServices Tariffs) (input : PlanInput)
    (callbacks : PlanCallbacks Tariffs) (plan : ChargePlan Tariffs)
    (planned : planCharges services input callbacks = some plan) :
    plan.stops = (planLoop services input callbacks).entries.map (·.stop) ∧ ((plan.warnings ≠ [] ↔
          leftAtEnd services input (planLoop services input callbacks).entries <
            input.socArrivalMinKwh - REACH_EPS_KWH) ↔
        ¬CappedInTolerance services input (planLoop services input callbacks).entries) := by
  have path : LoopPath Hands (initialState input) (planLoop services input callbacks).entries
      (planLoop services input callbacks).state :=
    run_path (fun _ => True)
      (fun state visit later _ stepped =>
        And.intro (plan_step_hands services input callbacks _ state visit later stepped) trivial)
      MAX_STOPS (initialState input) trivial
  have charge := path.final_value (·.soc) (·.stop.departSocKwh) (fun _ _ _ hands => hands.soc)
  have sample := path.final_value (·.startIdx) (·.divertIdx) (fun _ _ _ hands => hands.index)
  have counted := path.length_eq (·.stopCount) (fun _ _ _ hands => hands.count)
  have left_end : (planLoop services input callbacks).state.soc -
      remainingKwh (profileOf services input) (planLoop services input callbacks).state.startIdx =
        leftAtEnd services input (planLoop services input callbacks).entries := by
    rw [charge, sample]
    rfl
  have stop_count : (planLoop services input callbacks).state.stopCount =
      (planLoop services input callbacks).entries.length := by
    rw [counted]
    exact Nat.zero_add _
  have slack : (0 : ℚ) < REACH_EPS_KWH := by norm_num [REACH_EPS_KWH]
  unfold planCharges at planned
  simp only [capWarnings, stop_count, left_end] at planned
  cases exited : (planLoop services input callbacks).exit with
  | none =>
    rw [exited] at planned
    cases planned
    have full := run_length_eq (planStep services input callbacks (profileOf services input))
      MAX_STOPS (initialState input) exited
    have all_stops : (planLoop services input callbacks).entries.length = MAX_STOPS := full
    apply And.intro rfl
    unfold CappedInTolerance
    simp only [all_stops, ge_iff_le, le_refl, true_and, List.nil_append, ne_eq, ite_eq_right_iff,
      List.cons_ne_nil, imp_false, not_not]
    constructor
    · intro same capped
      exact not_lt.mpr capped.1 (same.mp capped.2)
    · intro apart
      constructor
      · intro short
        rw [not_and] at apart
        by_contra enough
        exact apart (not_lt.mp enough) short
      · intro short
        linarith
  | some exit =>
    rw [exited] at planned
    have few := run_length_lt (planStep services input callbacks (profileOf services input))
      MAX_STOPS (initialState input) exit exited
    have fewer : ¬(planLoop services input callbacks).entries.length ≥ MAX_STOPS :=
      Nat.not_le.mpr few
    cases exit with
    | failed => cases planned
    | warned warnings =>
      cases planned
      have taken := run_exit (planStep services input callbacks (profileOf services input))
        MAX_STOPS (initialState input) _ exited
      have warns := plan_step_warns_iff services input callbacks _ _ warnings taken
      apply And.intro rfl
      apply iff_of_true
      · rw [if_neg (fun both => fewer both.1), List.append_nil, warns]
        exact iff_of_eq (congrArg (· < input.socArrivalMinKwh - REACH_EPS_KWH) left_end)
      · intro capped
        exact fewer capped.1.ge

/-- The trip with one stop does not end at the limit. -/
theorem sixty_kilometres_warns_iff :
    ∃ plan, planCharges flatServices sixtyKilometres roadsideCallbacks = some plan ∧
      plan.stops = (planLoop flatServices sixtyKilometres roadsideCallbacks).entries.map (·.stop) ∧
        ((plan.warnings ≠ [] ↔ leftAtEnd flatServices sixtyKilometres
              (planLoop flatServices sixtyKilometres roadsideCallbacks).entries <
              sixtyKilometres.socArrivalMinKwh - REACH_EPS_KWH) ↔
          ¬CappedInTolerance flatServices sixtyKilometres
            (planLoop flatServices sixtyKilometres roadsideCallbacks).entries) := by
  have answered : (planCharges flatServices sixtyKilometres roadsideCallbacks).isSome := by
    decide +kernel
  obtain ⟨plan, planned⟩ := Option.isSome_iff_exists.mp answered
  exact ⟨plan, planned, plan_warns_iff flatServices sixtyKilometres roadsideCallbacks plan planned⟩

/-- Thirty-seven segments of six kilowatt-hours, the last one with a climb of 189 metres. -/
def longTrip : PlanInput where
  route := ⟨36000, [⟨0, 0⟩, ⟨10, 0⟩], some (List.replicate 37 0 ++ [189]), some 30000⟩
  vehicle := ⟨20, 200, 2, 100, 11, 100, [.ccs2]⟩
  socStartKwh := 10
  socArrivalMinKwh := 1
  socTargetKwh := 20
  ambientTempC := 20
  hasElevation := true
  nowMs := 0
  tripStartMs := 0
  preferredNetworkKeys := none
  avoidedNetworkKeys := none
  exclusiveNetworkKeys := none
  costWeight := none

/-- After the twelfth stop 0.96995 of the wanted kilowatt-hour is left, which is within the
tolerance, and the plan warns. -/
theorem tolerated_shortage_warned :
    ∃ plan, planCharges flatServices longTrip roadsideCallbacks = some plan ∧
      plan.stops.length = 12 ∧ plan.warnings = [.unreachable 11] ∧
      leftAtEnd flatServices longTrip (planLoop flatServices longTrip roadsideCallbacks).entries =
        0.96995 ∧
      ¬leftAtEnd flatServices longTrip (planLoop flatServices longTrip roadsideCallbacks).entries <
        longTrip.socArrivalMinKwh - REACH_EPS_KWH := by
  have answered : (planCharges flatServices longTrip roadsideCallbacks).map
      (fun plan => (plan.stops.length, plan.warnings)) = some (12, [.unreachable 11]) := by
    decide +kernel
  obtain ⟨plan, planned, parts⟩ := Option.map_eq_some_iff.mp answered
  have left : leftAtEnd flatServices longTrip
      (planLoop flatServices longTrip roadsideCallbacks).entries = 0.96995 := by
    decide +kernel
  apply Exists.intro plan
  apply And.intro planned
  apply And.intro (congrArg Prod.fst parts)
  apply And.intro (congrArg Prod.snd parts)
  apply And.intro left
  rw [left]
  norm_num [longTrip, REACH_EPS_KWH]

end OpenMapX.Charging.PlanWarnings
