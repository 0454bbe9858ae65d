import Mathlib

/-!
# Chains of timed hops

A traveller visits the stops `0, 1, 2, …` in order. Between two stops time
passes, at a stop a dwell is spent, a stop may have a release time before which
it is not left and a deadline by which it is reached. The forward timeline is
the earliest admissible one; the backward timeline is the same construction in
the reversed order of time, so nothing is proved twice.
-/

namespace OpenMapX.TimedChain

open OrderDual

variable {Time : Type*}

structure Chain (Time : Type*) where
  travel : Nat → Time
  dwell : Nat → Time
  release : Nat → Option Time
  deadline : Nat → Option Time

section

variable [LinearOrder Time]

/-- The first moment at or after `time` that the release time allows. -/
def holdUntil (release : Option Time) (time : Time) : Time := release.elim time (max time)

/-- The last moment at or before `time` that the deadline allows. -/
def capAt (deadline : Option Time) (time : Time) : Time := deadline.elim time (min time)

theorem le_holdUntil (release : Option Time) (time : Time) : time ≤ holdUntil release time := by
  cases release with
  | none => exact le_rfl
  | some release => exact le_max_left time release

theorem release_le_holdUntil {release} {bound : Time} (member : bound ∈ release)
    (time : Time) : bound ≤ holdUntil release time := by
  obtain rfl := Option.mem_def.mp member
  exact le_max_right time bound

theorem holdUntil_le {release} {time bound : Time} (ready : time ≤ bound)
    (released : ∀ value ∈ release, value ≤ bound) : holdUntil release time ≤ bound := by
  cases release with
  | none => exact ready
  | some release => exact max_le ready (released release rfl)

theorem holdUntil_mono (release : Option Time) {time later : Time} (le : time ≤ later) :
    holdUntil release time ≤ holdUntil release later :=
  holdUntil_le (le.trans (le_holdUntil release later))
    fun _ member => release_le_holdUntil member later

theorem holdUntil_toDual (deadline : Option Time) (time : Time) :
    holdUntil (deadline.map toDual) (toDual time) = toDual (capAt deadline time) := by
  cases deadline <;> rfl

end

section

variable [AddCommGroup Time] [LinearOrder Time]

def earliestDeparture (chain : Chain Time) (start : Time) : Nat → Time
  | 0 => holdUntil (chain.release 0) start
  | stop + 1 =>
    holdUntil (chain.release (stop + 1))
      (earliestDeparture chain start stop + chain.travel stop + chain.dwell (stop + 1))

def earliestArrival (chain : Chain Time) (start : Time) (hop : Nat) : Time :=
  earliestDeparture chain start hop + chain.travel hop

/-- The departures of the first `hops` stops respect the start, the releases and
the dwell after each arrival. Arrivals are the departures plus the travel. -/
structure Admissible (chain : Chain Time) (hops : Nat) (start : Time)
    (departure : Nat → Time) : Prop where
  start_le : start ≤ departure 0
  release_le : ∀ stop < hops, ∀ release ∈ chain.release stop, release ≤ departure stop
  dwell_le : ∀ stop, stop + 1 < hops →
    departure stop + chain.travel stop + chain.dwell (stop + 1) ≤ departure (stop + 1)

def OnTime (chain : Chain Time) (hops : Nat) (departure : Nat → Time) : Prop :=
  ∀ hop < hops, ∀ deadline ∈ chain.deadline (hop + 1),
    departure hop + chain.travel hop ≤ deadline

theorem earliest_is_admissible (chain : Chain Time) (hops : Nat) (start : Time) :
    Admissible chain hops start (earliestDeparture chain start) where
  start_le := le_holdUntil _ _
  release_le stop _ _ member := by
    cases stop with
    | zero => exact release_le_holdUntil member _
    | succ stop => exact release_le_holdUntil member _
  dwell_le _ _ := le_holdUntil _ _

section

variable [IsOrderedAddMonoid Time]

/-- Induction over the stops: whatever an admissible timeline does at a stop, the
earliest timeline was there no later. -/
theorem earliest_departure_least {chain} {hops : Nat} {start : Time}
    {departure : Nat → Time} (admissible : Admissible chain hops start departure)
    (stop : Nat) (bound : stop < hops) : earliestDeparture chain start stop ≤ departure stop := by
  induction stop with
  | zero => exact holdUntil_le admissible.start_le (admissible.release_le 0 bound)
  | succ stop ih =>
    have previous := ih (by omega)
    have ready : earliestDeparture chain start stop + chain.travel stop +
        chain.dwell (stop + 1) ≤ departure (stop + 1) :=
      (by gcongr : _ ≤ departure stop + chain.travel stop + chain.dwell (stop + 1)).trans
        (admissible.dwell_le stop bound)
    exact holdUntil_le ready (admissible.release_le (stop + 1) bound)

theorem on_time_iff_earliest (chain : Chain Time) (hops : Nat) (start : Time) :
    (∃ departure, Admissible chain hops start departure ∧ OnTime chain hops departure) ↔
      OnTime chain hops (earliestDeparture chain start) := by
  constructor
  · rintro ⟨departure, admissible, onTime⟩ hop bound deadline member
    have least := earliest_departure_least admissible hop bound
    exact (by gcongr : _ ≤ departure hop + chain.travel hop).trans
      (onTime hop bound deadline member)
  · intro onTime
    exact ⟨_, earliest_is_admissible chain hops start, onTime⟩

end

end

section

variable [AddCommGroup Time] [LinearOrder Time]

/-- Read backwards from stop `last`, a chain is a chain in the dual order: the
deadlines are the releases, and travel and dwell run the other way. -/
def mirror (chain : Chain Time) (last : Nat) : Chain Timeᵒᵈ where
  travel hop := toDual (-chain.travel (last - 1 - hop))
  dwell stop := toDual (-chain.dwell (last - stop))
  release stop := (chain.deadline (last - stop)).map toDual
  deadline stop := (chain.release (last - stop)).map toDual

def latestArrival (chain : Chain Time) (last : Nat) (finish : Time) (stop : Nat) : Time :=
  ofDual (earliestDeparture (mirror chain last) (toDual finish) (last - stop))

variable (chain : Chain Time)

section

variable (last : Nat) (finish : Time)

theorem latest_arrival_last :
    latestArrival chain last finish last = capAt (chain.deadline last) finish := by
  simp only [latestArrival, Nat.sub_self, earliestDeparture, mirror, Nat.sub_zero,
    holdUntil_toDual, ofDual_toDual]

theorem latest_arrival_step (stop : Nat) (bound : stop < last) :
    latestArrival chain last finish stop = capAt (chain.deadline stop)
        (latestArrival chain last finish (stop + 1) - chain.travel stop - chain.dwell stop) := by
  obtain ⟨distance, rfl⟩ : ∃ distance, last = stop + (distance + 1) := ⟨last - stop - 1, by omega⟩
  have here : stop + (distance + 1) - stop = distance + 1 := by omega
  have next : stop + (distance + 1) - (stop + 1) = distance := by omega
  have hop : stop + (distance + 1) - 1 - distance = stop := by omega
  have back : stop + (distance + 1) - (distance + 1) = stop := by omega
  simp only [latestArrival, here, next, earliestDeparture, mirror, hop, back]
  rw [← ofDual_toDual (capAt _ _), ← holdUntil_toDual]
  simp only [sub_eq_add_neg, toDual_add, toDual_ofDual]

/-- Arrivals at the stops `1 … last`, each no later than its deadline, with time
for the dwell and the travel before the next arrival. -/
structure Punctual (chain : Chain Time) (last : Nat) (finish : Time)
    (arrival : Nat → Time) : Prop where
  le_finish : arrival last ≤ finish
  le_deadline : ∀ stop, 0 < stop → stop ≤ last → ∀ deadline ∈ chain.deadline stop,
    arrival stop ≤ deadline
  dwell_le : ∀ stop, 0 < stop → stop < last →
    arrival stop ≤ arrival (stop + 1) - chain.travel stop - chain.dwell stop

def Released (chain : Chain Time) (last : Nat) (arrival : Nat → Time) : Prop :=
  ∀ stop < last, ∀ release ∈ chain.release stop,
    release ≤ arrival (stop + 1) - chain.travel stop

theorem punctual_iff_mirror (arrival : Nat → Time) :
    Punctual chain last finish arrival ↔ Admissible (mirror chain last) last (toDual finish)
        (fun stop => toDual (arrival (last - stop))) := by
  constructor
  · intro punctual
    refine ⟨punctual.le_finish, ?_, ?_⟩
    · intro stop bound release member
      obtain ⟨deadline, isDeadline, rfl⟩ := Option.map_eq_some_iff.mp member
      exact punctual.le_deadline (last - stop) (by omega) (by omega) deadline isDeadline
    · intro stop bound
      have step := punctual.dwell_le (last - (stop + 1)) (by omega) (by omega)
      have next : last - (stop + 1) + 1 = last - stop := by omega
      have hop : last - 1 - stop = last - (stop + 1) := by omega
      rw [next, sub_eq_add_neg, sub_eq_add_neg] at step
      simp only [mirror, hop]
      exact step
  · intro admissible
    refine ⟨admissible.start_le, ?_, ?_⟩
    · intro stop positive bound deadline member
      have back : last - (last - stop) = stop := by omega
      have released := admissible.release_le (last - stop) (by omega) (toDual deadline) (by
        simpa only [mirror, back] using Option.mem_map_of_mem toDual member)
      simpa only [back, toDual_le_toDual] using released
    · intro stop positive bound
      have step := admissible.dwell_le (last - (stop + 1)) (by omega)
      have here : last - (last - (stop + 1) + 1) = stop := by omega
      have next : last - (last - (stop + 1)) = stop + 1 := by omega
      have hop : last - 1 - (last - (stop + 1)) = stop := by omega
      simp only [mirror, here, next, hop] at step
      rw [sub_eq_add_neg, sub_eq_add_neg]
      exact step

theorem latest_is_punctual : Punctual chain last finish (latestArrival chain last finish) := by
  rw [punctual_iff_mirror]
  have admissible := earliest_is_admissible (mirror chain last) last (toDual finish)
  have same : ∀ stop ≤ last, toDual (latestArrival chain last finish (last - stop)) =
      earliestDeparture (mirror chain last) (toDual finish) stop := by
    intro stop bound
    have back : last - (last - stop) = stop := by omega
    simp only [latestArrival, back, toDual_ofDual]
  refine ⟨?_, ?_, ?_⟩
  · exact (same 0 (Nat.zero_le last)).symm ▸ admissible.start_le
  · intro stop bound release member
    exact (same stop bound.le).symm ▸ admissible.release_le stop bound release member
  · intro stop bound
    have step := admissible.dwell_le stop bound
    rw [← same stop (by omega), ← same (stop + 1) (by omega)] at step
    exact step

end

section

variable [IsOrderedAddMonoid Time]

theorem latest_arrival_greatest {chain} {last : Nat} {finish : Time} {arrival : Nat → Time}
    (punctual : Punctual chain last finish arrival) (stop : Nat) (positive : 0 < stop)
    (bound : stop ≤ last) : arrival stop ≤ latestArrival chain last finish stop := by
  have least := earliest_departure_least ((punctual_iff_mirror _ _ _ _).mp punctual)
    (last - stop) (by omega)
  have back : last - (last - stop) = stop := by omega
  rw [back] at least
  exact least

/-- Some punctual timeline leaves no stop too early exactly when the latest one
leaves none too early. -/
theorem released_iff_latest (chain : Chain Time) (last : Nat) (finish : Time) :
    (∃ arrival, Punctual chain last finish arrival ∧ Released chain last arrival) ↔
      Released chain last (latestArrival chain last finish) := by
  constructor
  · rintro ⟨arrival, punctual, released⟩ stop bound release member
    have greatest := latest_arrival_greatest punctual (stop + 1) (by omega) bound
    exact (released stop bound release member).trans (sub_le_sub_right greatest _)
  · intro released
    exact ⟨_, latest_is_punctual chain last finish, released⟩

end

end

end OpenMapX.TimedChain
