import OpenMapX.Routing.ScheduleConstraints
import OpenMapX.Routing.ScheduleOptimality

/-!
# Walking the legs of a scheduled trip

`planScheduledTrip` asks an oracle once per leg, in solve order, and composes the
durations it got. A refused leg ends the walk. Both directions run one loop that
differs in the order of the legs and in how the pinned instant moves on.
-/

namespace OpenMapX.Routing.ScheduledTrip

open TripSchedule ScheduleConstraints

variable {Payload : Type}

structure LegTravelResult (Payload : Type) where
  seconds : ℚ
  payload : Option Payload

/-- How long a leg takes when its pinned instant is the given one. `none` is a
rejected call. Each leg is asked at most once, so a function is any oracle. -/
abbrev LegOracle (Payload : Type) := Nat → ℚ → Option (LegTravelResult Payload)

structure ScheduledTripResult (Payload : Type) where
  schedule : TripSchedule
  legPayloads : List (Option Payload)

structure AskedLeg (Payload : Type) where
  leg : Nat
  instantMs : ℚ
  travel : LegTravelResult Payload

/-- The walk over the legs, each with the stop that moves the pinned instant on.
It returns the cell of every leg and the leg whose call was refused. -/
def walkLegs (oracle : LegOracle Payload) (advance : ResolvedStopConstraint → ℚ → ℚ → ℚ) :
    ℚ → List (Nat × ResolvedStopConstraint) → List (Option (AskedLeg Payload)) × Option Nat
  | _, [] => ([], none)
  | instant, (leg, stop) :: rest =>
    match oracle leg instant with
    | none => (List.replicate (rest.length + 1) none, some leg)
    | some travel =>
      let later := walkLegs oracle advance (advance stop instant travel.seconds) rest
      (some ⟨leg, instant, travel⟩ :: later.1, later.2)

def forwardAdvance (stop : ResolvedStopConstraint) (departure seconds : ℚ) : ℚ :=
  departureAfter stop (departure + seconds * 1000)

def backwardAdvance (stop : ResolvedStopConstraint) (arrival seconds : ℚ) : ℚ :=
  arrivalBefore stop (arrival - seconds * 1000)

/-- Leg `i` with the stop it leads to, in leg order. -/
def forwardHops (stops : List ResolvedStopConstraint) : List (Nat × ResolvedStopConstraint) :=
  (List.range (stops.length - 1)).zip stops.tail

/-- Leg `i` with the stop it leaves, from the last leg to the first. -/
def backwardHops (stops : List ResolvedStopConstraint) : List (Nat × ResolvedStopConstraint) :=
  ((List.range (stops.length - 1)).zip stops).reverse

def legCells (oracle : LegOracle Payload) (resolved : ResolvedSchedule)
    (first last : ResolvedStopConstraint) : List (Option (AskedLeg Payload)) × Option Nat :=
  match resolved.direction with
  | .forward =>
    walkLegs oracle forwardAdvance (firstDeparture first resolved.anchorMs)
      (forwardHops resolved.stops)
  | .backward =>
    let walked := walkLegs oracle backwardAdvance (lastArrival last resolved.anchorMs)
      (backwardHops resolved.stops)
    (walked.1.reverse, walked.2)

def unreachable (stops : List ResolvedStopConstraint) (refused : Option Nat) :
    List ScheduleViolation :=
  match refused with
  | none => []
  | some leg =>
    match stops[leg]?, stops[leg + 1]? with
    | some here, some next => [.unreachable here.index next.index]
    | _, _ => []

/-- Where the retained stops start: at the first solved leg of an incomplete
backward walk that has one, and at the origin otherwise. -/
def retainedStart (direction : Direction) (cells : List (Option (AskedLeg Payload))) : Nat :=
  let solved := cells.filterMap id
  if solved.length = cells.length ∨ direction = .forward then 0
  else (cells.findIdx? (·.isSome)).getD 0

def finishTrip (platform : ZonePlatform) (resolved : ResolvedSchedule)
    (walked : List (Option (AskedLeg Payload)) × Option Nat) :
    Except ScheduleError (ScheduledTripResult Payload) :=
  let solved := walked.1.filterMap id
  let start := retainedStart resolved.direction walked.1
  let retainedStops := (resolved.stops.drop start).take (solved.length + 1)
  match composeSchedule platform
      ⟨retainedStops, solved.map (·.travel.seconds), resolved.anchorMs, resolved.direction⟩ with
  | .error error => .error error
  | .ok schedule =>
    .ok {
      schedule := { schedule with
        violations := resolved.violations ++ unreachable resolved.stops walked.2 ++
          schedule.violations }
      legPayloads :=
        ((walked.1.map fun cell => cell.bind (·.travel.payload)).drop start).take
          solved.length }

def oracleFor (direction : Direction) (forward backward : Option (LegOracle Payload)) :
    Option (LegOracle Payload) :=
  match direction with
  | .forward => forward
  | .backward => backward

def planScheduledTrip (platform : ZonePlatform) (resolved : ResolvedSchedule)
    (forward backward : Option (LegOracle Payload)) (providerId : Option String) :
    Except ScheduleError (ScheduledTripResult Payload) :=
  match oracleFor resolved.direction forward backward with
  | none => .error (.unsupportedDirection resolved.direction providerId)
  | some oracle =>
    match resolved.stops.head?, resolved.stops.getLast? with
    | some first, some last => finishTrip platform resolved (legCells oracle resolved first last)
    | _, _ => .error .typeError

/-- The walk calls the oracle for `leg` at `instant`: every call before it was answered. -/
inductive Asks (oracle : LegOracle Payload) (advance : ResolvedStopConstraint → ℚ → ℚ → ℚ) :
    ℚ → List (Nat × ResolvedStopConstraint) → Nat → ℚ → Prop where
  | here (instant : ℚ) (leg : Nat) (stop : ResolvedStopConstraint)
      (rest : List (Nat × ResolvedStopConstraint)) :
      Asks oracle advance instant ((leg, stop) :: rest) leg instant
  | later {instant : ℚ} {leg : Nat} {stop : ResolvedStopConstraint}
      {rest : List (Nat × ResolvedStopConstraint)} {travel : LegTravelResult Payload}
      {asked : Nat} {at_ : ℚ} (answered : oracle leg instant = some travel)
      (asks : Asks oracle advance (advance stop instant travel.seconds) rest asked at_) :
      Asks oracle advance instant ((leg, stop) :: rest) asked at_

def answers (oracle : LegOracle Payload) (advance : ResolvedStopConstraint → ℚ → ℚ → ℚ) :
    ℚ → List (Nat × ResolvedStopConstraint) → List (AskedLeg Payload)
  | _, [] => []
  | instant, (leg, stop) :: rest =>
    match oracle leg instant with
    | none => []
    | some travel =>
      ⟨leg, instant, travel⟩ ::
        answers oracle advance (advance stop instant travel.seconds) rest

section

variable (oracle : LegOracle Payload) (advance : ResolvedStopConstraint → ℚ → ℚ → ℚ)

variable (instant : ℚ) (hops : List (Nat × ResolvedStopConstraint))

theorem answers_length_le : (answers oracle advance instant hops).length ≤ hops.length := by
  induction hops generalizing instant with
  | nil => simp [answers]
  | cons hop rest ih =>
    obtain ⟨leg, stop⟩ := hop
    rw [answers]
    cases oracle leg instant with
    | none => simp
    | some travel => simpa using ih _

theorem walk_legs_cells : (walkLegs oracle advance instant hops).1 =
      (answers oracle advance instant hops).map some ++
        List.replicate (hops.length - (answers oracle advance instant hops).length) none := by
  induction hops generalizing instant with
  | nil => simp [walkLegs, answers]
  | cons hop rest ih =>
    obtain ⟨leg, stop⟩ := hop
    rw [walkLegs, answers]
    cases oracle leg instant with
    | none => simp
    | some travel => simp [ih]

theorem walk_legs_refused :
    (∃ leg stop, hops[(answers oracle advance instant hops).length]? = some (leg, stop) ∧
        (walkLegs oracle advance instant hops).2 = some leg ∧
        ∃ asked, Asks oracle advance instant hops leg asked ∧ oracle leg asked = none) ∨
      ((answers oracle advance instant hops).length = hops.length ∧
        (walkLegs oracle advance instant hops).2 = none) := by
  induction hops generalizing instant with
  | nil => exact .inr ⟨rfl, rfl⟩
  | cons hop rest ih =>
    obtain ⟨leg, stop⟩ := hop
    rw [walkLegs, answers]
    cases reply : oracle leg instant with
    | none => exact .inl ⟨leg, stop, rfl, rfl, instant, .here _ _ _ _, reply⟩
    | some travel =>
      rcases ih (advance stop instant travel.seconds) with
        ⟨refused, there, found, refusal, asked, asks, none_⟩ | ⟨all, complete⟩
      · exact .inl ⟨refused, there, by simpa using found, refusal, asked,
          .later reply asks, none_⟩
      · exact .inr ⟨by simpa using all, complete⟩

theorem answer_leg (index : Nat) (answer : AskedLeg Payload)
    (found : (answers oracle advance instant hops)[index]? = some answer) :
    ∃ stop, hops[index]? = some (answer.leg, stop) := by
  induction hops generalizing instant index with
  | nil => simp [answers] at found
  | cons hop rest ih =>
    obtain ⟨leg, stop⟩ := hop
    rw [answers] at found
    cases reply : oracle leg instant with
    | none => simp [reply] at found
    | some travel =>
      rw [reply] at found
      cases index with
      | zero =>
        obtain rfl := Option.some.inj found
        exact ⟨stop, rfl⟩
      | succ index => exact ih _ index found

theorem answer_first (answer : AskedLeg Payload)
    (found : (answers oracle advance instant hops)[0]? = some answer) :
    answer.instantMs = instant := by
  cases hops with
  | nil => simp [answers] at found
  | cons hop rest =>
    obtain ⟨leg, stop⟩ := hop
    rw [answers] at found
    cases reply : oracle leg instant with
    | none => simp [reply] at found
    | some travel =>
      rw [reply] at found
      obtain rfl := Option.some.inj found
      rfl

theorem answer_step (index : Nat) (answer next : AskedLeg Payload)
    (found : (answers oracle advance instant hops)[index]? = some answer)
    (foundNext : (answers oracle advance instant hops)[index + 1]? = some next)
    (leg : Nat) (stop) (hopAt : hops[index]? = some (leg, stop)) :
    next.instantMs = advance stop answer.instantMs answer.travel.seconds := by
  induction hops generalizing instant index with
  | nil => simp at hopAt
  | cons hop rest ih =>
    obtain ⟨headLeg, headStop⟩ := hop
    rw [answers] at found foundNext
    cases reply : oracle headLeg instant with
    | none => simp [reply] at found
    | some travel =>
      rw [reply] at found foundNext
      cases index with
      | zero =>
        obtain rfl := Option.some.inj found
        obtain ⟨rfl, rfl⟩ : headLeg = leg ∧ headStop = stop := by simpa using hopAt
        exact answer_first oracle advance _ rest next foundNext
      | succ index => exact ih _ index found foundNext hopAt

theorem answer_replied
    (call : AskedLeg Payload) (member : call ∈ answers oracle advance instant hops) :
    oracle call.leg call.instantMs = some call.travel := by
  induction hops generalizing instant with
  | nil => simp [answers] at member
  | cons hop rest ih =>
    obtain ⟨leg, stop⟩ := hop
    rw [answers] at member
    cases reply : oracle leg instant with
    | none => simp [reply] at member
    | some travel =>
      rw [reply] at member
      rcases List.mem_cons.mp member with rfl | later
      · exact reply
      · exact ih _ later

theorem first_answer (leg : Nat) (stop travel) (hopAt : hops[0]? = some (leg, stop))
    (reply : oracle leg instant = some travel) :
    (answers oracle advance instant hops)[0]? = some ⟨leg, instant, travel⟩ := by
  cases hops with
  | nil => simp at hopAt
  | cons hop rest =>
    obtain rfl := Option.some.inj hopAt
    rw [answers, reply]
    rfl

theorem next_answer (index : Nat) (answer : AskedLeg Payload) (leg nextLeg : Nat)
    (stop nextStop travel) (found : (answers oracle advance instant hops)[index]? = some answer)
    (hopAt : hops[index]? = some (leg, stop)) (nextAt : hops[index + 1]? = some (nextLeg, nextStop))
    (reply : oracle nextLeg (advance stop answer.instantMs answer.travel.seconds) = some travel) :
    (answers oracle advance instant hops)[index + 1]? =
      some ⟨nextLeg, advance stop answer.instantMs answer.travel.seconds, travel⟩ := by
  induction hops generalizing instant index with
  | nil => simp at hopAt
  | cons hop rest ih =>
    obtain ⟨headLeg, headStop⟩ := hop
    rw [answers] at found ⊢
    cases headReply : oracle headLeg instant with
    | none => simp [headReply] at found
    | some headTravel =>
      rw [headReply] at found
      cases index with
      | zero =>
        obtain rfl := Option.some.inj found
        obtain ⟨rfl, rfl⟩ : headLeg = leg ∧ headStop = stop := by simpa using hopAt
        exact first_answer oracle advance _ rest nextLeg nextStop travel nextAt reply
      | succ index => exact ih _ index found hopAt nextAt

end

end OpenMapX.Routing.ScheduledTrip
