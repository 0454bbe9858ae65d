import OpenMapX.Foundation.Runs
import OpenMapX.Navigation.GroundFix

/-!
# The rate of reroutes

The fixes of a session folded through `processFix` from a fresh tick state. The back-off
stays between its bounds, two requests for a reroute are at least the smallest back-off
apart, and the committed step moves forward along the route's steps only.
-/

namespace OpenMapX.Navigation.RerouteRate

open Foundation.Runs GroundFix

def freshNavTickState : NavTickState where
  offRouteScore := 0
  lastRerouteAtMs := none
  rerouteBackoffMs := 0
  spokenCues := []
  lastAlongMeters := none
  lastFixMs := none
  speedEstimate := none
  lastRaw := none
  lastDeviation := none
  uTurnSinceMs := none
  committedStepIndex := none
  reachedStepEnd := none

theorem gate_rounds_bounds (ends : List ℚ) (alongMeters entryMeters exitMeters : ℚ)
    (rounds committed : Nat) (entered : Bool) :
    committed ≤ (gateRounds ends alongMeters entryMeters exitMeters rounds committed
        entered).committedStepIndex ∧
      (gateRounds ends alongMeters entryMeters exitMeters rounds committed
        entered).committedStepIndex ≤ committed + rounds := by
  induction rounds generalizing committed entered with
  | zero => simp [gateRounds]
  | succ rounds ih =>
    simp only [gateRounds]
    split
    · have later := ih (committed + 1) false
      omega
    · simp

section

variable (ends : List ℚ) (stepCount : Nat) (alongMeters : ℚ) (prev : StepGateState)
  (entryMeters exitMeters : ℚ)

theorem step_gate_within :
    (advanceStepGate ends stepCount alongMeters prev entryMeters exitMeters).committedStepIndex
      ≤ stepCount - 1 := by
  unfold advanceStepGate
  split
  · exact Nat.zero_le _
  · have bounds := gate_rounds_bounds ends alongMeters entryMeters exitMeters
      (stepCount - 1 - min prev.committedStepIndex (stepCount - 1))
      (min prev.committedStepIndex (stepCount - 1)) prev.reachedStepEnd
    dsimp only
    omega

theorem step_gate_advances (within : prev.committedStepIndex ≤ stepCount - 1) :
    prev.committedStepIndex ≤ (advanceStepGate ends stepCount alongMeters prev entryMeters
        exitMeters).committedStepIndex := by
  unfold advanceStepGate
  split
  · rename_i short
    have first : prev.committedStepIndex = 0 := by omega
    exact first.le
  · have bounds := gate_rounds_bounds ends alongMeters entryMeters exitMeters
      (stepCount - 1 - min prev.committedStepIndex (stepCount - 1))
      (min prev.committedStepIndex (stepCount - 1)) prev.reachedStepEnd
    dsimp only
    omega

end

/-- A fix that `processFix` turns away. -/
def Unusable (opts : NavTickOptions) (fix : FixInput) : Prop :=
  opts.accuracyCapMeters < fix.accuracy ∨ finitePoint fix.coords = none

def BackoffBounded (opts : RerouteOpts) (backoffMs : ℚ) : Prop :=
  backoffMs = 0 ∨ opts.backoffBaseMs ≤ backoffMs ∧ backoffMs ≤ opts.backoffMaxMs

/-- The last request lies no earlier than `start`. -/
def AskedSince (start : ℚ) (state : NavTickState) : Prop :=
  ∃ last, state.lastRerouteAtMs = some last ∧ start ≤ last

section

variable (geo : RouteGeometry) (route : Route) (opts : NavTickOptions)

theorem process_rejected (fix : FixInput) (state : NavTickState) (unusable : Unusable opts fix) :
    processFix geo route fix state opts = rejectFix state := by
  unfold processFix
  cases place : finitePoint fix.coords with
  | none => rfl
  | some point =>
    have coarse : opts.accuracyCapMeters < fix.accuracy := by
      rcases unusable with coarse | missing
      · exact coarse
      · simp [place] at missing
    exact if_pos coarse

theorem process_cases (fix : FixInput) (state : NavTickState) :
    (Unusable opts fix ∧ processFix geo route fix state opts = rejectFix state) ∨
      ∃ point, processFix geo route fix state opts = acceptFix geo route fix point state opts := by
  by_cases unusable : Unusable opts fix
  · exact Or.inl ⟨unusable, process_rejected geo route opts fix state unusable⟩
  · unfold Unusable at unusable
    rw [not_or] at unusable
    obtain ⟨point, place⟩ := Option.ne_none_iff_exists'.mp unusable.2
    apply Or.inr
    refine ⟨point, ?_⟩
    unfold processFix
    rw [place]
    exact if_neg unusable.1

variable {opts}

theorem current_backoff_bounded {backoffMs : ℚ} (ordered : opts.reroute.backoffBaseMs ≤
    opts.reroute.backoffMaxMs) (bounded : BackoffBounded opts.reroute backoffMs) :
    opts.reroute.backoffBaseMs ≤
        (if 0 < backoffMs then backoffMs else opts.reroute.backoffBaseMs) ∧
      (if 0 < backoffMs then backoffMs else opts.reroute.backoffBaseMs) ≤
        opts.reroute.backoffMaxMs := by
  split
  · rename_i set
    rcases bounded with unset | bounds
    · exact absurd unset set.ne'
    · exact bounds
  · exact ⟨le_refl _, ordered⟩

theorem next_backoff_bounded {current : ℚ} (positive : 0 < opts.reroute.backoffBaseMs)
    (ordered : opts.reroute.backoffBaseMs ≤ opts.reroute.backoffMaxMs)
    (bounds : opts.reroute.backoffBaseMs ≤ current ∧ current ≤ opts.reroute.backoffMaxMs)
    (asked settled : Bool) : BackoffBounded opts.reroute
      (if asked then min (current * (3 / 2)) opts.reroute.backoffMaxMs
        else if settled then opts.reroute.backoffBaseMs else current) := by
  apply Or.inr
  cases asked with
  | true =>
    rw [if_pos rfl]
    apply And.intro
    · apply le_min
      · linarith [bounds.1]
      · exact ordered
    · exact min_le_right _ _
  | false =>
    rw [if_neg Bool.false_ne_true]
    split
    · exact ⟨le_refl _, ordered⟩
    · exact bounds

theorem accepted_backoff (positive : 0 < opts.reroute.backoffBaseMs)
    (ordered : opts.reroute.backoffBaseMs ≤ opts.reroute.backoffMaxMs) (fix : FixInput)
    (point : Point) (state : NavTickState)
    (bounded : BackoffBounded opts.reroute state.rerouteBackoffMs) : BackoffBounded opts.reroute
      (acceptFix geo route fix point state opts).nextState.rerouteBackoffMs := by
  unfold acceptFix
  exact next_backoff_bounded positive ordered (current_backoff_bounded ordered bounded) _ _

theorem should_reroute_waits {score backoffMs nowMs last : ℚ} {lastRerouteAtMs}
    (asked : shouldReroute score lastRerouteAtMs backoffMs nowMs opts.reroute = true)
    (before : lastRerouteAtMs = some last) : backoffMs ≤ nowMs - last := by
  simp [shouldReroute, before] at asked
  linarith [asked.2]

theorem accepted_request_waits (ordered : opts.reroute.backoffBaseMs ≤ opts.reroute.backoffMaxMs)
    (fix : FixInput) (point : Point) (state : NavTickState)
    (bounded : BackoffBounded opts.reroute state.rerouteBackoffMs) {last : ℚ}
    (before : state.lastRerouteAtMs = some last)
    (asked : (acceptFix geo route fix point state opts).needsReroute = true) :
    opts.reroute.backoffBaseMs ≤ fix.timestampMs - last := by
  have current := current_backoff_bounded ordered bounded
  simp only [acceptFix] at asked
  have waited := should_reroute_waits asked before
  refine le_trans ?_ waited
  split
  · exact le_refl _
  · exact current.1

variable (opts)

def tick (state : NavTickState) (fix : FixInput) : NavTickState :=
  (processFix geo route fix state opts).nextState

structure Rated (state : NavTickState) : Prop where
  backoff : BackoffBounded opts.reroute state.rerouteBackoffMs
  committed : state.committedStepIndex.getD 0 ≤ route.steps.length - 1

theorem fresh_rated : Rated route opts freshNavTickState := ⟨Or.inl rfl, Nat.zero_le _⟩

variable {opts}

theorem tick_rated (positive : 0 < opts.reroute.backoffBaseMs)
    (ordered : opts.reroute.backoffBaseMs ≤ opts.reroute.backoffMaxMs) (state : NavTickState)
    (fix : FixInput) (rated : Rated route opts state) :
    Rated route opts (tick geo route opts state fix) := by
  unfold tick
  obtain ⟨-, rejected⟩ | ⟨point, accepted⟩ := process_cases geo route opts fix state
  · rw [rejected]
    exact rated
  · rw [accepted]
    constructor
    · exact accepted_backoff geo route positive ordered fix point state rated.backoff
    · exact step_gate_within _ _ _ _ _ _

theorem tick_advances (state : NavTickState) (fix : FixInput) (rated : Rated route opts state) :
    state.committedStepIndex.getD 0 ≤
      (tick geo route opts state fix).committedStepIndex.getD 0 := by
  unfold tick
  obtain ⟨-, rejected⟩ | ⟨point, accepted⟩ := process_cases geo route opts fix state
  · rw [rejected]
    exact le_refl _
  · rw [accepted]
    exact step_gate_advances _ _ _ ⟨_, _⟩ _ _ rated.committed

theorem request_resets (state : NavTickState) (fix : FixInput)
    (asked : (processFix geo route fix state opts).needsReroute = true) :
    (tick geo route opts state fix).offRouteScore = 0 ∧
      (tick geo route opts state fix).lastRerouteAtMs = some fix.timestampMs := by
  unfold tick
  obtain ⟨-, rejected⟩ | ⟨point, accepted⟩ := process_cases geo route opts fix state
  · rw [rejected] at asked
    cases asked
  · rw [accepted] at asked ⊢
    simp only [acceptFix] at asked ⊢
    exact ⟨if_pos asked, if_pos asked⟩

theorem tick_asked_since {start : ℚ} (state : NavTickState) (fix : FixInput)
    (later : start ≤ fix.timestampMs) (asked : AskedSince start state) :
    AskedSince start (tick geo route opts state fix) := by
  by_cases again : (processFix geo route fix state opts).needsReroute = true
  · exact ⟨_, (request_resets geo route state fix again).2, later⟩
  · obtain ⟨last, before, since⟩ := asked
    refine ⟨last, ?_, since⟩
    unfold tick
    obtain ⟨-, rejected⟩ | ⟨point, accepted⟩ := process_cases geo route opts fix state
    · rw [rejected]
      exact before
    · rw [accepted] at again ⊢
      simp only [acceptFix] at again ⊢
      rw [if_neg again]
      exact before

theorem request_waits (ordered : opts.reroute.backoffBaseMs ≤ opts.reroute.backoffMaxMs)
    {start : ℚ} (state : NavTickState) (fix : FixInput) (rated : Rated route opts state)
    (since : AskedSince start state)
    (asked : (processFix geo route fix state opts).needsReroute = true) :
    opts.reroute.backoffBaseMs ≤ fix.timestampMs - start := by
  obtain ⟨last, before, later⟩ := since
  obtain ⟨-, rejected⟩ | ⟨point, accepted⟩ := process_cases geo route opts fix state
  · rw [rejected] at asked
    cases asked
  · rw [accepted] at asked
    have waited := accepted_request_waits geo route ordered fix point state rated.backoff before
      asked
    linarith

section

variable (positive : 0 < opts.reroute.backoffBaseMs)
  (ordered : opts.reroute.backoffBaseMs ≤ opts.reroute.backoffMaxMs)
include positive ordered

theorem run_rated (fixes : List FixInput) :
    Rated route opts (run (tick geo route opts) fixes freshNavTickState) :=
  run_keeps (tick_rated geo route positive ordered) fixes freshNavTickState
    (fresh_rated route opts)

theorem requests_apart (earlier between : List FixInput) (first second : FixInput)
    (inOrder : (first :: (between ++ [second])).Pairwise fun before after =>
      before.timestampMs ≤ after.timestampMs) (askedFirst : (processFix geo route first
      (run (tick geo route opts) earlier freshNavTickState) opts).needsReroute = true)
    (askedSecond : (processFix geo route second
      (run (tick geo route opts) (earlier ++ first :: between) freshNavTickState)
      opts).needsReroute = true) :
    opts.reroute.backoffBaseMs ≤ second.timestampMs - first.timestampMs := by
  have later : ∀ fix ∈ between, first.timestampMs ≤ fix.timestampMs := by
    intro fix member
    apply (List.pairwise_cons.mp inOrder).1
    simp [member]
  have atFirst : AskedSince first.timestampMs
      (run (tick geo route opts) (earlier ++ [first]) freshNavTickState) := by
    rw [run_snoc]
    exact ⟨_, (request_resets geo route _ first askedFirst).2, le_refl _⟩
  have atSecond : AskedSince first.timestampMs
      (run (tick geo route opts) (earlier ++ first :: between) freshNavTickState) := by
    rw [show earlier ++ first :: between = (earlier ++ [first]) ++ between by simp, run_append]
    exact run_invariant (fun state fix allowed => tick_asked_since geo route state fix allowed)
      between later _ atFirst
  exact request_waits geo route ordered _ second (run_rated geo route positive ordered _)
    atSecond askedSecond

end

/-- Along every run of fixes in the order of their times, the requests for a reroute are
rate limited and each fix keeps the state well formed. -/
theorem reroutes_are_rate_limited (positive : 0 < opts.reroute.backoffBaseMs)
    (ordered : opts.reroute.backoffBaseMs ≤ opts.reroute.backoffMaxMs) (fixes : List FixInput)
    (inOrder : fixes.Pairwise fun before after => before.timestampMs ≤ after.timestampMs) :
    (∀ reached, reached <+: fixes → BackoffBounded opts.reroute
      (run (tick geo route opts) reached freshNavTickState).rerouteBackoffMs) ∧
    (∀ earlier first between second, earlier ++ first :: (between ++ [second]) <+: fixes →
      (processFix geo route first
        (run (tick geo route opts) earlier freshNavTickState) opts).needsReroute = true →
      (processFix geo route second
        (run (tick geo route opts) (earlier ++ first :: between) freshNavTickState)
        opts).needsReroute = true →
      opts.reroute.backoffBaseMs ≤ second.timestampMs - first.timestampMs) ∧
    (∀ earlier fix, earlier ++ [fix] <+: fixes →
      let before := run (tick geo route opts) earlier freshNavTickState
      let result := processFix geo route fix before opts
      (result.needsReroute = true → result.nextState.offRouteScore = 0) ∧
      before.committedStepIndex.getD 0 ≤ result.nextState.committedStepIndex.getD 0 ∧
      result.nextState.committedStepIndex.getD 0 ≤ route.steps.length - 1 ∧
      (Unusable opts fix → result.nextState = before)) := by
  refine ⟨?_, ?_, ?_⟩
  · intro reached _
    exact (run_rated geo route positive ordered reached).backoff
  · intro earlier first between second within askedFirst askedSecond
    have inside : (earlier ++ first :: (between ++ [second])).Pairwise fun before after =>
        before.timestampMs ≤ after.timestampMs := inOrder.sublist within.sublist
    exact requests_apart geo route positive ordered earlier between first second
      (List.pairwise_append.mp inside).2.1 askedFirst askedSecond
  · intro earlier fix _ before result
    have rated : Rated route opts before := run_rated geo route positive ordered earlier
    refine ⟨?_, ?_, ?_, ?_⟩
    · intro asked
      exact (request_resets geo route before fix asked).1
    · exact tick_advances geo route before fix rated
    · exact (tick_rated geo route positive ordered before fix rated).committed
    · intro unusable
      have rejected := process_rejected geo route opts fix before unusable
      change (processFix geo route fix before opts).nextState = before
      rw [rejected]
      rfl

end

def lostWalker : RouteGeometry where
  haversineDistance := fun _ _ => 0
  bearingBetween := fun _ _ => 0
  exp := fun _ => 0
  snapPreparedRoute := fun _ _ =>
    { snapped := (0, 0), alongMeters := 0, deviationMeters := 1000, segmentIndex := 0 }
  prepareManeuverPositions := fun _ => { starts := [], ends := [], total := 0 }

def walkerRoute : Route := { geometry := [], steps := [], distance := 0, duration := 0 }

def walkerFix (timestampMs : ℚ) : FixInput where
  coords := lngLatOf (0, 0)
  accuracy := 10
  heading := none
  speed := some 2
  timestampMs := timestampMs
  coasted := false

/-- The walker asks for a route with the third fix and again with the sixth. -/
theorem lost_walker_waits : (navOptionsForMode .walking).reroute.backoffBaseMs ≤
      (walkerFix 6500).timestampMs - (walkerFix 2000).timestampMs :=
  (@reroutes_are_rate_limited lostWalker walkerRoute (navOptionsForMode .walking)
    (by norm_num [navOptionsForMode]) (by norm_num [navOptionsForMode])
    ([walkerFix 0, walkerFix 1000, walkerFix 2000, walkerFix 3000, walkerFix 4000, walkerFix 6500])
    (by simp [walkerFix]; norm_num)).2.1
    [walkerFix 0, walkerFix 1000] (walkerFix 2000) [walkerFix 3000, walkerFix 4000]
    (walkerFix 6500) List.prefix_rfl (by decide +kernel) (by decide +kernel)

end OpenMapX.Navigation.RerouteRate
