import OpenMapX.Charging.ClockStretches

/-!
# Elements on a stretch

On a stretch between two cuts an element of a tariff applies all the time or not at
all, so that further cuts do not change the cost of a session.
-/

namespace OpenMapX.Charging.ElementStretches

open Foundation.TextOrder Foundation.Stretches TariffCost ClockStretches List

section

variable {K : Type} [Field K] [LinearOrder K] [FloorRing K]

/-- The element applies at a share of the session: its bounds on energy and duration
cover it, and its other restrictions hold at that time. -/
def appliesNow (session : Session K) (element : TariffElement K) (share : K) : Bool :=
  (match shareSpan element.restrictions session with
    | (some start, finish) => decide (start ≤ share) && decide (share < finish)
    | (none, _) => false) && appliesAt session element share

def firstAt (tariff : EnergyTariff K) (session : Session K) (type : ComponentType) (share : K) :
    Option (PlacedComponent K) :=
  ((tariff.elements.zipIdx.filter fun entry => appliesNow session entry.1 share).flatMap
    fun entry => placedComponents entry.2 entry.1).find? fun c => c.component.type = type

def ClockWindows (tariff : EnergyTariff K) : Prop :=
  ∀ element ∈ tariff.elements, ∀ r, element.restrictions = some r → ∀ text,
    present r.startTime = some text ∨ present r.endTime = some text → IsClock text

theorem spanned_applies (session : Session K) (entry) (share : K) :
    (((spanned entry session).toList.filter fun e =>
        decide (e.start ≤ share) && decide (share < e.finish) &&
          appliesAt session e.element share).flatMap fun e => placedComponents e.index e.element) =
    if appliesNow session entry.1 share then placedComponents entry.2 entry.1 else [] := by
  unfold spanned appliesNow
  cases span : shareSpan entry.1.restrictions session with
  | mk start finish =>
    cases start with
    | none => simp
    | some start =>
      dsimp only
      by_cases open_ : start < finish
      · rw [if_pos open_]
        by_cases applies : (decide (start ≤ share) && decide (share < finish) &&
            appliesAt session entry.1 share) = true
        · simp [applies]
        · simp [applies]
      · rw [if_neg open_]
        have closed : ¬ (start ≤ share ∧ share < finish) := fun both =>
          open_ (lt_of_le_of_lt both.1 both.2)
        have never : (decide (start ≤ share) && decide (share < finish) &&
            appliesAt session entry.1 share) = false := by
          rw [← Bool.decide_and, decide_eq_false closed, Bool.false_and]
        simp [never]

theorem component_at_first (tariff : EnergyTariff K) (session : Session K) (type : ComponentType)
    (share : K) : componentAt tariff session type share = firstAt tariff session type share := by
  unfold componentAt firstAt spannedElements
  congr 1
  induction tariff.elements.zipIdx with
  | nil => rfl
  | cons entry rest ih =>
    have front : (entry :: rest).filterMap (fun entry => spanned entry session) =
        (spanned entry session).toList ++ rest.filterMap fun entry => spanned entry session := by
      cases found : spanned entry session <;> simp [found]
    rw [front, filter_append, flatMap_append, spanned_applies session entry share, ih,
      filter_cons]
    split
    · rw [flatMap_cons]
    · rfl

end

section

variable {K : Type} [Field K] [LinearOrder K] [IsStrictOrderedRing K] [FloorRing K]

omit [IsStrictOrderedRing K] in
theorem share_minute (session : Session K) (share : K) :
    (((session.atShare share).arrivalLocal.minute : ℕ) : ℤ) = clockAt session share % 1440 := by
  have positive := Int.emod_nonneg (clockAt session share) (show (1440 : ℤ) ≠ 0 by decide)
  exact Int.toNat_of_nonneg positive

omit [IsStrictOrderedRing K] in
theorem share_day (session : Session K) (share : K) : (session.atShare share).arrivalLocal.day =
      session.arrivalLocal.day + clockAt session share / 1440 := rfl

variable {elements : List (TariffElement K)} {start cut first second : K}

theorem same_turn_between {session} {edge : ℤ} (listed : (edge : ℚ) ∈ clockEdges elements)
    (avoids : Avoids (clockCuts elements session) start cut) (opens : 0 ≤ start) (ends : cut ≤ 1)
    (firstIn : start < first ∧ first < cut) (secondIn : start < second ∧ second < cut) :
    (clockAt session first - edge) / 1440 = (clockAt session second - edge) / 1440 := by
  rcases le_total first second with order | order
  · exact same_turn elements session edge listed avoids opens ends firstIn.1 order secondIn.2
  · exact (same_turn elements session edge listed avoids opens ends secondIn.1 order
      firstIn.2).symm

theorem same_side {session} {text : String} (clock : IsClock text)
    (listed : ∀ minutes, minutesOf text = some minutes → minutes ∈ clockEdges elements)
    (avoids : Avoids (clockCuts elements session) start cut) (opens : 0 ≤ start) (ends : cut ≤ 1)
    (firstIn : start < first ∧ first < cut) (secondIn : start < second ∧ second < cut) :
    textLe text (session.atShare first).arrivalLocal.time =
      textLe text (session.atShare second).arrivalLocal.time := by
  obtain ⟨minute, inDay, rfl⟩ := clock
  have edge : ((minute : ℤ) : ℚ) ∈ clockEdges elements := by
    have known := listed _ (minutes_of_clock minute inDay)
    exact_mod_cast known
  have midnight : ((0 : ℤ) : ℚ) ∈ clockEdges elements := by
    unfold clockEdges
    rw [mem_dedup]
    simp
  have turn := same_turn_between edge avoids opens ends firstIn secondIn
  have day := same_turn_between midnight avoids opens ends firstIn secondIn
  rw [sub_zero, sub_zero] at day
  have firstMinute := share_minute session first
  have secondMinute := share_minute session second
  have firstBelow := (session.atShare first).arrivalLocal.inDay
  have secondBelow := (session.atShare second).arrivalLocal.inDay
  unfold MINUTES_PER_DAY at firstBelow secondBelow
  rw [Bool.eq_iff_iff]
  unfold LocalArrival.time
  rw [clock_text_le inDay (by omega), clock_text_le inDay (by omega)]
  omega

def SameSides (r : EnergyTariffRestrictions K) (first second : String) : Prop :=
  ∀ text, present r.startTime = some text ∨ present r.endTime = some text →
    textLe text first = textLe text second

omit [Field K] [LinearOrder K] [IsStrictOrderedRing K] [FloorRing K]

section

variable (r : EnergyTariffRestrictions K) {first second : String}
  (compare : SameSides r first second)
include compare

theorem night_same : afterMidnight r first = afterMidnight r second := by
  unfold afterMidnight
  cases r.startTime with
  | none => rfl
  | some opening =>
    cases finishes : r.endTime with
    | none => rfl
    | some closing =>
      have told : textLe closing first = textLe closing second := by
        by_cases empty : closing = ""
        · rw [empty, empty_text_le, empty_text_le]
        · apply compare closing
          right
          rw [finishes]
          simp [present, empty]
      simp only [textLt, told]

theorem window_same :
    withinWindow first r.startTime r.endTime = withinWindow second r.startTime r.endTime := by
  have after : ((present r.startTime).all fun opening => textLe opening first) =
      (present r.startTime).all fun opening => textLe opening second := by
    cases starts : present r.startTime with
    | none => rfl
    | some opening => exact compare opening (Or.inl starts)
  have before : ((present r.endTime).all fun closing => textLt first closing) =
      (present r.endTime).all fun closing => textLt second closing := by
    cases finishes : present r.endTime with
    | none => rfl
    | some closing =>
      have told := compare closing (Or.inr finishes)
      simp only [Option.all_some, textLt, told]
  unfold withinWindow
  dsimp only
  rw [after, before]

end

variable [Field K] [LinearOrder K] [IsStrictOrderedRing K] [FloorRing K]

theorem matches_steady {session element} (member : element ∈ elements)
    (windows : ∀ r, element.restrictions = some r → ∀ text,
      present r.startTime = some text ∨ present r.endTime = some text → IsClock text)
    (avoids : Avoids (clockCuts elements session) start cut) (opens : 0 ≤ start) (ends : cut ≤ 1)
    (firstIn : start < first ∧ first < cut) (secondIn : start < second ∧ second < cut) :
    appliesAt session element first = appliesAt session element second := by
  have midnight : ((0 : ℤ) : ℚ) ∈ clockEdges elements := by
    unfold clockEdges
    rw [mem_dedup]
    simp
  have turn := same_turn_between midnight avoids opens ends firstIn secondIn
  rw [sub_zero, sub_zero] at turn
  have day : (session.atShare first).arrivalLocal.day =
      (session.atShare second).arrivalLocal.day := by
    rw [share_day, share_day, turn]
  have weekday : (session.atShare first).arrivalLocal.weekday =
      (session.atShare second).arrivalLocal.weekday := by
    unfold LocalArrival.weekday
    rw [day]
  have date : (session.atShare first).arrivalLocal.date =
      (session.atShare second).arrivalLocal.date := by
    unfold LocalArrival.date
    rw [day]
  unfold appliesAt tariffMatches
  cases restricted : element.restrictions with
  | none => rfl
  | some r =>
    have edges : ∀ text, present r.startTime = some text ∨ present r.endTime = some text →
        ∀ minutes, minutesOf text = some minutes → minutes ∈ clockEdges elements := by
      intro text edge minutes read
      unfold clockEdges
      rw [mem_dedup]
      apply mem_cons_of_mem
      apply mem_flatMap.mpr
      refine ⟨element, member, ?_⟩
      rw [restricted, mem_append]
      rcases edge with starts | finishes
      · exact Or.inl (by simp [starts, read])
      · exact Or.inr (by simp [finishes, read])
    have compare : SameSides r (session.atShare first).arrivalLocal.time
        (session.atShare second).arrivalLocal.time := by
      intro text edge
      exact same_side (windows r restricted text edge) (edges text edge) avoids opens ends firstIn
        secondIn
    have night := night_same r compare
    have window := window_same r compare
    dsimp only
    rw [night, window, weekday, date]
    rfl

omit [IsStrictOrderedRing K] [FloorRing K] in
theorem mem_cuts (points : List K) (point : K) :
    point ∈ cutsFrom points ↔ point ∈ points ∧ 0 ≤ point ∧ point ≤ 1 := by
  unfold cutsFrom
  rw [mem_mergeSort, mem_filter, mem_dedup, Bool.and_eq_true, decide_eq_true_iff,
    decide_eq_true_iff]

omit [IsStrictOrderedRing K] [FloorRing K] in
theorem cuts_sorted (points : List K) : (cutsFrom points).Pairwise (· < ·) := by
  have apart : (cutsFrom points).Nodup := by
    unfold cutsFrom
    rw [(mergeSort_perm _ _).nodup_iff]
    exact (nodup_dedup points).filter _
  have order : (cutsFrom points).Pairwise (· ≤ ·) := by
    have sorted := @pairwise_mergeSort K (fun a b => decide (a ≤ b))
      (fun a b c first second => by
        rw [decide_eq_true_iff] at first second ⊢
        exact le_trans first second)
      (fun a b => by
        rw [Bool.or_eq_true, decide_eq_true_iff, decide_eq_true_iff]
        exact le_total a b)
      (points.dedup.filter fun cut => decide (0 ≤ cut) && decide (cut ≤ 1))
    exact sorted.imp fun le => of_decide_eq_true le
  exact (order.and apart).imp fun both => lt_of_le_of_ne both.1 both.2

omit [FloorRing K] in
theorem cuts_ends {points : List K} (zero : (0 : K) ∈ points) (one : (1 : K) ∈ points) :
    ∃ cut rest, cutsFrom points = 0 :: cut :: rest ∧ (cut :: rest).getLast? = some 1 := by
  have first : (0 : K) ∈ cutsFrom points := (mem_cuts points 0).mpr ⟨zero, le_refl 0, zero_le_one⟩
  have last : (1 : K) ∈ cutsFrom points := (mem_cuts points 1).mpr ⟨one, zero_le_one, le_refl 1⟩
  have sorted := cuts_sorted points
  have bounds : ∀ cut ∈ cutsFrom points, 0 ≤ cut ∧ cut ≤ 1 := fun cut member =>
    ((mem_cuts points cut).mp member).2
  generalize cutsFrom points = cuts at first last sorted bounds
  cases cuts with
  | nil => cases first
  | cons start rest =>
    have tail := pairwise_cons.mp sorted
    have zeroStart : start = 0 := by
      rcases mem_cons.mp first with same | later
      · exact same.symm
      · exact absurd (tail.1 0 later) (not_lt_of_ge (bounds start mem_cons_self).1)
    have oneLater : (1 : K) ∈ rest := by
      rcases mem_cons.mp last with same | later
      · rw [zeroStart] at same
        exact absurd same one_ne_zero
      · exact later
    have ends := last_of_greatest tail.2 oneLater fun cut member =>
      (bounds cut (mem_cons_of_mem start member)).2
    cases rest with
    | nil => cases oneLater
    | cons cut rest => exact ⟨cut, rest, by rw [zeroStart], ends⟩

omit [FloorRing K] [IsStrictOrderedRing K] in
theorem cuts_chain (points : List K) :
    (cutsFrom points).IsChain fun start cut => start < cut ∧ 0 ≤ start ∧ cut ≤ 1 ∧
      Avoids points start cut := by
  apply avoids_chain points _ (cuts_sorted points) fun cut member => ((mem_cuts points cut).mp member).2
  intro point member
  by_cases early : 0 ≤ point
  · by_cases late : point ≤ 1
    · exact Or.inl ((mem_cuts points point).mpr ⟨member, early, late⟩)
    · apply Or.inr (Or.inr _)
      intro cut among
      exact le_trans ((mem_cuts points cut).mp among).2.2 (le_of_lt (not_le.mp late))
  · apply Or.inr (Or.inl _)
    intro cut among
    exact le_trans (le_of_lt (not_le.mp early)) ((mem_cuts points cut).mp among).2.1

section

variable (tariff : EnergyTariff K) (session : Session K)

omit [IsStrictOrderedRing K] in
theorem span_listed {tariff session element} (member : element ∈ tariff.elements) {start finish : K}
    (span : shareSpan element.restrictions session = (some start, finish)) (open_ : start < finish)
    : element ∈ (spannedElements tariff session).map SpannedElement.element ∧
      start ∈ cutPoints tariff session ∧ finish ∈ cutPoints tariff session := by
  obtain ⟨index, place⟩ := mem_iff_getElem?.mp member
  have listed : (element, index) ∈ tariff.elements.zipIdx := mem_zipIdx_iff_getElem?.mpr place
  have found : spanned (element, index) session = some ⟨index, element, start, finish⟩ := by
    unfold spanned
    dsimp only
    rw [span]
    exact if_pos open_
  have among : (⟨index, element, start, finish⟩ : SpannedElement K) ∈
      spannedElements tariff session := mem_filterMap.mpr ⟨_, listed, found⟩
  refine ⟨mem_map.mpr ⟨_, among, rfl⟩, ?_, ?_⟩
  · unfold cutPoints
    simp only [mem_cons, mem_append, mem_flatMap]
    exact Or.inr (Or.inr (Or.inl ⟨_, among, Or.inl rfl⟩))
  · unfold cutPoints
    simp only [mem_cons, mem_append, mem_flatMap]
    exact Or.inr (Or.inr (Or.inl ⟨_, among, Or.inr (Or.inl rfl)⟩))

variable {tariff session} in
theorem applies_steady (windows : ClockWindows tariff) {element}
    (member : element ∈ tariff.elements)
    (listed : element ∈ (spannedElements tariff session).map SpannedElement.element)
    {start cut first second : K} (opens : 0 ≤ start) (ends : cut ≤ 1)
    (avoids : Avoids (cutPoints tariff session) start cut)
    (firstIn : start < first ∧ first < cut) (secondIn : start < second ∧ second < cut) :
    appliesAt session element first = appliesAt session element second := by
  have clocks : Avoids
      (clockCuts ((spannedElements tariff session).map SpannedElement.element) session)
      start cut := by
    intro point among
    apply avoids
    unfold cutPoints
    simp only [mem_cons, mem_append]
    exact Or.inr (Or.inr (Or.inr among))
  exact matches_steady listed (windows element member) clocks opens ends firstIn secondIn

section

variable (windows : ClockWindows tariff)
include windows

variable {tariff session} in
theorem element_steady {element} (member : element ∈ tariff.elements) {start cut first second : K}
    (opens : 0 ≤ start) (ends : cut ≤ 1) (avoids : Avoids (cutPoints tariff session) start cut)
    (firstIn : start < first ∧ first < cut) (secondIn : start < second ∧ second < cut) :
    appliesNow session element first = appliesNow session element second := by
  unfold appliesNow
  cases span : shareSpan element.restrictions session with
  | mk begins finish =>
    cases begins with
    | none =>
      dsimp only
      rw [Bool.false_and, Bool.false_and]
    | some begins =>
      dsimp only
      by_cases open_ : begins < finish
      · have listed := span_listed member span open_
        have same := applies_steady windows member listed.1 opens ends avoids firstIn secondIn
        have begun : begins ≤ first ↔ begins ≤ second := by
          rcases avoids begins listed.2.1 with before | after
          · exact iff_of_true (le_trans before (le_of_lt firstIn.1))
              (le_trans before (le_of_lt secondIn.1))
          · exact iff_of_false (not_le_of_gt (lt_of_lt_of_le firstIn.2 after))
              (not_le_of_gt (lt_of_lt_of_le secondIn.2 after))
        have over_ : first < finish ↔ second < finish := by
          rcases avoids finish listed.2.2 with before | after
          · exact iff_of_false (not_lt_of_ge (le_trans before (le_of_lt firstIn.1)))
              (not_lt_of_ge (le_trans before (le_of_lt secondIn.1)))
          · exact iff_of_true (lt_of_lt_of_le firstIn.2 after)
              (lt_of_lt_of_le secondIn.2 after)
        rw [same, decide_eq_decide.mpr begun, decide_eq_decide.mpr over_]
      · have never : ∀ share, (decide (begins ≤ share) && decide (share < finish)) = false := by
          intro share
          rw [← Bool.decide_and]
          exact decide_eq_false fun both => open_ (lt_of_le_of_lt both.1 both.2)
        rw [never, never, Bool.false_and, Bool.false_and]

theorem first_steady (type : ComponentType) {start cut : K} (opens : 0 ≤ start) (ends : cut ≤ 1)
    (avoids : Avoids (cutPoints tariff session) start cut) :
    SteadyOn (componentAt tariff session type) start cut := by
  intro first second firstAfter firstBefore secondAfter secondBefore
  rw [component_at_first, component_at_first]
  unfold firstAt
  congr 2
  apply filter_congr
  intro entry member
  exact element_steady windows (fst_mem_of_mem_zipIdx member) opens ends avoids
    ⟨firstAfter, firstBefore⟩ ⟨secondAfter, secondBefore⟩

theorem shares_refined (type : ComponentType) (extra : List K) :
    sharesOf (componentAt tariff session type) (cutsFrom (cutPoints tariff session ++ extra)) =
      sharesOf (componentAt tariff session type) (cutsFrom (cutPoints tariff session)) := by
  have zero : (0 : K) ∈ cutPoints tariff session := mem_cons_self
  have one : (1 : K) ∈ cutPoints tariff session := by simp [cutPoints]
  obtain ⟨cut, rest, cuts, last⟩ := cuts_ends zero one
  obtain ⟨inner, others, refined, lastRefined⟩ := cuts_ends
    (mem_append_left extra zero) (mem_append_left extra one)
  have sorted := cuts_sorted (cutPoints tariff session)
  have sortedRefined := cuts_sorted (cutPoints tariff session ++ extra)
  have chain := cuts_chain (cutPoints tariff session)
  have among : cutsFrom (cutPoints tariff session) ⊆
      cutsFrom (cutPoints tariff session ++ extra) := by
    intro point member
    have known := (mem_cuts _ point).mp member
    exact (mem_cuts _ point).mpr ⟨mem_append_left extra known.1, known.2⟩
  rw [cuts] at sorted chain among ⊢
  rw [refined] at sortedRefined among ⊢
  have steady : Steady (componentAt tariff session type) 0 (cut :: rest) :=
    steady_of_chain (fun start cut between =>
      first_steady tariff session windows type between.2.1 between.2.2.1 between.2.2.2) _ 0 chain
  apply take_refined _ _ 0 (cut :: rest) noShares sorted sortedRefined _
    (lastRefined.trans last.symm) steady
  intro point member
  have beyond := (pairwise_cons.mp sorted).1 point member
  exact (mem_cons.mp (among (mem_cons_of_mem 0 member))).resolve_left (ne_of_gt beyond)

theorem cost_refined (extra : List K) :
    costOver tariff session (cutPoints tariff session ++ extra) = costOn tariff session := by
  have same : ∀ type, chargeType tariff session (cutsFrom (cutPoints tariff session ++ extra)) type =
      chargeType tariff session (cutsFrom (cutPoints tariff session)) type := by
    intro type
    unfold chargeType
    rw [shares_refined tariff session windows type extra]
  unfold costOn costOver chargesOver
  rw [funext same]

end

end

end

end OpenMapX.Charging.ElementStretches
