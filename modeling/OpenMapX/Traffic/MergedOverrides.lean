import OpenMapX.Traffic.ConditionEdges

/-!
# Merged overrides

The overrides of a list of conditions are those of the asks of its routed conditions, merged in
turn. The override of an edge has everyone who asked for it; it is closed if one of them closes
it, and else it has the lowest cap.
-/

namespace OpenMapX.Traffic.MergedOverrides

open Foundation.KeyedList RoadConditions.Effects TarIndex WriteLive ConditionEdges List

section

variable {Timing Evidence : Type}
  (decision : BoundCondition Timing Evidence → Decision)
  (spanKey : String → BoundSpan → String)
  (waysToEdges : ℚ → Option (List WayEdge))
  (resolvedEdges : String → Option (List WayEdge))

def Eligible (condition : BoundCondition Timing Evidence) : Prop :=
  mayRoute condition = true ∧ (decision condition).eligible = true

def Resolved (condition : BoundCondition Timing Evidence) : Prop :=
  (completeSpans spanKey waysToEdges resolvedEdges condition).length =
      condition.segments.length ∧
    completeSpans spanKey waysToEdges resolvedEdges condition ≠ []

def Routed (condition : BoundCondition Timing Evidence) : Prop :=
  Eligible decision condition ∧ Resolved spanKey waysToEdges resolvedEdges condition

instance (condition : BoundCondition Timing Evidence) :
    Decidable (Routed decision spanKey waysToEdges resolvedEdges condition) :=
  inferInstanceAs (Decidable ((_ ∧ _) ∧ (_ ∧ ¬_ = [])))

def conditionAsks (condition : BoundCondition Timing Evidence) : List Ask :=
  (completeSpans spanKey waysToEdges resolvedEdges condition).flatMap fun span =>
    asksOf condition span.1

def allAsks (conditions : List (BoundCondition Timing Evidence)) : List Ask :=
  conditions.flatMap fun condition =>
    if Routed decision spanKey waysToEdges resolvedEdges condition then
      conditionAsks spanKey waysToEdges resolvedEdges condition
    else []

variable {decision} {spanKey} {waysToEdges} {resolvedEdges}

theorem apply_spans_overrides (condition : BoundCondition Timing Evidence)
    (spans : List (List WayEdge × Bool)) : ∀ result : ConditionsToEdgesResult,
      (spans.foldl (applySpan condition) result).overrides =
        (spans.flatMap fun span => asksOf condition span.1).foldl mergeAsk result.overrides := by
  induction spans with
  | nil =>
    intro result
    rfl
  | cons span rest ih =>
    intro result
    rw [foldl_cons, ih, flatMap_cons, foldl_append]
    rfl

theorem apply_condition_overrides (result : ConditionsToEdgesResult)
    (condition : BoundCondition Timing Evidence) :
    (applyCondition decision spanKey waysToEdges resolvedEdges result condition).overrides =
      (if Routed decision spanKey waysToEdges resolvedEdges condition then
        conditionAsks spanKey waysToEdges resolvedEdges condition else []).foldl mergeAsk
          result.overrides := by
  unfold applyCondition
  cases may : mayRoute condition with
  | false =>
    have not_routed : ¬Routed decision spanKey waysToEdges resolvedEdges condition := by
      intro routed
      have own := routed.1.1
      rw [may] at own
      cases own
    rw [if_neg not_routed]
    rfl
  | true =>
    cases admitted : (decision condition).eligible with
    | false =>
      have not_routed : ¬Routed decision spanKey waysToEdges resolvedEdges condition := by
        intro routed
        have own := routed.1.2
        rw [admitted] at own
        cases own
      rw [if_neg not_routed]
      rfl
    | true =>
      simp only [Bool.not_true, Bool.false_eq_true, if_false]
      by_cases complete : Resolved spanKey waysToEdges resolvedEdges condition
      · have routed : Routed decision spanKey waysToEdges resolvedEdges condition :=
          And.intro (And.intro may admitted) complete
        rw [if_pos routed]
        rw [if_neg (by
          rw [not_or, not_not, List.isEmpty_iff]
          exact complete), apply_spans_overrides]
        rfl
      · have not_routed : ¬Routed decision spanKey waysToEdges resolvedEdges condition :=
          fun routed => complete routed.2
        rw [if_neg not_routed]
        rw [if_pos (by
          by_contra neither
          rw [not_or, not_not, List.isEmpty_iff] at neither
          exact complete neither)]
        rfl

theorem conditions_overrides (conditions) :
    (conditionsToEdges decision spanKey waysToEdges resolvedEdges conditions).overrides =
      (allAsks decision spanKey waysToEdges resolvedEdges conditions).foldl mergeAsk [] := by
  have folded (rest : List (BoundCondition Timing Evidence)) :
      ∀ result : ConditionsToEdgesResult,
        (rest.foldl (applyCondition decision spanKey waysToEdges resolvedEdges) result).overrides =
          (allAsks decision spanKey waysToEdges resolvedEdges rest).foldl mergeAsk
            result.overrides := by
    induction rest with
    | nil =>
      intro result
      rfl
    | cons condition rest ih =>
      intro result
      rw [foldl_cons, ih, apply_condition_overrides, allAsks, allAsks, flatMap_cons,
        foldl_append]
  exact folded conditions emptyConditionsToEdges

variable {condition : BoundCondition Timing Evidence}

theorem mem_condition_asks {ask : Ask} :
    ask ∈ conditionAsks spanKey waysToEdges resolvedEdges condition ↔
      ∃ span ∈ completeSpans spanKey waysToEdges resolvedEdges condition, ∃ edge ∈ span.1,
        ask = ⟨condition.id, closesRoadForCars condition.effect, capOf condition, edge.edge⟩ := by
  unfold conditionAsks asksOf
  simp only [mem_flatMap, mem_map, eq_comm]

theorem mem_all_asks {conditions} {ask : Ask} :
    ask ∈ allAsks decision spanKey waysToEdges resolvedEdges conditions ↔
      ∃ condition ∈ conditions, Routed decision spanKey waysToEdges resolvedEdges condition ∧
        ask ∈ conditionAsks spanKey waysToEdges resolvedEdges condition := by
  unfold allAsks
  rw [mem_flatMap]
  apply exists_congr
  intro condition
  apply and_congr_right
  intro _
  split
  · rename_i routed
    exact ⟨fun member => And.intro routed member, And.right⟩
  · rename_i not_routed
    simp [not_routed]

def conditionEdges (spanKey : String → BoundSpan → String)
    (waysToEdges : ℚ → Option (List WayEdge)) (resolvedEdges : String → Option (List WayEdge))
    (condition : BoundCondition Timing Evidence) : List EdgeIdentity :=
  (conditionAsks spanKey waysToEdges resolvedEdges condition).map Ask.edge

theorem span_edges_nonempty {span}
    (member : span ∈ completeSpans spanKey waysToEdges resolvedEdges condition) : span.1 ≠ [] := by
  obtain ⟨bound, _, found⟩ := mem_filterMap.mp member
  split at found
  · rename_i edges edgeExact resolved
    rw [Option.some.injEq] at found
    rw [← found]
    unfold resolveSpan at resolved
    split at resolved
    · cases resolved
    · dsimp only at resolved
      split at resolved
      · cases resolved
      · rename_i nonempty
        cases resolved
        rw [List.isEmpty_iff] at nonempty
        exact nonempty
  · cases found

theorem resolved_asks (resolved : Resolved spanKey waysToEdges resolvedEdges condition) :
    conditionEdges spanKey waysToEdges resolvedEdges condition ≠ [] := by
  obtain ⟨span, rest, spans⟩ := exists_cons_of_ne_nil resolved.2
  have member : span ∈ completeSpans spanKey waysToEdges resolvedEdges condition := by
    rw [spans]
    exact mem_cons_self
  obtain ⟨edge, others, edges⟩ := exists_cons_of_ne_nil (span_edges_nonempty member)
  have asked : (⟨condition.id, closesRoadForCars condition.effect, capOf condition, edge.edge⟩ : Ask) ∈
      conditionAsks spanKey waysToEdges resolvedEdges condition := by
    apply mem_condition_asks.mpr
    refine ⟨span, member, edge, ?_, rfl⟩
    rw [edges]
    exact mem_cons_self
  apply ne_nil_of_mem
  exact mem_map_of_mem asked

end

def AskOk (ask : Ask) : Prop := ask.closes = true ∨ ∃ cap, ask.capKph = some cap

def mergedOverride (previous : Option EdgeOverride) (ask : Ask) : EdgeOverride :=
  let contributorIds := some ((previous.map contributorsOf).getD [] ++ [ask.id]).eraseDups
  if ask.closes then ⟨ask.edge, true, none, ask.id, contributorIds⟩
  else
    match previous with
    | none => ⟨ask.edge, false, ask.capKph, ask.id, contributorIds⟩
    | some other =>
      if (ask.capKph.any fun cap => lowersCap cap other) then
        ⟨ask.edge, false, ask.capKph, ask.id, contributorIds⟩
      else { other with contributorIds := contributorIds }

variable {overrides : List EdgeOverride} {ask : Ask}

theorem merge_ask_eq (ok : AskOk ask) : mergeAsk overrides ask = setKey EdgeOverride.edge overrides
      (mergedOverride (findKey EdgeOverride.edge overrides ask.edge) ask) := by
  unfold mergeAsk mergedOverride
  dsimp only
  cases closes : ask.closes with
  | true => rfl
  | false =>
    rcases ok with own | capped
    · rw [closes] at own
      cases own
    · obtain ⟨cap, cap_eq⟩ := capped
      rw [cap_eq]
      cases findKey EdgeOverride.edge overrides ask.edge with
      | none => rfl
      | some other =>
        simp only [Bool.false_eq_true, if_false, Option.any_some]
        split
        · rfl
        · rfl

theorem merged_edge :
    (mergedOverride (findKey EdgeOverride.edge overrides ask.edge) ask).edge = ask.edge := by
  unfold mergedOverride
  dsimp only
  split
  · rfl
  · split
    · rfl
    · rename_i other found
      split
      · rfl
      · exact (find_key_mem found).2

theorem merged_contributors (previous) (ask : Ask) (id : String) :
    id ∈ contributorsOf (mergedOverride previous ask) ↔
      (∃ other, previous = some other ∧ id ∈ contributorsOf other) ∨ ask.id = id := by
  have ids : contributorsOf (mergedOverride previous ask) =
      ((previous.map contributorsOf).getD [] ++ [ask.id]).eraseDups := by
    unfold mergedOverride
    dsimp only
    split
    · rfl
    · cases previous with
      | none => rfl
      | some other =>
        dsimp only
        split
        · rfl
        · rfl
  rw [ids, mem_eraseDups, mem_append, mem_singleton, eq_comm (a := id)]
  apply or_congr_left
  cases previous with
  | none => simp
  | some other => simp

theorem merged_closed (previous) (ask : Ask) : (mergedOverride previous ask).closed = true ↔
      (∃ other, previous = some other ∧ other.closed = true) ∨ ask.closes = true := by
  unfold mergedOverride
  cases closes : ask.closes with
  | true => simp
  | false =>
    cases previous with
    | none => simp
    | some other =>
      simp only [Bool.false_eq_true, if_false]
      split
      · rename_i lowers
        cases cap_eq : ask.capKph with
        | none =>
          rw [cap_eq] at lowers
          cases lowers
        | some cap =>
          rw [cap_eq, Option.any_some, lowersCap, Bool.and_eq_true, Bool.not_eq_true'] at lowers
          simp [lowers.1]
      · simp

structure Merged (asks : List Ask) (overrides : List EdgeOverride) : Prop where
  distinct : (overrides.map EdgeOverride.edge).Nodup
  contributors : ∀ edge id, (∃ override, findKey EdgeOverride.edge overrides edge = some override ∧
    id ∈ contributorsOf override) ↔ ∃ ask ∈ asks, ask.edge = edge ∧ ask.id = id
  closed : ∀ edge, (∃ override, findKey EdgeOverride.edge overrides edge = some override ∧
    override.closed = true) ↔ ∃ ask ∈ asks, ask.edge = edge ∧ ask.closes = true
  capped : ∀ edge override, findKey EdgeOverride.edge overrides edge = some override →
    override.closed = false → ∃ cap, override.capKph = some cap ∧
      (∃ ask ∈ asks, ask.edge = edge ∧ ask.capKph = some cap) ∧
        ∀ ask ∈ asks, ask.edge = edge → ∀ other, ask.capKph = some other → cap ≤ other

theorem merged_nil : Merged [] [] := by
  apply Merged.mk
  · exact nodup_nil
  · intro edge id
    simp [findKey]
  · intro edge
    simp [findKey]
  · intro edge override found
    cases found

variable {asks : List Ask}

theorem merged_cap (merged : Merged asks overrides) (ok : AskOk ask)
    (open_edge : (mergedOverride (findKey EdgeOverride.edge overrides ask.edge) ask).closed = false) :
    ∃ cap, (mergedOverride (findKey EdgeOverride.edge overrides ask.edge) ask).capKph = some cap ∧
      (∃ one ∈ asks ++ [ask], one.edge = ask.edge ∧ one.capKph = some cap) ∧
        ∀ one ∈ asks ++ [ask], one.edge = ask.edge → ∀ other, one.capKph = some other →
          cap ≤ other := by
  have not_closing : ask.closes = false := by
    by_contra closing
    rw [Bool.not_eq_false] at closing
    rw [(merged_closed _ _).mpr (Or.inr closing)] at open_edge
    cases open_edge
  obtain ⟨cap, cap_eq⟩ : ∃ cap, ask.capKph = some cap := by
    rcases ok with closing | capped
    · rw [not_closing] at closing
      cases closing
    · exact capped
  cases found : findKey EdgeOverride.edge overrides ask.edge with
  | none =>
    refine ⟨cap, ?_, ⟨ask, by simp, rfl, cap_eq⟩, ?_⟩
    · simp [mergedOverride, not_closing, cap_eq]
    · intro one member same other other_eq
      rcases mem_append.mp member with earlier | own
      · obtain ⟨override, override_found, _⟩ :=
          (merged.contributors ask.edge one.id).mpr ⟨one, earlier, same, rfl⟩
        rw [found] at override_found
        cases override_found
      · rw [mem_singleton.mp own, cap_eq, Option.some.injEq] at other_eq
        exact other_eq.le
  | some previous =>
    rw [found] at open_edge
    have previous_open : previous.closed = false := by
      by_contra closing
      rw [Bool.not_eq_false] at closing
      rw [(merged_closed _ _).mpr (Or.inl ⟨previous, rfl, closing⟩)] at open_edge
      cases open_edge
    obtain ⟨low, low_eq, ⟨asker, asker_member, asker_edge, asker_cap⟩, lowest⟩ :=
      merged.capped ask.edge previous found previous_open
    have lowers : (ask.capKph.any fun cap => lowersCap cap previous) = decide (cap < low) := by
      rw [cap_eq, Option.any_some, lowersCap, previous_open, low_eq]
      simp
    unfold mergedOverride
    simp only [not_closing, Bool.false_eq_true, if_false, lowers, decide_eq_true_eq]
    split
    · rename_i lower
      refine ⟨cap, cap_eq, ⟨ask, by simp, rfl, cap_eq⟩, ?_⟩
      intro one member same other other_eq
      rcases mem_append.mp member with earlier | own
      · exact lower.le.trans (lowest one earlier same other other_eq)
      · rw [mem_singleton.mp own, cap_eq, Option.some.injEq] at other_eq
        exact other_eq.le
    · rename_i not_lower
      refine ⟨low, low_eq, ⟨asker, by simp [asker_member], asker_edge, asker_cap⟩, ?_⟩
      refine forall_mem_append.mpr ⟨lowest, forall_mem_singleton.mpr ?_⟩
      intro same other other_eq
      rw [cap_eq, Option.some.injEq] at other_eq
      rw [← other_eq]
      exact not_lt.mp not_lower

theorem merge_step (merged : Merged asks overrides) (ok : AskOk ask) :
    Merged (asks ++ [ask]) (mergeAsk overrides ask) := by
  have found (edge : EdgeIdentity) : findKey EdgeOverride.edge (mergeAsk overrides ask) edge =
      if edge = ask.edge then
        some (mergedOverride (findKey EdgeOverride.edge overrides ask.edge) ask)
      else findKey EdgeOverride.edge overrides edge := by
    rw [merge_ask_eq ok, find_set_key, merged_edge]
  have extend {edge : EdgeIdentity} (P : Ask → Prop) (other : edge ≠ ask.edge) :
      (∃ one ∈ asks ++ [ask], one.edge = edge ∧ P one) ↔ ∃ one ∈ asks, one.edge = edge ∧ P one := by
    simp only [mem_append, mem_singleton, or_and_right, exists_or, exists_eq_left]
    apply or_iff_left
    rintro ⟨same, _⟩
    exact other same.symm
  apply Merged.mk
  · rw [merge_ask_eq ok]
    exact set_key_nodup merged.distinct
  · intro edge id
    rw [found]
    by_cases own : edge = ask.edge
    · rw [if_pos own]
      simp only [Option.some.injEq, exists_eq_left', mem_append, mem_singleton,
        or_and_right, exists_or, exists_eq_left]
      rw [merged_contributors, merged.contributors, own]
      simp
    · rw [if_neg own, extend (fun one => one.id = id) own, merged.contributors]
  · intro edge
    rw [found]
    by_cases own : edge = ask.edge
    · rw [if_pos own]
      simp only [Option.some.injEq, exists_eq_left', mem_append, mem_singleton,
        or_and_right, exists_or, exists_eq_left]
      rw [merged_closed, merged.closed, own]
      simp
    · rw [if_neg own, extend (fun one => one.closes = true) own, merged.closed]
  · intro edge override override_found open_edge
    rw [found] at override_found
    by_cases own : edge = ask.edge
    · rw [if_pos own, Option.some.injEq] at override_found
      rw [← override_found] at open_edge ⊢
      rw [own]
      exact merged_cap merged ok open_edge
    · rw [if_neg own] at override_found
      obtain ⟨cap, cap_eq, asker, lowest⟩ := merged.capped edge override override_found open_edge
      refine ⟨cap, cap_eq, (extend (fun one => one.capKph = some cap) own).mpr asker, ?_⟩
      refine forall_mem_append.mpr ⟨lowest, forall_mem_singleton.mpr ?_⟩
      intro same other other_eq
      exact absurd same.symm own

theorem merged_asks (asks : List Ask) (ok : ∀ ask ∈ asks, AskOk ask) :
    Merged asks (asks.foldl mergeAsk []) := by
  induction asks using List.reverseRecOn with
  | nil => exact merged_nil
  | append_singleton earlier ask ih =>
    rw [foldl_append, foldl_cons, foldl_nil]
    apply merge_step
    · apply ih
      intro one member
      exact ok one (mem_append_left _ member)
    · exact ok ask (by simp)

theorem merged_asked (merged : Merged asks overrides) {edge override}
    (found : findKey EdgeOverride.edge overrides edge = some override) :
    ∃ ask ∈ asks, ask.edge = edge := by
  cases closed : override.closed with
  | true =>
    obtain ⟨ask, member, same, _⟩ := (merged.closed edge).mp ⟨override, found, closed⟩
    exact ⟨ask, member, same⟩
  | false =>
    obtain ⟨_, _, ⟨ask, member, same, _⟩, _⟩ := merged.capped edge override found closed
    exact ⟨ask, member, same⟩

theorem merged_same {first second overrides others} (merged : Merged first overrides)
    (other_merged : Merged second others) (same : ∀ ask, ask ∈ first ↔ ask ∈ second) {edge override}
    (found : findKey EdgeOverride.edge overrides edge = some override) :
    ∃ other, findKey EdgeOverride.edge others edge = some other ∧ other.closed = override.closed ∧
        (override.closed = false → other.capKph = override.capKph) := by
  obtain ⟨ask, member, asked⟩ := merged_asked merged found
  obtain ⟨other, other_found, _⟩ :=
    (other_merged.contributors edge ask.id).mpr ⟨ask, (same ask).mp member, asked, rfl⟩
  have closing : other.closed = true ↔ override.closed = true := by
    have left := merged.closed edge
    have right := other_merged.closed edge
    rw [found] at left
    rw [other_found] at right
    simp only [Option.some.injEq, exists_eq_left'] at left right
    rw [left, right]
    simp only [same]
  refine ⟨other, other_found, Bool.eq_iff_iff.mpr closing, ?_⟩
  intro open_edge
  have other_open : other.closed = false := by
    rw [Bool.eq_iff_iff.mpr closing]
    exact open_edge
  obtain ⟨low, low_eq, ⟨asker, asker_member, asker_edge, asker_cap⟩, lowest⟩ :=
    merged.capped edge override found open_edge
  obtain ⟨other_low, other_eq, ⟨rival, rival_member, rival_edge, rival_cap⟩, other_lowest⟩ :=
    other_merged.capped edge other other_found other_open
  have below := lowest rival ((same rival).mpr rival_member) rival_edge _ rival_cap
  have above := other_lowest asker ((same asker).mp asker_member) asker_edge _ asker_cap
  rw [low_eq, other_eq, le_antisymm below above]

end OpenMapX.Traffic.MergedOverrides
