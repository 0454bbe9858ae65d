import OpenMapX.Traffic.MergedOverrides
import OpenMapX.Traffic.PlannedOverrides
import OpenMapX.Traffic.StaleSpeeds

/-!
# Applied conditions

A call reports a condition as applied if and only if it is routed, the deadline has not passed
and each of its edges holds a record as strict as it asks, on an edge that no condition limits to
less than can be represented. Neither the records nor the report depend on the order of the
conditions.
-/

namespace OpenMapX.Traffic.AppliedConditions

open Foundation.FileBytes Foundation.KeyedList Foundation.Runs Foundation.TextOrder
  RoadConditions.Effects TrafficSpeed TarIndex TarLayout WriteLive PlannedWrites WriterFrame
  RecordSlots CallRecords StaleSpeeds ConditionEdges MergedOverrides PlannedOverrides List

def ClosedRecord (record : List UInt8) : Prop := ¬Blank record ∧ encodedSpeedOf record = 0

def SlowRecord (cap : ℚ) (record : List UInt8) : Prop :=
  ¬Blank record ∧ ((2 * encodedSpeedOf record : Nat) : ℚ) ≤ cap

theorem closed_record : ClosedRecord encodeClosedTrafficSpeed := by
  apply And.intro
  · unfold Blank
    rw [breakpoint_closed]
    decide
  · exact speed_closed

theorem speed_record {speed : ℚ} (fast : 2 ≤ speed) :
    SlowRecord speed (encodeTrafficSpeed (some speed)) ∧
      ¬ClosedRecord (encodeTrafficSpeed (some speed)) := by
  have known : isUnknown (some speed) = false := decide_eq_false (not_lt.mpr fast)
  obtain ⟨breakpoint, encoded⟩ := known_record known
  obtain ⟨positive, below⟩ := encoded_speed_bounds fast
  apply And.intro
  · apply And.intro
    · unfold Blank
      rw [breakpoint]
      decide
    · rw [encoded]
      exact below
  · rintro ⟨_, zero⟩
    rw [encoded] at zero
    exact absurd zero positive.ne'

theorem unknown_blank {kph} (unknown : isUnknown kph = true) :
    Blank (encodeTrafficSpeed kph) := breakpoint_unknown unknown

theorem plain_not_closed {write} (plain : Plain write) : ¬ClosedRecord (recordFor write) := by
  unfold recordFor
  rw [plain.1, if_neg Bool.false_ne_true]
  cases kph : write.kph with
  | none => exact fun closed => closed.1 (unknown_blank rfl)
  | some speed =>
    by_cases fast : 2 ≤ speed
    · exact (speed_record fast).2
    · exact fun closed => closed.1 (unknown_blank (decide_eq_true (not_le.mp fast)))

section

variable {map : IndexMap} {previous : Option PlannedWrite} {override : EdgeOverride}

variable (plain : ∀ write, previous = some write → Plain write)
include plain

theorem plain_any_closed : previous.any PlannedWrite.closed = false := by
  cases previous with
  | none => rfl
  | some write => exact (plain write rfl).1

theorem cap_unresolved_eq : capUnresolved previous override =
      (isUnknown (previous.bind PlannedWrite.kph) || isUnknown override.capKph) := by
  unfold capUnresolved
  rw [plain_any_closed plain]
  simp

theorem overridden_of_applies (applied : Applies map previous override) :
    ∃ write, overridden map previous override = some write ∧
      (∀ id, id ∈ write.contributorIds ↔ id ∈ contributorsOf override) ∧
      (override.closed = true → write.closed = true) ∧
      (override.closed = false → write.closed = false ∧ ∃ speed cap,
        previous.bind PlannedWrite.kph = some speed ∧ override.capKph = some cap ∧
          2 ≤ speed ∧ 2 ≤ cap ∧ write.kph = some (min speed cap)) := by
  obtain ⟨⟨offset, found⟩, applied⟩ := applied
  have joined (id : String) : id ∈ joinedContributors previous override ↔
      id ∈ contributorsOf override := by
    unfold joinedContributors
    rw [mem_eraseDups, mem_append]
    apply or_iff_right
    cases previous with
    | none => simp
    | some write => simp [(plain write rfl).2]
  unfold overridden
  rw [found]
  dsimp only
  cases closed : override.closed with
  | true =>
    refine ⟨_, rfl, joined, fun _ => rfl, ?_⟩
    intro open_edge
    cases open_edge
  | false =>
    rw [closed] at applied
    have resolved : capUnresolved previous override = false := by
      rcases applied with closing | resolved
      · cases closing
      · exact resolved
    rw [if_neg Bool.false_ne_true, resolved, if_neg Bool.false_ne_true]
    refine ⟨_, rfl, joined, fun closing => absurd closing Bool.false_ne_true, ?_⟩
    intro _
    apply And.intro (plain_any_closed plain)
    rw [cap_unresolved_eq plain, Bool.or_eq_false_iff] at resolved
    unfold cappedSpeed
    cases speed : previous.bind PlannedWrite.kph with
    | none =>
      rw [speed] at resolved
      cases resolved.1
    | some kph =>
      cases cap : override.capKph with
      | none =>
        rw [cap] at resolved
        cases resolved.2
      | some low =>
        rw [speed, cap] at resolved
        refine ⟨kph, low, rfl, rfl, ?_, ?_, rfl⟩
        · exact not_lt.mp (of_decide_eq_false resolved.1)
        · exact not_lt.mp (of_decide_eq_false resolved.2)

omit plain

end

section

variable {tar : ByteFile} {map : IndexMap} {file : ByteFile} {size : Nat}
  (layout : Layout file size map)
include layout

theorem planned_record {written}
    (exactly : HoldsExactly tar map written) (slot : Slot map) :
    match findKey plannedEdge written (identityOf slot) with
    | some write => recordAt tar slot = recordFor write
    | none => Blank (recordAt tar slot) := by
  cases found : findKey plannedEdge written (identityOf slot) with
  | some write =>
    obtain ⟨member, own⟩ := find_key_mem found
    obtain ⟨other, other_id, record⟩ := exactly.placed write member
    have same : other = slot := slot_unique layout (other_id.trans own)
    rw [← same]
    exact record
  | none =>
    by_contra live
    obtain ⟨write, member, own, _⟩ := (exactly.live slot).mp live
    exact find_key_none.mp found (mem_map.mpr ⟨write, member, own⟩)

/-- What a call that has not met its deadline leaves for an edge with an override. -/
structure Leaves (tar : ByteFile) (map : IndexMap) (rows : List PlannedWrite)
    (override : EdgeOverride) : Prop where
  applied : Applies map (findKey plannedEdge rows override.edge) override →
    ∃ slot : Slot map, identityOf slot = override.edge ∧
      (override.closed = true → ClosedRecord (recordAt tar slot)) ∧
      (override.closed = false → ∃ cap, override.capKph = some cap ∧ 2 ≤ cap ∧
        SlowRecord cap (recordAt tar slot))
  closed : ∀ slot : Slot map, identityOf slot = override.edge →
    ClosedRecord (recordAt tar slot) → override.closed = true
  strict : ∀ slot : Slot map, identityOf slot = override.edge →
    (override.closed = true ∨ ¬Blank (recordAt tar slot) ∧ isUnknown override.capKph = false) →
      Applies map (findKey plannedEdge rows override.edge) override

theorem call_leaves {planned rows} (exactly : HoldsExactly tar map planned)
    (plain : ∀ write ∈ rows, Plain write) {override} (formed : WellFormed override.edge)
    (own : findKey plannedEdge planned override.edge =
      overridden map (findKey plannedEdge rows override.edge) override) :
    Leaves tar map rows override := by
  have plain_found : ∀ write, findKey plannedEdge rows override.edge = some write →
      Plain write := fun write found => plain write (find_key_mem found).1
  have record := planned_record layout exactly
  apply Leaves.mk
  · intro applied
    obtain ⟨offset, found⟩ := applied.1
    obtain ⟨slot, slot_id, _⟩ := resolved_slot formed found
    obtain ⟨write, write_eq, _, closing, capping⟩ := overridden_of_applies plain_found applied
    have own_record := record slot
    rw [slot_id, own, write_eq] at own_record
    dsimp only at own_record
    refine ⟨slot, slot_id, ?_, ?_⟩
    · intro closed
      rw [own_record, recordFor, closing closed, if_pos rfl]
      exact closed_record
    · intro open_edge
      obtain ⟨not_closed, speed, cap, _, cap_eq, fast, high, kph⟩ := capping open_edge
      refine ⟨cap, cap_eq, high, ?_⟩
      rw [own_record, recordFor, not_closed, if_neg Bool.false_ne_true, kph]
      obtain ⟨⟨live, slow⟩, _⟩ := speed_record (le_min fast high)
      exact And.intro live (slow.trans (min_le_right _ _))
  · intro slot slot_id closed
    by_contra open_edge
    rw [Bool.not_eq_true] at open_edge
    have own_record := record slot
    rw [slot_id, own] at own_record
    by_cases applied : Applies map (findKey plannedEdge rows override.edge) override
    · obtain ⟨write, write_eq, _, _, capping⟩ := overridden_of_applies plain_found applied
      obtain ⟨not_closed, speed, cap, _, _, fast, high, kph⟩ := capping open_edge
      rw [write_eq] at own_record
      dsimp only at own_record
      rw [own_record, recordFor, not_closed, if_neg Bool.false_ne_true, kph] at closed
      exact (speed_record (le_min fast high)).2 closed
    · rw [overridden_of_not applied] at own_record
      cases found : findKey plannedEdge rows override.edge with
      | none =>
        rw [found] at own_record
        exact closed.1 own_record
      | some write =>
        rw [found] at own_record
        dsimp only at own_record
        rw [own_record] at closed
        exact plain_not_closed (plain_found write found) closed
  · intro slot slot_id strict
    obtain ⟨_, offset, found, _⟩ := slot_resolves layout slot
    rw [slot_id] at found
    apply And.intro ⟨offset, found⟩
    rcases strict with closed | live
    · exact Or.inl closed
    · by_contra neither
      rw [not_or, Bool.not_eq_false] at neither
      have not_applied : ¬Applies map (findKey plannedEdge rows override.edge) override := by
        rintro ⟨_, closed | resolved⟩
        · exact neither.1 closed
        · rw [neither.2] at resolved
          cases resolved
      have unknown := neither.2
      rw [cap_unresolved_eq plain_found, live.2, Bool.or_false] at unknown
      have own_record := record slot
      rw [slot_id, own, overridden_of_not not_applied] at own_record
      apply live.1
      cases previous : findKey plannedEdge rows override.edge with
      | none =>
        rw [previous] at own_record
        exact own_record
      | some write =>
        rw [previous] at own_record unknown
        dsimp only at own_record
        rw [own_record, recordFor, (plain_found write previous).1, if_neg Bool.false_ne_true]
        exact unknown_blank unknown

end

theorem mem_applied {deps planning written} {id : String} :
    id ∈ (resultOf deps planning written).appliedObservationIds ↔
      (∃ write ∈ written, id ∈ write.contributorIds) ∧ id ∉ planning.unresolvedObservationIds := by
  unfold resultOf sortTexts
  dsimp only
  rw [mem_sort_by, mem_filter, mem_eraseDups, mem_flatMap]
  simp

theorem reported_iff {deps} {map} {planning}
    {rows} (ok : PlanOk map planning.planned)
    (plain : ∀ write ∈ rows, Plain write)
    (distinct : (deps.overrides.map EdgeOverride.edge).Nodup)
    (edges : ∀ edge, findKey plannedEdge planning.planned edge =
      match findKey EdgeOverride.edge deps.overrides edge with
      | none => findKey plannedEdge rows edge
      | some override => overridden map (findKey plannedEdge rows edge) override)
    (unresolved : ∀ id, id ∈ planning.unresolvedObservationIds ↔ ∃ override ∈ deps.overrides,
      id ∈ contributorsOf override ∧
        ¬Applies map (findKey plannedEdge rows override.edge) override) (id : String) :
    id ∈ (resultOf deps planning planning.planned).appliedObservationIds ↔
      (∃ override ∈ deps.overrides, id ∈ contributorsOf override) ∧
        ∀ override ∈ deps.overrides, id ∈ contributorsOf override →
          Applies map (findKey plannedEdge rows override.edge) override := by
  have plain_found (edge : EdgeIdentity) : ∀ write, findKey plannedEdge rows edge = some write →
      Plain write := fun write found => plain write (find_key_mem found).1
  have all_applied : id ∉ planning.unresolvedObservationIds ↔ ∀ override ∈ deps.overrides,
      id ∈ contributorsOf override →
        Applies map (findKey plannedEdge rows override.edge) override := by
    rw [unresolved]
    push Not
    rfl
  rw [mem_applied, all_applied]
  apply and_congr_left
  intro every
  constructor
  · rintro ⟨write, member, contributes⟩
    have found := find_key_of_mem ok.distinct member
    rw [edges] at found
    cases own : findKey EdgeOverride.edge deps.overrides (plannedEdge write) with
    | none =>
      rw [own] at found
      rw [(plain_found _ write found).2] at contributes
      cases contributes
    | some override =>
      rw [own] at found
      dsimp only at found
      obtain ⟨override_member, override_edge⟩ := find_key_mem own
      by_cases applied : Applies map (findKey plannedEdge rows (plannedEdge write)) override
      · obtain ⟨planned, planned_eq, contributors, _⟩ :=
          overridden_of_applies (plain_found _) applied
        rw [planned_eq, Option.some.injEq] at found
        rw [← found] at contributes
        exact ⟨override, override_member, (contributors id).mp contributes⟩
      · rw [overridden_of_not applied] at found
        rw [(plain_found _ write found).2] at contributes
        cases contributes
  · rintro ⟨override, member, contributes⟩
    obtain ⟨write, write_eq, contributors, _⟩ :=
      overridden_of_applies (plain_found _) (every override member contributes)
    have found := edges override.edge
    rw [find_key_of_mem distinct member] at found
    dsimp only at found
    rw [write_eq] at found
    exact ⟨write, (find_key_mem found).1, (contributors id).mpr contributes⟩

section

variable {Timing Evidence : Type}
  (decision : BoundCondition Timing Evidence → Decision)
  (spanKey : String → BoundSpan → String)
  (resolvedEdges : String → Option (List WayEdge))

def withConditions (deps : WriteLiveTrafficDeps)
    (conditions : List (BoundCondition Timing Evidence)) : WriteLiveTrafficDeps :=
  { deps with
    overrides :=
      (conditionsToEdges decision spanKey deps.waysToEdges resolvedEdges conditions).overrides }

structure GraphMaps (deps : WriteLiveTrafficDeps) : Prop where
  ways : ∀ wayId edges, deps.waysToEdges wayId = some edges → ∀ edge ∈ edges, WellFormed edge.edge
  traced : ∀ name edges, resolvedEdges name = some edges → ∀ edge ∈ edges, WellFormed edge.edge

def NoLowCap (waysToEdges : ℚ → Option (List WayEdge))
    (conditions : List (BoundCondition Timing Evidence)) (edge : EdgeIdentity) : Prop :=
  ∀ condition ∈ conditions, Routed decision spanKey waysToEdges resolvedEdges condition →
    edge ∈ conditionEdges spanKey waysToEdges resolvedEdges condition →
      ∀ cap, capOf condition = some cap → 2 ≤ cap

/-- An edge holds a record as strict as a condition asks: it is closed, or its speed is at most
the cap and no condition limits the edge to less than a record can hold. -/
def Obeyed (waysToEdges : ℚ → Option (List WayEdge))
    (conditions : List (BoundCondition Timing Evidence)) (tar : ByteFile) (map : IndexMap)
    (condition : BoundCondition Timing Evidence) (edge : EdgeIdentity) : Prop :=
  ∃ slot : Slot map, identityOf slot = edge ∧ (ClosedRecord (recordAt tar slot) ∨
    ∃ cap, capOf condition = some cap ∧ SlowRecord cap (recordAt tar slot) ∧
      NoLowCap decision spanKey resolvedEdges waysToEdges conditions edge)

variable {decision} {spanKey} {resolvedEdges} {deps : WriteLiveTrafficDeps}
  {conditions : List (BoundCondition Timing Evidence)}

variable {condition : BoundCondition Timing Evidence}

theorem condition_ask_formed (maps : GraphMaps resolvedEdges deps) {ask : Ask}
    (member : ask ∈ conditionAsks spanKey deps.waysToEdges resolvedEdges condition) :
    WellFormed ask.edge := by
  obtain ⟨span, span_member, edge, edge_member, same⟩ := mem_condition_asks.mp member
  rw [same]
  dsimp only
  obtain ⟨bound, _, found⟩ := mem_filterMap.mp span_member
  split at found
  · rename_i edges edgeExact resolved
    rw [Option.some.injEq] at found
    rw [← found] at edge_member
    unfold resolveSpan at resolved
    split at resolved
    · cases resolved
    · rename_i wayEdges known
      dsimp only at resolved
      split at resolved
      · cases resolved
      · cases resolved
        have given := (mem_filter.mp edge_member).1
        cases traced : (resolvedEdges (spanKey (spanName condition) bound)).filter
            fun edges => !edges.isEmpty with
        | some edges =>
          rw [traced] at given
          exact maps.traced _ edges (Option.filter_eq_some_iff.mp traced).1 edge given
        | none =>
          rw [traced, Option.getD_none] at given
          split at given
          · exact maps.ways _ wayEdges known edge given
          · cases given
  · cases found

variable {waysToEdges : ℚ → Option (List WayEdge)}

theorem routed_asks_ok :
    ∀ ask ∈ allAsks decision spanKey waysToEdges resolvedEdges conditions, AskOk ask := by
  intro ask member
  obtain ⟨condition, _, routed, own⟩ := mem_all_asks.mp member
  obtain ⟨_, _, _, _, same⟩ := mem_condition_asks.mp own
  have may := routed.1.1
  unfold mayRoute at may
  rw [Bool.and_eq_true, Bool.or_eq_true, Option.isSome_iff_exists] at may
  rw [same]
  exact may.2

theorem conditions_merged {waysToEdges : ℚ → Option (List WayEdge)} :
    Merged (allAsks decision spanKey waysToEdges resolvedEdges conditions)
      (conditionsToEdges decision spanKey waysToEdges resolvedEdges conditions).overrides := by
  rw [conditions_overrides]
  exact merged_asks _ routed_asks_ok

theorem conditions_edges (maps : GraphMaps resolvedEdges deps) :
    GraphEdges (withConditions decision spanKey resolvedEdges deps conditions) := by
  apply GraphEdges.mk
  · exact maps.ways
  · intro override member
    have merged := @conditions_merged _ _ decision spanKey resolvedEdges conditions deps.waysToEdges
    obtain ⟨ask, ask_member, same⟩ := merged_asked merged (find_key_of_mem merged.distinct member)
    obtain ⟨condition, _, _, own⟩ := mem_all_asks.mp ask_member
    rw [← same]
    exact condition_ask_formed maps own

theorem applies_iff_obeyed {tar map rows override} (found : findKey EdgeOverride.edge
      (conditionsToEdges decision spanKey waysToEdges resolvedEdges conditions).overrides
        override.edge = some override) (leaves : Leaves tar map rows override)
    (member : condition ∈ conditions)
    (routed : Routed decision spanKey waysToEdges resolvedEdges condition)
    (asked : override.edge ∈ conditionEdges spanKey waysToEdges resolvedEdges condition) :
    Applies map (findKey plannedEdge rows override.edge) override ↔
      Obeyed decision spanKey resolvedEdges waysToEdges conditions tar map condition
        override.edge := by
  have merged := @conditions_merged _ _ decision spanKey resolvedEdges conditions waysToEdges
  obtain ⟨ask, own, ask_edge⟩ := mem_map.mp asked
  have ask_member := mem_all_asks.mpr ⟨condition, member, routed, own⟩
  obtain ⟨_, _, _, _, shape⟩ := mem_condition_asks.mp own
  constructor
  · intro applied
    obtain ⟨slot, slot_id, closing, capping⟩ := leaves.applied applied
    refine ⟨slot, slot_id, ?_⟩
    cases closed : override.closed with
    | true => exact Or.inl (closing closed)
    | false =>
      obtain ⟨low, low_eq, high, live, slow⟩ := capping closed
      obtain ⟨cap, cap_eq, _, lowest⟩ := merged.capped override.edge override found closed
      rw [low_eq, Option.some.injEq] at cap_eq
      rw [← cap_eq] at lowest
      have no_closing : ask.closes = false := by
        by_contra closes
        rw [Bool.not_eq_false] at closes
        obtain ⟨other, other_found, other_closed⟩ :=
          (merged.closed override.edge).mpr ⟨ask, ask_member, ask_edge, closes⟩
        rw [found, Option.some.injEq] at other_found
        rw [← other_found, closed] at other_closed
        cases other_closed
      rcases routed_asks_ok ask ask_member with closes | capped
      · rw [no_closing] at closes
        cases closes
      · obtain ⟨own_cap, own_eq⟩ := capped
        have higher := lowest ask ask_member ask_edge own_cap own_eq
        apply Or.inr
        refine ⟨own_cap, ?_, And.intro live (slow.trans higher), ?_⟩
        · rw [shape] at own_eq
          exact own_eq
        · intro other other_member other_routed other_asked other_cap other_eq
          obtain ⟨rival, rival_own, rival_edge⟩ := mem_map.mp other_asked
          obtain ⟨_, _, _, _, rival_shape⟩ := mem_condition_asks.mp rival_own
          have rival_member := mem_all_asks.mpr ⟨other, other_member, other_routed, rival_own⟩
          apply high.trans
          apply lowest rival rival_member rival_edge other_cap
          rw [rival_shape]
          exact other_eq
  · rintro ⟨slot, slot_id, closed | ⟨cap, _, live, no_low⟩⟩
    · exact leaves.strict slot slot_id (Or.inl (leaves.closed slot slot_id closed))
    · apply leaves.strict slot slot_id
      cases closed : override.closed with
      | true => exact Or.inl rfl
      | false =>
        obtain ⟨low, low_eq, ⟨asker, asker_member, asker_edge, asker_cap⟩, _⟩ :=
          merged.capped override.edge override found closed
        obtain ⟨other, other_member, other_routed, other_own⟩ := mem_all_asks.mp asker_member
        obtain ⟨_, _, _, _, other_shape⟩ := mem_condition_asks.mp other_own
        apply Or.inr
        apply And.intro live.1
        rw [low_eq]
        apply decide_eq_false
        apply not_lt.mpr
        apply no_low other other_member other_routed
        · rw [← asker_edge]
          exact mem_map_of_mem other_own
        · rw [other_shape] at asker_cap
          exact asker_cap

theorem contributes_iff {override} (member : override ∈
      (conditionsToEdges decision spanKey waysToEdges resolvedEdges conditions).overrides)
    (id : String) : id ∈ contributorsOf override ↔ ∃ condition ∈ conditions, condition.id = id ∧
      Routed decision spanKey waysToEdges resolvedEdges condition ∧
        override.edge ∈ conditionEdges spanKey waysToEdges resolvedEdges condition := by
  have merged := @conditions_merged _ _ decision spanKey resolvedEdges conditions waysToEdges
  have askers := merged.contributors override.edge id
  rw [find_key_of_mem merged.distinct member] at askers
  simp only [Option.some.injEq, exists_eq_left'] at askers
  rw [askers]
  constructor
  · rintro ⟨ask, ask_member, ask_edge, ask_id⟩
    obtain ⟨condition, condition_member, routed, own⟩ := mem_all_asks.mp ask_member
    obtain ⟨_, _, _, _, shape⟩ := mem_condition_asks.mp own
    refine ⟨condition, condition_member, ?_, routed, ?_⟩
    · rw [← ask_id, shape]
    · rw [← ask_edge]
      exact mem_map_of_mem own
  · rintro ⟨condition, condition_member, same, routed, asked⟩
    obtain ⟨ask, own, ask_edge⟩ := mem_map.mp asked
    obtain ⟨_, _, _, _, shape⟩ := mem_condition_asks.mp own
    refine ⟨ask, mem_all_asks.mpr ⟨condition, condition_member, routed, own⟩, ask_edge, ?_⟩
    rw [shape]
    exact same

theorem asked_override (member : condition ∈ conditions)
    (routed : Routed decision spanKey waysToEdges resolvedEdges condition) {edge}
    (asked : edge ∈ conditionEdges spanKey waysToEdges resolvedEdges condition) :
    ∃ override ∈ (conditionsToEdges decision spanKey waysToEdges resolvedEdges
      conditions).overrides, override.edge = edge := by
  have merged := @conditions_merged _ _ decision spanKey resolvedEdges conditions waysToEdges
  obtain ⟨ask, own, ask_edge⟩ := mem_map.mp asked
  obtain ⟨override, found, _⟩ := (merged.contributors edge ask.id).mpr
    ⟨ask, mem_all_asks.mpr ⟨condition, member, routed, own⟩, ask_edge, rfl⟩
  exact ⟨override, (find_key_mem found).1, (find_key_mem found).2⟩

theorem all_applied_iff {tar map rows} (distinct : (conditions.map BoundCondition.id).Nodup)
    (leaves : ∀ override ∈ (conditionsToEdges decision spanKey waysToEdges resolvedEdges
      conditions).overrides, Leaves tar map rows override) (id : String) :
    ((∃ override ∈ (conditionsToEdges decision spanKey waysToEdges resolvedEdges
        conditions).overrides, id ∈ contributorsOf override) ∧
      ∀ override ∈ (conditionsToEdges decision spanKey waysToEdges resolvedEdges
        conditions).overrides, id ∈ contributorsOf override →
          Applies map (findKey plannedEdge rows override.edge) override) ↔
    ∃ condition ∈ conditions, condition.id = id ∧
      Routed decision spanKey waysToEdges resolvedEdges condition ∧
        ∀ edge ∈ conditionEdges spanKey waysToEdges resolvedEdges condition,
          Obeyed decision spanKey resolvedEdges waysToEdges conditions tar map condition edge := by
  have merged := @conditions_merged _ _ decision spanKey resolvedEdges conditions waysToEdges
  constructor
  · rintro ⟨⟨override, member, contributes⟩, every⟩
    obtain ⟨condition, condition_member, same, routed, _⟩ :=
      (contributes_iff member id).mp contributes
    refine ⟨condition, condition_member, same, routed, ?_⟩
    intro edge asked
    obtain ⟨own, own_member, own_edge⟩ := asked_override condition_member routed asked
    rw [← own_edge] at asked ⊢
    apply (applies_iff_obeyed (find_key_of_mem merged.distinct own_member)
      (leaves own own_member) condition_member routed asked).mp
    apply every own own_member
    exact (contributes_iff own_member id).mpr ⟨condition, condition_member, same, routed, asked⟩
  · rintro ⟨condition, condition_member, same, routed, obeyed⟩
    apply And.intro
    · obtain ⟨edge, rest, edges⟩ := exists_cons_of_ne_nil (resolved_asks routed.2)
      have asked : edge ∈ conditionEdges spanKey waysToEdges resolvedEdges condition := by
        rw [edges]
        exact mem_cons_self
      obtain ⟨own, own_member, own_edge⟩ := asked_override condition_member routed asked
      rw [← own_edge] at asked
      exact ⟨own, own_member,
        (contributes_iff own_member id).mpr ⟨condition, condition_member, same, routed, asked⟩⟩
    · intro override member contributes
      obtain ⟨other, other_member, other_same, _, asked⟩ :=
        (contributes_iff member id).mp contributes
      have own : other = condition :=
        inj_on_of_nodup_map distinct other_member condition_member
          (other_same.trans same.symm)
      rw [own] at asked
      exact (applies_iff_obeyed (find_key_of_mem merged.distinct member) (leaves override member)
        condition_member routed asked).mpr (obeyed _ asked)

theorem overridden_record {map previous first second} (edge : second.edge = first.edge)
    (closed : second.closed = first.closed)
    (capped : first.closed = false → second.capKph = first.capKph) :
    (overridden map previous second).map recordFor =
      (overridden map previous first).map recordFor := by
  unfold overridden
  rw [edge, closed]
  split
  · cases open_edge : first.closed with
    | true => rfl
    | false =>
      have cap := capped open_edge
      rw [if_neg Bool.false_ne_true, if_neg Bool.false_ne_true]
      unfold capUnresolved cappedSpeed
      rw [cap]
      split
      · rfl
      · rfl
  · rfl

theorem planned_records_same {toNumber : List Char → Option ℚ} {map other}
    (same : conditions.Perm other) {planning otherPlanning}
    (planned : planAll toNumber (withConditions decision spanKey resolvedEdges deps conditions)
      map = .ok planning)
    (other_planned : planAll toNumber (withConditions decision spanKey resolvedEdges deps other)
      map = .ok otherPlanning) (edge : EdgeIdentity) :
    (findKey plannedEdge otherPlanning.planned edge).map recordFor =
      (findKey plannedEdge planning.planned edge).map recordFor := by
  have merged := @conditions_merged _ _ decision spanKey resolvedEdges conditions deps.waysToEdges
  have other_merged := @conditions_merged _ _ decision spanKey resolvedEdges other deps.waysToEdges
  have asks (ask : Ask) :
      ask ∈ allAsks decision spanKey deps.waysToEdges resolvedEdges conditions ↔
        ask ∈ allAsks decision spanKey deps.waysToEdges resolvedEdges other := by
    simp only [mem_all_asks, same.mem_iff]
  obtain ⟨rows, rows_eq, _, _, edges, _⟩ := plan_edges planned merged.distinct
  obtain ⟨other_rows, other_rows_eq, _, _, other_edges, _⟩ :=
    plan_edges other_planned other_merged.distinct
  have one_rows : Except.ok other_rows = Except.ok rows := other_rows_eq.symm.trans rows_eq
  cases one_rows
  rw [edges, other_edges]
  cases found : findKey EdgeOverride.edge
      (withConditions decision spanKey resolvedEdges deps conditions).overrides edge with
  | none =>
    have absent : findKey EdgeOverride.edge
        (withConditions decision spanKey resolvedEdges deps other).overrides edge = none := by
      cases other_found : findKey EdgeOverride.edge
          (withConditions decision spanKey resolvedEdges deps other).overrides edge with
      | none => rfl
      | some override =>
        obtain ⟨own, own_found, _⟩ := merged_same other_merged merged
          (fun ask => (asks ask).symm) other_found
        have never := found.symm.trans own_found
        cases never
    rw [absent]
  | some override =>
    obtain ⟨own, own_found, closed, capped⟩ := merged_same merged other_merged asks found
    have own_found : findKey EdgeOverride.edge
        (withConditions decision spanKey resolvedEdges deps other).overrides edge = some own :=
      own_found
    rw [own_found]
    dsimp only
    apply overridden_record
    · exact (find_key_mem own_found).2.trans (find_key_mem found).2.symm
    · exact closed
    · exact capped

section

variable {toNumber : List Char → Option ℚ} {digest : Nat × Nat × Option String × IndexMap → String}
  {around : Surroundings} {disk : Disk}

theorem completed_ready {result}
    (completed : (writeLiveTrafficLocked toNumber digest deps around disk).2 = .ok result) :
    ∃ map requested, Ready toNumber deps around disk map requested := by
  by_contra never
  obtain ⟨message, stopped⟩ := @locked_not_ready toNumber digest deps around disk
    (fun map requested ready => never ⟨map, requested, ready⟩)
  rw [stopped] at completed
  cases completed

theorem call_reports
    {map : IndexMap} {requested : ℤ} (sound : Sound digest disk)
    (maps : GraphMaps resolvedEdges deps) (distinct : (conditions.map BoundCondition.id).Nodup)
    (ready : Ready toNumber (withConditions decision spanKey resolvedEdges deps conditions) around
      disk map requested) :
    let call := writeLiveTrafficLocked toNumber digest
      (withConditions decision spanKey resolvedEdges deps conditions) around disk
    ∃ result, call.2 = .ok result ∧ ∀ id, id ∈ result.appliedObservationIds ↔
      ¬deadlineOf around requested ≤ around.writeNow ∧ ∃ condition ∈ conditions,
        condition.id = id ∧ Routed decision spanKey deps.waysToEdges resolvedEdges condition ∧
          ∀ edge ∈ conditionEdges spanKey deps.waysToEdges resolvedEdges condition,
            Obeyed decision spanKey resolvedEdges deps.waysToEdges conditions
              (applyOps ⟨disk, 0⟩ call.1).disk.tar map condition edge := by
  intro call
  have edges := @conditions_edges _ _ decision spanKey resolvedEdges deps conditions maps
  have merged := @conditions_merged _ _ decision spanKey resolvedEdges conditions deps.waysToEdges
  obtain ⟨planning, planned, ok, ended, exactly, _⟩ :=
    @ready_records toNumber digest _ _ _ _ _ sound edges ready
  obtain ⟨size, _, layout⟩ := parse_index_layout ready.index
  obtain ⟨rows, _, _, plain, plan, unresolved⟩ := plan_edges planned merged.distinct
  refine ⟨_, ended, ?_⟩
  intro id
  by_cases passed : deadlineOf around requested ≤ around.writeNow
  · have nothing : writtenOf around planning.planned (deadlineOf around requested) = [] :=
      if_pos passed
    rw [nothing, mem_applied]
    simp [passed]
  · have due : writtenOf around planning.planned (deadlineOf around requested) =
        planning.planned := if_neg passed
    rw [due] at exactly ⊢
    rw [reported_iff ok plain merged.distinct plan unresolved id]
    simp only [passed, not_false_eq_true, true_and]
    apply all_applied_iff distinct
    intro override member
    apply call_leaves layout exactly plain (edges.overrides override member)
    have found : findKey EdgeOverride.edge
        (withConditions decision spanKey resolvedEdges deps conditions).overrides override.edge =
          some override := find_key_of_mem merged.distinct member
    rw [plan, found]

end

/-- A completed call reports a condition as applied if and only if it is routed, the deadline has
not passed and every edge of its spans obeys it; and the records and the report are the same for
the conditions in any order. -/
theorem applied_conditions_hold (toNumber : List Char → Option ℚ)
    (digest : Nat × Nat × Option String × IndexMap → String) (start : Disk) (events : List Event)
    (begins : Begins digest start) (proper : Proper toNumber digest start events)
    (decision : BoundCondition Timing Evidence → Decision)
    (spanKey : String → BoundSpan → String)
    (resolvedEdges : String → Option (List WayEdge)) (deps : WriteLiveTrafficDeps)
    (around : Surroundings) (maps : GraphMaps resolvedEdges deps)
    (conditions : List (BoundCondition Timing Evidence))
    (distinct : (conditions.map BoundCondition.id).Nodup) :
    let disk := run (after toNumber digest) events start
    let call (list : List (BoundCondition Timing Evidence)) := writeLiveTrafficLocked toNumber digest
      (withConditions decision spanKey resolvedEdges deps list) around disk
    let left (list : List (BoundCondition Timing Evidence)) :=
      (applyOps ⟨disk, 0⟩ (call list).1).disk.tar
    ∀ result, (call conditions).2 = .ok result → ∃ map requested,
      parseIndexBin disk.tar = .ok map ∧ requestedDeadline deps around = some requested ∧
      (∀ id, id ∈ result.appliedObservationIds ↔
        ¬deadlineOf around requested ≤ around.writeNow ∧ ∃ condition ∈ conditions,
          condition.id = id ∧ Routed decision spanKey deps.waysToEdges resolvedEdges condition ∧
            ∀ edge ∈ conditionEdges spanKey deps.waysToEdges resolvedEdges condition,
              Obeyed decision spanKey resolvedEdges deps.waysToEdges conditions (left conditions)
                map condition edge) ∧
      ∀ other, conditions.Perm other → ∃ otherResult, (call other).2 = .ok otherResult ∧
        (∀ slot : Slot map, recordAt (left other) slot = recordAt (left conditions) slot) ∧
        ∀ id, id ∈ otherResult.appliedObservationIds ↔ id ∈ result.appliedObservationIds := by
  intro disk call left result completed
  have sound : Sound digest disk := run_sound begins proper
  obtain ⟨map, requested, ready⟩ := completed_ready completed
  obtain ⟨own, own_eq, report⟩ := @call_reports _ _ decision spanKey resolvedEdges deps conditions
    toNumber digest around disk map requested sound maps distinct ready
  have same_result : own = result := by
    have both := own_eq.symm.trans completed
    cases both
    rfl
  rw [same_result] at report
  refine ⟨map, requested, ready.index, ready.deadline, report, ?_⟩
  intro other same
  have other_edges := @conditions_edges _ _ decision spanKey resolvedEdges deps other maps
  have other_ready : Ready toNumber (withConditions decision spanKey resolvedEdges deps other)
      around disk map requested :=
    Ready.mk ready.free ready.index (graph_edges_keys other_edges) ready.deadline ready.unchanged
  obtain ⟨otherResult, other_eq, other_report⟩ := @call_reports _ _ decision spanKey resolvedEdges
    deps other toNumber digest around disk map requested sound maps
      ((same.map BoundCondition.id).nodup_iff.mp distinct) other_ready
  have records : ∀ slot : Slot map, recordAt (left other) slot = recordAt (left conditions) slot := by
    intro slot
    obtain ⟨planning, planned, _, _, _, record⟩ := @ready_records toNumber digest _ _ _ _ _ sound
      (@conditions_edges _ _ decision spanKey resolvedEdges deps conditions maps) ready
    obtain ⟨other_planning, other_planned, _, _, _, other_record⟩ :=
      @ready_records toNumber digest _ _ _ _ _ sound other_edges other_ready
    have one := planned_records_same same planned other_planned (identityOf slot)
    have written : (findKey plannedEdge (writtenOf around other_planning.planned
        (deadlineOf around requested)) (identityOf slot)).map recordFor =
          (findKey plannedEdge (writtenOf around planning.planned
            (deadlineOf around requested)) (identityOf slot)).map recordFor := by
      unfold writtenOf
      split
      · rfl
      · exact one
    have first := record slot
    have second := other_record slot
    dsimp only [left, call]
    rw [first, second]
    cases found : findKey plannedEdge (writtenOf around planning.planned
        (deadlineOf around requested)) (identityOf slot) with
    | none =>
      rw [found, Option.map_none, Option.map_eq_none_iff] at written
      rw [written]
      rfl
    | some write =>
      rw [found, Option.map_some] at written
      obtain ⟨other_write, other_found, record_eq⟩ := Option.map_eq_some_iff.mp written
      rw [other_found]
      exact record_eq
  refine ⟨otherResult, other_eq, records, ?_⟩
  intro id
  rw [report id, other_report id]
  have obeyed (condition : BoundCondition Timing Evidence) (edge : EdgeIdentity) :
      Obeyed decision spanKey resolvedEdges deps.waysToEdges other (left other) map condition edge ↔
        Obeyed decision spanKey resolvedEdges deps.waysToEdges conditions (left conditions) map
          condition edge := by
    unfold Obeyed NoLowCap
    simp only [records, same.mem_iff]
  have members (condition : BoundCondition Timing Evidence) :
      condition ∈ other ↔ condition ∈ conditions := same.mem_iff.symm
  simp only [members]
  apply and_congr_right
  intro _
  apply exists_congr
  intro condition
  apply and_congr_right
  intro _
  apply and_congr_right
  intro _
  apply and_congr_right
  intro _
  apply forall_congr'
  intro edge
  apply imp_congr_right
  intro _
  exact obeyed condition edge

end

def wholeWay : BoundSpan := ⟨1, true, 0, 1, none⟩

def limitCondition (id : String) (limit : ℚ) : BoundCondition Unit Unit where
  id := id
  cacheGeneration := none
  effect := ⟨"limit", .speedLimit ⟨limit, "km/h"⟩ false, ⟨.all, none, none⟩, .complete, none, ()⟩
  routingEvidence := ()
  origin := .feed
  routingEligible := false
  bindingStatus := "exact"
  segments := [wholeWay]

def wayDeps : WriteLiveTrafficDeps :=
  { expireDeps with
    csv := "way_id,dir,current_kph,free_flow_kph,los\n1,f,30,,"
    waysToEdges := fun wayId => if wayId = 1 then some [⟨true, ⟨0, 0, 0⟩⟩] else none }

def rowNumber (text : List Char) : Option ℚ :=
  if text = ['1'] then some 1 else if text = ['3', '0'] then some 30 else none

def limitsCall (limits : List (BoundCondition Unit Unit)) :
    List FileOp × Except String WriteLiveTrafficResult :=
  writeLiveTrafficLocked rowNumber constantDigest
    (withConditions (fun _ => ⟨true, []⟩) (fun name _ => name) (fun _ => none) wayDeps limits)
    (aroundAt 0) emptyDisk

theorem way_maps : GraphMaps (fun _ => none) wayDeps := by
  apply GraphMaps.mk
  · intro wayId edges known edge member
    dsimp only [wayDeps] at known
    split at known
    · cases known
      rw [mem_singleton.mp member]
      exact ⟨0, 0, 0, by decide, by simp⟩
    · cases known
  · intro name edges known
    cases known

/-- A limit of 50 km/h on the way is applied, and the edge obeys it. -/
theorem limit_applied : ∃ result, (limitsCall [limitCondition "fifty" 50]).2 = .ok result ∧
      Obeyed (fun _ => ⟨true, []⟩) (fun name _ => name) (fun _ => none) wayDeps.waysToEdges
        [limitCondition "fifty" 50]
        (applyOps ⟨emptyDisk, 0⟩ (limitsCall [limitCondition "fifty" 50]).1).disk.tar smallMap
        (limitCondition "fifty" 50) ⟨0, 0, 0⟩ := by
  have completes : (limitsCall [limitCondition "fifty" 50]).2.toOption.map
      WriteLiveTrafficResult.appliedObservationIds = some ["fifty"] := by
    decide +kernel
  cases completed : (limitsCall [limitCondition "fifty" 50]).2 with
  | error message =>
    rw [completed] at completes
    cases completes
  | ok result =>
    rw [completed] at completes
    have reported : result.appliedObservationIds = ["fifty"] := Option.some.inj completes
    refine ⟨result, rfl, ?_⟩
    obtain ⟨map, requested, index, _, report, _⟩ := applied_conditions_hold rowNumber
      constantDigest emptyDisk [] empty_begins guarded_nil (fun _ => ⟨true, []⟩)
      (fun name _ => name) (fun _ => none) wayDeps (aroundAt 0) way_maps
      [limitCondition "fifty" 50] (nodup_singleton _) result completed
    have one_map : Except.ok map = Except.ok smallMap := index.symm.trans small_map_index
    cases one_map
    obtain ⟨_, condition, member, _, _, obeyed⟩ := (report "fifty").mp (by
      rw [reported]
      exact mem_singleton_self _)
    rw [mem_singleton.mp member] at obeyed
    exact obeyed ⟨0, 0, 0⟩ (by decide +kernel)

/-- A limit that no record can hold keeps another limit of its edge out of the report, although
that limit is routed, the deadline has not passed and the edge's record obeys it. -/
theorem low_limit_hides_limit :
    (limitsCall [limitCondition "fifty" 50, limitCondition "one" 1]).2.toOption.map
        WriteLiveTrafficResult.appliedObservationIds = some [] ∧
      Routed (fun _ => ⟨true, []⟩) (fun name _ => name) wayDeps.waysToEdges (fun _ => none)
        (limitCondition "fifty" 50) ∧
      ¬deadlineOf (aroundAt 0) TRAFFIC_LEASE_MAX_MS ≤ (aroundAt 0).writeNow ∧
      conditionEdges (fun name _ => name) wayDeps.waysToEdges (fun _ => none)
        (limitCondition "fifty" 50) = [identityOf smallSlot] ∧
      SlowRecord 50 (recordAt (applyOps ⟨emptyDisk, 0⟩
        (limitsCall [limitCondition "fifty" 50, limitCondition "one" 1]).1).disk.tar
          smallSlot) := by
  unfold SlowRecord Blank
  decide +kernel

end OpenMapX.Traffic.AppliedConditions
