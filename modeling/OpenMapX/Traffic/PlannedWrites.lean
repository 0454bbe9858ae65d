import OpenMapX.Traffic.TarLayout
import OpenMapX.Traffic.WriteLive

/-!
# Planned writes

A plan has one write for each edge, resolved in the index of the tar, and its edges are
those of the ways of the rows and of the closures: a cap only lowers what is planned.
-/

namespace OpenMapX.Traffic.PlannedWrites

open Foundation.KeyedList TrafficSpeed TarIndex TarLayout WriteLive List

structure PlanOk (map : IndexMap) (planned : List PlannedWrite) : Prop where
  resolved : ∀ write ∈ planned,
    resolveIdentityOffset map write.offset.identity = .ok (.found write.offset)
  distinct : (identitiesOf planned).Nodup

theorem mem_set_identities {planned new id} : id ∈ identitiesOf (setKey plannedEdge planned new) ↔
      id ∈ identitiesOf planned ∨ id = new.offset.identity :=
  mem_set_keys

theorem set_planned_ok {map : IndexMap} {planned : List PlannedWrite} {new : PlannedWrite}
    (ok : PlanOk map planned)
    (resolved : resolveIdentityOffset map new.offset.identity = .ok (.found new.offset)) :
    PlanOk map (setKey plannedEdge planned new) := by
  apply PlanOk.mk
  · intro write member
    rcases mem_set_key member with same | old
    · rw [same]
      exact resolved
    · exact ok.resolved write old.1
  · exact set_key_nodup ok.distinct

def RowTarget (deps : WriteLiveTrafficDeps) (map : IndexMap) (rows : List CsvRow)
    (id : EdgeIdentity) : Prop :=
  ∃ row ∈ rows, ∃ edges, deps.waysToEdges row.wayId = some edges ∧
    ∃ edge ∈ edges, edge.forward = row.forward ∧ edge.edge = id ∧
      ∃ offset, resolveIdentityOffset map id = .ok (.found offset)

def ClosureTarget (map : IndexMap) (overrides : List EdgeOverride) (id : EdgeIdentity) : Prop :=
  ∃ override ∈ overrides, override.closed = true ∧ override.edge = id ∧
    ∃ offset, resolveIdentityOffset map id = .ok (.found offset)

variable {map : IndexMap}

theorem mem_resolve_offsets {forward : Bool} {edges} :
    ∀ {offsets : List ResolvedOffset} {outside : Nat},
      resolveOffsets map forward edges = .ok (offsets, outside) → ∀ offset,
        offset ∈ offsets ↔ ∃ edge ∈ edges, edge.forward = forward ∧
          resolveIdentityOffset map edge.edge = .ok (.found offset) := by
  induction edges with
  | nil =>
    intro offsets outside resolved offset
    cases resolved
    simp
  | cons edge rest ih =>
    intro offsets outside resolved offset
    unfold resolveOffsets at resolved
    simp only [mem_cons, exists_eq_or_imp]
    split at resolved
    · rename_i other
      rw [ih resolved offset]
      simp [other]
    · rename_i same
      rw [not_not] at same
      split at resolved
      · cases resolved
      · rename_i resolution own
        split at resolved
        · cases resolved
        · rename_i found later rest_resolved
          have rest_iff := ih rest_resolved offset
          split at resolved
          · cases resolved
            rw [rest_iff, own]
            simp
          · cases resolved
            rw [rest_iff, own]
            simp
          · rename_i own_offset
            cases resolved
            rw [mem_cons, rest_iff, own]
            simp [same, eq_comm]

theorem fold_offsets (kph : Option ℚ) (offsets : List ResolvedOffset) :
    ∀ planned : List PlannedWrite, PlanOk map planned →
      (∀ offset ∈ offsets, resolveIdentityOffset map offset.identity = .ok (.found offset)) →
        let after := offsets.foldl
          (fun planned offset => setKey plannedEdge planned ⟨offset, kph, false, false, none, []⟩) planned
        PlanOk map after ∧ ∀ id, id ∈ identitiesOf after ↔
          id ∈ identitiesOf planned ∨ ∃ offset ∈ offsets, offset.identity = id := by
  induction offsets with
  | nil =>
    intro planned ok resolved after
    apply And.intro ok
    simp [after]
  | cons offset rest ih =>
    intro planned ok resolved after
    have one := @set_planned_ok map planned ⟨offset, kph, false, false, none, []⟩ ok
      (resolved offset mem_cons_self)
    have later := ih _ one (fun other member => resolved other (mem_cons_of_mem _ member))
    apply And.intro later.1
    intro id
    have grown := @mem_set_identities planned ⟨offset, kph, false, false, none, []⟩ id
    have last := later.2 id
    rw [grown, or_assoc, eq_comm (a := id)] at last
    simp only [mem_cons, exists_eq_or_imp]
    exact last

variable {deps : WriteLiveTrafficDeps}

theorem plan_row_identities {row : CsvRow} {planning next}
    (planned : planRow deps map planning row = .ok next) (ok : PlanOk map planning.planned) :
    PlanOk map next.planned ∧ ∀ id, id ∈ identitiesOf next.planned ↔
      id ∈ identitiesOf planning.planned ∨ RowTarget deps map [row] id := by
  have nothing (absent : ∀ id, ¬RowTarget deps map [row] id) :
      PlanOk map planning.planned ∧ ∀ id, id ∈ identitiesOf planning.planned ↔
        id ∈ identitiesOf planning.planned ∨ RowTarget deps map [row] id := by
    apply And.intro ok
    intro id
    exact ⟨Or.inl, fun either => either.resolve_right (absent id)⟩
  unfold planRow at planned
  split at planned
  · rename_i unknown
    cases planned
    apply nothing
    rintro id ⟨own, member, edges, edges_eq, _⟩
    rw [mem_singleton.mp member, unknown] at edges_eq
    cases edges_eq
  · rename_i edges known
    split at planned
    · rename_i empty
      cases planned
      apply nothing
      rintro id ⟨own, member, found, found_eq, edge, edge_member, _⟩
      rw [mem_singleton.mp member, known, Option.some.injEq] at found_eq
      rw [← found_eq, empty] at edge_member
      cases edge_member
    · split at planned
      · cases planned
      · rename_i offsets outside resolved
        cases planned
        have members := mem_resolve_offsets resolved
        have folded := fold_offsets row.currentKph offsets planning.planned ok (by
          intro offset member
          obtain ⟨edge, _, _, found⟩ := (members offset).mp member
          rw [resolved_identity found]
          exact found)
        apply And.intro folded.1
        intro id
        rw [folded.2 id]
        apply or_congr_right
        constructor
        · rintro ⟨offset, member, same⟩
          obtain ⟨edge, edge_member, direction, found⟩ := (members offset).mp member
          have edge_id := (resolved_identity found).symm.trans same
          exact ⟨row, mem_singleton_self row, edges, known, edge, edge_member, direction,
            edge_id, offset, edge_id ▸ found⟩
        · rintro ⟨own, own_member, found, found_eq, edge, edge_member, direction, edge_id, offset,
            resolves⟩
          rw [mem_singleton.mp own_member] at found_eq direction
          rw [known, Option.some.injEq] at found_eq
          rw [← found_eq] at edge_member
          exact ⟨offset, (members offset).mpr ⟨edge, edge_member, direction, edge_id ▸ resolves⟩,
            resolved_identity resolves⟩

theorem plan_rows_identities (rows : List CsvRow) :
    ∀ {planning next : Planning}, foldSteps (planRow deps map) rows planning = .ok next →
      PlanOk map planning.planned → PlanOk map next.planned ∧ ∀ id, id ∈ identitiesOf next.planned ↔
          id ∈ identitiesOf planning.planned ∨ RowTarget deps map rows id := by
  induction rows with
  | nil =>
    intro planning next planned ok
    cases planned
    apply And.intro ok
    intro id
    simp [RowTarget]
  | cons row rest ih =>
    intro planning next planned ok
    unfold foldSteps at planned
    split at planned
    · cases planned
    · rename_i middle own
      have first := plan_row_identities own ok
      have later := ih planned first.1
      apply And.intro later.1
      intro id
      rw [later.2 id, first.2 id, or_assoc]
      apply or_congr_right
      unfold RowTarget
      simp only [mem_cons, exists_eq_or_imp, not_mem_nil, or_false,
        exists_eq_left]

theorem plan_override_identities {override : EdgeOverride} {planning next : Planning}
    (planned : planOverride map planning override = .ok next) (ok : PlanOk map planning.planned) :
    PlanOk map next.planned ∧ ∀ id, id ∈ identitiesOf next.planned ↔
      id ∈ identitiesOf planning.planned ∨ ClosureTarget map [override] id := by
  have nothing (absent : ∀ id, ¬ClosureTarget map [override] id) :
      PlanOk map planning.planned ∧ ∀ id, id ∈ identitiesOf planning.planned ↔
        id ∈ identitiesOf planning.planned ∨ ClosureTarget map [override] id := by
    apply And.intro ok
    intro id
    exact ⟨Or.inl, fun either => either.resolve_right (absent id)⟩
  have unresolved (missing : ∀ offset,
      resolveIdentityOffset map override.edge ≠ .ok (.found offset)) :
      ∀ id, ¬ClosureTarget map [override] id := by
    rintro id ⟨own, member, closed, own_edge, offset, found⟩
    rw [mem_singleton.mp member] at own_edge
    rw [← own_edge] at found
    exact missing offset found
  unfold planOverride at planned
  split at planned
  · cases planned
  · rename_i missing
    cases planned
    exact nothing (unresolved (by simp [missing]))
  · rename_i outside
    cases planned
    exact nothing (unresolved (by simp [outside]))
  · rename_i offset found
    have offset_id := resolved_identity found
    have resolved : resolveIdentityOffset map offset.identity = .ok (.found offset) := by
      rw [offset_id]
      exact found
    dsimp only at planned
    split at planned
    · rename_i closed
      cases planned
      apply And.intro (set_planned_ok ok resolved)
      intro id
      rw [mem_set_identities]
      apply or_congr_right
      constructor
      · intro same
        exact ⟨override, mem_singleton_self _, closed, offset_id.symm.trans same.symm,
          offset, by rw [same]; exact resolved⟩
      · rintro ⟨own, member, _, own_edge, _⟩
        rw [mem_singleton.mp member] at own_edge
        exact own_edge.symm.trans offset_id.symm
    · rename_i cap
      have no_target : ∀ id, ¬ClosureTarget map [override] id := by
        rintro id ⟨own, member, closed, _⟩
        rw [mem_singleton.mp member] at closed
        exact cap closed
      split at planned
      · cases planned
        exact nothing no_target
      · rename_i applied
        cases planned
        apply And.intro (set_planned_ok ok resolved)
        intro id
        rw [mem_set_identities]
        -- a cap is only applied where something is planned
        have present : override.edge ∈ identitiesOf planning.planned := by
          by_contra absent
          rw [find_key_none.mpr absent] at applied
          simp [capUnresolved, isUnknown] at applied
        constructor
        · intro either
          apply Or.inl
          rcases either with old | same
          · exact old
          · rw [same, offset_id]
            exact present
        · intro either
          exact Or.inl (either.resolve_right (no_target id))

theorem plan_overrides_identities (overrides : List EdgeOverride) :
    ∀ {planning next : Planning}, foldSteps (planOverride map) overrides planning = .ok next →
      PlanOk map planning.planned → PlanOk map next.planned ∧ ∀ id, id ∈ identitiesOf next.planned ↔
          id ∈ identitiesOf planning.planned ∨ ClosureTarget map overrides id := by
  induction overrides with
  | nil =>
    intro planning next planned ok
    cases planned
    apply And.intro ok
    intro id
    simp [ClosureTarget]
  | cons override rest ih =>
    intro planning next planned ok
    unfold foldSteps at planned
    split at planned
    · cases planned
    · rename_i middle own
      have first := plan_override_identities own ok
      have later := ih planned first.1
      apply And.intro later.1
      intro id
      rw [later.2 id, first.2 id, or_assoc]
      apply or_congr_right
      unfold ClosureTarget
      simp only [mem_cons, exists_eq_or_imp, not_mem_nil, or_false,
        exists_eq_left]

theorem plan_identities {toNumber : List Char → Option ℚ}
    {planning} (planned : planAll toNumber deps map = .ok planning) :
    PlanOk map planning.planned ∧ ∀ id, id ∈ identitiesOf planning.planned ↔
      RowTarget deps map ((dataLines deps.csv).filterMap (parseRow toNumber)) id ∨
        ClosureTarget map deps.overrides id := by
  unfold planAll at planned
  dsimp only at planned
  split at planned
  · cases planned
  · rename_i middle rows
    have empty : PlanOk map [] := by
      apply PlanOk.mk
      · intro write member
        cases member
      · exact nodup_nil
    have first := plan_rows_identities _ rows empty
    have later := plan_overrides_identities _ planned first.1
    apply And.intro later.1
    intro id
    rw [later.2 id, first.2 id]
    simp [identitiesOf]

def hasKey (id : EdgeIdentity) : Bool := decide (id.tile.den = 1) && decide (id.level.den = 1)

theorem base_graph_id_ok_iff {id} : (∃ key, baseGraphId id = .ok key) ↔ hasKey id = true := by
  unfold baseGraphId toBigInt hasKey
  by_cases tile : id.tile.den = 1
  · by_cases level : id.level.den = 1
    · simp [tile, level]
    · simp [tile, level]
  · simp [tile]

theorem resolve_ok_iff {map id} :
    (∃ resolution, resolveIdentityOffset map id = .ok resolution) ↔ hasKey id = true := by
  rw [← base_graph_id_ok_iff]
  unfold resolveIdentityOffset
  cases baseGraphId id with
  | error message => simp
  | ok key =>
    simp only [Except.ok.injEq, exists_eq', iff_true]
    cases getTile map key with
    | none => exact ⟨_, rfl⟩
    | some entry =>
      dsimp only
      split
      · exact ⟨_, rfl⟩
      · exact ⟨_, rfl⟩

theorem fold_steps_ok_iff {State Item : Type} {step : State → Item → Except String State}
    {Accepted : Item → Prop}
    (single : ∀ state item, (∃ next, step state item = .ok next) ↔ Accepted item)
    (items : List Item) : ∀ state,
      (∃ next, foldSteps step items state = .ok next) ↔ ∀ item ∈ items, Accepted item := by
  induction items with
  | nil =>
    intro state
    simp [foldSteps]
  | cons item rest ih =>
    intro state
    rw [forall_mem_cons, ← single state item]
    unfold foldSteps
    cases step state item with
    | error message => simp
    | ok next =>
      simp only [Except.ok.injEq, exists_eq', true_and]
      exact ih next

theorem resolve_offsets_ok_iff {map} {forward : Bool} {edges} :
    (∃ found, resolveOffsets map forward edges = .ok found) ↔
      ∀ edge ∈ edges, edge.forward = forward → hasKey edge.edge = true := by
  induction edges with
  | nil => simp [resolveOffsets]
  | cons edge rest ih =>
    rw [forall_mem_cons, ← ih, resolveOffsets]
    split
    · rename_i other
      constructor
      · intro found
        exact And.intro (fun same => absurd same other) found
      · exact And.right
    · rename_i same
      rw [not_not] at same
      rw [← @resolve_ok_iff map edge.edge]
      cases resolveIdentityOffset map edge.edge with
      | error message => simp [same]
      | ok resolution =>
        cases resolveOffsets map forward rest with
        | error message => simp
        | ok found =>
          cases resolution with
          | missingTile => simp
          | outOfBounds => simp
          | found offset => simp

structure KeysWhole (toNumber : List Char → Option ℚ) (deps : WriteLiveTrafficDeps) : Prop where
  rows : ∀ row ∈ (dataLines deps.csv).filterMap (parseRow toNumber), ∀ edges,
    deps.waysToEdges row.wayId = some edges → ∀ edge ∈ edges, edge.forward = row.forward →
      hasKey edge.edge = true
  overrides : ∀ override ∈ deps.overrides, hasKey override.edge = true

theorem plan_row_ok_iff {deps map} (planning : Planning) (row : CsvRow) :
    (∃ next, planRow deps map planning row = .ok next) ↔ ∀ edges,
      deps.waysToEdges row.wayId = some edges → ∀ edge ∈ edges, edge.forward = row.forward →
        hasKey edge.edge = true := by
  unfold planRow
  cases deps.waysToEdges row.wayId with
  | none => simp
  | some edges =>
    simp only [Option.some.injEq, forall_eq']
    split
    · rename_i empty
      rw [empty]
      simp
    · rw [← @resolve_offsets_ok_iff map]
      cases resolveOffsets map row.forward edges with
      | error message => simp
      | ok found => simp

theorem plan_override_ok_iff {map} (planning : Planning) (override : EdgeOverride) :
    (∃ next, planOverride map planning override = .ok next) ↔ hasKey override.edge = true := by
  rw [← @resolve_ok_iff map override.edge]
  unfold planOverride
  cases resolveIdentityOffset map override.edge with
  | error message => simp
  | ok resolution =>
    simp only [Except.ok.injEq, exists_eq', iff_true]
    cases resolution with
    | missingTile => exact ⟨_, rfl⟩
    | outOfBounds => exact ⟨_, rfl⟩
    | found offset =>
      dsimp only
      split
      · exact ⟨_, rfl⟩
      · split
        · exact ⟨_, rfl⟩
        · exact ⟨_, rfl⟩

theorem plan_ok_iff {toNumber : List Char → Option ℚ} {deps map} :
    (∃ planning, planAll toNumber deps map = .ok planning) ↔ KeysWhole toNumber deps := by
  have rows := fold_steps_ok_iff (@plan_row_ok_iff deps map)
    ((dataLines deps.csv).filterMap (parseRow toNumber)) ⟨[], 0, 0, 0, []⟩
  unfold planAll
  dsimp only
  cases planned : foldSteps (planRow deps map)
      ((dataLines deps.csv).filterMap (parseRow toNumber)) ⟨[], 0, 0, 0, []⟩ with
  | error message =>
    rw [planned] at rows
    simp only [reduceCtorEq, exists_false, false_iff] at rows ⊢
    intro keys
    exact rows keys.rows
  | ok middle =>
    rw [planned] at rows
    dsimp only
    rw [fold_steps_ok_iff (@plan_override_ok_iff map)]
    constructor
    · exact KeysWhole.mk (rows.mp ⟨middle, rfl⟩)
    · exact KeysWhole.overrides

end OpenMapX.Traffic.PlannedWrites
