import OpenMapX.Traffic.PlannedWrites

/-!
# Overrides in a plan

What an override makes of the write that is planned for its edge, and whom it notes as
unresolved. Overrides of different edges do not meet, so a plan is said edge by edge.
-/

namespace OpenMapX.Traffic.PlannedOverrides

open Foundation.KeyedList TrafficSpeed TarIndex TarLayout WriteLive PlannedWrites List

variable {map : IndexMap}

/-- An override is applied: its edge is in the tar, and it closes it or lowers a speed. -/
def Applies (map : IndexMap) (previous : Option PlannedWrite) (override : EdgeOverride) : Prop :=
  (∃ offset, resolveIdentityOffset map override.edge = .ok (.found offset)) ∧
    (override.closed = true ∨ capUnresolved previous override = false)

def overridden (map : IndexMap) (previous : Option PlannedWrite) (override : EdgeOverride) :
    Option PlannedWrite :=
  match resolveIdentityOffset map override.edge with
  | .ok (.found offset) =>
    if override.closed then
      some ⟨offset, none, true, false, some override.observationId,
        joinedContributors previous override⟩
    else if capUnresolved previous override then previous
    else
      let closed := previous.any PlannedWrite.closed
      some
        { offset := offset
          kph := cappedSpeed previous override
          closed := closed
          capped := !closed
          observationId :=
            if closed then previous.bind PlannedWrite.observationId
            else some override.observationId
          contributorIds := joinedContributors previous override }
  | _ => previous

theorem overridden_of_not {previous override} (not_applied : ¬Applies map previous override) :
    overridden map previous override = previous := by
  unfold overridden
  split
  · rename_i offset found
    split
    · rename_i closed
      exact absurd (And.intro ⟨offset, found⟩ (Or.inl closed)) not_applied
    · split
      · rfl
      · rename_i applied
        exact absurd (And.intro ⟨offset, found⟩ (Or.inr (Bool.eq_false_of_not_eq_true applied)))
          not_applied
  · rfl

theorem plan_override_step {override planning next}
    (planned : planOverride map planning override = .ok next) :
    (∀ edge, findKey plannedEdge next.planned edge = if edge = override.edge then
        overridden map (findKey plannedEdge planning.planned override.edge) override
      else findKey plannedEdge planning.planned edge) ∧
    ∀ id, id ∈ next.unresolvedObservationIds ↔ id ∈ planning.unresolvedObservationIds ∨
      (id ∈ contributorsOf override ∧
        ¬Applies map (findKey plannedEdge planning.planned override.edge) override) := by
  have kept (same : overridden map (findKey plannedEdge planning.planned override.edge) override =
      findKey plannedEdge planning.planned override.edge) (edge : EdgeIdentity) :
      findKey plannedEdge planning.planned edge =
        if edge = override.edge then
          overridden map (findKey plannedEdge planning.planned override.edge) override
        else findKey plannedEdge planning.planned edge := by
    split
    · rename_i own
      rw [same, own]
    · rfl
  have noted (not_applied : ¬Applies map (findKey plannedEdge planning.planned override.edge)
      override) (id : String) :
      id ∈ planning.unresolvedObservationIds ++ contributorsOf override ↔
        id ∈ planning.unresolvedObservationIds ∨ (id ∈ contributorsOf override ∧
          ¬Applies map (findKey plannedEdge planning.planned override.edge) override) := by
    rw [mem_append]
    simp [not_applied]
  have quiet (applied : Applies map (findKey plannedEdge planning.planned override.edge)
      override) (id : String) :
      id ∈ planning.unresolvedObservationIds ↔
        id ∈ planning.unresolvedObservationIds ∨ (id ∈ contributorsOf override ∧
          ¬Applies map (findKey plannedEdge planning.planned override.edge) override) := by
    simp [applied]
  unfold planOverride at planned
  split at planned
  · cases planned
  · rename_i missing
    cases planned
    have not_applied : ¬Applies map (findKey plannedEdge planning.planned override.edge)
        override := by
      rintro ⟨⟨offset, found⟩, _⟩
      rw [missing] at found
      cases found
    exact And.intro (kept (overridden_of_not not_applied)) (noted not_applied)
  · rename_i outside
    cases planned
    have not_applied : ¬Applies map (findKey plannedEdge planning.planned override.edge)
        override := by
      rintro ⟨⟨offset, found⟩, _⟩
      rw [outside] at found
      cases found
    exact And.intro (kept (overridden_of_not not_applied)) (noted not_applied)
  · rename_i offset found
    have offset_id := resolved_identity found
    dsimp only at planned
    have own_edge (new : PlannedWrite) (same : new.offset = offset) :
        plannedEdge new = override.edge := by
      rw [plannedEdge, same, offset_id]
    split at planned
    · rename_i closed
      cases planned
      apply And.intro
      · intro edge
        rw [find_set_key, own_edge _ rfl]
        simp only [overridden, found, closed, if_true]
      · exact quiet (And.intro ⟨offset, found⟩ (Or.inl closed))
    · rename_i open_edge
      split at planned
      · rename_i unresolved
        cases planned
        have not_applied : ¬Applies map (findKey plannedEdge planning.planned override.edge)
            override := by
          rintro ⟨_, closed | applied⟩
          · exact open_edge closed
          · rw [unresolved] at applied
            cases applied
        exact And.intro (kept (overridden_of_not not_applied)) (noted not_applied)
      · rename_i applied
        cases planned
        apply And.intro
        · intro edge
          rw [find_set_key, own_edge _ rfl]
          simp only [overridden, found, open_edge, applied, Bool.false_eq_true, if_false]
        · exact quiet (And.intro ⟨offset, found⟩ (Or.inr (Bool.eq_false_of_not_eq_true applied)))

theorem plan_overrides_edges (overrides : List EdgeOverride) :
    ∀ {planning next : Planning}, foldSteps (planOverride map) overrides planning = .ok next →
      (overrides.map EdgeOverride.edge).Nodup →
        (∀ edge, findKey plannedEdge next.planned edge =
          match findKey EdgeOverride.edge overrides edge with
          | none => findKey plannedEdge planning.planned edge
          | some override => overridden map (findKey plannedEdge planning.planned edge) override) ∧
        ∀ id, id ∈ next.unresolvedObservationIds ↔ id ∈ planning.unresolvedObservationIds ∨
          ∃ override ∈ overrides, id ∈ contributorsOf override ∧
            ¬Applies map (findKey plannedEdge planning.planned override.edge) override := by
  induction overrides with
  | nil =>
    intro planning next planned distinct
    cases planned
    apply And.intro
    · intro edge
      rfl
    · intro id
      simp
  | cons first rest ih =>
    intro planning next planned distinct
    rw [map_cons, nodup_cons] at distinct
    unfold foldSteps at planned
    split at planned
    · cases planned
    · rename_i middle own
      obtain ⟨own_edges, own_ids⟩ := plan_override_step own
      obtain ⟨later_edges, later_ids⟩ := ih planned distinct.2
      apply And.intro
      · intro edge
        rw [later_edges edge, own_edges edge, find_key_cons]
        by_cases same : first.edge = edge
        · rw [if_pos same, if_pos same.symm, same]
          rw [same] at distinct
          rw [find_key_none.mpr distinct.1]
        · rw [if_neg same, if_neg (fun other => same other.symm)]
      · intro id
        rw [later_ids id, own_ids id, or_assoc]
        simp only [mem_cons, exists_eq_or_imp]
        apply or_congr_right
        apply or_congr_right
        apply exists_congr
        intro override
        apply and_congr_right
        intro member
        have other : override.edge ≠ first.edge := by
          intro same
          apply distinct.1
          rw [← same]
          exact mem_map_of_mem member
        rw [own_edges, if_neg other]

def Plain (write : PlannedWrite) : Prop := write.closed = false ∧ write.contributorIds = []

theorem fold_offsets_plain (kph : Option ℚ) (offsets : List ResolvedOffset) :
    ∀ planned : List PlannedWrite, (∀ write ∈ planned, Plain write) →
      ∀ write ∈ offsets.foldl (fun planned offset =>
        setKey plannedEdge planned ⟨offset, kph, false, false, none, []⟩) planned, Plain write := by
  induction offsets with
  | nil =>
    intro planned plain
    exact plain
  | cons offset rest ih =>
    intro planned plain
    apply ih
    intro write member
    rcases mem_set_key member with same | old
    · rw [same]
      exact And.intro rfl rfl
    · exact plain write old.1

theorem plan_rows_plain {deps} (rows : List CsvRow) :
    ∀ {planning next : Planning}, foldSteps (planRow deps map) rows planning = .ok next →
      (∀ write ∈ planning.planned, Plain write) → (∀ write ∈ next.planned, Plain write) ∧
          next.unresolvedObservationIds = planning.unresolvedObservationIds := by
  induction rows with
  | nil =>
    intro planning next planned plain
    cases planned
    exact And.intro plain rfl
  | cons row rest ih =>
    intro planning next planned plain
    unfold foldSteps at planned
    split at planned
    · cases planned
    · rename_i middle own
      have middle_plain : (∀ write ∈ middle.planned, Plain write) ∧
          middle.unresolvedObservationIds = planning.unresolvedObservationIds := by
        unfold planRow at own
        split at own
        · cases own
          exact And.intro plain rfl
        · split at own
          · cases own
            exact And.intro plain rfl
          · split at own
            · cases own
            · cases own
              exact And.intro (fold_offsets_plain _ _ _ plain) rfl
      have later := ih planned middle_plain.1
      exact And.intro later.1 (later.2.trans middle_plain.2)

def rowPlan (toNumber : List Char → Option ℚ) (deps : WriteLiveTrafficDeps) (map : IndexMap) :
    Except String Planning :=
  foldSteps (planRow deps map) ((dataLines deps.csv).filterMap (parseRow toNumber))
    ⟨[], 0, 0, 0, []⟩

theorem plan_edges {toNumber : List Char → Option ℚ} {deps}
    {planning} (planned : planAll toNumber deps map = .ok planning)
    (distinct : (deps.overrides.map EdgeOverride.edge).Nodup) :
    ∃ rows, rowPlan toNumber deps map = .ok rows ∧ PlanOk map rows.planned ∧
      (∀ write ∈ rows.planned, Plain write) ∧
      (∀ edge, findKey plannedEdge planning.planned edge =
        match findKey EdgeOverride.edge deps.overrides edge with
        | none => findKey plannedEdge rows.planned edge
        | some override => overridden map (findKey plannedEdge rows.planned edge) override) ∧
      ∀ id, id ∈ planning.unresolvedObservationIds ↔ ∃ override ∈ deps.overrides,
        id ∈ contributorsOf override ∧
          ¬Applies map (findKey plannedEdge rows.planned override.edge) override := by
  unfold planAll at planned
  dsimp only at planned
  split at planned
  · cases planned
  · rename_i rows rows_eq
    have empty : PlanOk map [] := by
      apply PlanOk.mk
      · intro write member
        cases member
      · exact nodup_nil
    have plain := plan_rows_plain _ rows_eq (fun _ member => by cases member)
    have later := plan_overrides_edges _ planned distinct
    refine ⟨rows, rows_eq, (plan_rows_identities _ rows_eq empty).1, plain.1, later.1, ?_⟩
    intro id
    rw [later.2 id, plain.2]
    simp

end OpenMapX.Traffic.PlannedOverrides
