import OpenMapX.Foundation.Runs
import OpenMapX.Traffic.CallRecords

/-!
# No stale speed survives a call

Calls may crash between any two operations, the tar may be replaced, and the identity list and
the journal may be lost or altered. As long as no altered journal names the tar that is there,
a journal that a call relies on covers every record that may hold a live speed, so that a call
that completes leaves exactly its own.
-/

namespace OpenMapX.Traffic.StaleSpeeds

open Foundation.FileBytes Foundation.JsonValue Foundation.KeyedList Foundation.Runs TrafficSpeed
  TarIndex TarLayout WriteLive PlannedWrites WrittenRanges WriterFrame RecordSlots CallRecords List

@[simp]
theorem read_identity_saved (id : EdgeIdentity) : readIdentity (identityJson id) = some id := rfl

theorem load_saved (ids : List EdgeIdentity) :
    loadPreviousIdentities (.text (some (.array (ids.map identityJson)))) = some ids := by
  have each : (readIdentity ∘ identityJson) = some := by
    funext id
    rfl
  rw [loadPreviousIdentities, filterMap_map, each, filterMap_some]

theorem read_safe_saved {id found}
    (read : readSafeIdentity (identityJson id) = some found) : found = id := by
  unfold readSafeIdentity at read
  rw [read_identity_saved] at read
  have same := (Option.filter_eq_some_iff.mp read).1
  rw [Option.some.injEq] at same
  exact same.symm

theorem read_safe_all (ids : List EdgeIdentity)
    (safe : (ids.map identityJson).any (fun entry => (readSafeIdentity entry).isNone) = false) :
    (ids.map identityJson).filterMap readSafeIdentity = ids := by
  induction ids with
  | nil => rfl
  | cons id rest ih =>
    rw [map_cons, any_cons, Bool.or_eq_false_iff] at safe
    rw [map_cons, filterMap_cons]
    cases read : readSafeIdentity (identityJson id) with
    | none =>
      rw [read] at safe
      cases safe.1
    | some found =>
      dsimp only
      rw [read_safe_saved read, ih safe.2]

theorem read_saved_journal {now : Nat} {journal found}
    (read : readJournal now (.text (some (journalJson journal))) = .found found) :
    found = journal := by
  have phase : readPhase (some (.string (phaseText journal.phase))) = some journal.phase := by
    cases journal.phase with
    | pending => rfl
    | committed => rfl
  unfold readJournal at read
  dsimp only at read
  split at read
  · cases read
  · rename_i accepted parsed
    cases read
    unfold readJournalJson at parsed
    have version_member : (journalJson journal).member "schemaVersion" = some (.number 1) := rfl
    have generation_member : (journalJson journal).member "graphGeneration" =
        some journal.graphGeneration := rfl
    have phase_member : (journalJson journal).member "phase" =
        some (.string (phaseText journal.phase)) := rfl
    have deadline_member : (journalJson journal).member "validUntil" =
        some (.number journal.validUntil) := rfl
    have identities_member : (journalJson journal).member "identities" =
        some (.array (journal.identities.map identityJson)) := rfl
    have uncertain_member : (journalJson journal).member "uncertain" =
        some (.bool journal.uncertain) := rfl
    rw [version_member, generation_member, phase_member, phase, deadline_member, identities_member,
      uncertain_member] at parsed
    dsimp only [readNumber] at parsed
    split at parsed
    · cases parsed
    · rename_i checked
      rw [Option.some.injEq] at parsed
      rw [← parsed]
      rw [not_or, not_or, not_or] at checked
      rw [read_safe_all _ (Bool.eq_false_of_not_eq_true checked.2.2.2)]

theorem journal_kept (ops : List FileOp) (unsaved : ∀ journal, .saveJournal journal ∉ ops) :
    ∀ handle : Handle, (applyOps handle ops).disk.journal = handle.disk.journal := by
  induction ops with
  | nil =>
    intro handle
    rfl
  | cons op rest ih =>
    intro handle
    rw [apply_ops_cons, ih fun journal member => unsaved journal (mem_cons_of_mem _ member)]
    cases op with
    | tarWrite position data => rfl
    | fsync => rfl
    | saveIdentities identities => rfl
    | saveJournal journal => exact absurd mem_cons_self (unsaved journal)

theorem list_after (ops : List FileOp) : ∀ handle : Handle,
    (applyOps handle ops).disk.state = handle.disk.state ∨ ∃ ids, .saveIdentities ids ∈ ops ∧
      (applyOps handle ops).disk.state = .text (some (.array (ids.map identityJson))) := by
  induction ops with
  | nil =>
    intro handle
    exact Or.inl rfl
  | cons op rest ih =>
    intro handle
    rw [apply_ops_cons]
    cases ih (applyOp handle op) with
    | inr saved =>
      obtain ⟨ids, member, same⟩ := saved
      exact Or.inr ⟨ids, mem_cons_of_mem _ member, same⟩
    | inl kept =>
      rw [kept]
      cases op with
      | tarWrite position data => exact Or.inl rfl
      | fsync => exact Or.inl rfl
      | saveJournal journal => exact Or.inl rfl
      | saveIdentities ids => exact Or.inr ⟨ids, mem_cons_self, rfl⟩

theorem allowed_ops_index {disk : Disk} {map} (index : parseIndexBin disk.tar = .ok map)
    (ops : List FileOp) (allowed : ∀ op ∈ ops, AllowedOp map op) :
    SameIndex map disk.tar (applyOps ⟨disk, 0⟩ ops).disk.tar := by
  obtain ⟨size, _, layout⟩ := parse_index_layout index
  have ranges := (@ranges_allowed_iff _ _ _ layout ops ⟨disk, 0⟩ rfl).mpr allowed
  apply SameIndex.mk
  · apply apply_ops_size ops
    intro range member
    exact allowed_inside layout (ranges range member)
  · intro p untouched
    apply apply_ops_outside ops
    intro range member
    exact untouched range.1 range.2 (ranges range member)

def ListFormed (contents : Contents) : Prop :=
  ∀ ids, loadPreviousIdentities contents = some ids → ∀ id ∈ ids, WellFormed id

/-- A journal that a call at some moment relies on names edges as the graph numbers them. -/
def JournalFormed (contents : Contents) : Prop :=
  ∀ now journal, readJournal now contents = .found journal → journal.uncertain = false →
    ∀ id ∈ journal.identities, WellFormed id

section

variable (toNumber : List Char → Option ℚ)
  (digest : Nat × Nat × Option String × IndexMap → String)

/-- A journal is for the tar: it is accepted, it is certain and it names a generation of the
graph that is there. -/
def ForTar (disk : Disk) (contents : Contents) (map : IndexMap) (journal : TrafficJournal) : Prop :=
  parseIndexBin disk.tar = .ok map ∧ (∃ now, readJournal now contents = .found journal) ∧
    journal.uncertain = false ∧ ∃ graphGeneration,
      namesGeneration journal (generationOf digest graphGeneration disk map) = true

structure GraphEdges (deps : WriteLiveTrafficDeps) : Prop where
  ways : ∀ wayId edges, deps.waysToEdges wayId = some edges → ∀ edge ∈ edges, WellFormed edge.edge
  overrides : ∀ override ∈ deps.overrides, WellFormed override.edge

/-- Calls, each with the number of operations after which it crashes, if it has that many, and
what happens to the files between them. -/
inductive Event where
  | write (deps : WriteLiveTrafficDeps) (around : Surroundings) (crash : Nat)
  | expire (now : Nat) (around : Surroundings) (crash : Nat)
  | replaceTar (tar : ByteFile) (tarIdentity : Nat)
  | loseList (contents : Contents)
  | loseJournal (contents : Contents)

def after (disk : Disk) : Event → Disk
  | .write deps around crash => (applyOps ⟨disk, 0⟩
      ((writeLiveTrafficLocked toNumber digest deps around disk).1.take crash)).disk
  | .expire now around crash => (applyOps ⟨disk, 0⟩
      ((expireLiveTraffic toNumber digest now around disk).1.take crash)).disk
  | .replaceTar tar tarIdentity => { disk with tar := tar, tarIdentity := tarIdentity }
  | .loseList contents => { disk with state := contents }
  | .loseJournal contents => { disk with journal := contents }

def Fresh (tar : ByteFile) : Prop :=
  ∀ map, parseIndexBin tar = .ok map → ∀ slot : Slot map, Blank (recordAt tar slot)

structure JournalAllowed (disk : Disk) (contents : Contents) : Prop where
  formed : JournalFormed contents
  foreign : ∀ map journal, ¬ForTar digest disk contents map journal

def Allowed (disk : Disk) : Event → Prop
  | .write deps _ _ => GraphEdges deps
  | .expire _ _ _ => True
  | .replaceTar tar _ => Fresh tar
  | .loseList contents => ListFormed contents
  | .loseJournal contents => JournalAllowed digest disk contents

structure Sound (disk : Disk) : Prop where
  list : ListFormed disk.state
  formed : JournalFormed disk.journal
  covered : ∀ map journal, ForTar digest disk disk.journal map journal →
    Covered disk.tar map journal.identities

variable {toNumber} {digest}

theorem graph_edges_keys {deps} (edges : GraphEdges deps) : KeysWhole toNumber deps := by
  apply KeysWhole.mk
  · intro row _ found known edge member _
    exact well_formed_has_key (edges.ways _ _ known edge member)
  · intro override member
    exact well_formed_has_key (edges.overrides override member)

theorem expire_edges : GraphEdges expireDeps := by
  apply GraphEdges.mk
  · intro wayId edges known
    cases known
  · intro override member
    cases member

theorem prior_cases (disk : Disk) (journalNow : Nat) (generation : String) :
    priorIdentities disk journalNow generation = (loadPreviousIdentities disk.state, true) ∨
      ∃ journal, readJournal journalNow disk.journal = .found journal ∧
        namesGeneration journal generation = true ∧ journal.uncertain = false ∧
          priorIdentities disk journalNow generation = (some journal.identities, false) := by
  unfold priorIdentities
  cases read : readJournal journalNow disk.journal with
  | absent => exact Or.inl rfl
  | corrupt => exact Or.inl rfl
  | found journal =>
    dsimp only
    split
    · exact Or.inl rfl
    · rename_i trusted
      rw [Bool.not_eq_true, Bool.or_eq_false_iff, Bool.not_eq_false'] at trusted
      exact Or.inr ⟨journal, rfl, trusted.1, trusted.2, rfl⟩

theorem prior_sound {disk : Disk} (sound : Sound digest disk) {map}
    (index : parseIndexBin disk.tar = .ok map) (journalNow : Nat)
    (graphGeneration : Option String) {prior}
    (same : priorIdentities disk journalNow (generationOf digest graphGeneration disk map) = prior) :
    (∀ id ∈ prior.1.getD [], WellFormed id) ∧
      (prior.2 = false → Covered disk.tar map (prior.1.getD [])) := by
  cases prior_cases disk journalNow (generationOf digest graphGeneration disk map) with
  | inl unknown =>
    rw [← same, unknown]
    apply And.intro
    · intro id member
      cases loaded : loadPreviousIdentities disk.state with
      | none =>
        rw [loaded] at member
        cases member
      | some ids =>
        rw [loaded] at member
        exact sound.list ids loaded id member
    · intro certain
      cases certain
  | inr relied =>
    obtain ⟨journal, read, named, certain, prior_eq⟩ := relied
    rw [← same, prior_eq]
    apply And.intro
    · exact sound.formed journalNow journal read certain
    · intro _
      apply sound.covered map journal
      exact ⟨index, ⟨journalNow, read⟩, certain, graphGeneration, named⟩

section

variable {disk : Disk} {deps : WriteLiveTrafficDeps} {around : Surroundings} {map : IndexMap}
  {requested : ℤ}

theorem planned_formed (edges : GraphEdges deps) {planning}
    (planned : planAll toNumber deps map = .ok planning) :
    ∀ write ∈ planning.planned, WellFormed write.offset.identity := by
  intro write member
  have target := ((plan_identities planned).2 write.offset.identity).mp (mem_map_of_mem member)
  rcases target with row | closure
  · obtain ⟨_, _, found, known, edge, edge_member, _, same, _⟩ := row
    rw [← same]
    exact edges.ways _ _ known edge edge_member
  · obtain ⟨override, override_member, _, same, _⟩ := closure
    rw [← same]
    exact edges.overrides override override_member

section

variable (sound : Sound digest disk) (edges : GraphEdges deps)
  (ready : Ready toNumber deps around disk map requested)
include sound edges ready

theorem ready_call :
    ∃ planning prior pending, priorIdentities disk around.journalNow
        (generationOf digest deps.graphGeneration disk map) = prior ∧
      planAll toNumber deps map = .ok planning ∧ CallKnows disk map prior planning.planned ∧
      pending.identities = (prior.1.getD [] ++ identitiesOf planning.planned).eraseDups ∧
      pending.uncertain = prior.2 ∧
      let written := writtenOf around planning.planned (deadlineOf around requested)
      writeLiveTrafficLocked toNumber digest deps around disk =
        (.saveJournal pending :: (bodyOps around disk map prior written ++
          [.saveJournal (committedJournal pending written)]), .ok (resultOf deps planning written)) := by
  obtain ⟨planning, planned, call⟩ := @locked_ready toNumber digest _ _ _ _ _ ready
  obtain ⟨prior, prior_eq⟩ : ∃ prior, priorIdentities disk around.journalNow
      (generationOf digest deps.graphGeneration disk map) = prior := ⟨_, rfl⟩
  have known := prior_sound sound ready.index around.journalNow deps.graphGeneration prior_eq
  refine ⟨planning, prior, pendingJournal (generationOf digest deps.graphGeneration disk map) prior
    planning.planned (deadlineOf around requested), prior_eq, planned, ?_, rfl, rfl, ?_⟩
  · apply CallKnows.mk
    · exact (plan_identities planned).1
    · exact planned_formed edges planned
    · exact known.1
    · exact known.2
  · rw [call]
    unfold writeAll
    dsimp only
    rw [prior_eq, clear_stale_ends _ fun id member => well_formed_has_key (known.1 id member)]
    dsimp only
    unfold commitOps bodyOps laterOps closingOps committedJournal
    simp only [append_assoc, cons_append, nil_append]

theorem ready_records :
    ∃ planning, planAll toNumber deps map = .ok planning ∧ PlanOk map planning.planned ∧
      let written := writtenOf around planning.planned (deadlineOf around requested)
      let call := writeLiveTrafficLocked toNumber digest deps around disk
      let prior := priorIdentities disk around.journalNow
        (generationOf digest deps.graphGeneration disk map)
      call.2 = .ok (resultOf deps planning written) ∧
        HoldsExactly (applyOps ⟨disk, 0⟩ call.1).disk.tar map written ∧
        ∀ slot : Slot map, recordAt (applyOps ⟨disk, 0⟩ call.1).disk.tar slot =
          match findKey plannedEdge written (identityOf slot) with
          | some write => recordFor write
          | none => unwrittenRecord disk prior slot := by
  obtain ⟨planning, prior, pending, prior_eq, planned, knows, _, _, call⟩ :=
    @ready_call toNumber digest _ _ _ _ _ sound edges ready
  obtain ⟨size, _, layout⟩ := parse_index_layout ready.index
  refine ⟨planning, planned, knows.ok, ?_, ?_, ?_⟩
  · rw [call]
  · rw [call]
    dsimp only
    rw [apply_ops_cons, apply_ops_append]
    exact @body_holds_exactly map disk size around prior planning.planned _ layout knows
      (applyOp ⟨disk, 0⟩ (.saveJournal pending)) rfl
  · intro slot
    rw [call, prior_eq]
    dsimp only
    rw [apply_ops_cons, apply_ops_append]
    cases found : findKey plannedEdge
        (writtenOf around planning.planned (deadlineOf around requested)) (identityOf slot) with
    | some write =>
      obtain ⟨member, own⟩ := find_key_mem found
      exact @body_sets_record map disk size around prior planning.planned _ layout knows write
        member slot own.symm (applyOp ⟨disk, 0⟩ (.saveJournal pending))
    | none =>
      exact @body_unwritten map disk size around prior planning.planned _ layout knows slot
        (find_key_none.mp found) (applyOp ⟨disk, 0⟩ (.saveJournal pending)) rfl

theorem ready_allowed :
    ∀ op ∈ (writeLiveTrafficLocked toNumber digest deps around disk).1, AllowedOp map op := by
  obtain ⟨planning, planned, call⟩ := @locked_ready toNumber digest _ _ _ _ _ ready
  obtain ⟨size, _, layout⟩ := parse_index_layout ready.index
  have whole : ∀ {id : EdgeIdentity}, WellFormed id → id.index.den = 1 := by
    rintro id ⟨level, tile, index, _, same⟩
    rw [same]
    exact Rat.den_natCast index
  rw [call, write_all_allowed_iff layout (plan_identities planned).1]
  apply And.intro
  · intro write member
    exact whole (planned_formed edges planned write (written_planned member))
  · intro id member _
    apply whole
    exact (prior_sound sound ready.index around.journalNow deps.graphGeneration rfl).1 id
      ((takeWhile_sublist _).subset member)

end

theorem mem_body {prior written} {op : FileOp} (member : op ∈ bodyOps around disk map prior written)
    : (∃ position data, op = .tarWrite position data) ∨ op = .fsync ∨
      op = .saveIdentities (identitiesOf written) := by
  unfold bodyOps laterOps closingOps at member
  simp only [mem_append, mem_cons, not_mem_nil, or_false] at member
  rcases member with cleared | planned | stale | stamp | same | same
  · apply Or.inl
    unfold clearOps at cleared
    split at cleared
    · obtain ⟨entry, _, own⟩ := mem_flatMap.mp cleared
      obtain ⟨block, _, own⟩ := mem_flatMap.mp own
      rw [clear_block_eq] at own
      split at own
      · exact ⟨_, _, mem_singleton.mp own⟩
      · cases own
    · cases cleared
  · obtain ⟨write, _, same⟩ := mem_map.mp planned
    exact Or.inl ⟨_, _, same.symm⟩
  · obtain ⟨_, _, _, _, _, same⟩ := (mem_clear_stale _).mp stale
    exact Or.inl ⟨_, _, same⟩
  · obtain ⟨offset, _, same⟩ := mem_map.mp stamp
    exact Or.inl ⟨_, _, same.symm⟩
  · exact Or.inr (Or.inl same)
  · exact Or.inr (Or.inr same)

theorem saved_sound {journal} (saved : disk.journal = .text (some (journalJson journal)))
    (index : parseIndexBin disk.tar = .ok map) (list : ListFormed disk.state)
    (known : journal.uncertain = false → (∀ id ∈ journal.identities, WellFormed id) ∧
      Covered disk.tar map journal.identities) : Sound digest disk := by
  apply Sound.mk list
  · intro now found read certain
    rw [saved] at read
    rw [read_saved_journal read] at certain ⊢
    exact (known certain).1
  · rintro found_map found ⟨found_index, ⟨now, read⟩, certain, _⟩
    rw [index] at found_index
    cases found_index
    rw [saved] at read
    rw [read_saved_journal read] at certain ⊢
    exact (known certain).2

theorem call_sound (sound : Sound digest disk) (edges : GraphEdges deps) {done}
    (before : done <+: (writeLiveTrafficLocked toNumber digest deps around disk).1) :
    Sound digest (applyOps ⟨disk, 0⟩ done).disk := by
  by_cases gets : ∃ map requested, Ready toNumber deps around disk map requested
  · obtain ⟨map, requested, ready⟩ := gets
    obtain ⟨planning, prior, pending, _, planned, knows, identities, uncertain, call⟩ :=
      @ready_call toNumber digest _ _ _ _ _ sound edges ready
    obtain ⟨size, _, layout⟩ := parse_index_layout ready.index
    let written := writtenOf around planning.planned (deadlineOf around requested)
    have allowed := @ready_allowed toNumber digest _ _ _ _ _ sound edges ready
    have index := parse_index_unchanged ready.index
      (allowed_ops_index ready.index done fun op member => allowed op (before.subset member))
    have written_formed : ∀ id ∈ identitiesOf written, WellFormed id := by
      intro id member
      obtain ⟨write, write_member, same⟩ := mem_map.mp member
      rw [← same]
      exact knows.formed write (written_planned write_member)
    rw [call] at before
    dsimp only at before
    rcases prefix_cons_iff.mp before with nothing | begun
    · rw [nothing]
      exact sound
    · obtain ⟨part, done_eq, part_before⟩ := begun
      let opened : Handle := applyOp ⟨disk, 0⟩ (.saveJournal pending)
      have list : ListFormed (applyOps opened part).disk.state := by
        rcases list_after part opened with kept | saved
        · rw [kept]
          exact sound.list
        · obtain ⟨ids, member, same⟩ := saved
          rw [same]
          intro found loaded
          rw [load_saved, Option.some.injEq] at loaded
          have own : ids = identitiesOf written := by
            rcases mem_append.mp (part_before.subset member) with inside | last
            · rcases mem_body inside with ⟨_, _, other⟩ | other | same
              · cases other
              · cases other
              · cases same
                rfl
            · cases mem_singleton.mp last
          rw [← loaded, own]
          exact written_formed
      rw [done_eq, apply_ops_cons] at index ⊢
      rcases prefix_concat_iff.mp part_before with whole | inside
      · rw [whole] at index list ⊢
        apply @saved_sound digest _ map (committedJournal pending written)
        · rw [apply_ops_append]
          rfl
        · exact index
        · exact list
        · intro _
          apply And.intro written_formed
          intro slot live
          rw [apply_ops_append] at live
          have exactly := @body_holds_exactly map disk size around prior planning.planned
            (deadlineOf around requested) layout knows opened rfl
          obtain ⟨write, member, own, _⟩ := (exactly.live slot).mp live
          exact mem_map.mpr ⟨write, member, own⟩
      · apply @saved_sound digest _ map pending
        · rw [journal_kept part (by
            intro journal member
            rcases mem_body (inside.subset member) with ⟨_, _, other⟩ | other | other
            · cases other
            · cases other
            · cases other)]
          rfl
        · exact index
        · exact list
        · intro certain
          rw [uncertain] at certain
          rw [identities]
          apply And.intro
          · intro id member
            rcases mem_append.mp (mem_eraseDups.mp member) with old | new
            · exact knows.prior_formed id old
            · obtain ⟨write, write_member, same⟩ := mem_map.mp new
              rw [← same]
              exact knows.formed write write_member
          · intro slot live
            rw [mem_eraseDups]
            exact body_covered layout knows certain inside rfl slot live
  · obtain ⟨message, stopped⟩ := @locked_not_ready toNumber digest deps around disk
      (fun map requested ready => gets ⟨map, requested, ready⟩)
    rw [stopped] at before
    rw [prefix_nil.mp before]
    exact sound

end

theorem expire_cases (now : Nat) (around : Surroundings) (disk : Disk) :
    (leaseHolds now around disk = true ∧
      expireLiveTraffic toNumber digest now around disk = ([], .ok false)) ∨
    (leaseHolds now around disk = false ∧
      expireLiveTraffic toNumber digest now around disk =
        let call := writeLiveTrafficLocked toNumber digest expireDeps
          { around with graphChanged := false } disk
        (call.1, call.2.map fun _ => true)) := by
  unfold expireLiveTraffic
  cases leaseHolds now around disk with
  | true => exact Or.inl ⟨rfl, rfl⟩
  | false => exact Or.inr ⟨rfl, rfl⟩

theorem step_sound {disk : Disk} (event : Event) (allowed : Allowed digest disk event)
    (sound : Sound digest disk) : Sound digest (after toNumber digest disk event) := by
  cases event with
  | write deps around crash => exact call_sound sound allowed (List.take_prefix _ _)
  | expire now around crash =>
    dsimp only [after]
    rcases @expire_cases toNumber digest now around disk with holds | passed
    · rw [holds.2, take_nil]
      exact sound
    · rw [passed.2]
      exact call_sound sound expire_edges (List.take_prefix _ _)
  | replaceTar tar tarIdentity =>
    apply Sound.mk
    · exact sound.list
    · exact sound.formed
    · intro map journal current slot live
      exact absurd (allowed map current.1 slot) live
  | loseList contents =>
    apply Sound.mk
    · exact allowed
    · exact sound.formed
    · exact sound.covered
  | loseJournal contents =>
    apply Sound.mk
    · exact sound.list
    · exact allowed.formed
    · intro map journal current
      exact absurd current (allowed.foreign map journal)

variable (toNumber) (digest)

/-- A history begins with any tar, and with a list and a journal as any altered ones. -/
structure Begins (disk : Disk) : Prop where
  list : ListFormed disk.state
  journal : JournalAllowed digest disk disk.journal

def Proper (start : Disk) (events : List Event) : Prop :=
  ∀ earlier event, earlier ++ [event] <+: events →
    Allowed digest (run (after toNumber digest) earlier start) event

variable {toNumber} {digest}

theorem run_sound {start : Disk} {events} (begins : Begins digest start)
    (proper : Proper toNumber digest start events) :
    Sound digest (run (after toNumber digest) events start) := by
  have preserved : ∀ (disk : Disk) (event : Event), Allowed digest disk event →
      Sound digest disk → Sound digest (after toNumber digest disk event) :=
    fun disk event allowed sound => step_sound event allowed sound
  apply run_guarded preserved events start _ proper events prefix_rfl
  apply Sound.mk
  · exact begins.list
  · exact begins.journal.formed
  · intro map journal current
    exact absurd current (begins.journal.foreign map journal)

theorem expire_plans_nothing {map planning}
    (planned : planAll toNumber expireDeps map = .ok planning) : planning.planned = [] := by
  have targets := (plan_identities planned).2
  cases writes : planning.planned with
  | nil => rfl
  | cons write rest =>
    have target := (targets write.offset.identity).mp (by
      rw [writes]
      exact mem_cons_self)
    rcases target with row | closure
    · obtain ⟨_, _, _, known, _⟩ := row
      cases known
    · obtain ⟨override, member, _⟩ := closure
      cases member

/-- After any history, a call that is free to write completes, and the tar then holds exactly
the records of its writes: a lease that does not hold any longer leaves none. -/
theorem no_stale_speed_survives (toNumber : List Char → Option ℚ)
    (digest : Nat × Nat × Option String × IndexMap → String) (start : Disk) (events : List Event)
    (begins : Begins digest start) (proper : Proper toNumber digest start events) :
    let disk := run (after toNumber digest) events start
    (∀ deps around map requested, GraphEdges deps → around.maintenance = false →
      around.graphChanged = false → parseIndexBin disk.tar = .ok map →
      requestedDeadline deps around = some requested →
        let call := writeLiveTrafficLocked toNumber digest deps around disk
        ∃ planning, planAll toNumber deps map = .ok planning ∧
          let written := writtenOf around planning.planned (deadlineOf around requested)
          call.2 = .ok (resultOf deps planning written) ∧
            HoldsExactly (applyOps ⟨disk, 0⟩ call.1).disk.tar map written) ∧
    (∀ now around map, around.maintenance = false → parseIndexBin disk.tar = .ok map →
      leaseHolds now around disk = false →
        let call := expireLiveTraffic toNumber digest now around disk
        call.2 = .ok true ∧ HoldsExactly (applyOps ⟨disk, 0⟩ call.1).disk.tar map []) := by
  intro disk
  have sound : Sound digest disk := run_sound begins proper
  apply And.intro
  · intro deps around map requested edges free unchanged index deadline call
    obtain ⟨planning, planned, _, ended, exactly, _⟩ := @ready_records toNumber digest _ _ _ _ _
      sound edges (Ready.mk free index (graph_edges_keys edges) deadline unchanged)
    exact ⟨planning, planned, ended, exactly⟩
  · intro now around map free index passed call
    have ready : Ready toNumber expireDeps { around with graphChanged := false } disk map
        (around.deadlineNow + TRAFFIC_LEASE_MAX_MS) :=
      Ready.mk free index (graph_edges_keys expire_edges) rfl rfl
    obtain ⟨planning, planned, _, ended, exactly, _⟩ :=
      @ready_records toNumber digest _ _ _ _ _ sound expire_edges ready
    have nothing : writtenOf { around with graphChanged := false } planning.planned
        (deadlineOf { around with graphChanged := false }
          (around.deadlineNow + TRAFFIC_LEASE_MAX_MS)) = [] := by
      rw [expire_plans_nothing planned]
      exact ite_self _
    rw [nothing] at ended exactly
    dsimp only [call]
    rcases @expire_cases toNumber digest now around disk with holds | expired
    · rw [passed] at holds
      cases holds.1
    · rw [expired.2]
      dsimp only
      rw [ended]
      exact And.intro rfl exactly

end

def smallSlot : Slot smallMap where
  tileId := 0
  entry := ⟨1536, 1⟩
  index := 0
  listed := mem_singleton_self _
  inside := Nat.one_pos

def closeDeps : WriteLiveTrafficDeps :=
  { expireDeps with
    overrides := [⟨⟨0, 0, 0⟩, true, none, "closure", none⟩] }

def emptyDisk : Disk := ⟨smallTar, 0, .missing, .missing⟩

def constantDigest : Nat × Nat × Option String × IndexMap → String := fun _ => "generation"

theorem close_edges : GraphEdges closeDeps := by
  apply GraphEdges.mk
  · intro wayId edges known
    cases known
  · intro override member
    rw [mem_singleton.mp member]
    exact ⟨0, 0, 0, by decide, by simp⟩

theorem empty_begins : Begins constantDigest emptyDisk := by
  apply Begins.mk
  · intro ids loaded
    cases loaded
  · apply JournalAllowed.mk
    · intro now journal read
      cases read
    · rintro map journal ⟨_, ⟨now, read⟩, _⟩
      cases read

/-- A closure whose call crashes after its record, then the call that expires it. -/
theorem crashed_closure_expires :
    let disk := run (after (fun _ => none) constantDigest) [.write closeDeps (aroundAt 0) 2]
      emptyDisk
    let call := expireLiveTraffic (fun _ => none) constantDigest 0 (aroundAt 0) disk
    ¬Blank (recordAt disk.tar smallSlot) ∧ call.2 = .ok true ∧
      HoldsExactly (applyOps ⟨disk, 0⟩ call.1).disk.tar smallMap [] := by
  intro disk call
  have proper : Proper (fun _ => none) constantDigest emptyDisk
      [.write closeDeps (aroundAt 0) 2] :=
    guarded_cons close_edges guarded_nil
  have expired := (no_stale_speed_survives (fun _ => none) constantDigest emptyDisk
    [.write closeDeps (aroundAt 0) 2] empty_begins proper).2 0 (aroundAt 0) smallMap rfl
      (by decide +kernel) (by decide +kernel)
  apply And.intro
  · unfold Blank
    decide +kernel
  · exact expired

def closedTar : ByteFile := write smallTar 1568 encodeClosedTrafficSpeed

def forgedDisk : Disk where
  tar := closedTar
  tarIdentity := 0
  state := .missing
  journal := .text (some (journalJson ⟨.string "generation", .committed, 0, [], false⟩))

def leasedDisk : Disk where
  tar := closedTar
  tarIdentity := 0
  state := .missing
  journal := .text (some (journalJson ⟨.string "generation", .committed, 1000, [⟨0, 0, 0⟩], false⟩))

def forgedCall : List FileOp × Except String WriteLiveTrafficResult :=
  writeLiveTrafficLocked (fun _ => none) constantDigest expireDeps (aroundAt 0) forgedDisk

def leasedCall : List FileOp × Except String Bool :=
  expireLiveTraffic (fun _ => none) constantDigest 0 (aroundAt 0) leasedDisk

def changedCall : List FileOp × Except String WriteLiveTrafficResult :=
  writeLiveTrafficLocked (fun _ => none) constantDigest closeDeps
    { aroundAt 0 with graphChanged := true } emptyDisk

/-- A call that plans nothing completes and leaves a closure that an altered journal hides; a
lease that runs leaves its closure; a graph that changed during planning stops a call. -/
theorem closure_survives : (forgedCall.2.toBool = true ∧
      breakpointOf (recordAt (applyOps ⟨forgedDisk, 0⟩ forgedCall.1).disk.tar smallSlot) ≠ 0) ∧
    (leasedCall.2.toBool = true ∧
      breakpointOf (recordAt (applyOps ⟨leasedDisk, 0⟩ leasedCall.1).disk.tar smallSlot) ≠ 0) ∧
    changedCall.2.toBool = false := by
  decide +kernel

end OpenMapX.Traffic.StaleSpeeds
