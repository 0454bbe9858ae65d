import Mathlib.Tactic.FinCases
import Mathlib.Data.Fintype.Basic
import OpenMapX.Mobility.DetailRecords

/-!
# Runs of the detail store

What the store's calls carry across an `await` is genuine in every run. Snapshots and
answers do not go back in time as long as no write is based on an outdated read, no
overfull merge refreshes a listed record, and no lookup puts back what its process knew
better when another lookup began.
-/

namespace OpenMapX.Mobility.DetailRuns

open Foundation.Runs DetailStore DetailRecords List Function

variable {Item Id Scope : Type} [DecidableEq Id] (deps : StoreDeps Item Id Scope)
  (config : StoreConfig)

structure GoodWrite (write : Write Item) : Prop where
  newer : ∀ record ∈ write.before, write.now < record.expiresAt → ∀ item ∈ write.items,
    recordId deps item = recordId deps record → record.acquiredAt ≤ item.acquiredAt
  kept : ∀ record ∈ write.before, write.now < record.expiresAt →
    write.items.length < config.maxSnapshotItems →
      ∃ item ∈ write.items, recordId deps item = recordId deps record
  limit : ∀ dropped ∈ write.merged, dropped ∉ write.items → ∀ item ∈ write.items,
    dropped.acquiredAt ≤ item.acquiredAt

structure GoodAnswer (inventory : List (Retained Item)) (enrichments : List (Nat × Item))
    (answer : Answer Item Id) : Prop where
  newer : ∀ held, answer.heldAtStart = some held → ∀ record, answer.returned = some record →
    held.acquiredAt ≤ record.acquiredAt
  genuine : ∀ record, answer.returned = some record → Genuine deps inventory enrichments record

structure Together (inventory : List (Retained Item)) (enrichments : List (Nat × Item))
    (incoming : List (Retained Item)) : Prop where
  genuine : ∀ record ∈ incoming, Genuine deps inventory enrichments record
  together : ∀ first ∈ incoming, ∀ second ∈ incoming, first.acquiredAt = second.acquiredAt

structure Snapshot (inventory : List (Retained Item)) (enrichments : List (Nat × Item))
    (items : List (Retained Item)) : Prop where
  genuine : ∀ record ∈ items, Genuine deps inventory enrichments record
  distinct : (items.map (recordId deps)).Nodup

structure LookupOk (inventory : List (Retained Item)) (enrichments : List (Nat × Item))
    (clock : Nat) (l1 : List (Held Item)) (lookup : Lookup Item Id) : Prop where
  genuine : ∀ held, lookup.heldAtStart = some held →
    Genuine deps inventory enrichments held ∧ recordId deps held = lookup.id
  expired : ∀ held, lookup.heldAtStart = some held → lookup.initialRecord = none →
    held.expiresAt ≤ clock
  initial : ∀ held, lookup.initialRecord = some held → lookup.heldAtStart = some held.record
  newest : lookup.initialRecord.isSome = true → ∀ held, lookup.heldAtStart = some held →
    ∀ current ∈ l1, recordId deps current.record = lookup.id →
      held.acquiredAt ≤ current.record.acquiredAt

structure RecordOk (inventory : List (Retained Item)) (enrichments : List (Nat × Item))
    (lookup : Lookup Item Id) (record : Retained Item) : Prop where
  genuine : Genuine deps inventory enrichments record
  id : recordId deps record = lookup.id
  same : lookup.initialRecord.isSome = true → ∀ held, lookup.heldAtStart = some held →
    record.acquiredAt = held.acquiredAt

def lookupOf : Phase Item Id Scope → Option (Lookup Item Id)
  | .snapshotRead lookup _ | .snapshotResume lookup _ | .patchRead lookup _
  | .patchResume lookup _ _ => some lookup
  | _ => none

def CarriesOk (inventory : List (Retained Item)) (enrichments : List (Nat × Item))
    (clock : Nat) : Phase Item Id Scope → Prop
  | .mergeRead _ incoming => Together deps inventory enrichments incoming
  | .mergeResume _ incoming raw =>
    Together deps inventory enrichments incoming ∧ Snapshot deps inventory enrichments raw
  | .mergeWrite _ incoming raw merged _ =>
    Together deps inventory enrichments incoming ∧ Snapshot deps inventory enrichments raw ∧
      ∃ resumed ≤ clock, merged = mergeById deps (unexpired resumed raw ++ incoming)
  | .patchWrite updated _ => Genuine deps inventory enrichments updated
  | .patchSettle updated => Genuine deps inventory enrichments updated
  | .snapshotRead lookup _ => lookup.initialRecord = none
  | .snapshotResume lookup raw =>
    lookup.initialRecord = none ∧ Snapshot deps inventory enrichments raw
  | .patchRead lookup record => RecordOk deps inventory enrichments lookup record
  | .patchResume lookup record patch =>
    RecordOk deps inventory enrichments lookup record ∧
      ∀ found, patch = some found → Genuine deps inventory enrichments found
  | .done => True

structure PhaseOk (inventory : List (Retained Item)) (enrichments : List (Nat × Item))
    (clock : Nat) (l1 : List (Held Item)) (phase : Phase Item Id Scope) : Prop where
  carries : CarriesOk deps inventory enrichments clock phase
  lookup : ∀ lookup, lookupOf phase = some lookup →
    LookupOk deps inventory enrichments clock l1 lookup

section

variable {inventory more : List (Retained Item)} {enrichments further : List (Nat × Item)}
  {clock later : Nat} {l1 l1' : List (Held Item)}

theorem carries_mono (grown : inventory ⊆ more) (enriched : enrichments ⊆ further)
    (le : clock ≤ later) {phase} (carries : CarriesOk deps inventory enrichments clock phase) :
    CarriesOk deps more further later phase := by
  have genuine : ∀ {record : Retained Item}, Genuine deps inventory enrichments record →
      Genuine deps more further record := genuine_mono deps grown enriched
  have together : ∀ {incoming : List (Retained Item)},
      Together deps inventory enrichments incoming → Together deps more further incoming :=
    fun own => ⟨fun record member => genuine (own.genuine record member), own.together⟩
  have snapshot : ∀ {items : List (Retained Item)},
      Snapshot deps inventory enrichments items → Snapshot deps more further items :=
    fun own => ⟨fun record member => genuine (own.genuine record member), own.distinct⟩
  have record_ok : ∀ {lookup : Lookup Item Id} {record : Retained Item},
      RecordOk deps inventory enrichments lookup record →
        RecordOk deps more further lookup record :=
    fun own => ⟨genuine own.genuine, own.id, own.same⟩
  cases phase with
  | mergeRead scope incoming => exact together carries
  | mergeResume scope incoming raw => exact And.intro (together carries.1) (snapshot carries.2)
  | mergeWrite scope incoming raw merged seconds =>
    obtain ⟨incoming_ok, raw_ok, resumed, past, same⟩ := carries
    exact ⟨together incoming_ok, snapshot raw_ok, resumed, past.trans le, same⟩
  | patchWrite updated seconds => exact genuine carries
  | patchSettle updated => exact genuine carries
  | snapshotRead lookup scope => exact carries
  | snapshotResume lookup raw => exact And.intro carries.1 (snapshot carries.2)
  | patchRead lookup record => exact record_ok carries
  | patchResume lookup record patch =>
    exact And.intro (record_ok carries.1) fun found own => genuine (carries.2 found own)
  | done => trivial

omit [DecidableEq Id] in
theorem lookup_mono (grown : inventory ⊆ more) (enriched : enrichments ⊆ further)
    (le : clock ≤ later) {lookup} (ok : LookupOk deps inventory enrichments clock l1 lookup)
    (locals : lookup.initialRecord.isSome = true → ∀ current ∈ l1',
      recordId deps current.record = lookup.id → current ∈ l1 ∨
        ∀ held, lookup.heldAtStart = some held → held.acquiredAt ≤ current.record.acquiredAt) :
    LookupOk deps more further later l1' lookup := by
  apply LookupOk.mk
  · intro held own
    have before := ok.genuine held own
    exact And.intro (genuine_mono deps grown enriched before.1) before.2
  · intro held own absent
    exact (ok.expired held own absent).trans le
  · exact ok.initial
  · intro present held own current member id
    rcases locals present current member id with old | newer
    · exact ok.newest present held own current old id
    · exact newer held own

theorem phase_mono (grown : inventory ⊆ more) (enriched : enrichments ⊆ further)
    (le : clock ≤ later) {phase} (ok : PhaseOk deps inventory enrichments clock l1 phase)
    (locals : ∀ lookup, lookupOf phase = some lookup → lookup.initialRecord.isSome = true →
      ∀ current ∈ l1', recordId deps current.record = lookup.id → current ∈ l1 ∨
        ∀ held, lookup.heldAtStart = some held → held.acquiredAt ≤ current.record.acquiredAt) :
    PhaseOk deps more further later l1' phase :=
  ⟨carries_mono deps grown enriched le ok.carries, fun lookup own =>
    lookup_mono deps grown enriched le (ok.lookup lookup own) (locals lookup own)⟩

end

structure LocalOk (inventory : List (Retained Item)) (enrichments : List (Nat × Item))
    (l1 : List (Held Item)) : Prop where
  genuine : ∀ held ∈ l1, Genuine deps inventory enrichments held.record
  distinct : (l1.map fun held => recordId deps held.record).Nodup

theorem delete_sublist (l1 : List (Held Item)) (id : Id) :
    (deleteL1 deps l1 id).Sublist l1 := filter_sublist

variable {process : Process Item}

theorem remember_mem {record held} (member : held ∈ (remember deps config process record).l1) :
    held ∈ process.l1 ∨ held.record = record := by
  have inside := mem_of_mem_drop member
  rcases mem_append.mp inside with old | new
  · exact Or.inl ((delete_sublist deps process.l1 _).subset old)
  · rw [mem_singleton.mp new]
    exact Or.inr rfl

theorem remember_local {inventory enrichments} (ok : LocalOk deps inventory enrichments process.l1)
    {record} (genuine : Genuine deps inventory enrichments record) :
    LocalOk deps inventory enrichments (remember deps config process record).l1 := by
  apply LocalOk.mk
  · intro held member
    rcases remember_mem deps config member with old | same
    · exact ok.genuine held old
    · rw [same]
      exact genuine
  · apply List.Nodup.sublist ((drop_sublist _ _).map _)
    rw [map_append, nodup_append]
    apply And.intro (ok.distinct.sublist ((delete_sublist ..).map _))
    apply And.intro
    · simp
    · intro id member other own
      obtain ⟨held, held_member, named⟩ := mem_map.mp member
      have different := (mem_filter.mp held_member).2
      rw [map_singleton, mem_singleton] at own
      rw [own, ← named]
      simpa using different

theorem get_l1_some {id : Id} {held} (found : getL1 deps process id = some held) :
    held ∈ process.l1 ∧ recordId deps held.record = id := by
  apply And.intro (mem_of_find?_eq_some found)
  simpa using find?_some found

omit [DecidableEq Id] in
theorem local_unique {inventory enrichments l1} (ok : LocalOk deps inventory enrichments l1)
    {first second} (first_member : first ∈ l1) (second_member : second ∈ l1)
    (same : recordId deps first.record = recordId deps second.record) : first = second :=
  inj_on_of_nodup_map ok.distinct first_member second_member same

structure Inv (state : State Item Id Scope) : Prop where
  acquired : Acquired config state.clock state.nextToken state.inventory
  locals : ∀ process, LocalOk deps state.inventory state.enrichments
    (state.processes process).l1
  snapshots : ∀ scope, Snapshot deps state.inventory state.enrichments
    (snapshotAt state.cache scope)
  patches : ∀ id token record, patchAt state.cache id token = some record →
    Genuine deps state.inventory state.enrichments record
  tasks : ∀ task ∈ state.tasks, PhaseOk deps state.inventory state.enrichments state.clock
    (state.processes task.process).l1 task.phase
  writes : ∀ write ∈ state.writes, GoodWrite deps config write
  answers : ∀ answer ∈ state.answers, GoodAnswer deps state.inventory state.enrichments answer

theorem inv_initial : Inv deps config (initial : State Item Id Scope) := by
  apply Inv.mk
  · apply Acquired.mk
    · simp [initial]
    · simp [initial]
    · simp [initial]
    · simp [initial]
  · intro process
    apply LocalOk.mk
    · simp [initial]
    · simp [initial]
  · intro scope
    apply Snapshot.mk
    · simp [initial, snapshotAt]
    · simp [initial, snapshotAt]
  · simp [initial, patchAt]
  · simp [initial]
  · simp [initial]
  · simp [initial]

variable {deps config}

variable {state : State Item Id Scope}

theorem inv_tick (inv : Inv deps config state) (elapsed : Nat) :
    Inv deps config { state with clock := state.clock + elapsed } := by
  have later : state.clock ≤ state.clock + elapsed := Nat.le_add_right _ _
  refine { inv with acquired := ?_, tasks := ?_ }
  · exact { inv.acquired with
      past := fun source member => (inv.acquired.past source member).trans later }
  · intro task member
    apply phase_mono deps (fun _ own => own) (fun _ own => own) later (inv.tasks task member)
    intro lookup _ _ current own _
    exact Or.inl own

theorem inv_grow (inv : Inv deps config state) {nextToken : Nat} {more further}
    (grown : state.inventory ⊆ more) (enriched : state.enrichments ⊆ further)
    (acquired : Acquired config state.clock nextToken more) : Inv deps config
      { state with nextToken := nextToken, inventory := more, enrichments := further } := by
  have own : ∀ {record : Retained Item}, Genuine deps state.inventory state.enrichments record →
      Genuine deps more further record := genuine_mono deps grown enriched
  apply Inv.mk
  · exact acquired
  · intro process
    exact ⟨fun held member => own ((inv.locals process).genuine held member),
      (inv.locals process).distinct⟩
  · intro scope
    exact ⟨fun record member => own ((inv.snapshots scope).genuine record member),
      (inv.snapshots scope).distinct⟩
  · intro id token record found
    exact own (inv.patches id token record found)
  · intro task member
    apply phase_mono deps grown enriched (Nat.le_refl _) (inv.tasks task member)
    intro lookup _ _ current here _
    exact Or.inl here
  · exact inv.writes
  · intro given member
    exact ⟨(inv.answers given member).newer, fun record returned =>
      own ((inv.answers given member).genuine record returned)⟩

theorem inv_cache [DecidableEq Scope] (inv : Inv deps config state) (key : CacheKey Id Scope)
    (entry) (snapshot : ∀ items deadline, entry = some ⟨.snapshot items, deadline⟩ →
      Snapshot deps state.inventory state.enrichments items)
    (patch : ∀ record deadline, entry = some ⟨.patch record, deadline⟩ →
      Genuine deps state.inventory state.enrichments record) :
    Inv deps config { state with cache := Function.update state.cache key entry } := by
  refine { inv with snapshots := ?_, patches := ?_ }
  · intro scope
    by_cases own : CacheKey.snapshot scope = key
    · subst own
      unfold snapshotAt
      dsimp only
      rw [update_self]
      split
      · rename_i items deadline
        exact snapshot items deadline rfl
      · apply Snapshot.mk
        · simp
        · simp
    · unfold snapshotAt
      dsimp only
      rw [update_of_ne own]
      exact inv.snapshots scope
  · intro id token record found
    by_cases own : CacheKey.patch id token = key
    · subst own
      unfold patchAt at found
      dsimp only at found
      rw [update_self] at found
      split at found
      · rename_i kept deadline
        rw [← Option.some.inj found]
        exact patch kept deadline rfl
      · cases found
    · unfold patchAt at found
      dsimp only at found
      rw [update_of_ne own] at found
      exact inv.patches id token record found

section

variable (inv : Inv deps config state)
include inv

theorem inv_local (index : Nat) (process : Process Item)
    (ok : LocalOk deps state.inventory state.enrichments process.l1)
    (newer : ∀ task ∈ state.tasks, task.process = index → ∀ lookup,
      lookupOf task.phase = some lookup → lookup.initialRecord.isSome = true →
        ∀ current ∈ process.l1, recordId deps current.record = lookup.id →
          current ∈ (state.processes index).l1 ∨
            ∀ held, lookup.heldAtStart = some held → held.acquiredAt ≤ current.record.acquiredAt) :
    Inv deps config { state with
      processes := Function.update state.processes index process } := by
  refine { inv with locals := ?_, tasks := ?_ }
  · intro other
    by_cases own : other = index
    · subst own
      dsimp only
      rw [update_self]
      exact ok
    · dsimp only
      rw [update_of_ne own]
      exact inv.locals other
  · intro task member
    by_cases own : task.process = index
    · dsimp only
      rw [own, update_self]
      apply phase_mono deps (fun _ old => old) (fun _ old => old) (Nat.le_refl _)
        (inv.tasks task member)
      rw [own]
      exact newer task member own
    · dsimp only
      rw [update_of_ne own]
      exact inv.tasks task member

theorem inv_spawn {process : Nat} {phase}
    (ok : PhaseOk deps state.inventory state.enrichments state.clock
      (state.processes process).l1 phase) : Inv deps config (spawn state process phase) :=
  { inv with
    tasks := forall_mem_append.mpr ⟨inv.tasks, forall_mem_singleton.mpr ok⟩ }

theorem inv_answer {process : Nat} {lookup returned}
    (ok : GoodAnswer deps state.inventory state.enrichments
      ⟨process, lookup.id, lookup.heldAtStart, returned⟩) :
    Inv deps config (answer state process lookup returned) :=
  { inv with
    answers := forall_mem_append.mpr ⟨inv.answers, forall_mem_singleton.mpr ok⟩ }

theorem inv_set_phase {index : Nat} {task} (own : state.tasks[index]? = some task) {phase}
    (ok : PhaseOk deps state.inventory state.enrichments state.clock
      (state.processes task.process).l1 phase) : Inv deps config (setPhase state index phase) :=
  { inv with
    tasks := by
      intro changed member
      obtain ⟨position, found⟩ := mem_iff_getElem?.mp member
      simp only [setPhase, getElem?_modify] at found
      cases at_position : state.tasks[position]? with
      | none =>
        rw [at_position] at found
        cases found
      | some old =>
        rw [at_position] at found
        have same : (if index = position then { old with phase := phase } else old) =
            changed := Option.some.inj found
        by_cases here : index = position
        · subst here
          rw [own] at at_position
          have one := Option.some.inj at_position
          subst one
          rw [if_pos rfl] at same
          rw [← same]
          exact ok
        · rw [if_neg here] at same
          rw [← same]
          exact inv.tasks old (mem_of_getElem? at_position) }

end

theorem done_ok (inventory enrichments) (clock : Nat) (l1 : List (Held Item)) :
    PhaseOk deps inventory enrichments clock l1 (.done : Phase Item Id Scope) :=
  ⟨trivial, fun _ absent => by cases absent⟩

section

omit [DecidableEq Id]

variable {clock : Nat}

theorem acquired_mem {token : Nat} {items : List Item} {record : Retained Item}
    (member : record ∈ acquired config clock token items) :
    token ≤ record.acquisitionToken ∧ record.acquisitionToken < token + items.length ∧
      record.acquiredAt = clock ∧ record.expiresAt = clock + config.ttlSeconds * 1000 := by
  induction items generalizing token with
  | nil => simp [acquired] at member
  | cons item rest ih =>
    simp only [acquired, mem_cons] at member
    rw [length_cons]
    rcases member with same | later
    · rw [same]
      refine ⟨Nat.le_refl _, ?_, rfl, rfl⟩
      dsimp only
      omega
    · have found := ih later
      exact ⟨by omega, by omega, found.2.2⟩

theorem acquired_unique {token : Nat} {items : List Item} {first second : Retained Item}
    (first_member : first ∈ acquired config clock token items)
    (second_member : second ∈ acquired config clock token items)
    (same : first.acquisitionToken = second.acquisitionToken) : first = second := by
  induction items generalizing token with
  | nil => simp [acquired] at first_member
  | cons item rest ih =>
    simp only [acquired, mem_cons] at first_member second_member
    rcases first_member with first_here | first_later
    · rcases second_member with second_here | second_later
      · rw [first_here, second_here]
      · have bound := (acquired_mem second_later).1
        rw [first_here] at same
        dsimp only at same
        omega
    · rcases second_member with second_here | second_later
      · have bound := (acquired_mem first_later).1
        rw [second_here] at same
        dsimp only at same
        omega
      · exact ih first_later second_later

theorem acquired_more {nextToken : Nat} {inventory : List (Retained Item)}
    (before : Acquired config clock nextToken inventory) (items : List Item) :
    Acquired config clock (nextToken + items.length)
      (inventory ++ acquired config clock nextToken items) := by
  apply Acquired.mk
  · intro source member
    rcases mem_append.mp member with old | new
    · have bound := before.fresh source old
      omega
    · exact (acquired_mem new).2.1
  · intro first first_member second second_member same
    rcases mem_append.mp first_member with first_old | first_new
    · rcases mem_append.mp second_member with second_old | second_new
      · exact before.unique first first_old second second_old same
      · have bound := before.fresh first first_old
        have fresh := (acquired_mem second_new).1
        omega
    · rcases mem_append.mp second_member with second_old | second_new
      · have bound := before.fresh second second_old
        have fresh := (acquired_mem first_new).1
        omega
      · exact acquired_unique first_new second_new same
  · intro source member
    rcases mem_append.mp member with old | new
    · exact before.past source old
    · exact Nat.le_of_eq (acquired_mem new).2.2.1
  · intro source member
    rcases mem_append.mp member with old | new
    · exact before.life source old
    · have found := acquired_mem new
      rw [found.2.2.2, found.2.2.1]

end

omit [DecidableEq Id] in
theorem group_mem [DecidableEq Scope] (records) :
    ∀ group ∈ groupByScope deps records, ∀ record ∈ group.2, record ∈ records := by
  induction records using List.reverseRecOn with
  | nil => simp [groupByScope]
  | append_singleton earlier last ih =>
    intro group member record inside
    simp only [groupByScope, foldl_append, foldl_cons, foldl_nil] at member
    have old : ∀ other ∈ groupByScope deps earlier, ∀ kept ∈ other.2,
        kept ∈ earlier ++ [last] :=
      fun other other_member kept own => mem_append_left _ (ih other other_member kept own)
    split at member
    · exact old group member record inside
    · split at member
      · obtain ⟨other, other_member, same⟩ := mem_map.mp member
        split at same
        · rw [← same] at inside
          rcases mem_append.mp inside with before | new
          · exact old other other_member record before
          · rw [mem_singleton.mp new]
            simp
        · rw [← same] at inside
          exact old other other_member record inside
      · rcases mem_append.mp member with before | new
        · exact old group before record inside
        · rw [mem_singleton.mp new] at inside
          simp only [mem_singleton] at inside
          rw [inside]
          simp

variable (config) in
theorem remember_all {inventory : List (Retained Item)} {enrichments : List (Nat × Item)}
    (records : List (Retained Item))
    (genuine : ∀ record ∈ records, Genuine deps inventory enrichments record)
    {process : Process Item} (ok : LocalOk deps inventory enrichments process.l1) :
    LocalOk deps inventory enrichments (records.foldl (remember deps config) process).l1 ∧
      ∀ held ∈ (records.foldl (remember deps config) process).l1,
        held ∈ process.l1 ∨ held.record ∈ records := by
  induction records generalizing process with
  | nil => exact And.intro ok fun held member => Or.inl member
  | cons record rest ih =>
    have first := remember_local deps config ok (genuine record mem_cons_self)
    have later := ih (fun other member => genuine other (mem_cons_of_mem _ member)) first
    apply And.intro later.1
    intro held member
    rcases later.2 held member with before | after
    · rcases remember_mem deps config before with old | same
      · exact Or.inl old
      · rw [same]
        exact Or.inr mem_cons_self
    · exact Or.inr (mem_cons_of_mem _ after)

variable {state : State Item Id Scope}

theorem inv_store [DecidableEq Scope] (inv : Inv deps config state) (process : Nat)
    (items : List Item) : Inv deps config (store deps config state process items) := by
  let records := acquired config state.clock state.nextToken items
  have grown : state.inventory ⊆ state.inventory ++ records := subset_append_left _ _
  have genuine : ∀ record ∈ records,
      Genuine deps (state.inventory ++ records) state.enrichments record := by
    intro record member
    exact ⟨record, mem_append_right _ member, ⟨rfl, rfl, rfl, rfl⟩, Or.inl rfl⟩
  have acquiring := inv_grow inv grown (fun _ made => made) (acquired_more inv.acquired items)
  have published := remember_all config records genuine (acquiring.locals process)
  have local_inv := inv_local acquiring process _ published.1 (by
    intro task member own lookup looked present current inside id
    rcases published.2 current inside with old | new
    · exact Or.inl old
    · apply Or.inr
      intro held at_start
      rw [(acquired_mem new).2.2.1]
      have known := (acquiring.tasks task member).lookup lookup looked
      exact genuine_past deps acquiring.acquired (known.genuine held at_start).1)
  exact { local_inv with
    tasks := by
      intro task member
      rcases mem_append.mp member with old | new
      · exact local_inv.tasks task old
      · obtain ⟨group, group_member, same⟩ := mem_map.mp new
        rw [← same]
        have of_call := @group_mem Item Id Scope deps _ records group group_member
        apply PhaseOk.mk
        · apply Together.mk
          · intro record inside
            exact genuine record (of_call record inside)
          · intro first first_member second second_member
            rw [(acquired_mem (of_call first first_member)).2.2.1,
              (acquired_mem (of_call second second_member)).2.2.1]
        · intro lookup absent
          cases absent }

variable {record : Retained Item}

theorem inv_update (inv : Inv deps config state) (process : Nat)
    (genuine : Genuine deps state.inventory state.enrichments record)
    (item : Item) : Inv deps config (updateRetained deps state process record item) := by
  unfold updateRetained
  split
  · exact inv
  · rename_i proceeds
    simp only [not_or] at proceeds
    dsimp only
    split
    · exact inv
    · have same_id : deps.idOf item = recordId deps record := not_not.mp proceeds.1
      have enriched : state.enrichments ⊆ (record.acquisitionToken, item) :: state.enrichments :=
        subset_cons_self _ _
      apply inv_spawn (inv_grow inv (fun _ kept => kept) enriched inv.acquired)
      apply PhaseOk.mk
      · obtain ⟨source, member, acquisition, _⟩ := genuine
        refine ⟨source, member, ?_, Or.inr mem_cons_self⟩
        exact ⟨acquisition.token, same_id.trans acquisition.id, acquisition.acquiredAt,
          acquisition.expiresAt⟩
      · intro lookup absent
        cases absent

omit [DecidableEq Id] in
theorem local_ok_sublist {inventory enrichments l1 l1'} (ok : LocalOk deps inventory enrichments l1)
    (less : l1'.Sublist l1) : LocalOk deps inventory enrichments l1' :=
  ⟨fun held member => ok.genuine held (less.subset member), ok.distinct.sublist (less.map _)⟩

theorem inv_forget (inv : Inv deps config state) (index : Nat)
    (process : Process Item) (less : process.l1.Sublist (state.processes index).l1) :
    Inv deps config { state with
      processes := Function.update state.processes index process } := by
  apply inv_local inv index process (local_ok_sublist (inv.locals index) less)
  intro task _ _ lookup _ _ current member _
  exact Or.inl (less.subset member)

omit [DecidableEq Id] in
theorem good_none (inventory enrichments) (process : Nat) (lookup : Lookup Item Id) :
    GoodAnswer deps inventory enrichments ⟨process, lookup.id, lookup.heldAtStart, none⟩ := by
  apply GoodAnswer.mk
  · intro held _ record returned
    cases returned
  · intro record returned
    cases returned

theorem inv_get [DecidableEq Scope] (inv : Inv deps config state) (process : Nat) (id : Id) :
    Inv deps config (getRetained deps state process id) := by
  unfold getRetained
  dsimp only
  cases found : getL1 deps (state.processes process) id with
  | none =>
    -- nothing is held, so nothing is deleted
    have cleaned := inv_forget inv process
      { state.processes process with l1 := (state.processes process).l1 }
      (List.Sublist.refl _)
    simp only [Option.filter_none, Option.map_none, Option.isSome_none, Bool.false_eq_true,
      if_false]
    split
    · exact inv_answer cleaned (good_none _ _ _ _)
    · apply inv_spawn cleaned
      apply PhaseOk.mk
      · rfl
      · rintro _ ⟨⟩
        apply LookupOk.mk
        · simp
        · simp
        · simp
        · simp
  | some held =>
    obtain ⟨member, own_id⟩ := get_l1_some deps found
    have genuine := (inv.locals process).genuine held member
    by_cases live : state.clock < held.record.expiresAt
    · simp only [Option.filter_some, live, decide_true, if_true]
      apply inv_spawn inv
      apply PhaseOk.mk
      · apply RecordOk.mk
        · exact genuine
        · exact own_id
        · rintro _ _ ⟨⟩
          rfl
      · rintro _ ⟨⟩
        apply LookupOk.mk
        · rintro _ ⟨⟩
          exact And.intro genuine own_id
        · intro other _ absent
          cases absent
        · rintro _ ⟨⟩
          rfl
        · intro _ other at_start current inside same
          have one : current = held := local_unique deps (inv.locals process) inside member
            (same.trans own_id.symm)
          rw [← Option.some.inj at_start, one]
    · have cleaned := inv_forget inv process
        { state.processes process with
          l1 := deleteL1 deps (state.processes process).l1 id }
        (delete_sublist deps _ id)
      simp only [Option.filter_some, live, decide_false, Bool.false_eq_true, if_false,
        Option.isSome_some, if_true, Option.map_some]
      split
      · exact inv_answer cleaned (good_none _ _ _ _)
      · apply inv_spawn cleaned
        apply PhaseOk.mk
        · rfl
        · rintro _ ⟨⟩
          apply LookupOk.mk
          · rintro _ ⟨⟩
            exact And.intro genuine own_id
          · intro other at_start _
            rw [← Option.some.inj at_start]
            exact Nat.le_of_not_lt live
          · simp
          · simp

variable (deps config) in
/-- A merge writes to the snapshot that it read, brings nothing older than the live record of
an id, and goes over the limit only with new ids behind a snapshot in order. -/
structure CleanWrite (state : State Item Id Scope) [DecidableEq Scope] (scope : Scope)
    (incoming raw merged : List (Retained Item)) : Prop where
  current : snapshotAt state.cache scope = raw
  newer : ∀ old ∈ raw, state.clock < old.expiresAt → ∀ new ∈ incoming,
    recordId deps new = recordId deps old → old.acquiredAt ≤ new.acquiredAt
  limit : config.maxSnapshotItems ≠ 0 → config.maxSnapshotItems < merged.length →
    InOrder raw ∧ ∀ old ∈ raw, ∀ new ∈ incoming,
      recordId deps old ≠ recordId deps new ∧ old.acquiredAt ≤ new.acquiredAt

variable (deps) in
/-- A lookup publishes nothing older than what another lookup of the id, still under way in
the process, found there when it began. -/
def CleanPublication (state : State Item Id Scope) (process : Nat) (lookup : Lookup Item Id)
    (record : Retained Item) : Prop :=
  supersedingRecord deps state process lookup = none →
    lookup.publicationGeneration = (state.processes process).publicationGeneration →
      ∀ task ∈ state.tasks, task.process = process → ∀ other,
        lookupOf task.phase = some other → other.id = lookup.id →
          other.initialRecord.isSome = true → ∀ held, other.heldAtStart = some held →
            held.acquiredAt ≤ record.acquiredAt

variable (deps config) in
/-- The step of a task is a clean write or publication, if it is a write or a publication. -/
def CleanStep [DecidableEq Scope] (state : State Item Id Scope) (index : Nat) : Prop :=
  ∀ task, state.tasks[index]? = some task →
    match task.phase with
    | .mergeWrite scope incoming raw merged _ =>
      CleanWrite deps config state scope incoming raw merged
    | .patchResume lookup record _ => CleanPublication deps state task.process lookup record
    | _ => True

theorem clean_write_good [DecidableEq Scope] {scope : Scope}
    {inventory enrichments incoming raw merged}
    (together : Together deps inventory enrichments incoming)
    (snapshot : Snapshot deps inventory enrichments raw) {resumed : Nat}
    (past : resumed ≤ state.clock)
    (merged_eq : merged = mergeById deps (unexpired resumed raw ++ incoming))
    (clean : CleanWrite deps config state scope incoming raw merged) : GoodWrite deps config
      ⟨state.clock, snapshotAt state.cache scope, merged,
        lastItems config.maxSnapshotItems merged⟩ := by
  have live : ∀ record ∈ raw, state.clock < record.expiresAt →
      record ∈ unexpired resumed raw := by
    intro record member alive
    apply mem_filter.mpr
    exact And.intro member (decide_eq_true (past.trans_lt alive))
  apply GoodWrite.mk
  · intro record member alive item kept same
    dsimp only at member alive kept
    rw [clean.current] at member
    have merged_member := last_items_mem kept
    rw [merged_eq] at merged_member
    rcases mem_append.mp (merge_by_id_mem deps item merged_member) with old | new
    · have one : item = record := inj_on_of_nodup_map snapshot.distinct
        (mem_filter.mp old).1 member same
      rw [one]
    · exact clean.newer record member alive item new same
  · intro record member alive room
    dsimp only at member alive room ⊢
    rw [clean.current] at member
    have whole : lastItems config.maxSnapshotItems merged = merged := by
      apply last_items_all
      apply Or.inr
      apply Nat.le_of_not_lt
      intro exceeds
      have full := @last_items_full Item config.maxSnapshotItems merged (by omega)
        (Nat.le_of_lt exceeds)
      omega
    rw [whole, merged_eq]
    exact merge_by_id_keeps deps record (mem_append_left _ (live record member alive))
  · intro dropped member gone item kept
    dsimp only at member gone kept
    have positive : config.maxSnapshotItems ≠ 0 := by
      intro zero
      rw [last_items_all (Or.inl zero)] at gone
      exact gone member
    have exceeds : config.maxSnapshotItems < merged.length := by
      apply Nat.lt_of_not_le
      intro fits
      rw [last_items_all (Or.inr fits)] at gone
      exact gone member
    obtain ⟨ordered, later⟩ := clean.limit positive exceeds
    have merged_order : InOrder merged := by
      rw [merged_eq]
      apply merge_by_id_in_order deps (ordered.sublist filter_sublist)
      · intro old old_member new new_member
        exact (later old (mem_filter.mp old_member).1 new new_member).2
      · intro old old_member new new_member
        exact (later old (mem_filter.mp old_member).1 new new_member).1
      · exact together.together
      · exact snapshot.distinct.sublist (filter_sublist.map _)
    exact dropped_not_later merged_order member gone kept

variable {lookup : Lookup Item Id}

theorem superseding_good (inv : Inv deps config state) {process : Nat}
    (ok : LookupOk deps state.inventory state.enrichments state.clock
      (state.processes process).l1 lookup) {returned}
    (superseding : supersedingRecord deps state process lookup = some returned) :
    GoodAnswer deps state.inventory state.enrichments
      ⟨process, lookup.id, lookup.heldAtStart, returned⟩ := by
  unfold supersedingRecord at superseding
  dsimp only at superseding
  split at superseding
  · cases found : getL1 deps (state.processes process) lookup.id with
    | none =>
      rw [found] at superseding
      simp only [Option.map_none, Option.filter_none, Option.some.injEq] at superseding
      rw [← superseding]
      exact good_none _ _ _ _
    | some current =>
      obtain ⟨member, own_id⟩ := get_l1_some deps found
      have genuine := (inv.locals process).genuine current member
      rw [found, Option.some.injEq] at superseding
      rw [← superseding]
      apply GoodAnswer.mk
      · intro held at_start record given
        rw [Option.map_some, Option.filter_eq_some_iff] at given
        have one : current.record = record := Option.some.inj given.1
        cases known : lookup.initialRecord with
        | some initial =>
          rw [← one]
          exact ok.newest (by rw [known]; rfl) held at_start current member own_id
        | none =>
          have alive := of_decide_eq_true given.2
          have exceeds := ok.expired held at_start known
          rw [← one] at alive ⊢
          exact expires_with deps inv.acquired (ok.genuine held at_start).1 genuine
            (exceeds.trans (Nat.le_of_lt alive))
      · intro record given
        rw [Option.map_some, Option.filter_eq_some_iff] at given
        rw [← Option.some.inj given.1]
        exact genuine
  · cases superseding

theorem found_good (inv : Inv deps config state) {l1}
    (ok : LookupOk deps state.inventory state.enrichments state.clock l1 lookup)
    (own : RecordOk deps state.inventory state.enrichments lookup record)
    (alive : state.clock < record.expiresAt) (process : Nat) :
    GoodAnswer deps state.inventory state.enrichments
      ⟨process, lookup.id, lookup.heldAtStart, some record⟩ := by
  apply GoodAnswer.mk
  · rintro held at_start _ ⟨⟩
    cases known : lookup.initialRecord with
    | some initial => exact Nat.le_of_eq (own.same (by rw [known]; rfl) held at_start).symm
    | none =>
      exact expires_with deps inv.acquired (ok.genuine held at_start).1 own.genuine
        ((ok.expired held at_start known).trans (Nat.le_of_lt alive))
  · rintro _ ⟨⟩
    exact own.genuine

theorem patched_ok {inventory enrichments} (own : RecordOk deps inventory enrichments lookup record)
    (clock : Nat) {patch}
    (genuine : ∀ found, patch = some found → Genuine deps inventory enrichments found) :
    RecordOk deps inventory enrichments lookup (patched deps clock lookup.id record patch) := by
  cases patch with
  | none => exact own
  | some found =>
    simp only [patched]
    split
    · rename_i accepted
      apply RecordOk.mk
      · exact genuine found rfl
      · exact accepted.2.1
      · intro present held at_start
        rw [accepted.2.2.2.1]
        exact own.same present held at_start
    · exact own

theorem patched_moment (clock : Nat) (id : Id) (record : Retained Item) (patch) :
    (patched deps clock id record patch).acquiredAt = record.acquiredAt := by
  cases patch with
  | none => rfl
  | some enrichment =>
    simp only [patched]
    split
    · rename_i accepted
      exact accepted.2.2.2.1
    · rfl

theorem merged_snapshot {inventory enrichments incoming raw merged}
    (together : Together deps inventory enrichments incoming)
    (snapshot : Snapshot deps inventory enrichments raw) {resumed : Nat}
    (merged_eq : merged = mergeById deps (unexpired resumed raw ++ incoming)) :
    Snapshot deps inventory enrichments (lastItems config.maxSnapshotItems merged) := by
  apply Snapshot.mk
  · intro record member
    have inside := last_items_mem member
    rw [merged_eq] at inside
    rcases mem_append.mp (merge_by_id_mem deps record inside) with old | new
    · exact snapshot.genuine record (mem_filter.mp old).1
    · exact together.genuine record new
  · rw [merged_eq]
    unfold lastItems
    split
    · exact merge_by_id_ids deps _
    · exact (merge_by_id_ids deps _).sublist ((drop_sublist _ _).map _)

theorem inv_write [DecidableEq Scope]
    (inv : Inv deps config state) (scope : Scope) {merged} (deadline : Nat)
    (snapshot : Snapshot deps state.inventory state.enrichments
      (lastItems config.maxSnapshotItems merged))
    (good : GoodWrite deps config
      ⟨state.clock, snapshotAt state.cache scope, merged,
        lastItems config.maxSnapshotItems merged⟩) :
    Inv deps config
      { state with
        cache := Function.update state.cache (.snapshot scope)
          (some ⟨.snapshot (lastItems config.maxSnapshotItems merged), deadline⟩)
        writes := state.writes ++
          [⟨state.clock, snapshotAt state.cache scope, merged,
            lastItems config.maxSnapshotItems merged⟩] } :=
  { inv_cache inv (.snapshot scope)
      (some ⟨.snapshot (lastItems config.maxSnapshotItems merged), deadline⟩)
      (by
        intro items other same
        rw [Option.some.injEq, Entry.mk.injEq, Stored.snapshot.injEq] at same
        rw [← same.1]
        exact snapshot)
      (by
        intro record other same
        rw [Option.some.injEq, Entry.mk.injEq] at same
        cases same.1) with
    writes := forall_mem_append.mpr ⟨inv.writes, forall_mem_singleton.mpr good⟩ }

theorem settled_newer (inv : Inv deps config state) {process : Nat} {updated}
    (genuine : Genuine deps state.inventory state.enrichments updated)
    (current_token : (getL1 deps (state.processes process) (recordId deps updated)).any
      (fun held => held.record.acquisitionToken = updated.acquisitionToken) = true) :
    ∀ task ∈ state.tasks, task.process = process → ∀ lookup,
      lookupOf task.phase = some lookup → lookup.initialRecord.isSome = true →
        ∀ current ∈ (remember deps config (state.processes process) updated).l1,
          recordId deps current.record = lookup.id → current ∈ (state.processes process).l1 ∨
              ∀ held, lookup.heldAtStart = some held →
                held.acquiredAt ≤ current.record.acquiredAt := by
  intro other other_member own_process lookup looked present current inside id
  rcases remember_mem deps config inside with old | same
  · exact Or.inl old
  · apply Or.inr
    intro held at_start
    cases found : getL1 deps (state.processes process) (recordId deps updated) with
    | none =>
      rw [found] at current_token
      cases current_token
    | some old =>
      rw [found] at current_token
      have token := of_decide_eq_true current_token
      obtain ⟨old_member, old_id⟩ := get_l1_some deps found
      have acquisition := same_acquisition deps inv.acquired
        ((inv.locals process).genuine old old_member) genuine token
      have known := (inv.tasks other other_member).lookup lookup looked
      rw [own_process] at known
      rw [same, acquisition.acquiredAt]
      apply known.newest present held at_start old old_member
      rw [old_id, ← same]
      exact id

theorem inv_advance [DecidableEq Scope]
    (inv : Inv deps config state) (index : Nat) (clean : CleanStep deps config state index) :
    Inv deps config (advance deps config state index) := by
  unfold advance
  cases at_index : state.tasks[index]? with
  | none => exact inv
  | some task =>
    have ok := inv.tasks task (mem_of_getElem? at_index)
    have own := clean task at_index
    have done := @done_ok Item Id Scope _ deps state.inventory state.enrichments state.clock
      (state.processes task.process).l1
    cases task with
    | mk process phase =>
      cases phase with
      | mergeRead scope incoming =>
        apply inv_set_phase inv at_index
        exact ⟨And.intro ok.carries (inv.snapshots scope), fun _ absent => by cases absent⟩
      | mergeResume scope incoming raw =>
        dsimp only
        split
        · exact inv_set_phase inv at_index done
        · apply inv_set_phase inv at_index
          exact ⟨⟨ok.carries.1, ok.carries.2, state.clock, Nat.le_refl _, rfl⟩,
            fun _ absent => by cases absent⟩
      | mergeWrite scope incoming raw merged seconds =>
        obtain ⟨together, snapshot, resumed, past, merged_eq⟩ := ok.carries
        have good := clean_write_good together snapshot past merged_eq own
        have written := inv_write inv scope (state.clock + seconds * 1000)
          (merged_snapshot together snapshot merged_eq) good
        exact inv_set_phase written at_index done
      | patchWrite updated seconds =>
        have cached := inv_cache inv
          (.patch (recordId deps updated) updated.acquisitionToken)
          (some ⟨.patch updated, state.clock + seconds * 1000⟩)
          (by
            intro items deadline same
            rw [Option.some.injEq, Entry.mk.injEq] at same
            cases same.1)
          (by
            intro record deadline same
            rw [Option.some.injEq, Entry.mk.injEq, Stored.patch.injEq] at same
            rw [← same.1]
            exact ok.carries)
        apply inv_set_phase cached at_index
        exact ⟨ok.carries, fun _ absent => by cases absent⟩
      | patchSettle updated =>
        dsimp only
        split
        · rename_i current_token
          have genuine : Genuine deps state.inventory state.enrichments updated := ok.carries
          have remembered := inv_local inv process
            (remember deps config (state.processes process) updated)
            (remember_local deps config (inv.locals process) genuine)
            (settled_newer inv genuine current_token)
          apply inv_set_phase remembered at_index
          exact done_ok _ _ _ _
        · exact inv_set_phase inv at_index done
      | snapshotRead lookup scope =>
        apply inv_set_phase inv at_index
        exact ⟨And.intro ok.carries (inv.snapshots scope), ok.lookup⟩
      | snapshotResume lookup raw =>
        have looked := ok.lookup lookup rfl
        dsimp only
        split
        · rename_i superseding found
          exact inv_set_phase (inv_answer inv (superseding_good inv looked found))
            at_index done
        · split
          · exact inv_set_phase (inv_answer inv (good_none _ _ _ _)) at_index done
          · rename_i record found
            apply inv_set_phase inv at_index
            have member := (mem_filter.mp (mem_of_find?_eq_some found)).1
            refine ⟨⟨ok.carries.2.genuine record member, ?_, ?_⟩, ok.lookup⟩
            · simpa using find?_some found
            · intro present
              rw [ok.carries.1] at present
              cases present
      | patchRead lookup record =>
        apply inv_set_phase inv at_index
        refine ⟨And.intro ok.carries ?_, ok.lookup⟩
        intro patch found
        exact inv.patches _ _ patch found
      | patchResume lookup record patch =>
        have looked := ok.lookup lookup rfl
        have found_ok := patched_ok ok.carries.1 state.clock ok.carries.2
        dsimp only
        split
        · rename_i superseding found
          exact inv_set_phase (inv_answer inv (superseding_good inv looked found))
            at_index done
        · rename_i none_superseding
          split
          · exact inv_set_phase (inv_answer inv (good_none _ _ _ _)) at_index done
          · rename_i alive
            have good := found_good inv looked found_ok (Nat.lt_of_not_le alive) process
            split
            · rename_i same_generation
              have published := inv_local inv process
                (remember deps config (state.processes process)
                  (patched deps state.clock lookup.id record patch))
                (remember_local deps config (inv.locals process) found_ok.genuine)
                (by
                  intro other other_member own_process under looked_under present current
                    inside id
                  rcases remember_mem deps config inside with old | same
                  · exact Or.inl old
                  · apply Or.inr
                    intro held at_start
                    rw [same] at id ⊢
                    rw [patched_moment]
                    exact own none_superseding same_generation other other_member
                      own_process under looked_under (id.symm.trans found_ok.id)
                      present held at_start)
              apply inv_set_phase (inv_answer published good) at_index
              exact done_ok _ _ _ _
            · exact inv_set_phase (inv_answer inv good) at_index done
      | done => exact inv

theorem inv_step [DecidableEq Scope] (inv : Inv deps config state) (event)
    (clean : ∀ index, event = .advance index → CleanStep deps config state index) :
    Inv deps config (step deps config state event) := by
  cases event with
  | tick elapsed => exact inv_tick inv elapsed
  | expire key =>
    unfold step
    dsimp only
    split
    · exact inv
    · split
      · apply inv_cache inv
        · intro items deadline same
          cases same
        · intro record deadline same
          cases same
      · exact inv
  | store process items => exact inv_store inv process items
  | updateRetained process index item =>
    unfold step
    dsimp only
    split
    · rename_i answered
      have given := inv.answers _ (mem_of_getElem? answered)
      exact inv_update inv process (given.genuine _ rfl) item
    · exact inv
  | getRetained process id => exact inv_get inv process id
  | clearL1 process => exact inv_forget inv process _ (nil_sublist _)
  | advance index => exact inv_advance inv index (clean index rfl)

variable (deps config)

/-- In every state of a run whose writes and publications are clean, no write of a shared
snapshot went back in time or lost a record below the limit, what the limit dropped was not
newer than what it kept, and every answer is genuine and not older than what its process
held when the call began. -/
theorem store_never_goes_back [DecidableEq Scope] (events : List (Event Item Id Scope))
    (clean : ∀ earlier event, earlier ++ [event] <+: events → ∀ index, event = .advance index →
      CleanStep deps config (after deps config earlier) index)
    (reached : List (Event Item Id Scope)) (within : reached <+: events) :
    let state := after deps config reached
    (∀ write ∈ state.writes, GoodWrite deps config write) ∧
      ∀ answer ∈ state.answers,
        GoodAnswer deps state.inventory state.enrichments answer := by
  intro state
  have preserved : ∀ (state : State Item Id Scope) (event : Event Item Id Scope),
      (∀ index, event = .advance index → CleanStep deps config state index) →
        Inv deps config state → Inv deps config (step deps config state event) := by
    intro state event own inv
    exact inv_step inv event own
  have inv : Inv deps config state :=
    run_guarded preserved events initial (inv_initial deps config) clean reached within
  exact And.intro inv.writes inv.answers

def plainDeps : StoreDeps (Nat × Nat) Nat Unit where
  idOf := Prod.fst
  sharedMobilityDetailScope := fun _ => some ()
  sameText := fun first second => first = second

def smallConfig : StoreConfig := ⟨600, 1, 2⟩

def merged (task : Nat) : List (Event (Nat × Nat) Nat Unit) :=
  [.advance task, .advance task, .advance task]

def storedOnce : List (Event (Nat × Nat) Nat Unit) :=
  [.store 0 [(1, 0)]] ++ merged 0 ++ [.getRetained 0 1, .advance 1, .advance 1]

theorem stored_once_kept : (∀ write ∈ (after plainDeps smallConfig storedOnce).writes,
      GoodWrite plainDeps smallConfig write) ∧
    ∀ answer ∈ (after plainDeps smallConfig storedOnce).answers,
      GoodAnswer plainDeps (after plainDeps smallConfig storedOnce).inventory
        (after plainDeps smallConfig storedOnce).enrichments answer := by
  apply store_never_goes_back plainDeps smallConfig storedOnce _ storedOnce
    (prefix_refl storedOnce)
  have each : ∀ k : Fin 7, ∀ index, storedOnce[k.val]? = some (.advance index) →
      CleanStep plainDeps smallConfig (after plainDeps smallConfig (storedOnce.take k)) index := by
    intro k index at_k task at_index
    fin_cases k <;> cases at_k <;> cases at_index
    · trivial
    · trivial
    · apply CleanWrite.mk
      · rfl
      · intro old member
        cases member
      · intro _ overfull
        exact absurd overfull (by decide)
    · trivial
    · intro _ _ task member _ other looked _ _ held at_start
      fin_cases member
      · cases looked
      · cases looked
        cases at_start
        exact Nat.le_refl _
  intro earlier event within index advances
  have length := within.length_le
  rw [length_append] at length
  have early := (prefix_append earlier [event]).trans within
  have before := each ⟨earlier.length, length⟩ index
  rw [show storedOnce.take earlier.length = earlier from
    (prefix_iff_eq_take.mp early).symm] at before
  apply before
  obtain ⟨rest, whole⟩ := within
  rw [← whole, advances]
  simp

/-- The first store is paused before its read while a later acquisition is written. -/
def pausedStore : List (Event (Nat × Nat) Nat Unit) :=
  [.store 0 [(1, 0)], .tick 1, .store 1 [(1, 1)]] ++ merged 1 ++ merged 0

def lostUpdate : List (Event (Nat × Nat) Nat Unit) :=
  [.store 0 [(1, 0)], .store 1 [(2, 0)], .advance 0, .advance 1, .advance 0, .advance 1,
    .advance 0, .advance 1]

/-- The first record is refreshed in its old place, and the limit then drops it. -/
def refreshedInPlace : List (Event (Nat × Nat) Nat Unit) :=
  [.store 0 [(1, 0)]] ++ merged 0 ++ [.tick 1, .store 0 [(2, 0)]] ++ merged 1 ++
    [.tick 1, .store 0 [(1, 1), (3, 0)]] ++ merged 2

/-- A second lookup puts an older record back after the one that the first lookup began
with was evicted. -/
def putBack : List (Event (Nat × Nat) Nat Unit) :=
  [.store 1 [(1, 0)]] ++ merged 0 ++
    [.tick 1, .store 0 [(1, 1)], .getRetained 0 1, .store 0 [(2, 0)], .getRetained 0 1,
      .advance 4, .advance 4, .advance 4, .advance 4, .advance 2, .advance 2]

theorem the_store_goes_back : (¬∀ events : List (Event (Nat × Nat) Nat Unit),
      ∀ write ∈ (after plainDeps smallConfig events).writes,
        ∀ record ∈ write.before, write.now < record.expiresAt → ∀ item ∈ write.items,
          item.item.1 = record.item.1 → record.acquiredAt ≤ item.acquiredAt) ∧
    (¬∀ events : List (Event (Nat × Nat) Nat Unit),
      ∀ write ∈ (after plainDeps smallConfig events).writes,
        ∀ record ∈ write.before, write.now < record.expiresAt →
          write.items.length < smallConfig.maxSnapshotItems →
            ∃ item ∈ write.items, item.item.1 = record.item.1) ∧
    (¬∀ events : List (Event (Nat × Nat) Nat Unit),
      ∀ write ∈ (after plainDeps smallConfig events).writes,
        ∀ dropped ∈ write.merged, dropped ∉ write.items → ∀ item ∈ write.items,
          dropped.acquiredAt ≤ item.acquiredAt) ∧ ¬∀ events : List (Event (Nat × Nat) Nat Unit),
      ∀ answer ∈ (after plainDeps smallConfig events).answers,
        ∀ held ∈ answer.heldAtStart, ∀ record ∈ answer.returned,
          held.acquiredAt ≤ record.acquiredAt := by
  apply And.intro
  · intro always
    exact absurd (always pausedStore) (by decide +kernel)
  · apply And.intro
    · intro always
      exact absurd (always lostUpdate) (by decide +kernel)
    · apply And.intro
      · intro always
        exact absurd (always refreshedInPlace) (by decide +kernel)
      · intro always
        exact absurd (always putBack) (by decide +kernel)

end OpenMapX.Mobility.DetailRuns
