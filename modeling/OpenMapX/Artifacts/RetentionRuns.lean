import OpenMapX.Foundation.Runs
import OpenMapX.Artifacts.RetentionDeletes

/-!
# Runs of the retention accounting

Calls follow one another on a namespace that starts empty, each cut by a crash wherever it is.
-/

namespace OpenMapX.Artifacts.RetentionRuns

open Foundation.Runs Foundation.CrashPrograms Foundation.CrashPrograms.Program ControlRetention
  RetentionBooks RetentionWrites RetentionDeletes

section

variable (recordDigest : List UInt8 → String) (counterDigest : Counter → String)

variable {limit surplus : Nat} {item : RetentionDeletion}

section

variable {current : Counter} {pending : Option Transaction}

theorem delete_body_triple {itemDone : Option Failure}
    {maximumBytes : Nat} (readables : Readables pending) :
    Triple
      (Holds fun left dir => Books limit surplus current current pending dir ∧
        (pending = none → Plannable recordDigest item itemDone maximumBytes current 0 8 left dir))
      (do
        let pending ← transaction
        let t ← resumeOrPlan recordDigest item maximumBytes pending
        let t ← unlinkPlanned recordDigest counterDigest item t maximumBytes
        let t ← countUnlinked counterDigest t
        if t.phase ≠ .counted then fail .refused else
          publishes itemDone
          replaceTransaction (some { t with phase := .item_done })
          replaceTransaction none)
      (fun _ => Holds fun _ => Kept limit surplus)
      (fun _ => Holds fun _ => Kept limit surplus) (Cut (Kept limit surplus)) := by
  apply Triple.known (transaction_triple
    (fun left dir start => start.1.legible readables))
  apply @Triple.bind _ _ _ _ _ _ _ _ _ (fun t => Holds fun left dir =>
    Underway limit surplus item itemDone t .planned 7 left dir ∧
      (Readable t ∨ Matches recordDigest item maximumBytes dir))
  · cases pending with
    | none =>
      apply Triple.since (plan_triple recordDigest)
      exact fun machine start => And.intro start.1 (start.2 rfl)
    | some t =>
      have readable := readables t rfl
      apply Triple.ite
      · intro other
        exact Triple.fail fun machine start => Books.kept start.1 readables
      · intro same
        have named : t.name = item.name := by
          unfold sameItem at same
          simp only [Bool.decide_and, Bool.not_eq_false, Bool.and_eq_true,
            decide_eq_true_eq] at same
          exact same.2.1
        apply Triple.ret
        intro machine start
        exact And.intro ⟨⟨current, start.1⟩, named, Or.inl readable⟩ (Or.inl readable)
  · intro t
    apply Triple.bind (unlink_planned_triple recordDigest counterDigest)
    intro unlinked
    apply Triple.bind (count_unlinked_triple counterDigest)
    intro counted
    exact settle_triple

theorem finish_body_triple (readables : Readables pending) :
    Triple
      (Holds fun _ dir => Books limit surplus current current pending dir)
      (do
        let pending ← transaction
        match pending with
        | none => pure ()
        | some t =>
          if sameFamily t item = false ∨ (t.phase ≠ .counted ∧ t.phase ≠ .item_done) then
            fail .refused
          else
            replaceTransaction (some { t with phase := .item_done })
            replaceTransaction none)
      (fun _ => Holds fun _ => Kept limit surplus)
      (fun _ => Holds fun _ => Kept limit surplus) (Cut (Kept limit surplus)) := by
  apply Triple.known (transaction_triple
    (fun left dir start => Books.legible start readables))
  cases pending with
  | none => exact Triple.ret fun machine start => Books.kept start readables_none
  | some t =>
    have readable := readables t rfl
    apply Triple.ite
    · intro other
      exact Triple.fail fun machine start => pending_kept start readable
    · intro same
      have done : t.phase = .counted ∨ t.phase = .item_done := by
        by_contra neither
        apply same
        rw [not_or] at neither
        exact Or.inr neither
      apply @Triple.bind _ _ _ _ _ _ _ _ _ (fun _ => Holds fun _ dir =>
        Books limit surplus current current (some { t with phase := .item_done }) dir)
      · apply replace_transaction_triple
        · exact fun full machine start => pending_kept start readable
        · exact fun dir start => pending_kept start readable
        · intro room left dir books
          have staged := books.staged t rfl
          apply phase_books books
          · exact staged.later room (.inr rfl) (staged.done done)
          · rcases done with counted | item_done
            · simp only [owing, counted]
            · simp only [owing, item_done]
      · intro marked
        apply replace_transaction_triple
        · intro full
          exact absurd full (by decide)
        · exact fun dir books => pending_kept books readable
        · intro room left dir books
          exact Books.kept (clear_books books (Or.inr rfl)) readables_none

end

def DeletionAllowed (item : RetentionDeletion) (itemDone : Option Failure) (maximumBytes : Nat)
    (left : Nat) (dir : Directory) : Prop :=
  ∀ before prior, dir.count = some before → dir.highwater = some prior →
    dir.transaction = some (.stored none) →
    Plannable recordDigest item itemDone maximumBytes before (1 + repairs before prior)
      (9 + repairs before prior) left dir

/-- The first use of the namespace is not cut between its first and its last write, and a
deletion can be planned. -/
def Allowed (dir : Directory) (event : Event) : Prop :=
  Opening event.torn event.left dir ∧
    match event.call with
    | .delete item itemDone maximumBytes =>
      DeletionAllowed recordDigest item itemDone maximumBytes event.left dir
    | .write _ => True
    | .finish _ => True

variable {dir : Directory}

abbrev Rested {α : Type} (limit surplus : Nat) (_ : α) (machine : Machine Directory) : Prop :=
  machine.store.writer = false ∧ Kept limit surplus (contents machine.store)

theorem plannable_open {itemDone} {maximumBytes : Nat} {before : Counter} {repaired left : Nat}
    (plannable : Plannable recordDigest item itemDone maximumBytes before (1 + repaired)
      (9 + repaired) (left + repaired + 1) dir) :
    Plannable recordDigest item itemDone maximumBytes before 0 8 left dir := by
  intro named counted room
  rcases plannable named counted room with readable | rest
  · exact Or.inl readable
  · apply Or.inr
    rcases rest with soon | finishes
    · exact Or.inl (by omega)
    · exact Or.inr ⟨finishes.1, finishes.2.1, by omega⟩

section

variable {limit surplus torn : Nat} {item : RetentionDeletion}

theorem delete_triple {itemDone : Option Failure} {maximumBytes : Nat} : Triple
      (fun machine => machine.store.writer = false ∧ Holds (fun left dir =>
        Kept limit surplus dir ∧ Opening torn left dir ∧
          DeletionAllowed recordDigest item itemDone maximumBytes left dir) machine)
      (deleteRetainedRecord recordDigest counterDigest item itemDone maximumBytes torn)
      (Rested limit surplus) (Rested limit surplus) (Cut (Kept limit surplus)) := by
  have known : ∀ current prior pending, Readables pending → Triple
      (fun machine => machine.store.writer = false ∧ Holds (fun left dir =>
        Books limit surplus current prior pending dir ∧ (pending = none →
          Plannable recordDigest item itemDone maximumBytes current (1 + repairs current prior)
            (9 + repairs current prior) left dir)) machine)
      (deleteRetainedRecord recordDigest counterDigest item itemDone maximumBytes torn)
      (Rested limit surplus) (Rested limit surplus) (Cut (Kept limit surplus)) := by
    intro current prior pending readables
    apply writer_triple
    · exact initialize_kept (fun left dir => pending = none →
        Plannable recordDigest item itemDone maximumBytes current (1 + repairs current prior)
          (9 + repairs current prior) (left + 1) dir) (fun _ _ holds => holds) readables
    · apply Triple.since (delete_body_triple recordDigest counterDigest readables)
      exact fun machine start =>
        And.intro start.1 fun fresh => plannable_open recordDigest (start.2 fresh)
    · exact fun dir start => Books.kept start.1 readables
    · exact fun _ dir holds => holds
    · exact fun dir holds => holds
  have blank : Triple
      (fun machine => machine.store.writer = false ∧ Holds (fun left dir =>
        dir = empty ∧ Opening torn left dir) machine)
      (deleteRetainedRecord recordDigest counterDigest item itemDone maximumBytes torn)
      (Rested limit 0) (Rested limit 0) (Cut (Kept limit 0)) := by
    apply writer_triple
    · apply Triple.since (@initialize_blank limit torn _)
      intro machine start
      obtain ⟨unused, opening⟩ := start
      refine And.intro unused ?_
      have early := opening unused
      unfold opens
      omega
    · apply Triple.since (delete_body_triple recordDigest counterDigest readables_none)
      intro machine start
      refine And.intro start ?_
      intro fresh named
      obtain ⟨record, present, rest⟩ := named
      rw [zero_no_records start item.name] at present
      cases present
    · exact fun dir start => Or.inl (And.intro start.1 rfl)
    · exact fun _ dir holds => holds
    · exact fun dir holds => holds
  constructor
  intro machine start
  obtain ⟨unguarded, kept, opening, allowed⟩ := start
  rcases kept with unused | books
  · obtain ⟨unused, none_yet⟩ := unused
    subst none_yet
    exact blank.ends machine (And.intro unguarded (And.intro unused opening))
  · obtain ⟨current, prior, pending, books, readables⟩ := books
    apply (known current prior pending readables).ends machine
    refine And.intro unguarded (And.intro books ?_)
    intro fresh
    subst fresh
    exact allowed current prior books.count books.highwater books.cell

theorem finish_triple : Triple (fun machine => machine.store.writer = false ∧ Holds (fun left dir =>
        Kept limit surplus dir ∧ Opening torn left dir) machine) (finishRetainedDeletion item torn)
      (Rested limit surplus) (Rested limit surplus) (Cut (Kept limit surplus)) := by
  constructor
  intro machine start
  obtain ⟨unguarded, kept, opening⟩ := start
  rcases kept with unused | books
  · obtain ⟨unused, none_yet⟩ := unused
    subst none_yet
    have early := opening unused
    have triple : Triple
        (fun machine => machine.store.writer = false ∧ Holds (fun left dir =>
          dir = empty ∧ (left ≤ 1 ∨ (left = 4 ∧ 4 ≤ torn) ∨ 5 ≤ left)) machine)
        (finishRetainedDeletion item torn)
        (Rested limit 0) (Rested limit 0) (Cut (Kept limit 0)) := by
      apply writer_triple
      · apply Triple.since (@initialize_blank limit torn _)
        intro machine start
        obtain ⟨unused, early⟩ := start
        refine And.intro unused ?_
        unfold opens
        omega
      · exact finish_body_triple readables_none
      · exact fun dir start => Or.inl (And.intro start.1 rfl)
      · exact fun _ dir holds => holds
      · exact fun dir holds => holds
    exact triple.ends machine (And.intro unguarded (And.intro unused early))
  · obtain ⟨current, prior, pending, books, readables⟩ := books
    have triple : Triple
        (fun machine => machine.store.writer = false ∧ Holds (fun _ dir =>
          Books limit surplus current prior pending dir ∧ True) machine)
        (finishRetainedDeletion item torn)
        (fun _ machine => machine.store.writer = false ∧
          Kept limit surplus (contents machine.store))
        (fun _ machine => machine.store.writer = false ∧
          Kept limit surplus (contents machine.store))
        (Cut (Kept limit surplus)) := by
      apply writer_triple
      · exact initialize_kept (fun _ _ => True) (fun _ _ holds => holds) readables
      · apply Triple.since (finish_body_triple readables)
        exact fun machine start => start.1
      · exact fun dir start => Books.kept start.1 readables
      · exact fun _ dir holds => holds
      · exact fun dir holds => holds
    exact triple.ends machine (And.intro unguarded (And.intro books trivial))

end

/-- The call was not a write, or it was a write that was not cut and whose hook did not throw. -/
def Clean (dir : Directory) (event : Event) : Prop :=
  match event.call with
  | .write writing => writing.beforeReplace = none ∧ writing.beforeCreate = none ∧
      outcome recordDigest counterDigest dir event ≠ .crashed
  | .delete _ _ _ => True
  | .finish _ => True

def isWrite (event : Event) : Bool :=
  match event.call with
  | .write _ => true
  | .delete _ _ _ => false
  | .finish _ => false

def Within (limit : Nat) (event : Event) : Prop :=
  match event.call with
  | .write writing => writing.maximum ≤ limit
  | .delete _ _ _ => True
  | .finish _ => True

theorem contents_of_idle (unguarded : dir.writer = false) : contents dir = dir := by
  cases dir
  cases unguarded
  rfl

theorem step_ends {returned thrown : Directory → Prop} {cut : Directory → Prop}
    {dir} {event : Event} {before : Machine Directory → Prop}
    (triple : Triple before (perform recordDigest counterDigest event)
      (fun _ machine => machine.store.writer = false ∧ returned (contents machine.store))
      (fun _ machine => machine.store.writer = false ∧ thrown (contents machine.store)) (Cut cut))
    (start : before ⟨event.left, dir⟩) :
    (step recordDigest counterDigest dir event).writer = false ∧
      (returned (step recordDigest counterDigest dir event) ∨
        thrown (step recordDigest counterDigest dir event) ∨
        (outcome recordDigest counterDigest dir event = .crashed ∧
          cut (step recordDigest counterDigest dir event))) := by
  have ends := triple.ends ⟨event.left, dir⟩ start
  unfold step outcome
  cases result : perform recordDigest counterDigest event ⟨event.left, dir⟩ with
  | mk outcome machine =>
    rw [result] at ends
    cases outcome with
    | returned value =>
      obtain ⟨idle, holds⟩ := ends
      rw [contents_of_idle idle] at holds
      exact And.intro idle (Or.inl holds)
    | threw failure =>
      obtain ⟨idle, holds⟩ := ends
      rw [contents_of_idle idle] at holds
      exact And.intro idle (Or.inr (Or.inl holds))
    | crashed => exact And.intro rfl (Or.inr (Or.inr (And.intro rfl ends)))

theorem step_kept {event : Event} (idle : dir.writer = false) (kept : Kept limit surplus dir)
    (allowed : Allowed recordDigest dir event) (within : Within limit event) :
    (step recordDigest counterDigest dir event).writer = false ∧
      ∃ later, surplus ≤ later ∧ (isWrite event = false → later = surplus) ∧
        (Clean recordDigest counterDigest dir event → later = surplus) ∧
        Kept limit later (step recordDigest counterDigest dir event) := by
  have same := contents_of_idle idle
  obtain ⟨call, left, torn⟩ := event
  cases call with
  | write writing =>
    have triple := @write_triple limit surplus writing torn within
    have ends := @step_ends recordDigest counterDigest _ _ _ dir ⟨.write writing, left, torn⟩ _
      triple (And.intro idle (by
        unfold Holds
        simp only
        rw [same]
        exact And.intro kept allowed.1))
    refine And.intro ends.1 ?_
    rcases ends.2 with returned | rest
    · obtain ⟨later, larger, equal, kept⟩ := returned
      refine ⟨later, larger, ?_, ?_, kept⟩
      · intro impossible
        cases impossible
      · exact fun clean => equal (And.intro clean.1 clean.2.1)
    · rcases rest with thrown | cut
      · obtain ⟨later, larger, equal, kept⟩ := thrown
        refine ⟨later, larger, ?_, ?_, kept⟩
        · intro impossible
          cases impossible
        · exact fun clean => equal (And.intro clean.1 clean.2.1)
      · obtain ⟨crashed, later, larger, equal, kept⟩ := cut
        refine ⟨later, larger, ?_, ?_, kept⟩
        · intro impossible
          cases impossible
        · exact fun clean => absurd crashed clean.2.2
  | delete item itemDone maximumBytes =>
    have triple := @delete_triple recordDigest counterDigest limit surplus torn item itemDone
      maximumBytes
    have ends := @step_ends recordDigest counterDigest _ _ _ dir
      ⟨.delete item itemDone maximumBytes, left, torn⟩ _ triple (And.intro idle (by
        unfold Holds
        simp only
        rw [same]
        exact And.intro kept allowed))
    refine And.intro ends.1 ⟨surplus, Nat.le_refl _, fun _ => rfl, fun _ => rfl, ?_⟩
    exact ends.2.elim id fun rest => rest.elim id And.right
  | finish item =>
    have triple := @finish_triple limit surplus torn item
    have ends := @step_ends recordDigest counterDigest _ _ _ dir
      ⟨.finish item, left, torn⟩ _ triple (And.intro idle (by
        unfold Holds
        simp only
        rw [same]
        exact And.intro kept allowed.1))
    refine And.intro ends.1 ⟨surplus, Nat.le_refl _, fun _ => rfl, fun _ => rfl, ?_⟩
    exact ends.2.elim id fun rest => rest.elim id And.right

def countOf (dir : Directory) : Nat :=
  match dir.count with
  | some current => current.count
  | none => 0

def owingOf (dir : Directory) : Nat :=
  match dir.count, dir.transaction with
  | some current, some (.stored pending) => owing dir current pending
  | _, _ => 0

def NonePending (dir : Directory) : Prop :=
  dir.transaction = none ∨ dir.transaction = some (.stored none)

def Accepts (dir : Directory) : Prop :=
  ∀ left torn failure, 4 ≤ left → (initializeNamespace torn ⟨left, dir⟩).1 ≠ .threw failure

theorem kept_balance (kept : Kept limit surplus dir) :
    countOf dir = dir.records.length + owingOf dir + surplus ∧ countOf dir ≤ limit := by
  rcases kept with unused | books
  · obtain ⟨unused, none_yet⟩ := unused
    subst unused none_yet
    exact And.intro rfl (Nat.zero_le limit)
  · obtain ⟨current, prior, pending, books, readables⟩ := books
    unfold countOf owingOf
    rw [books.count, books.cell]
    exact And.intro books.balance books.bounded

theorem none_owing (none_pending : NonePending dir) : owingOf dir = 0 := by
  unfold owingOf
  rcases none_pending with missing | cleared
  · rw [missing]
    cases dir.count with
    | none => rfl
    | some current => rfl
  · rw [cleared]
    cases dir.count with
    | none => rfl
    | some current => rfl

theorem kept_accepts (idle : dir.writer = false) (kept : Kept limit surplus dir) : Accepts dir := by
  intro left torn failure enough threw
  have same := contents_of_idle idle
  have never : ∀ {before : Machine Directory → Prop} {after : Unit → Machine Directory → Prop}
      {cut : Directory → Prop}, Triple before (initializeNamespace torn) after
        (fun _ _ => False) cut → before ⟨left, dir⟩ → False := by
    intro before after cut triple start
    have ends := triple.ends ⟨left, dir⟩ start
    cases result : initializeNamespace torn ⟨left, dir⟩ with
    | mk outcome machine =>
      rw [result] at ends threw
      simp only at threw
      rw [threw] at ends
      exact ends
  rcases kept with unused | books
  · apply never (@initialize_blank limit torn _)
    unfold Holds
    simp only
    rw [same]
    exact And.intro unused.1 (Or.inr (Or.inr enough))
  · obtain ⟨current, prior, pending, books, readables⟩ := books
    apply never (@initialize_kept limit surplus torn current prior pending _ (fun _ _ => True)
      (fun _ _ holds => holds) readables)
    unfold Holds
    simp only
    rw [same]
    exact And.intro books trivial

/-- In every run whose steps are allowed, and in each state of it: the recorded count is not
below the number of record files nor above the maximum, the accounting goes on, the count is
that number where every write was clean and no deletion is pending, and a deletion, cut or not,
lowers the count by as much as it takes record files away that it no longer owes. -/
theorem accounting_survives (limit : Nat) (events : List Event)
    (within : ∀ event ∈ events, Within limit event)
    (allowed : ∀ earlier event, earlier ++ [event] <+: events →
      Allowed recordDigest (run (step recordDigest counterDigest) earlier empty) event)
    (reached : List Event) (prior : reached <+: events) :
    (run (step recordDigest counterDigest) reached empty).records.length ≤
        countOf (run (step recordDigest counterDigest) reached empty) ∧
      countOf (run (step recordDigest counterDigest) reached empty) ≤ limit ∧
      Accepts (run (step recordDigest counterDigest) reached empty) ∧
      ((∀ earlier event, earlier ++ [event] <+: reached → Clean recordDigest counterDigest
          (run (step recordDigest counterDigest) earlier empty) event) →
        NonePending (run (step recordDigest counterDigest) reached empty) →
        countOf (run (step recordDigest counterDigest) reached empty) =
          (run (step recordDigest counterDigest) reached empty).records.length) ∧
      ∀ event, reached ++ [event] <+: events → isWrite event = false →
        countOf (run (step recordDigest counterDigest) (reached ++ [event]) empty) +
            (run (step recordDigest counterDigest) reached empty).records.length +
            owingOf (run (step recordDigest counterDigest) reached empty) =
          countOf (run (step recordDigest counterDigest) reached empty) +
            (run (step recordDigest counterDigest) (reached ++ [event]) empty).records.length +
            owingOf (run (step recordDigest counterDigest) (reached ++ [event]) empty) := by
  have start : empty.writer = false ∧ Kept limit 0 empty := And.intro rfl (Or.inl ⟨rfl, rfl⟩)
  have stepwise : ∀ dir event, Allowed recordDigest dir event ∧ Within limit event →
      (dir.writer = false ∧ ∃ surplus, Kept limit surplus dir) →
      (step recordDigest counterDigest dir event).writer = false ∧
        ∃ surplus, Kept limit surplus (step recordDigest counterDigest dir event) := by
    intro dir event conditions holds
    obtain ⟨idle, surplus, kept⟩ := holds
    obtain ⟨still, later, larger, same, clean, kept⟩ :=
      step_kept recordDigest counterDigest idle kept conditions.1 conditions.2
    exact And.intro still ⟨later, kept⟩
  have member : ∀ earlier event, earlier ++ [event] <+: events → Within limit event := by
    intro earlier event inside
    exact within event (inside.subset (by simp))
  obtain ⟨idle, surplus, kept⟩ := run_guarded stepwise events empty
    (And.intro start.1 ⟨0, start.2⟩)
    (fun earlier event inside => And.intro (allowed earlier event inside)
      (member earlier event inside)) reached prior
  have balance := kept_balance kept
  refine ⟨by omega, balance.2, kept_accepts idle kept, ?_, ?_⟩
  · intro clean none_pending
    have cleanly : ∀ dir event, (Allowed recordDigest dir event ∧ Within limit event) ∧
        Clean recordDigest counterDigest dir event →
        (dir.writer = false ∧ Kept limit 0 dir) →
        (step recordDigest counterDigest dir event).writer = false ∧
          Kept limit 0 (step recordDigest counterDigest dir event) := by
      intro dir event conditions holds
      obtain ⟨still, later, larger, same, equal, kept⟩ := step_kept recordDigest counterDigest
        holds.1 holds.2 conditions.1.1 conditions.1.2
      rw [equal conditions.2] at kept
      exact And.intro still kept
    have unspoilt := run_guarded cleanly reached empty start
      (fun earlier event inside => And.intro (And.intro
        (allowed earlier event (inside.trans prior)) (member earlier event (inside.trans prior)))
        (clean earlier event inside)) reached List.prefix_rfl
    have exactly := kept_balance unspoilt.2
    rw [none_owing none_pending] at exactly
    omega
  · intro event inside not_write
    obtain ⟨still, later, larger, same, clean, kept⟩ := step_kept recordDigest counterDigest idle
      kept (allowed reached event inside) (member reached event inside)
    rw [same not_write] at kept
    have after := kept_balance kept
    rw [run_snoc]
    omega

end

def heldRecord : Record := ⟨"a.json", ⟨"1", "7"⟩, [123, 125]⟩

def heldItem : RetentionDeletion :=
  ⟨"family", "generation", "manifest", 0, "a.json", ⟨"1", "7"⟩, "digest"⟩

def cutDeletion : List Event :=
  [⟨.write ⟨heldRecord, true, 65536, none, none, 131072⟩, 20, 0⟩,
    ⟨.delete heldItem none 131072, 5, 0⟩, ⟨.delete heldItem none 131072, 20, 0⟩]

theorem held_item_readable : Readable (planFor heldItem ⟨1, 1, 1⟩) := by
  intro phase room
  cases phase with
  | planned => decide +kernel
  | unlinked => decide +kernel
  | counted => decide +kernel
  | item_done => decide +kernel

theorem cut_deletion_survives :
    (run (step (fun _ => "digest") (fun _ => "counter")) cutDeletion empty).records.length ≤
        countOf (run (step (fun _ => "digest") (fun _ => "counter")) cutDeletion empty) ∧
      Accepts (run (step (fun _ => "digest") (fun _ => "counter")) cutDeletion empty) := by
  have kept := accounting_survives (fun _ => "digest") (fun _ => "counter") 65536 cutDeletion
    (by
      intro event member
      simp only [cutDeletion, List.mem_cons, List.not_mem_nil, or_false] at member
      rcases member with first | second | third
      · rw [first]
        exact Nat.le_refl _
      · rw [second]
        trivial
      · rw [third]
        trivial)
    (by
      apply guarded_cons
      · exact And.intro (fun _ => Or.inr (Or.inr (by decide))) trivial
      apply guarded_cons
      · apply And.intro (fun _ => Or.inr (Or.inr (by decide)))
        intro before prior count highwater cell named counted room
        have stored : (step (fun _ => "digest") (fun _ => "counter") empty
          ⟨.write ⟨heldRecord, true, 65536, none, none, 131072⟩, 20, 0⟩).count =
            some ⟨1, 1, 1⟩ := by decide +kernel
        rw [stored] at count
        cases count
        exact Or.inl held_item_readable
      apply guarded_cons
      · apply And.intro (fun _ => Or.inr (Or.inr (by decide)))
        intro before prior count highwater cell
        exact absurd cell (by decide +kernel)
      exact guarded_nil)
    cutDeletion List.prefix_rfl
  exact And.intro kept.1 kept.2.2.1

def cutWrite : Event := ⟨.write ⟨heldRecord, true, 65536, none, none, 131072⟩, 2, 0⟩

/-- The namespace is refused from then on. -/
theorem first_write_cut :
    (initializeNamespace 0 ⟨20, step (fun _ => "digest") (fun _ => "counter") empty cutWrite⟩).1 =
      .threw .refused := by
  rfl

-- `padEnd` counts code units and `read` counts bytes: the plan for `é.json` cannot be read back.
example : (initializeNamespace 0 ⟨20, run (step (fun _ => "digest") (fun _ => "counter"))
    [⟨.write ⟨⟨"é.json", ⟨"1", "7"⟩, [123, 125]⟩, true, 65536, none, none, 131072⟩, 20, 0⟩,
      ⟨.delete { heldItem with name := "é.json" } none 131072, 3, 0⟩] empty⟩).1 =
    .threw .refused := by decide +kernel

end OpenMapX.Artifacts.RetentionRuns
