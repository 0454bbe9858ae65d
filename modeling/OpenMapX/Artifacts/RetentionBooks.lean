import OpenMapX.Artifacts.ControlRetention

/-!
# Books of a retention namespace

What a namespace keeps between two file operations: the two counter files, the transaction and
the record files agree up to the step that is being made. `Books` names the surplus, by which
the count stands above the records because a creation was not finished.
-/

namespace OpenMapX.Artifacts.RetentionBooks

open Foundation.CrashPrograms Foundation.CrashPrograms.Program ControlRetention List

variable {dir : Directory} {name : String}

theorem find_record_none :
    findRecord dir name = none ↔ ∀ record ∈ dir.records, record.name ≠ name := by
  simp [findRecord]

theorem remove_absent (absent : findRecord dir name = none) :
    removeRecord dir.records name = dir.records := by
  unfold removeRecord
  apply filter_eq_self.mpr
  intro record member
  simpa using find_record_none.mp absent record member

theorem remove_length {name : String} (records : List Record)
    (distinct : records.Pairwise fun a b => a.name ≠ b.name)
    (present : ∃ record ∈ records, record.name = name) :
    (removeRecord records name).length + 1 = records.length := by
  induction records with
  | nil =>
    obtain ⟨record, member, named⟩ := present
    cases member
  | cons first rest ih =>
    obtain ⟨differs, rest_distinct⟩ := pairwise_cons.mp distinct
    unfold removeRecord
    by_cases named : first.name = name
    · have others : rest.filter (fun record => decide (record.name ≠ name)) = rest := by
        apply filter_eq_self.mpr
        intro record member
        have other := differs record member
        rw [named] at other
        simpa using other.symm
      simp [named]
      simpa using others
    · have later : ∃ record ∈ rest, record.name = name := by
        obtain ⟨record, member, same⟩ := present
        rcases mem_cons.mp member with head | inside
        · rw [head] at same
          exact absurd same named
        · exact ⟨record, inside, same⟩
      have fewer := ih rest_distinct later
      unfold removeRecord at fewer
      simp [named]
      simpa using fewer

theorem remove_distinct {records} (distinct : records.Pairwise fun a b => a.name ≠ b.name) :
    (removeRecord records name).Pairwise fun a b => a.name ≠ b.name :=
  distinct.sublist filter_sublist

variable {record : Record}

theorem put_distinct (distinct : dir.records.Pairwise fun a b => a.name ≠ b.name) :
    (putRecord record dir).records.Pairwise fun a b => a.name ≠ b.name := by
  apply List.Pairwise.cons
  · intro other member
    have different := (mem_filter.mp member).2
    simp only [decide_eq_true_eq] at different
    exact different.symm
  · exact remove_distinct distinct

theorem put_length_absent (absent : findRecord dir record.name = none) :
    (putRecord record dir).records.length = dir.records.length + 1 := by
  simp only [putRecord, length_cons]
  rw [remove_absent absent]

theorem put_length_present {record old : Record}
    (distinct : dir.records.Pairwise fun a b => a.name ≠ b.name)
    (present : findRecord dir record.name = some old) :
    (putRecord record dir).records.length = dir.records.length := by
  simp only [putRecord, length_cons]
  apply remove_length dir.records distinct
  have named := find?_some present
  exact ⟨old, mem_of_find?_eq_some present, by simpa using named⟩

theorem find_put (record : Record) (dir : Directory) :
    findRecord (putRecord record dir) record.name = some record := by
  simp [findRecord, putRecord]

theorem find_put_other (other : record.name ≠ name) :
    findRecord (putRecord record dir) name = findRecord dir name := by
  simp only [findRecord, putRecord, find?_cons, decide_eq_false other, removeRecord,
    find?_filter]
  congr 1
  funext candidate
  by_cases same : candidate.name = name
  · have different : candidate.name ≠ record.name := by
      rw [same]
      exact other.symm
    simp [same, other.symm]
  · simp [same]

theorem find_removed (dir : Directory) (name : String) :
    findRecord { dir with records := removeRecord dir.records name } name = none := by
  apply find_record_none.mpr
  intro record member
  have different := (mem_filter.mp member).2
  simpa using different

def owing (dir : Directory) (current : Counter) : Option Transaction → Nat
  | none => 0
  | some t =>
    match t.phase with
    | .planned => if findRecord dir t.name = none then 1 else 0
    | .unlinked => if current = t.before then 1 else 0
    | .counted => 0
    | .item_done => 0

structure Staged (current : Counter) (t : Transaction) : Prop where
  sequence : t.after.sequence = t.before.sequence + 1
  count : t.after.count + 1 = t.before.count
  room : fits (some t) = true
  planned : t.phase = .planned → current = t.before
  unlinked : t.phase = .unlinked → current = t.before ∨ current = t.after
  done : t.phase = .counted ∨ t.phase = .item_done → current = t.after

theorem Staged.later {current next : Counter} {t} {phase : Phase}
    (staged : Staged current t) (room : fits (some { t with phase := phase }) = true)
    (late : phase = .counted ∨ phase = .item_done) (done : next = t.after) :
    Staged next { t with phase := phase } := by
  rcases late with rfl | rfl <;>
    exact ⟨staged.sequence, staged.count, room, (fun impossible => by cases impossible),
      (fun impossible => by cases impossible), fun _ => done⟩

structure Books (limit surplus : Nat) (current prior : Counter) (pending : Option Transaction)
    (dir : Directory) : Prop where
  count : dir.count = some current
  highwater : dir.highwater = some prior
  cell : dir.transaction = some (.stored pending)
  current_valid : counter current = true
  prior_valid : counter prior = true
  behind : prior = current ∨ prior.sequence < current.sequence
  distinct : dir.records.Pairwise fun a b => a.name ≠ b.name
  staged : ∀ t, pending = some t → Staged current t
  balance : current.count = dir.records.length + owing dir current pending + surplus
  bounded : current.count ≤ limit

def Readable (t : Transaction) : Prop :=
  ∀ phase, fits (some { t with phase := phase }) = true → legible { t with phase := phase } = true

theorem Readable.legible {t} (readable : Readable t) (room : fits (some t) = true) :
    ControlRetention.legible t = true := readable t.phase room

def Readables (pending : Option Transaction) : Prop := ∀ t, pending = some t → Readable t

theorem readables_none : Readables none := fun _ impossible => by cases impossible

theorem readables_some {t} (readable : Readable t) : Readables (some t) := by
  intro other same
  rw [← Option.some.inj same]
  exact readable

def Kept (limit surplus : Nat) (dir : Directory) : Prop :=
  (dir = empty ∧ surplus = 0) ∨
    ∃ current prior pending, Books limit surplus current prior pending dir ∧ Readables pending

def contents (dir : Directory) : Directory := { dir with writer := false }

def Holds (property : Nat → Directory → Prop) (machine : Machine Directory) : Prop :=
  property machine.left (contents machine.store)

def Cut (property : Directory → Prop) (dir : Directory) : Prop := property (contents dir)

variable {thrown : Failure → Machine Directory → Prop} {cut : Directory → Prop}

theorem change_holds {property result : Nat → Directory → Prop} {changed : Directory → Directory}
    (free : ∀ dir, contents (changed dir) = changed (contents dir))
    (lost : ∀ dir, property 0 dir → cut dir)
    (made : ∀ left dir, property (left + 1) dir → result left (changed dir)) :
    Triple (Holds property) (change changed) (fun _ => Holds result) thrown (Cut cut) := by
  apply Triple.change
  · intro dir start
    exact lost (contents dir) start
  · intro left dir start
    unfold Holds
    simp only
    rw [free]
    exact made left (contents dir) start

variable {pending : Option Transaction} {current prior : Counter} {limit surplus : Nat}

theorem Books.mk_prior (books : Books limit surplus current prior pending dir) :
    Books limit surplus current current pending { dir with highwater := some current } :=
  ⟨books.count, rfl, books.cell, books.current_valid, books.current_valid, Or.inl rfl,
    books.distinct, books.staged, books.balance, books.bounded⟩

/-- What `readCounter` writes before it returns. -/
def repairs (current prior : Counter) : Nat := if prior.sequence < current.sequence then 1 else 0

theorem read_counter_file {file : Directory → Option Counter} {value : Counter}
    {property : Nat → Directory → Prop} (same : ∀ dir, file (contents dir) = file dir)
    (holds : ∀ left dir, property left dir → file dir = some value ∧ counter value = true) :
    Triple (Holds property) (readJsonCounter file)
      (fun read machine => read = value ∧ Holds property machine) thrown cut := by
  apply Triple.sees
  intro machine start
  obtain ⟨stored, valid⟩ := holds machine.left (contents machine.store) start
  rw [same] at stored
  rw [stored]
  simp only
  rw [if_pos valid]

theorem Books.not_rolled (books : Books limit surplus current prior pending dir) :
    ¬(current.sequence < prior.sequence ∨
      (current.sequence = prior.sequence ∧ current.count ≠ prior.count)) := by
  intro rolled
  rcases books.behind with equal | lt
  · rw [equal] at rolled
    omega
  · omega

theorem read_counter_triple {limit surplus : Nat} {current prior : Counter} {pending}
    {thrown : Failure → Machine Directory → Prop} (extra : Nat → Directory → Prop)
    (free : ∀ left dir, extra left dir → extra left { dir with highwater := some current })
    (readables : 0 < repairs current prior → ∀ dir, extra 0 dir → Readables pending) : Triple
      (Holds fun left dir => Books limit surplus current prior pending dir ∧ extra left dir)
      readCounter (fun read machine => read = current ∧ Holds (fun left dir =>
        Books limit surplus current current pending dir ∧
          extra (left + repairs current prior) dir) machine) thrown (Cut (Kept limit surplus)) := by
  unfold readCounter
  apply Triple.known (read_counter_file (fun _ => rfl)
    (fun left dir start => And.intro start.1.count start.1.current_valid))
  apply Triple.known (read_counter_file (fun _ => rfl)
    (fun left dir start => And.intro start.1.highwater start.1.prior_valid))
  apply Triple.knowing (fun machine start => start.1.not_rolled)
  intro not_rolled
  rw [if_neg not_rolled]
  apply Triple.ite
  · intro ahead
    have one : repairs current prior = 1 := if_pos ahead
    rw [one]
    apply @Triple.bind _ _ _ _ _ _ _ _ _ (fun _ => Holds fun left dir =>
      Books limit surplus current current pending dir ∧ extra (left + 1) dir)
    · apply Triple.change
      · intro dir start
        exact Or.inr ⟨current, prior, pending, start.1,
          readables (by rw [one]; exact Nat.one_pos) _ start.2⟩
      · intro left dir start
        exact And.intro start.1.mk_prior (free _ _ start.2)
    · intro done
      exact Triple.ret fun machine start => And.intro rfl start
  · intro level
    have none_made : repairs current prior = 0 := if_neg level
    rw [none_made]
    apply Triple.ret
    intro machine start
    have same : prior = current := start.1.behind.resolve_right level
    rw [same] at start
    exact And.intro rfl start

theorem transaction_triple {property : Nat → Directory → Prop}
    (holds : ∀ left dir, property left dir → dir.transaction = some (.stored pending) ∧
      ∀ t, pending = some t → legible t = true) : Triple (Holds property) transaction
      (fun read machine => read = pending ∧ Holds property machine) thrown cut := by
  apply Triple.sees
  intro machine start
  obtain ⟨stored, reads⟩ := holds machine.left (contents machine.store) start
  have same : machine.store.transaction = some (.stored pending) := stored
  rw [same]
  cases pending with
  | none => rfl
  | some t =>
    simp only
    rw [if_pos (reads t rfl)]

theorem Books.legible
    (books : Books limit surplus current prior pending dir) (readables : Readables pending) :
    dir.transaction = some (.stored pending) ∧ ∀ t, pending = some t → legible t = true := by
  apply And.intro books.cell
  intro t same
  exact (readables t same).legible (books.staged t same).room

theorem initialize_kept {limit surplus torn : Nat} {current prior : Counter} {pending}
    {thrown : Failure → Machine Directory → Prop} (extra : Nat → Directory → Prop)
    (free : ∀ left dir, extra left dir → extra left { dir with highwater := some current })
    (readables : Readables pending) : Triple
      (Holds fun left dir => Books limit surplus current prior pending dir ∧ extra left dir)
      (initializeNamespace torn)
      (fun _ => Holds fun left dir => Books limit surplus current current pending dir ∧
        extra (left + repairs current prior) dir) thrown (Cut (Kept limit surplus)) := by
  unfold initializeNamespace
  apply @Triple.attempt _ _ _ _ _ _ _ _ _ (fun _ _ => False)
  · apply Triple.known (read_counter_triple extra free (fun _ _ _ => readables))
    apply Triple.known (transaction_triple
      (fun left dir start => start.1.legible readables))
    exact Triple.ret fun machine start => start
  · intro failure
    exact Triple.never

/-- The first use of a namespace gets past its four writes, or is cut before the first. -/
def opens (left torn : Nat) : Prop := left = 0 ∨ (left = 3 ∧ 4 ≤ torn) ∨ 4 ≤ left

def zeroCounter : Counter := ⟨1, 0, 0⟩

theorem zero_books (limit : Nat) (writer : Bool) : Books limit 0 zeroCounter zeroCounter none
      ⟨writer, some zeroCounter, some zeroCounter, some (.stored none), []⟩ :=
  ⟨rfl, rfl, rfl, by decide, by decide, Or.inl rfl, List.Pairwise.nil,
    (fun _ impossible => by cases impossible), rfl, Nat.zero_le limit⟩

theorem zero_kept (limit : Nat) (writer : Bool) :
    Kept limit 0 ⟨writer, some zeroCounter, some zeroCounter, some (.stored none), []⟩ :=
  Or.inr ⟨zeroCounter, zeroCounter, none, zero_books limit writer, readables_none⟩

theorem contents_empty (blank : contents dir = empty) :
    dir = ⟨dir.writer, none, none, none, []⟩ := by
  cases dir
  cases blank
  rfl

theorem initialize_blank {limit torn : Nat} {thrown : Failure → Machine Directory → Prop} :
    Triple (Holds fun left dir => dir = empty ∧ opens left torn) (initializeNamespace torn)
      (fun _ => Holds fun _ => Books limit 0 zeroCounter zeroCounter none)
      thrown (Cut (Kept limit 0)) := by
  unfold initializeNamespace
  apply @Triple.attempt _ _ _ _ _ _ _ _ _ (fun failure machine => failure = .absent ∧
    Holds (fun left dir => dir = empty ∧ opens left torn) machine)
  · apply @Triple.bind _ _ _ _ _ _ _ _ _ (fun _ _ => False)
    · apply @Triple.bind _ _ _ _ _ _ _ _ _ (fun _ _ => False)
      · apply Triple.misses
        intro machine start
        apply And.intro _ (And.intro rfl start)
        rw [contents_empty start.1]
      · intro value
        exact Triple.never
    · intro value
      exact Triple.never
  · intro failure
    cases failure with
    | refused =>
      constructor
      intro machine impossible
      cases impossible.1
    | absent =>
      apply @Triple.bind _ _ _ _ _ _ _ _ _ (fun _ =>
        Holds fun left dir => dir = empty ∧ opens left torn)
      · apply Triple.look
        · intro machine value start seen
          exact start.2
        · intro machine failure start missed
          rw [contents_empty start.2.1] at missed
          cases missed
      · intro looked
        apply @Triple.bind _ _ _ _ _ _ _ _ _ (fun _ => Holds fun left dir =>
          dir = { empty with count := some zeroCounter, highwater := some zeroCounter } ∧
            ((left = 1 ∧ 4 ≤ torn) ∨ 2 ≤ left))
        · unfold writeCounter
          rw [if_neg (by decide)]
          apply @Triple.bind _ _ _ _ _ _ _ _ _ (fun _ => Holds fun left dir =>
            dir = { empty with count := some zeroCounter } ∧ ((left = 2 ∧ 4 ≤ torn) ∨ 3 ≤ left))
          · apply change_holds
            · exact fun _ => rfl
            · intro dir start
              exact Or.inl (And.intro start.1 rfl)
            · intro left dir start
              obtain ⟨same, early⟩ := start
              unfold opens at early
              rw [same]
              exact And.intro rfl (by omega)
          · intro counted
            apply change_holds
            · exact fun _ => rfl
            · intro dir start
              omega
            · intro left dir start
              obtain ⟨same, early⟩ := start
              rw [same]
              exact And.intro rfl (by omega)
        · intro written
          unfold createTransaction
          apply @Triple.bind _ _ _ _ _ _ _ _ _ (fun _ => Holds fun left dir =>
            dir = { empty with count := some zeroCounter, highwater := some zeroCounter } ∧
              ((left = 1 ∧ 4 ≤ torn) ∨ 2 ≤ left))
          · apply Triple.look
            · intro machine value start seen
              exact start
            · intro machine failure start missed
              have fresh : machine.store.transaction = none :=
                congrArg Directory.transaction start.1
              rw [fresh] at missed
              cases missed
          · intro fresh
            apply @Triple.bind _ _ _ _ _ _ _ _ _ (fun _ => Holds fun left dir =>
              dir = { empty with
                count := some zeroCounter
                highwater := some zeroCounter
                transaction := some .torn } ∧ ((left = 0 ∧ 4 ≤ torn) ∨ 1 ≤ left))
            · apply change_holds
              · exact fun _ => rfl
              · intro dir start
                omega
              · intro left dir start
                obtain ⟨same, early⟩ := start
                rw [same]
                exact And.intro rfl (by omega)
            · intro created
              apply Triple.tear
              · intro dir start
                obtain ⟨same, early⟩ := start
                have long : ¬torn < 4 := by
                  simp only at early
                  omega
                rw [if_neg long]
                change Kept limit 0 { contents dir with transaction := some (.stored none) }
                rw [same]
                exact zero_kept limit false
              · intro left dir start
                obtain ⟨same, early⟩ := start
                change Books limit 0 zeroCounter zeroCounter none
                  { contents dir with transaction := some (.stored none) }
                rw [same]
                exact zero_books limit false

theorem writer_triple {Value : Type} {torn : Nat} {run} {start ready : Nat → Directory → Prop}
    {after : Value → Directory → Prop} {thrown cut : Directory → Prop}
    (opening : Triple (Holds fun left => start (left + 1)) (initializeNamespace torn)
      (fun _ => Holds ready) (fun _ => Holds fun _ => thrown) (Cut cut))
    (inner : Triple (Holds ready) run (fun value => Holds fun _ => after value)
      (fun _ => Holds fun _ => thrown) (Cut cut)) (lost : ∀ dir, start 0 dir → cut dir)
    (closed : ∀ value dir, after value dir → cut dir) (raised : ∀ dir, thrown dir → cut dir) :
    Triple (fun machine => machine.store.writer = false ∧ Holds start machine)
      (withRetentionNamespaceWriter torn run)
      (fun value machine => machine.store.writer = false ∧ after value (contents machine.store))
      (fun _ machine => machine.store.writer = false ∧ thrown (contents machine.store))
      (Cut cut) := by
  unfold withRetentionNamespaceWriter
  apply @Triple.bind _ _ _ _ _ _ _ _ _ (fun _ => Holds start)
  · apply Triple.look
    · intro machine value begins seen
      exact begins.2
    · intro machine failure begins missed
      rw [begins.1] at missed
      cases missed
  · intro looked
    apply @Triple.bind _ _ _ _ _ _ _ _ _ (fun _ => Holds fun left => start (left + 1))
    · apply Triple.change
      · intro dir begins
        exact lost (contents dir) begins
      · intro left dir begins
        exact begins
    · intro made
      apply Triple.ensure (Triple.bind opening fun _ => inner)
      · intro value
        apply Triple.change
        · intro dir holds
          exact closed value (contents dir) holds
        · intro left dir holds
          exact And.intro rfl holds
      · intro failure
        apply Triple.change
        · intro dir holds
          exact raised (contents dir) holds
        · intro left dir holds
          exact And.intro rfl holds

end OpenMapX.Artifacts.RetentionBooks
