import OpenMapX.Artifacts.RetentionBooks

/-!
# Writing a retained record

A replacement leaves the books as they are. A creation first raises the count, so that where it
stops the count stands above the records by one more.
-/

namespace OpenMapX.Artifacts.RetentionWrites

open Foundation.CrashPrograms Foundation.CrashPrograms.Program ControlRetention RetentionBooks

/-- The namespace is kept, with a surplus that has not grown where the call was clean. -/
def Grown (limit surplus : Nat) (clean : Prop) (dir : Directory) : Prop :=
  ∃ later, surplus ≤ later ∧ (clean → later = surplus) ∧ Kept limit later dir

variable {limit surplus : Nat} {dir : Directory} {clean : Prop}

theorem Grown.same (kept : Kept limit surplus dir) : Grown limit surplus clean dir :=
  ⟨surplus, Nat.le_refl surplus, fun _ => rfl, kept⟩

theorem Grown.more
    (kept : Kept limit (surplus + 1) dir) (unclean : ¬clean) : Grown limit surplus clean dir :=
  ⟨surplus + 1, Nat.le_succ surplus, fun holds => absurd holds unclean, kept⟩

theorem Grown.unclean (grown : Grown limit surplus clean dir) : Grown limit surplus False dir := by
  obtain ⟨later, larger, same, kept⟩ := grown
  exact ⟨later, larger, fun impossible => impossible.elim, kept⟩

theorem Books.kept {current prior : Counter} {pending}
    (books : Books limit surplus current prior pending dir)
    (readables : Readables pending) : Kept limit surplus dir :=
  Or.inr ⟨current, prior, pending, books, readables⟩

theorem owing_put_present {record old : Record} (current : Counter)
    (pending) (present : findRecord dir record.name = some old) :
    owing (putRecord record dir) current pending = owing dir current pending := by
  cases pending with
  | none => rfl
  | some t =>
    unfold owing
    simp only
    split
    · by_cases named : record.name = t.name
      · rw [← named, find_put, present]
        simp
      · rw [find_put_other named]
    · rfl
    · rfl
    · rfl

theorem put_present_books {limit surplus : Nat} {current prior : Counter} {pending}
    {record old : Record} {dir} (books : Books limit surplus current prior pending dir)
    (present : findRecord dir record.name = some old) :
    Books limit surplus current prior pending (putRecord record dir) := by
  refine { books with distinct := ?_, balance := ?_ }
  · exact put_distinct books.distinct
  · rw [owing_put_present current pending present, put_length_present books.distinct present]
    exact books.balance

theorem put_absent_books {limit surplus : Nat} {current prior : Counter} {record : Record}
    {dir} (books : Books limit (surplus + 1) current prior none dir)
    (absent : findRecord dir record.name = none) :
    Books limit surplus current prior none (putRecord record dir) := by
  refine { books with distinct := ?_, balance := ?_ }
  · exact put_distinct books.distinct
  · rw [put_length_absent absent]
    have balance := books.balance
    simp only [owing] at balance ⊢
    omega

theorem reserve_books {current : Counter} (books : Books limit surplus current current none dir)
    (valid : counter ⟨1, current.sequence + 1, current.count + 1⟩ = true)
    (room : current.count < limit) :
    Books limit (surplus + 1) ⟨1, current.sequence + 1, current.count + 1⟩ current none
      { dir with count := some ⟨1, current.sequence + 1, current.count + 1⟩ } := by
  apply Books.mk
  · rfl
  · exact books.highwater
  · exact books.cell
  · exact valid
  · exact books.current_valid
  · exact Or.inr (Nat.lt_succ_self current.sequence)
  · exact books.distinct
  · intro t impossible
    cases impossible
  · have balance := books.balance
    simp only [owing] at balance ⊢
    omega
  · exact room

theorem publishes_triple {answer} {property : Machine Directory → Prop}
    {thrown : Failure → Machine Directory → Prop} {cut : Directory → Prop}
    (raised : ∀ failure machine, answer = some failure → property machine →
      thrown failure machine) :
    Triple property (publishes answer) (fun _ machine => answer = none ∧ property machine)
      thrown cut := by
  cases answer with
  | none => exact Triple.ret fun machine start => And.intro rfl start
  | some failure => exact Triple.fail fun machine start => raised failure machine rfl start

theorem reserve_triple {current : Counter} {extra : Directory → Prop} (room : current.count < limit)
    (free : ∀ dir count highwater, extra dir →
      extra { dir with count := count, highwater := highwater }) :
    Triple (Holds fun _ dir => Books limit surplus current current none dir ∧ extra dir)
      (writeCounter ⟨1, current.sequence + 1, current.count + 1⟩)
      (fun _ => Holds fun _ dir => (∃ next, Books limit (surplus + 1) next next none dir) ∧
        extra dir) (fun _ => Holds fun _ => Grown limit surplus clean)
      (Cut (Grown limit surplus False)) := by
  unfold writeCounter
  apply Triple.ite
  · intro invalid
    exact Triple.fail fun machine start => Grown.same (Books.kept start.1 readables_none)
  · intro accepted
    have valid : counter ⟨1, current.sequence + 1, current.count + 1⟩ = true := by
      simpa using accepted
    apply @Triple.bind _ _ _ _ _ _ _ _ _ (fun _ => Holds fun _ dir =>
      Books limit (surplus + 1) ⟨1, current.sequence + 1, current.count + 1⟩ current none dir ∧
        extra dir)
    · apply change_holds
      · exact fun _ => rfl
      · intro dir start
        exact Grown.same (Books.kept start.1 readables_none)
      · intro left dir start
        exact And.intro (reserve_books start.1 valid room) (free dir _ dir.highwater start.2)
    · intro counted
      apply change_holds
      · exact fun _ => rfl
      · intro dir start
        exact Grown.more (Books.kept start.1 readables_none) id
      · intro left dir start
        exact And.intro ⟨_, start.1.mk_prior⟩ (free dir dir.count _ start.2)

theorem create_triple {next : Counter} {record : Record} {exclusive : Bool} {beforePublish}
    {torn : Nat} (hooks : clean → beforePublish = none) : Triple
      (Holds fun _ dir => Books limit (surplus + 1) next next none dir ∧
        (clean → findRecord dir record.name = none)) (write record exclusive beforePublish torn)
      (fun _ => Holds fun _ => Grown limit surplus clean)
      (fun _ => Holds fun _ => Grown limit surplus clean) (Cut (Grown limit surplus False)) := by
  unfold write
  cases exclusive with
  | true =>
    simp only [if_true]
    apply @Triple.bind _ _ _ _ _ _ _ _ _ (fun _ => Holds fun _ dir =>
      Books limit (surplus + 1) next next none dir ∧ findRecord dir record.name = none)
    · apply Triple.look
      · intro machine value start seen
        apply And.intro start.1
        change findRecord machine.store record.name = none
        split at seen
        · cases seen
        · rename_i none_there
          simpa using none_there
      · intro machine failure start missed
        split at missed
        · rename_i there
          apply Grown.more (Books.kept start.1 readables_none)
          intro holds
          have absent : findRecord machine.store record.name = none := start.2 holds
          rw [absent] at there
          cases there
        · cases missed
    · intro looked
      apply @Triple.bind _ _ _ _ _ _ _ _ _ (fun _ => Holds fun _ dir =>
        Books limit surplus next next none dir ∧
          findRecord dir record.name = some { record with bytes := [] })
      · apply change_holds
        · exact fun _ => rfl
        · intro dir start
          exact Grown.more (Books.kept start.1 readables_none) id
        · intro left dir start
          exact And.intro (@put_absent_books _ _ _ _ { record with bytes := [] } _ start.1 start.2)
            (find_put { record with bytes := [] } dir)
      · intro created
        apply @Triple.bind _ _ _ _ _ _ _ _ _ (fun _ => Holds fun _ =>
          Books limit surplus next next none)
        · apply Triple.tear
          · intro dir start
            apply Grown.same
            apply Books.kept _ readables_none
            · exact next
            · exact next
            · exact @put_present_books _ _ _ _ _
                { record with bytes := record.bytes.take torn } _ _ start.1 start.2
          · intro left dir start
            exact @put_present_books _ _ _ _ _ record _ _ start.1 start.2
        · intro filled
          cases beforePublish with
          | none =>
            exact Triple.ret fun machine start => Grown.same (Books.kept start readables_none)
          | some failure =>
            exact Triple.fail fun machine start => Grown.same (Books.kept start readables_none)
  | false =>
    simp only [Bool.false_eq_true, if_false]
    apply Triple.bind (publishes_triple _)
    · intro published
      apply Triple.change
      · intro dir start
        exact Grown.more (Books.kept start.2.1 readables_none) id
      · intro left dir start
        obtain ⟨answered, books, absent⟩ := start
        change Grown limit surplus clean (putRecord record (contents dir))
        cases present : findRecord (contents dir) record.name with
        | none => exact Grown.same (Books.kept (put_absent_books books present) readables_none)
        | some old =>
          apply Grown.more (Books.kept (put_present_books books present) readables_none)
          intro holds
          rw [absent holds] at present
          cases present
    · intro failure machine raised start
      apply Grown.more (Books.kept start.1 readables_none)
      intro holds
      rw [hooks holds] at raised
      cases raised

def creation (call : Writing) (torn : Nat) : Io Unit := do
  let pending ← transaction
  if pending.isSome then fail .refused else
    let prior ← readCounter
    if call.maximum ≤ prior.count then fail .refused else
      writeCounter ⟨1, prior.sequence + 1, prior.count + 1⟩
      write call.record call.exclusive call.beforeCreate torn

theorem creation_triple {limit surplus : Nat} {current : Counter} {pending} {call : Writing}
    {torn : Nat} {clean : Prop} (hooks : clean → call.beforeCreate = none)
    (room : call.maximum ≤ limit) (readables : Readables pending) : Triple
      (Holds fun _ dir => Books limit surplus current current pending dir ∧
        (clean → findRecord dir call.record.name = none)) (creation call torn)
      (fun _ => Holds fun _ => Grown limit surplus clean)
      (fun _ => Holds fun _ => Grown limit surplus clean) (Cut (Grown limit surplus False)) := by
  apply Triple.known (transaction_triple
    (fun left dir start => start.1.legible readables))
  apply Triple.ite
  · intro waiting
    exact Triple.fail fun machine start => Grown.same (Books.kept start.1 readables)
  · intro nothing
    have none_pending : pending = none := by
      cases pending with
      | none => rfl
      | some t => exact absurd rfl nothing
    subst none_pending
    have read := @read_counter_triple limit surplus current current none
      (fun _ => Holds fun _ => Grown limit surplus clean)
      (fun _ dir => clean → findRecord dir call.record.name = none) (fun _ _ holds => holds)
      (fun _ _ _ => readables)
    apply Triple.known (Triple.weaken read (fun machine start => start)
      (fun value machine holds => holds) (fun failure machine holds => holds)
      (fun store holds => Grown.same holds))
    apply Triple.ite
    · intro full
      exact Triple.fail fun machine start => Grown.same (Books.kept start.1 readables_none)
    · intro space
      have below : current.count < limit := by omega
      apply Triple.bind (reserve_triple below (fun _ _ _ holds => holds))
      intro reserved
      apply Triple.since (Triple.given fun next => create_triple hooks)
      intro machine start
      obtain ⟨⟨next, books⟩, absent⟩ := start
      exact ⟨next, books, absent⟩

/-- A namespace that has not been used is opened without a cut between its four writes. -/
def Opening (torn left : Nat) (dir : Directory) : Prop :=
  dir = empty → left ≤ 1 ∨ (left = 4 ∧ 4 ≤ torn) ∨ 5 ≤ left

theorem zero_no_records {limit : Nat} (books : Books limit 0 zeroCounter zeroCounter none dir)
    (name : String) : findRecord dir name = none := by
  have balance := books.balance
  simp only [owing, zeroCounter] at balance
  have no_records : dir.records = [] := List.length_eq_zero_iff.mp (by omega)
  unfold findRecord
  rw [no_records]
  rfl

theorem create_kept_triple {limit surplus : Nat} {current prior : Counter} {pending}
    {call : Writing} {torn : Nat} {clean : Prop} (hooks : clean → call.beforeCreate = none)
    (room : call.maximum ≤ limit) (readables : Readables pending) : Triple
      (fun machine => machine.store.writer = false ∧ Holds (fun _ dir =>
        Books limit surplus current prior pending dir ∧
          (clean → findRecord dir call.record.name = none)) machine)
      (withRetentionNamespaceWriter torn (creation call torn))
      (fun _ machine => machine.store.writer = false ∧
        Grown limit surplus clean (contents machine.store))
      (fun _ machine => machine.store.writer = false ∧
        Grown limit surplus clean (contents machine.store)) (Cut (Grown limit surplus False)) := by
  apply writer_triple
  · apply Triple.weaken (initialize_kept
      (fun _ dir => clean → findRecord dir call.record.name = none)
      (fun _ _ holds => holds) readables)
    · exact fun machine start => start
    · exact fun value machine holds => holds
    · exact fun failure machine holds => holds
    · exact fun store holds => Grown.same holds
  · exact creation_triple hooks room readables
  · exact fun dir start => Grown.same (Books.kept start.1 readables)
  · exact fun _ dir holds => holds.unclean
  · exact fun dir holds => holds.unclean

theorem create_blank_triple {limit : Nat} {call : Writing} {torn : Nat} {clean : Prop}
    (hooks : clean → call.beforeCreate = none) (room : call.maximum ≤ limit) : Triple
      (fun machine => machine.store.writer = false ∧ Holds (fun left dir =>
        dir = empty ∧ (left ≤ 1 ∨ (left = 4 ∧ 4 ≤ torn) ∨ 5 ≤ left)) machine)
      (withRetentionNamespaceWriter torn (creation call torn))
      (fun _ machine => machine.store.writer = false ∧ Grown limit 0 clean (contents machine.store))
      (fun _ machine => machine.store.writer = false ∧ Grown limit 0 clean (contents machine.store))
      (Cut (Grown limit 0 False)) := by
  apply writer_triple
  · apply Triple.weaken (@initialize_blank limit torn _)
    · intro machine start
      obtain ⟨blank, early⟩ := start
      refine And.intro blank ?_
      unfold opens
      omega
    · exact fun value machine holds => holds
    · exact fun failure machine holds => holds
    · exact fun store holds => Grown.same holds
  · apply Triple.since (creation_triple hooks room readables_none)
    intro machine start
    exact And.intro start (fun _ => zero_no_records start call.record.name)
  · exact fun dir start => Grown.same (Or.inl (And.intro start.1 rfl))
  · exact fun _ dir holds => holds.unclean
  · exact fun dir holds => holds.unclean

theorem kept_put_present {record old : Record}
    (kept : Kept limit surplus dir) (present : findRecord dir record.name = some old) :
    Kept limit surplus (putRecord record dir) := by
  rcases kept with blank | books
  · rw [blank.1] at present
    cases present
  · obtain ⟨current, prior, pending, books, readables⟩ := books
    exact Books.kept (put_present_books books present) readables

theorem replace_triple {record : Record} {exclusive : Bool} {beforePublish} {torn : Nat}
    {extra : Nat → Directory → Prop} : Triple
      (fun machine => machine.store.writer = false ∧ Holds (fun left dir =>
        (Kept limit surplus dir ∧ extra left dir) ∧
          ∃ old, findRecord dir record.name = some old) machine)
      (write record exclusive beforePublish torn)
      (fun _ machine => machine.store.writer = false ∧ Kept limit surplus (contents machine.store))
      (fun failure machine => (failure = .absent → beforePublish ≠ none) ∧
        machine.store.writer = false ∧
        Holds (fun left dir => Kept limit surplus dir ∧ extra left dir) machine)
      (Cut (Kept limit surplus)) := by
  unfold write
  cases exclusive with
  | true =>
    simp only [if_true]
    apply @Triple.bind _ _ _ _ _ _ _ _ _ (fun _ _ => False)
    · apply Triple.misses
      intro machine start
      obtain ⟨unguarded, kept, old, present⟩ := start
      apply And.intro
      · have there : findRecord machine.store record.name = some old := present
        rw [there]
        rfl
      · exact ⟨(fun impossible => by cases impossible), unguarded, kept⟩
    · intro value
      exact Triple.never
  | false =>
    simp only [Bool.false_eq_true, if_false]
    apply Triple.bind (publishes_triple _)
    · intro published
      apply Triple.change
      · intro dir start
        exact start.2.2.1.1
      · intro left dir start
        obtain ⟨answered, unguarded, kept, old, present⟩ := start
        exact And.intro unguarded (kept_put_present kept.1 present)
    · intro failure machine raised start
      refine ⟨?_, start.1, start.2.1⟩
      intro absent none_raised
      rw [none_raised] at raised
      cases raised

theorem write_triple {limit surplus : Nat} {call : Writing} {torn : Nat}
    (room : call.maximum ≤ limit) : Triple (fun machine => machine.store.writer = false ∧
        Holds (fun left dir => Kept limit surplus dir ∧ Opening torn left dir) machine)
      (writeRetainedRecord call torn)
      (fun _ machine => machine.store.writer = false ∧ Grown limit surplus
        (call.beforeReplace = none ∧ call.beforeCreate = none) (contents machine.store))
      (fun _ machine => machine.store.writer = false ∧ Grown limit surplus
        (call.beforeReplace = none ∧ call.beforeCreate = none) (contents machine.store))
      (Cut (Grown limit surplus False)) := by
  unfold writeRetainedRecord
  apply @Triple.attempt _ _ _ _ _ _ _ _ _ (fun failure machine =>
    machine.store.writer = false ∧
      Holds (fun left dir => Kept limit surplus dir ∧ Opening torn left dir) machine ∧
      (failure = .absent → call.beforeReplace = none ∧ call.beforeCreate = none →
        findRecord (contents machine.store) call.record.name = none))
  · apply @Triple.bind _ _ _ _ _ _ _ _ _ (fun _ machine => machine.store.writer = false ∧
      Holds (fun left dir => (Kept limit surplus dir ∧ Opening torn left dir) ∧
        ∃ old, findRecord dir call.record.name = some old) machine)
    · apply Triple.look
      · intro machine bytes start seen
        refine And.intro start.1 (And.intro start.2 ?_)
        change ∃ old, findRecord machine.store call.record.name = some old
        split at seen
        · cases seen
        · rename_i old present
          exact ⟨old, present⟩
      · intro machine failure start missed
        refine ⟨start.1, start.2, ?_⟩
        intro absent clean
        change findRecord machine.store call.record.name = none
        split at missed
        · assumption
        · split at missed
          · rw [absent] at missed
            cases missed
          · cases missed
    · intro bytes
      apply Triple.weaken replace_triple (fun machine start => start)
      · intro value machine holds
        exact And.intro holds.1 (Grown.same holds.2)
      · intro failure machine holds
        refine ⟨holds.2.1, holds.2.2, ?_⟩
        intro absent clean
        exact absurd clean.1 (holds.1 absent)
      · exact fun store holds => Grown.same holds
  · intro failure
    cases failure with
    | refused =>
      exact Triple.fail fun machine start => And.intro start.1 (Grown.same start.2.1.1)
    | absent =>
      constructor
      intro machine start
      obtain ⟨unguarded, holds, missing⟩ := start
      obtain ⟨kept, opening⟩ := holds
      rcases kept with blank | books
      · obtain ⟨blank, none_yet⟩ := blank
        subst none_yet
        exact (create_blank_triple (fun clean => clean.2) room).ends machine
          (And.intro unguarded (And.intro blank (opening blank)))
      · obtain ⟨current, prior, pending, books, readables⟩ := books
        exact (create_kept_triple (fun clean => clean.2) room readables).ends machine
          (And.intro unguarded (And.intro books (missing rfl)))

end OpenMapX.Artifacts.RetentionWrites
