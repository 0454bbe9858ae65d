import Mathlib.Order.Basic

/-!
# Programs that a crash can cut

A program reads and changes a store one operation at a time, can throw, and can be cut by a
crash: the machine still has a number of operations left, and the operation after the last of
them is not made. A triple says what holds where the program returns, where it throws and
where it is cut.
-/

namespace OpenMapX.Foundation.CrashPrograms

structure Machine (Store : Type) where
  left : Nat
  store : Store

inductive Outcome (Failure Value : Type) where
  | returned (value : Value)
  | threw (failure : Failure)
  | crashed
  deriving DecidableEq

def Program (Store Failure Value : Type) := Machine Store → Outcome Failure Value × Machine Store

namespace Program

variable {Store Failure Value Other : Type}

def ret (value : Value) : Program Store Failure Value := fun machine => (.returned value, machine)

def andThen (first : Program Store Failure Value)
    (next : Value → Program Store Failure Other) : Program Store Failure Other := fun machine =>
  match first machine with
  | (.returned value, after) => next value after
  | (.threw failure, after) => (.threw failure, after)
  | (.crashed, after) => (.crashed, after)

instance : Monad (Program Store Failure) where
  pure := ret
  bind := andThen

def fail (failure : Failure) : Program Store Failure Value :=
  fun machine => (.threw failure, machine)

def look (view : Store → Except Failure Value) : Program Store Failure Value := fun machine =>
  match view machine.store with
  | .ok value => (.returned value, machine)
  | .error failure => (.threw failure, machine)

/-- One operation; `torn` is what a crash within it leaves. -/
def tear (torn change : Store → Store) : Program Store Failure Unit := fun machine =>
  match machine.left with
  | 0 => (.crashed, ⟨0, torn machine.store⟩)
  | left + 1 => (.returned (), ⟨left, change machine.store⟩)

def change (change : Store → Store) : Program Store Failure Unit := tear id change

/-- `try { body } catch (failure) { … }`: a crash is not caught. -/
def attempt (body : Program Store Failure Value)
    (handler : Failure → Program Store Failure Value) : Program Store Failure Value :=
  fun machine =>
    match body machine with
    | (.threw failure, after) => handler failure after
    | (.returned value, after) => (.returned value, after)
    | (.crashed, after) => (.crashed, after)

/-- `try { body } finally { closing }`. -/
def ensure (body : Program Store Failure Value) (closing : Program Store Failure Unit) :
    Program Store Failure Value := fun machine =>
  match body machine with
  | (.returned value, after) => andThen closing (fun _ => ret value) after
  | (.threw failure, after) => andThen closing (fun _ => fail failure) after
  | (.crashed, after) => (.crashed, after)

end Program

open Program

variable {Store Failure Value Other : Type}

def Ends (after : Value → Machine Store → Prop) (thrown : Failure → Machine Store → Prop)
    (cut : Store → Prop) : Outcome Failure Value × Machine Store → Prop
  | (.returned value, next) => after value next
  | (.threw failure, next) => thrown failure next
  | (.crashed, next) => cut next.store

structure Triple (before : Machine Store → Prop) (program : Program Store Failure Value)
    (after : Value → Machine Store → Prop) (thrown : Failure → Machine Store → Prop)
    (cut : Store → Prop) : Prop where
  ends : ∀ machine, before machine → Ends after thrown cut (program machine)

variable {before : Machine Store → Prop} {thrown : Failure → Machine Store → Prop}
  {cut : Store → Prop}

theorem Triple.ret {value : Value} {after : Value → Machine Store → Prop}
    (holds : ∀ machine, before machine → after value machine) :
    Triple before (pure value) after thrown cut := ⟨fun machine start => holds machine start⟩

theorem Triple.fail {failure : Failure} {after : Value → Machine Store → Prop}
    (holds : ∀ machine, before machine → thrown failure machine) :
    Triple before (Program.fail failure) after thrown cut :=
  ⟨fun machine start => holds machine start⟩

theorem Triple.bind {first}
    {next : Value → Program Store Failure Other} {between : Value → Machine Store → Prop}
    {after : Other → Machine Store → Prop} (head : Triple before first between thrown cut)
    (tail : ∀ value, Triple (between value) (next value) after thrown cut) :
    Triple before (first >>= next) after thrown cut := by
  constructor
  intro machine start
  have middle := head.ends machine start
  change Ends after thrown cut (andThen first next machine)
  unfold andThen
  cases result : first machine with
  | mk outcome reached =>
    rw [result] at middle
    cases outcome with
    | returned value => exact (tail value).ends reached middle
    | threw failure => exact middle
    | crashed => exact middle

section

variable {view : Store → Except Failure Value}

theorem Triple.look {after : Value → Machine Store → Prop}
    (seen : ∀ machine value, before machine → view machine.store = .ok value → after value machine)
    (missed : ∀ machine failure, before machine → view machine.store = .error failure →
      thrown failure machine) : Triple before (Program.look view) after thrown cut := by
  constructor
  intro machine start
  unfold Program.look
  cases result : view machine.store with
  | ok value => exact seen machine value start result
  | error failure => exact missed machine failure start result

theorem Triple.sees {value : Value}
    (seen : ∀ machine, before machine → view machine.store = .ok value) :
    Triple before (Program.look view) (fun read machine => read = value ∧ before machine)
      thrown cut := by
  apply Triple.look
  · intro machine read start found
    rw [seen machine start] at found
    cases found
    exact And.intro rfl start
  · intro machine failure start missed
    rw [seen machine start] at missed
    cases missed

theorem Triple.misses {failure : Failure} {after : Value → Machine Store → Prop}
    (missed : ∀ machine, before machine →
      view machine.store = .error failure ∧ thrown failure machine) :
    Triple before (Program.look view) after thrown cut := by
  apply Triple.look
  · intro machine read start found
    rw [(missed machine start).1] at found
    cases found
  · intro machine other start found
    rw [(missed machine start).1] at found
    cases found
    exact (missed machine start).2

end

theorem Triple.tear {torn changed : Store → Store} {after : Unit → Machine Store → Prop}
    (lost : ∀ store, before ⟨0, store⟩ → cut (torn store))
    (made : ∀ left store, before ⟨left + 1, store⟩ → after () ⟨left, changed store⟩) :
    Triple before (@Program.tear Store Failure torn changed) after thrown cut := by
  constructor
  intro machine start
  obtain ⟨left, store⟩ := machine
  cases left with
  | zero => exact lost store start
  | succ left => exact made left store start

theorem Triple.change {changed : Store → Store} {after : Unit → Machine Store → Prop}
    (lost : ∀ store, before ⟨0, store⟩ → cut store)
    (made : ∀ left store, before ⟨left + 1, store⟩ → after () ⟨left, changed store⟩) :
    Triple before (@Program.change Store Failure changed) after thrown cut :=
  Triple.tear lost made

theorem Triple.attempt {body}
    {handler : Failure → Program Store Failure Value} {after : Value → Machine Store → Prop}
    {caught : Failure → Machine Store → Prop} (first : Triple before body after caught cut)
    (second : ∀ failure, Triple (caught failure) (handler failure) after thrown cut) :
    Triple before (Program.attempt body handler) after thrown cut := by
  constructor
  intro machine start
  have middle := first.ends machine start
  unfold Program.attempt
  cases result : body machine with
  | mk outcome reached =>
    rw [result] at middle
    cases outcome with
    | returned value => exact middle
    | threw failure => exact (second failure).ends reached middle
    | crashed => exact middle

theorem Triple.ensure {body closing} {after : Value → Machine Store → Prop}
    {between : Value → Machine Store → Prop} {raised : Failure → Machine Store → Prop}
    (first : Triple before body between raised cut)
    (closed : ∀ value, Triple (between value) closing (fun _ => after value) thrown cut)
    (reraised : ∀ failure, Triple (raised failure) closing (fun _ => thrown failure) thrown cut) :
    Triple before (Program.ensure body closing) after thrown cut := by
  constructor
  intro machine start
  have middle := first.ends machine start
  unfold Program.ensure
  cases result : body machine with
  | mk outcome reached =>
    rw [result] at middle
    cases outcome with
    | returned value =>
      have closes := Triple.bind (closed value)
        (fun _ => @Triple.ret _ Failure _ _ thrown cut value after fun _ holds => holds)
      exact closes.ends reached middle
    | threw failure =>
      have closes := Triple.bind (reraised failure)
        (fun _ => @Triple.fail _ _ _ _ thrown cut failure after fun _ holds => holds)
      exact closes.ends reached middle
    | crashed => exact middle

theorem Triple.ite {condition : Prop} [Decidable condition] {yes no}
    {after : Value → Machine Store → Prop}
    (positive : condition → Triple before yes after thrown cut)
    (negative : ¬condition → Triple before no after thrown cut) :
    Triple before (if condition then yes else no) after thrown cut := by
  by_cases holds : condition
  · rw [if_pos holds]
    exact positive holds
  · rw [if_neg holds]
    exact negative holds

section

variable {program : Program Store Failure Value}

theorem Triple.weaken {strong : Machine Store → Prop}
    {after result : Value → Machine Store → Prop} {raised : Failure → Machine Store → Prop}
    {stopped : Store → Prop} (triple : Triple strong program result raised stopped)
    (starts : ∀ machine, before machine → strong machine)
    (returns : ∀ value machine, result value machine → after value machine)
    (throws : ∀ failure machine, raised failure machine → thrown failure machine)
    (cuts : ∀ store, stopped store → cut store) : Triple before program after thrown cut := by
  constructor
  intro machine start
  have holds := triple.ends machine (starts machine start)
  cases result : program machine with
  | mk outcome reached =>
    rw [result] at holds
    cases outcome with
    | returned value => exact returns value reached holds
    | threw failure => exact throws failure reached holds
    | crashed => exact cuts reached.store holds

theorem Triple.since {strong : Machine Store → Prop}
    {after : Value → Machine Store → Prop} (triple : Triple strong program after thrown cut)
    (starts : ∀ machine, before machine → strong machine) :
    Triple before program after thrown cut :=
  ⟨fun machine start => triple.ends machine (starts machine start)⟩

theorem Triple.knowing {after : Value → Machine Store → Prop} {fact : Prop}
    (known : ∀ machine, before machine → fact)
    (triple : fact → Triple before program after thrown cut) :
    Triple before program after thrown cut :=
  ⟨fun machine start => (triple (known machine start)).ends machine start⟩

end

theorem Triple.known {first} {next : Value → Program Store Failure Other} {value : Value}
    {between : Machine Store → Prop} {after : Other → Machine Store → Prop}
    (head : Triple before first (fun read machine => read = value ∧ between machine) thrown cut)
    (tail : Triple between (next value) after thrown cut) :
    Triple before (first >>= next) after thrown cut := by
  apply Triple.bind head
  intro read
  constructor
  intro machine start
  rw [start.1]
  exact tail.ends machine start.2

theorem Triple.never {program} {after : Value → Machine Store → Prop} :
    Triple (fun _ => False) program after thrown cut :=
  ⟨fun _ impossible => impossible.elim⟩

theorem Triple.given {Index : Sort*} {program}
    {after : Value → Machine Store → Prop} {each : Index → Machine Store → Prop}
    (triple : ∀ index, Triple (each index) program after thrown cut) :
    Triple (fun machine => ∃ index, each index machine) program after thrown cut := by
  constructor
  intro machine start
  obtain ⟨index, holds⟩ := start
  exact (triple index).ends machine holds

end OpenMapX.Foundation.CrashPrograms
