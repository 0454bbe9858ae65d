import Mathlib

/-!
# Service lifecycle exclusion

One lifecycle object hands out sets of service ids to works, first come first served, and keeps
a durable set of ids whose effects are not settled. What the code does between two points where
another task can run is one event here: a call, an abort and each of its listeners, the continuation behind
a grant, a `begin`, the end of a work, a release, and a restart of the process.
-/

namespace OpenMapX.Ops.LifecycleExclusion

abbrev Ids := Finset String

def isIdStart (c : Char) : Bool := ('a' ≤ c && c ≤ 'z') || ('0' ≤ c && c ≤ '9')

/-- `/^[a-z0-9][a-z0-9-]{0,63}$/`. -/
def isId (id : String) : Bool :=
  match id.toList with
  | [] => false
  | first :: rest => isIdStart first && rest.length ≤ 63 && rest.all fun c => isIdStart c || c == '-'

structure Waiter where
  call : Nat
  creating : Bool
  ids : Ids
  signal : Nat
  deriving DecidableEq

inductive Stage where
  | granted
  /-- The work runs; the flag is `begun` of a creating call. -/
  | working (begun : Bool)
  | ended
  deriving DecidableEq

structure Holder where
  waiter : Waiter
  stage : Stage
  deriving DecidableEq

/-- A creating call whose `begin` returned, until the cleared set is in the file. -/
structure Debt where
  call : Nat
  ids : Ids
  deriving DecidableEq

/-- `holders` are the closures that still have to release their ids. `started` and `owed` are
what has happened so far; the code does not read them. -/
structure State where
  alive : Bool
  active : Ids
  waiting : List Waiter
  holders : List Holder
  pending : Ids
  file : Ids
  aborted : Finset Nat
  nextCall : Nat
  started : List Nat
  owed : List Debt

structure Drain where
  waiting : List Waiter
  granted : List Waiter
  active : Ids

/-- The loop of `drain` over the waiters, with the ids of the earlier ones that stay. -/
def drainFrom (active earlier : Ids) : List Waiter → Drain
  | [] => ⟨[], [], active⟩
  | waiter :: rest =>
    if Disjoint waiter.ids (active ∪ earlier) then
      let later := drainFrom (active ∪ waiter.ids) earlier rest
      { later with granted := waiter :: later.granted }
    else
      let later := drainFrom active (earlier ∪ waiter.ids) rest
      { later with waiting := waiter :: later.waiting }

def drain (state : State) : State :=
  let drained := drainFrom state.active ∅ state.waiting
  { state with
    waiting := drained.waiting
    active := drained.active
    holders := state.holders ++ drained.granted.map fun waiter => ⟨waiter, .granted⟩ }

def release (state : State) (waiter : Waiter) : State :=
  drain { state with
    active := state.active \ waiter.ids
    holders := state.holders.filter fun holder => holder.waiter.call ≠ waiter.call }

inductive Write where
  | done
  | unchanged
  | replaced
  deriving DecidableEq

/-- The state after `persist` and whether it returned. -/
def persist (state : State) (next : Ids) (write : Write) : State × Bool :=
  if 256 < next.card then (state, false)
  else
    match write with
    | .done => ({ state with pending := next, file := next }, true)
    | .unchanged => (state, false)
    | .replaced => ({ state with file := next }, false)

/-- What the constructor reads from the file; `none` where it throws. -/
def readPending (file : Ids) : Option Ids :=
  if file.card ≤ 256 ∧ ∀ id ∈ file, isId id = true then some file else none

inductive Outcome where
  | succeeded
  | contained
  | failed
  deriving DecidableEq

inductive Event where
  | call (creating : Bool) (serviceIds : List String) (signal : Nat)
  | abort (signal : Nat)
  | listen (call : Nat)
  | resume (call : Nat)
  | begin (call : Nat) (write : Write)
  | settle (call : Nat) (outcome : Outcome) (write : Write)
  | release (call : Nat)
  | restart

/-- `run` and `creating` up to the wait for the grant. -/
def invoke (state : State) (creating : Bool) (serviceIds : List String) (signal : Nat) : State :=
  let counted := { state with nextCall := state.nextCall + 1 }
  if 256 < serviceIds.length ∨ ∃ id ∈ serviceIds, isId id = false then counted
  else if signal ∈ state.aborted then counted
  else
    drain { counted with
      waiting := state.waiting ++ [⟨state.nextCall, creating, serviceIds.toFinset, signal⟩] }

/-- `waiter.abort`. -/
def abortWaiter (state : State) (call : Nat) : State :=
  match state.waiting.find? fun waiter => waiter.call = call with
  | some waiter =>
    if waiter.signal ∈ state.aborted then drain { state with waiting := state.waiting.erase waiter }
    else state
  | none => state

def setStage (state : State) (call : Nat) (stage : Stage) : State :=
  { state with
    holders := state.holders.map fun holder =>
      if holder.waiter.call = call then ⟨holder.waiter, stage⟩ else holder }

def findHolder (state : State) (call : Nat) : Option Holder :=
  state.holders.find? fun holder => holder.waiter.call = call

/-- The continuation behind `await this.acquire(…)`. -/
def resumeHolder (state : State) (waiter : Waiter) : State :=
  if waiter.signal ∈ state.aborted then release state waiter
  else if ¬Disjoint waiter.ids state.pending then release state waiter
  else
    { setStage state waiter.call (.working false) with
      started := waiter.call :: state.started }

def beginEffect (state : State) (waiter : Waiter) (begun : Bool) (write : Write) : State :=
  if waiter.creating = false ∨ waiter.signal ∈ state.aborted ∨ begun = true then state
  else
    let (persisted, returned) := persist state (state.pending ∪ waiter.ids) write
    if returned then
      { setStage persisted waiter.call (.working true) with
        owed := ⟨waiter.call, waiter.ids⟩ :: persisted.owed }
    else persisted

/-- `clear`. The debt is settled once the file has been replaced. -/
def clearEffect (state : State) (waiter : Waiter) (write : Write) : State :=
  let next := state.pending \ waiter.ids
  let (persisted, _) := persist state next write
  if next.card ≤ 256 ∧ write ≠ .unchanged then
    { persisted with owed := persisted.owed.filter fun debt => debt.call ≠ waiter.call }
  else persisted

def settleWork (state : State) (waiter : Waiter) (begun : Bool) (outcome : Outcome)
    (write : Write) : State :=
  let ended := setStage state waiter.call .ended
  if begun = true ∧ outcome ≠ .failed then clearEffect ended waiter write else ended

def restartProcess (state : State) : State :=
  let fresh := { state with active := ∅, waiting := [], holders := [] }
  match readPending state.file with
  | some pending => { fresh with pending := pending, alive := true }
  | none => { fresh with alive := false }

def step (state : State) : Event → State
  | .call creating serviceIds signal =>
    if state.alive then invoke state creating serviceIds signal else state
  | .abort signal => { state with aborted := insert signal state.aborted }
  | .listen call => abortWaiter state call
  | .resume call =>
    match findHolder state call with
    | some ⟨waiter, .granted⟩ => resumeHolder state waiter
    | _ => state
  | .begin call write =>
    match findHolder state call with
    | some ⟨waiter, .working begun⟩ => beginEffect state waiter begun write
    | _ => state
  | .settle call outcome write =>
    match findHolder state call with
    | some ⟨waiter, .working begun⟩ => settleWork state waiter begun outcome write
    | _ => state
  | .release call =>
    match findHolder state call with
    | some ⟨waiter, .ended⟩ => release state waiter
    | _ => state
  | .restart => restartProcess state

def initial : State := ⟨true, ∅, [], [], ∅, ∅, ∅, 0, [], []⟩

end OpenMapX.Ops.LifecycleExclusion
