import OpenMapX.Foundation.Runs
import OpenMapX.Foundation.FixedWindows

/-!
# Shared upstream admission

One script, run atomically by the store, admits the requests of all replicas to an upstream
and records its cooldowns. The window, the spacing and the cooldown of every policy of a
key live in one hash that expires as a whole; each writer extends its lifetime.
-/

namespace OpenMapX.Upstream.SharedRequest

open Foundation.Runs Foundation.FixedWindows

def MAX_SAFE_INTEGER : Nat := 9007199254740991

inductive HashField (Id : Type) where
  | cooldown
  | start (id : Id)
  | count (id : Id)
  | next (id : Id)
  deriving DecidableEq

structure Hash (Id : Type) where
  fields : HashField Id → Option Nat
  expireAt : Option Nat

section

variable {Id : Type}

def hget (hash : Option (Hash Id)) (field : HashField Id) : Option Nat :=
  hash.bind fun stored => stored.fields field

def hset [DecidableEq Id] (hash : Option (Hash Id)) (values : List (HashField Id × Nat)) : Hash Id :=
  values.foldl
    (fun stored value =>
      { stored with fields := Function.update stored.fields value.1 (some value.2) })
    (hash.getD ⟨fun _ => none, none⟩)

def pttl (now : Nat) (hash : Hash Id) : Int :=
  match hash.expireAt with
  | none => -1
  | some deadline => deadline - now

def pexpire (now : Nat) (hash : Hash Id) (ttl : Int) : Option (Hash Id) :=
  if ttl ≤ 0 then none else some { hash with expireAt := some (now + ttl.toNat) }

def retain (now : Nat) (hash : Hash Id) (ttl : Int) : Option (Hash Id) :=
  pexpire now hash (max (pttl now hash) ttl)

end

/-- A policy that passed `validatePolicy`. -/
structure Policy where
  limit : Nat
  durationMs : Nat
  minIntervalMs : Nat
  limit_positive : 1 ≤ limit
  limit_safe : limit ≤ MAX_SAFE_INTEGER
  duration_positive : 1 ≤ durationMs
  duration_safe : durationMs ≤ MAX_SAFE_INTEGER
  interval_safe : minIntervalMs ≤ MAX_SAFE_INTEGER

inductive Call (Id : Type) where
  | admitCall (policy : Option Id)
  | defer (delay : Nat)

inductive Value where
  | integer (value : Nat)
  | text (value : String)
  deriving DecidableEq

inductive Reply where
  | integer (value : Nat)
  | array (values : List Value)
  | error (message : String)
  deriving DecidableEq

def deny (now : Nat) (reason : String) (untilAt : Nat) : Reply :=
  .array [.integer 0, .text reason, .text (toString ((untilAt : Int) - now))]

section

variable {Id : Type} [DecidableEq Id] (policies : Id → Policy)

/-- `SHARED_REQUEST_SCRIPT` on the hash of its key. -/
def script (now : Nat) (hash : Option (Hash Id)) : Call Id → Option (Hash Id) × Reply
  | .defer delay =>
    let cooldown := (hget hash .cooldown).getD 0
    if now + delay > MAX_SAFE_INTEGER then (hash, .error "Unsafe delay")
    else
      let untilAt := max cooldown (now + delay)
      if untilAt > now then
        (retain now (hset hash [(.cooldown, untilAt)]) (untilAt - now), .integer 1)
      else (hash, .integer 1)
  | .admitCall policy =>
    let cooldown := (hget hash .cooldown).getD 0
    if cooldown > now then (hash, deny now "cooldown" cooldown)
    else
      match policy with
      | none => (hash, .array [.integer 1])
      | some id =>
        let limit := (policies id).limit
        let duration := (policies id).durationMs
        let interval := (policies id).minIntervalMs
        if now + max duration interval > MAX_SAFE_INTEGER then
          (hash, .error "Unsafe policy duration")
        else
          let recorded := (hget hash (.start id)).getD now
          let start := if now ≥ recorded + duration then now else recorded
          let count := if now ≥ recorded + duration then 0 else (hget hash (.count id)).getD 0
          let nextAt := (hget hash (.next id)).getD 0
          if count ≥ limit then (hash, deny now "quota" (start + duration))
          else if nextAt > now then (hash, deny now "spacing" nextAt)
          else
            (retain now
              (hset hash [(.start id, start), (.count id, count + 1),
                (.next id, now + interval)])
              (max (max ((start + duration : Int) - now) interval) ((cooldown : Int) - now)),
             .array [.integer 1, .text (toString ((limit : Int) - count - 1))])

end

inductive Reason where
  | quota
  | spacing
  | cooldown
  | store_unavailable
  deriving DecidableEq

inductive Decision where
  | allowed (remaining : Option Nat)
  | refused (reason : Reason) (retryAfterMs : Option Nat)
  deriving DecidableEq

/-- The digits match `^(0|[1-9][0-9]*)$`. -/
def decimal : List Char → Bool
  | [] => false
  | first :: rest =>
    (first == '0' && rest.isEmpty) ||
      (first != '0' && first.isDigit && rest.all Char.isDigit)

def decodeInteger : Value → Option Nat
  | .integer _ => none
  | .text value =>
    if decimal value.toList then
      let parsed := Nat.ofDigitChars 10 value.toList 0
      if parsed ≤ MAX_SAFE_INTEGER then some parsed else none
    else none

def reasonOf : Value → Option Reason
  | .text "quota" => some .quota
  | .text "spacing" => some .spacing
  | .text "cooldown" => some .cooldown
  | _ => none

def decode : Reply → Option Decision
  | .array [.integer 1] => some (.allowed none)
  | .array [.integer 1, remaining] => (decodeInteger remaining).map fun left => .allowed (some left)
  | .array [.integer 0, reason, retryAfter] =>
    match decodeInteger retryAfter, reasonOf reason with
    | some retryAfterMs, some known =>
      if retryAfterMs > 0 then some (.refused known (some retryAfterMs)) else none
    | _, _ => none
  | _ => none

/-- What `admitSharedRequest` answers to a reply; an error reply rejects the call. -/
def admitSharedRequest (reply : Reply) : Decision :=
  (decode reply).getD (.refused .store_unavailable none)

structure Execution (Key Id : Type) where
  time : Nat
  key : Key
  call : Call Id
  reply : Reply

structure State (Key Id : Type) where
  clock : Nat
  store : Key → Option (Hash Id)
  log : List (Execution Key Id)

inductive Event (Key Id : Type) where
  | tick (elapsed : Nat)
  | expire (key : Key)
  | execute (key : Key) (call : Call Id)

section

variable {Key Id : Type} [DecidableEq Key] [DecidableEq Id] (policies : Id → Policy)

def expired (clock : Nat) (hash : Option (Hash Id)) : Bool :=
  match hash.bind Hash.expireAt with
  | none => false
  | some deadline => decide (deadline ≤ clock)

def step (state : State Key Id) : Event Key Id → State Key Id
  | .tick elapsed => { state with clock := state.clock + elapsed }
  | .expire key =>
    if expired state.clock (state.store key) then
      { state with store := Function.update state.store key none }
    else state
  | .execute key call =>
    let result := script policies state.clock (state.store key) call
    { state with
      store := Function.update state.store key result.1
      log := ⟨state.clock, key, call, result.2⟩ :: state.log }

def initial : State Key Id := ⟨0, fun _ => none, []⟩

def after (events : List (Event Key Id)) : State Key Id := run (step policies) events initial

def Execution.admitted (execution : Execution Key Id) : Bool :=
  match execution.call, execution.reply with
  | .admitCall _, .array (.integer 1 :: _) => true
  | _, _ => false

def Execution.admits (execution : Execution Key Id) (key : Key) (id : Id) : Bool :=
  match execution.call with
  | .admitCall (some policy) => decide (policy = id) && decide (execution.key = key) &&
      execution.admitted
  | _ => false

def Execution.deferredUntil (execution : Execution Key Id) : Option Nat :=
  match execution.call, execution.reply with
  | .defer delay, .integer 1 => some (execution.time + delay)
  | _, _ => none

def admissions (log : List (Execution Key Id)) (key : Key) (id : Id) : List Nat :=
  (log.filter fun execution => execution.admits key id).map Execution.time

end

end OpenMapX.Upstream.SharedRequest
