import Mathlib.Data.List.Basic

/-!
# Replays of a refresh

Any number of requests for one handle run against a shared cache, a shared lease and a
source policy. Each step of a request is one call to what is shared, between the steps
time passes, entries are evicted and the policy changes. The numbers of the lives of the
cached result, the times and the lists of what happened are there for the proofs only.
-/

namespace OpenMapX.Transit.RefreshReplay

inductive ReplyBody (Body : Type) where
  | itinerary (body : Body)
  | error (text : String) (retryable : Bool)
  deriving DecidableEq

structure RefreshResponse (Body : Type) where
  status : Nat
  body : ReplyBody Body
  sourceIds : List String
  deriving DecidableEq

variable {Body : Type}

def unavailable : RefreshResponse Body :=
  { status := 503, body := .error "Itinerary refresh temporarily unavailable" true
    sourceIds := [] }

def refused : RefreshResponse Body :=
  { status := 409, body := .error "Itinerary source is no longer permitted" false
    sourceIds := [] }

abbrev Policy := Option (List String)

section

variable (receipts : Body → List String)

def receiptsOf : ReplyBody Body → List String
  | .itinerary body => receipts body
  | .error _ _ => []

def permitted (policy : Policy) (result : RefreshResponse Body) : RefreshResponse Body :=
  if result.status ≠ 200 then result
  else
    match policy with
    | none => unavailable
    | some banned =>
      if (result.sourceIds ++ receiptsOf receipts result.body).any fun id => banned.contains id then
        refused
      else result

end

/-- Where a request is. From `completed` to `release` it holds a lease. -/
inductive Phase (Body : Type) where
  | idle
  | read
  | permitCached (result : RefreshResponse Body) (life : Nat)
  | acquire
  | poll (round : Nat)
  | completed
  | permitCompleted (result : RefreshResponse Body) (life : Nat)
  | start
  | captureWriter (startedAt : Nat)
  | working (startedAt : Nat)
  | permitWork (result : RefreshResponse Body) (startedAt : Nat)
  | store (result : RefreshResponse Body) (startedAt checkedAt : Nat)
  | readBack (result : RefreshResponse Body)
  | recheck (result : RefreshResponse Body) (life : Nat)
  | delete (result : RefreshResponse Body) (life : Nat)
  | finish (result : RefreshResponse Body) (life : Nat)
  | release (result : Option (RefreshResponse Body × Nat))
  | answer (result : RefreshResponse Body) (life : Nat)
  | done (result : RefreshResponse Body) (life : Nat)
  deriving DecidableEq

structure Request (Body : Type) where
  phase : Phase Body
  acquiredAt : Nat
  deriving DecidableEq

structure CacheEntry (Body : Type) where
  value : RefreshResponse Body
  expiresAt : Nat
  deriving DecidableEq

structure Lease where
  holder : Nat
  expiresAt : Nat
  deriving DecidableEq

structure Answer (Body : Type) where
  request : Nat
  life : Nat
  response : RefreshResponse Body
  deriving DecidableEq

structure ReplayState (Body : Type) where
  now : Nat
  /-- Under `transit-refresh-result:<id>`. -/
  result : Option (CacheEntry Body)
  /-- Whether `transit-refresh:<id>` is there. -/
  handle : Bool
  lease : Option Lease
  policy : Policy
  requests : Nat → Request Body
  life : Nat
  stored : List (Nat × RefreshResponse Body)
  verified : List (Nat × RefreshResponse Body)
  retired : List (Nat × RefreshResponse Body)
  answers : List (Answer Body)

def RESULT_TTL_MS : Nat := 120000
def LEASE_TTL_MS : Nat := 30000
def WORK_LIMIT_MS : Nat := 25000
def POLL_ROUNDS : Nat := 100

/-- How a call ends: it succeeds, it throws without effect or with it, or it is dropped
without a word. -/
inductive Outcome where
  | succeeds
  | throws
  | throwsLate
  | dropped
  deriving DecidableEq

inductive ReplayEvent (Body : Type) where
  | wait (duration : Nat)
  | evict
  | changePolicy (policy : Policy)
  | workEnds (request : Nat) (result : RefreshResponse Body)
  | call (request : Nat) (outcome : Outcome)

namespace ReplayState

variable (state : ReplayState Body) (request : Nat)

def live : Option (RefreshResponse Body) :=
  state.result.bind fun entry => if state.now < entry.expiresAt then some entry.value else none

def leaseFree : Bool :=
  match state.lease with
  | none => true
  | some lease => lease.expiresAt ≤ state.now

def setRequest (value : Request Body) : ReplayState Body :=
  { state with requests := fun other => if other = request then value else state.requests other }

def move (phase : Phase Body) : ReplayState Body :=
  state.setRequest request { state.requests request with phase := phase }

def settle (result : RefreshResponse Body) (life : Nat) : ReplayState Body :=
  { state.move request (.done result life) with
    answers := state.answers ++ [{ request := request, life := life, response := result }] }

def fails : ReplayState Body := state.settle request unavailable 0

def throws : ReplayState Body := state.move request (.release none)

def takeLease (phase : Phase Body) : ReplayState Body :=
  { state.setRequest request { phase := phase, acquiredAt := state.now } with
    lease := some { holder := request, expiresAt := state.now + LEASE_TTL_MS } }

def write (value : RefreshResponse Body) : ReplayState Body :=
  let life := if state.live.isSome then state.life else state.life + 1
  { state with
    result := some { value := value, expiresAt := state.now + RESULT_TTL_MS }
    life := life
    stored := state.stored ++ [(life, value)] }

def releaseLease : ReplayState Body :=
  match state.lease with
  | some lease => if lease.holder = request then { state with lease := none } else state
  | none => state

def verify (value : RefreshResponse Body) : ReplayState Body :=
  { state with verified := state.verified ++ [(request, value)] }

def retire (value : RefreshResponse Body) : ReplayState Body :=
  { state with handle := false, retired := state.retired ++ [(request, value)] }

end ReplayState

section

variable [DecidableEq Body] (receipts : Body → List String) (state : ReplayState Body)
variable (request : Nat) (outcome : Outcome)

def look (found : RefreshResponse Body → Nat → Phase Body) (missing : Phase Body) :
    ReplayState Body :=
  match state.live with
  | some value => state.move request (found value state.life)
  | none => state.move request missing

def leave (result : RefreshResponse Body) (life : Nat) : ReplayState Body :=
  state.move request (.release (some (permitted receipts state.policy result, life)))

def checkWork (result : RefreshResponse Body) (startedAt : Nat) : ReplayState Body :=
  let result := permitted receipts state.policy result
  if WORK_LIMIT_MS ≤ state.now - startedAt then
    state.move request (.release (some (unavailable, 0)))
  else if result.status = 200 then state.move request (.store result startedAt state.now)
  else state.move request (.finish result 0)

def storeResult (result : RefreshResponse Body) : ReplayState Body :=
  match outcome with
  | .succeeds => (state.write result).move request (.readBack result)
  | .dropped => state.move request (.readBack result)
  | .throwsLate => (state.write result).throws request
  | .throws => state.throws request

def compareStored (result : RefreshResponse Body) : ReplayState Body :=
  if state.live = some result then
    (state.verify request result).move request (.recheck result state.life)
  else state.move request (.release (some (unavailable, 0)))

def recheckPolicy (result : RefreshResponse Body) (life : Nat) : ReplayState Body :=
  let checked := permitted receipts state.policy result
  if checked.status ≠ 200 then state.move request (.release (some (checked, 0)))
  else state.move request (.delete result life)

def deleteHandle (result : RefreshResponse Body) (life : Nat) : ReplayState Body :=
  match outcome with
  | .succeeds => (state.retire request result).move request (.finish result life)
  | .dropped => state.move request (.finish result life)
  | .throwsLate => (state.retire request result).throws request
  | .throws => state.throws request

def releaseStep (result : Option (RefreshResponse Body × Nat)) : ReplayState Body :=
  let released := if outcome = .succeeds ∨ outcome = .throwsLate then state.releaseLease request
    else state
  let thrown := outcome = .throws ∨ outcome = .throwsLate
  match result with
  | none => released.fails request
  | some (result, life) =>
    if thrown then released.fails request else released.move request (.answer result life)

def acquireStep : ReplayState Body :=
  match outcome with
  | .succeeds =>
    if state.leaseFree then state.takeLease request .completed else state.move request (.poll 0)
  | .throwsLate =>
    -- the store took the lease, but its answer was lost
    if state.leaseFree then state.takeLease request (.poll 0) else state.move request (.poll 0)
  | .dropped => state.move request (.poll 0)
  | .throws => state.fails request

def callStep : ReplayState Body :=
  match (state.requests request).phase with
  | .idle => state.move request .read
  | .read =>
    if outcome = .succeeds then look state request .permitCached .acquire else state.fails request
  | .permitCached result life =>
    state.move request (.answer (permitted receipts state.policy result) life)
  | .acquire => acquireStep state request outcome
  | .poll round =>
    if outcome = .succeeds then
      look state request .permitCached
        (if round + 1 < POLL_ROUNDS then .poll (round + 1) else .answer unavailable 0)
    else state.fails request
  | .completed =>
    if outcome = .succeeds then look state request .permitCompleted .start
    else state.throws request
  | .permitCompleted result life => leave receipts state request result life
  | .start => state.move request (.captureWriter state.now)
  | .captureWriter startedAt =>
    if outcome = .succeeds then state.move request (.working startedAt) else state.throws request
  | .working _ => if outcome = .succeeds then state else state.throws request
  | .permitWork result startedAt => checkWork receipts state request result startedAt
  | .store result _ _ => storeResult state request outcome result
  | .readBack result =>
    if outcome = .succeeds then compareStored state request result else state.throws request
  | .recheck result life => recheckPolicy receipts state request result life
  | .delete result life => deleteHandle state request outcome result life
  | .finish result life => leave receipts state request result life
  | .release result => releaseStep state request outcome result
  | .answer result life => state.settle request (permitted receipts state.policy result) life
  | .done _ _ => state

def workEnds (result : RefreshResponse Body) : ReplayState Body :=
  match (state.requests request).phase with
  | .working startedAt => state.move request (.permitWork result startedAt)
  | _ => state

def replayStep (event : ReplayEvent Body) : ReplayState Body :=
  match event with
  | .wait duration => { state with now := state.now + duration }
  | .evict => { state with result := none }
  | .changePolicy policy => { state with policy := policy }
  | .workEnds request result => workEnds state request result
  | .call request outcome => callStep receipts state request outcome

end

def initialState (now : Nat) (policy : Policy) : ReplayState Body :=
  { now := now, result := none, handle := true, lease := none, policy := policy
    requests := fun _ => { phase := .idle, acquiredAt := 0 }
    life := 0, stored := [], verified := [], retired := [], answers := [] }

end OpenMapX.Transit.RefreshReplay
