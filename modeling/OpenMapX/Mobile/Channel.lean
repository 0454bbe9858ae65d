import Mathlib.Data.List.Basic

/-!
# The channel of the native bridge

One top-level document of the WebView has one channel: the nonce that was published to
it, the protocol version that was negotiated with it and the identifiers of its messages.
A new document starts with a channel of its own.
-/

namespace OpenMapX.Mobile.Channel

def MAX_SEEN_MESSAGE_IDS : Nat := 2048

structure ChannelHandshake where
  webBuildId : String
  protocolVersion : Nat
  deriving DecidableEq

/-- `seenMessageIds` is a set that is enumerated in the order of its insertions. -/
structure BridgeChannel where
  nonce : String
  createdAtMs : Int
  handshake : Option ChannelHandshake
  seenMessageIds : List String
  deriving DecidableEq

abbrev ChannelRegistry := Option BridgeChannel

namespace ChannelRegistry

variable (registry : ChannelRegistry)

def adoptDocument (nonce : String) (nowMs : Int) : ChannelRegistry :=
  some { nonce := nonce, createdAtMs := nowMs, handshake := none, seenMessageIds := [] }

def invalidate : ChannelRegistry := none

def isCurrent (nonce : String) : Bool :=
  match registry with
  | none => false
  | some channel => channel.nonce == nonce

def handshake : Option ChannelHandshake := registry.bind (·.handshake)

def completeHandshake (nonce : String) (handshake : ChannelHandshake) : ChannelRegistry :=
  match registry with
  | none => none
  | some channel =>
    if channel.nonce != nonce then some channel
    else if channel.handshake.isSome then some channel
    else some { channel with handshake := some handshake }

/-- The registry after a message was remembered, and whether the message was new. -/
def rememberMessage (nonce messageId : String) : ChannelRegistry × Bool :=
  match registry with
  | none => (none, false)
  | some channel =>
    if channel.nonce != nonce then (some channel, false)
    else if channel.seenMessageIds.contains messageId then (some channel, false)
    else
      let kept :=
        if MAX_SEEN_MESSAGE_IDS ≤ channel.seenMessageIds.length then channel.seenMessageIds.tail
        else channel.seenMessageIds
      (some { channel with seenMessageIds := kept ++ [messageId] }, true)

def seen : List String :=
  match registry with
  | none => []
  | some channel => channel.seenMessageIds

end ChannelRegistry

open ChannelRegistry

section

variable {channel : BridgeChannel} {messageId : String}

theorem remember_seen (known : messageId ∈ channel.seenMessageIds) :
    rememberMessage (some channel) channel.nonce messageId = (some channel, false) := by
  simp [rememberMessage, known]

theorem remember_fresh (fresh : messageId ∉ channel.seenMessageIds) :
    (rememberMessage (some channel) channel.nonce messageId).2 = true := by
  simp [rememberMessage, fresh]

end

section

variable (registry : ChannelRegistry) (nonce messageId : String)

theorem remember_handshake :
    (registry.rememberMessage nonce messageId).1.handshake = registry.handshake := by
  cases registry with
  | none => rfl
  | some channel =>
    unfold ChannelRegistry.rememberMessage
    dsimp only
    split
    · rfl
    · split <;> rfl

theorem remember_seen_subset {id : String}
    (remembered : id ∈ (rememberMessage registry nonce messageId).1.seen) : id ∈ registry.seen ∨
      (id = messageId ∧ (rememberMessage registry nonce messageId).2 = true) := by
  cases registry with
  | none => exact Or.inl remembered
  | some channel =>
    unfold rememberMessage at remembered ⊢
    dsimp only at remembered ⊢
    split
    · rename_i other
      rw [if_pos other] at remembered
      exact Or.inl remembered
    · rename_i same
      rw [if_neg same] at remembered
      split
      · rename_i known
        rw [if_pos known] at remembered
        exact Or.inl remembered
      · rename_i fresh
        rw [if_neg fresh] at remembered
        simp only [seen, List.mem_append, List.mem_singleton] at remembered
        rcases remembered with earlier | new
        · apply Or.inl
          split at earlier
          · exact List.mem_of_mem_tail earlier
          · exact earlier
        · exact Or.inr ⟨new, rfl⟩

theorem remember_accepted_ne (accepted : (rememberMessage registry nonce messageId).2 = true) :
    (rememberMessage registry nonce messageId).1 ≠ registry := by
  cases registry with
  | none => cases accepted
  | some channel =>
    unfold rememberMessage at accepted ⊢
    dsimp only at accepted ⊢
    split
    · rename_i other
      rw [if_pos other] at accepted
      cases accepted
    · rename_i same
      rw [if_neg same] at accepted
      split
      · rename_i known
        rw [if_pos known] at accepted
        cases accepted
      · rename_i fresh
        intro unchanged
        have ids := congrArg seen unchanged
        have added : messageId ∈ channel.seenMessageIds := by
          simp only [seen] at ids
          rw [← ids]
          simp
        exact fresh (by simpa using added)

end

theorem complete_seen (registry : ChannelRegistry) (nonce : String) (given : ChannelHandshake) :
    (completeHandshake registry nonce given).seen = registry.seen := by
  cases registry with
  | none => rfl
  | some channel =>
    unfold completeHandshake
    dsimp only
    split
    · rfl
    · split <;> rfl

end OpenMapX.Mobile.Channel
