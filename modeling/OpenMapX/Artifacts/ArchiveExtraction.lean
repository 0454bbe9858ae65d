import OpenMapX.Artifacts.FlatArchive

/-!
# Extraction of the whole archive

The outcome depends on the bytes of the wire alone.
-/

namespace OpenMapX.Artifacts.ArchiveExtraction

open Foundation.FailingRefinement TarFields ArtifactStream FlatArchive List

def Within (maximum length : Nat) : Prop := length ≤ 9007199254740991 ∧ length ≤ maximum

instance (maximum length : Nat) : Decidable (Within maximum length) := by
  unfold Within
  exact inferInstance

variable {maximum : Nat} {message : String} {failure : Option String}

variable {chunks : List (List UInt8)}

theorem counted_passes : ∀ {total : Nat}, Within maximum (total + chunks.flatten.length) →
    counted maximum message failure total chunks = (chunks, failure) := by
  induction chunks with
  | nil => exact fun _ => rfl
  | cons chunk rest ih =>
    intro total fits
    rw [flatten_cons, length_append] at fits
    unfold Within at fits
    unfold counted
    rw [if_neg (by omega), ih (by unfold Within; omega)]

theorem counted_refuses : ∀ {total : Nat}, Within maximum total →
    ¬ Within maximum (total + chunks.flatten.length) →
    (counted maximum message failure total chunks).2 ≠ none := by
  induction chunks with
  | nil => exact fun fits exceeds => absurd fits exceeds
  | cons chunk rest ih =>
    intro total fits exceeds
    rw [flatten_cons, length_append] at exceeds
    unfold counted
    split
    · simp
    · rename_i next
      apply ih
      · unfold Within
        omega
      · rw [Nat.add_assoc]
        exact exceeds

theorem counted_fails (broken : failure ≠ none) : ∀ {total : Nat},
    (counted maximum message failure total chunks).2 ≠ none := by
  induction chunks with
  | nil => exact broken
  | cons chunk rest ih =>
    intro total
    unfold counted
    split
    · simp
    · exact ih

theorem counted_chunks : ∀ {total : Nat},
    ∀ chunk ∈ (counted maximum message failure total chunks).1, chunk ∈ chunks := by
  induction chunks with
  | nil => exact fun chunk member => member
  | cons first rest ih =>
    intro total chunk member
    unfold counted at member
    split at member
    · cases member
    · rcases mem_cons.mp member with same | later
      · rw [same]
        exact mem_cons_self
      · exact mem_cons_of_mem first (ih chunk later)

theorem open_holds (failure : Option String) (small : ∀ chunk ∈ chunks, chunk.length ≤ 1048576) :
    Holds failure (openSource chunks failure) chunks.flatten := ⟨rfl, rfl, small⟩

def flatTar (options : Options) (archiveSha256 : String) (bytes : List UInt8)
    (destination : Tree) : Option (Result × Tree) :=
  (flatMembers 4096 bytes Pending.none [] destination).bind fun placed =>
  if zeros placed.1 then
    (checkDigest options archiveSha256).toOption.bind fun _ =>
    some (⟨archiveSha256, bytes.length⟩, placed.2)
  else none

theorem zeros_flatten (parts : List (List UInt8)) : parts.all zeros = zeros parts.flatten := by
  induction parts with
  | nil => rfl
  | cons first rest ih =>
    rw [all_cons, ih, flatten_cons]
    unfold zeros
    rw [all_append]

theorem trailing_follows {source bytes} (holds : Holds none source bytes) :
    checkTrailing (remaining source) = .ok () ↔ zeros bytes = true := by
  obtain ⟨parts, ends⟩ := remaining_spec holds
  unfold checkTrailing
  rw [zeros_flatten, parts, ends]
  split
  · rename_i blank
    simp [blank]
  · rename_i other
    simp [other]

theorem trailing_fails {source bytes} (broken : failure ≠ none) (holds : Holds failure source bytes)
    : ∃ message, checkTrailing (remaining source) = .error message := by
  obtain ⟨-, ends⟩ := remaining_spec holds
  unfold checkTrailing
  rw [ends]
  split
  · cases failure with
    | none => exact absurd rfl broken
    | some message => exact ⟨message, rfl⟩
  · exact ⟨_, rfl⟩

theorem tar_follows (small : ∀ chunk ∈ chunks, chunk.length ≤ 1048576) (options : Options)
    (archiveSha256 : String) (destination : Tree) :
    Follows Eq (extractTar options archiveSha256 (chunks, none) destination)
      (flatTar options archiveSha256 chunks.flatten destination) := by
  unfold extractTar flatTar
  apply Follows.bind
    (members_follows 4096 Pending.none [] destination (open_holds none small))
  intro value placed related
  obtain ⟨reader, tree⟩ := value
  obtain ⟨holds, same⟩ := related
  simp only at same holds
  change Follows Eq (checkTrailing (remaining reader) >>= fun _ =>
    checkDigest options archiveSha256 >>= fun _ =>
      pure (Result.mk archiveSha256 chunks.flatten.length, tree)) _
  by_cases blank : zeros placed.1 = true
  · rw [if_pos blank, (trailing_follows holds).mpr blank]
    change Follows Eq (checkDigest options archiveSha256 >>= fun _ =>
      pure (Result.mk archiveSha256 chunks.flatten.length, tree)) _
    apply Follows.step
    intro _ _
    exact ⟨_, rfl, by rw [same]⟩
  · rw [if_neg blank]
    cases trailing : checkTrailing (remaining reader) with
    | error message => exact Follows.failed
    | ok done => exact absurd ((trailing_follows holds).mp trailing) blank

theorem tar_fails {limited} (small : ∀ chunk ∈ limited.1, chunk.length ≤ 1048576)
    (broken : limited.2 ≠ none) (options : Options) (archiveSha256 : String) (destination : Tree) :
    ∃ message, extractTar options archiveSha256 limited destination = .error message := by
  have follows := members_follows 4096 Pending.none [] destination (open_holds limited.2 small)
  unfold extractTar
  cases flat : flatMembers 4096 limited.1.flatten Pending.none [] destination with
  | none =>
    rw [flat] at follows
    obtain ⟨message, failed⟩ := follows
    refine ⟨message, ?_⟩
    rw [failed]
    rfl
  | some placed =>
    rw [flat] at follows
    obtain ⟨⟨reader, tree⟩, read, holds, -⟩ := follows
    obtain ⟨message, failed⟩ := trailing_fails broken holds
    refine ⟨message, ?_⟩
    simp only [read, failed, bind, Except.bind]

variable (digest : List UInt8 → String) {gunzip : List UInt8 → Option (List UInt8)}

def flatExtract (gunzip : List UInt8 → Option (List UInt8)) (options : Options)
    (wire : List UInt8) (destination : Tree) : Option (Result × Tree) :=
  if Within options.maxArtifactBytes wire.length ∧ 2 ≤ wire.length then
    (expand gunzip wire).bind fun bytes =>
    if Within options.maxExpandedBytes bytes.length then
      flatTar options (digest wire) bytes destination
    else none
  else none

theorem limited_fails (streams : Streams gunzip) (options : Options)
    {parts} (broken : (streams.deliver parts failure).2 ≠ none)
    (archiveSha256 : String) (destination : Tree) :
    ∃ message, extractTar options archiveSha256 (bounded options.maxExpandedBytes
      (streams.deliver parts failure).1 (streams.deliver parts failure).2) destination =
        .error message := by
  apply tar_fails
  · intro chunk member
    exact streams.small parts failure chunk (counted_chunks chunk member)
  · exact counted_fails broken

theorem extraction_follows (streams : Streams gunzip) (options : Options) {source}
    (small : ∀ chunk ∈ source, chunk.length ≤ 1048576) (destination : Tree) :
    Follows Eq (extractIntegrationArtifactStream digest streams options source destination)
      (flatExtract digest gunzip options source.flatten destination) := by
  unfold extractIntegrationArtifactStream flatExtract
  have passed_small : ∀ chunk ∈ (hashed options.maxArtifactBytes source).1,
      chunk.length ≤ 1048576 := fun chunk member => small chunk (counted_chunks chunk member)
  have opened := open_holds (hashed options.maxArtifactBytes source).2 passed_small
  by_cases fits : Within options.maxArtifactBytes source.flatten.length
  · have passes : hashed options.maxArtifactBytes source = (source, none) := by
      apply counted_passes
      rw [Nat.zero_add]
      exact fits
    rw [passes] at opened ⊢
    obtain ⟨enough, short⟩ := exact_spec opened 2 false "Artifact tar payload is truncated"
    by_cases two : 2 ≤ source.flatten.length
    · rw [if_pos ⟨fits, two⟩]
      obtain ⟨wire, read, kept⟩ := enough two
      obtain ⟨parts, ends⟩ := remaining_spec kept
      simp only [read, bind, Except.bind, Option.getD_some, ends]
      have joined : (source.flatten.take 2 :: (remaining wire).1).flatten = source.flatten := by
        rw [flatten_cons, parts, take_append_drop]
      cases expanded : expand gunzip source.flatten with
      | none =>
        apply limited_fails streams options
        apply streams.broken
        apply Or.inr
        rw [joined]
        exact expanded
      | some bytes =>
        obtain ⟨delivered, whole⟩ := streams.whole
          (source.flatten.take 2 :: (remaining wire).1) bytes (by rw [joined]; exact expanded)
        have delivered_small := streams.small
          (source.flatten.take 2 :: (remaining wire).1) none
        rw [whole, Option.bind_some]
        by_cases room : Within options.maxExpandedBytes bytes.length
        · rw [if_pos room]
          have limited : bounded options.maxExpandedBytes
              (streams.deliver (source.flatten.take 2 :: (remaining wire).1) none).1 none =
              ((streams.deliver (source.flatten.take 2 :: (remaining wire).1) none).1, none) := by
            apply counted_passes
            rw [Nat.zero_add, delivered]
            exact room
          rw [limited, ← delivered]
          exact tar_follows delivered_small options (digest source.flatten) destination
        · rw [if_neg room]
          apply tar_fails
          · intro chunk member
            exact delivered_small chunk (counted_chunks chunk member)
          · apply counted_refuses
            · exact ⟨Nat.zero_le _, Nat.zero_le _⟩
            · rw [Nat.zero_add, delivered]
              exact room
    · rw [if_neg fun both => two both.2]
      rcases short (Nat.lt_of_not_le two) with failed | ended
      · obtain ⟨message, failed⟩ := failed
        refine ⟨message, ?_⟩
        simp only [failed, bind, Except.bind]
      · cases ended.1
  · rw [if_neg fun both => fits both.1]
    have broken : (hashed options.maxArtifactBytes source).2 ≠ none := by
      apply counted_refuses
      · exact ⟨Nat.zero_le _, Nat.zero_le _⟩
      · rw [Nat.zero_add]
        exact fits
    have follows := exact_follows opened 2 "Artifact tar payload is truncated"
    cases block : takeExact (hashed options.maxArtifactBytes source).1.flatten 2 with
    | none =>
      rw [block] at follows
      obtain ⟨message, failed⟩ := follows
      refine ⟨message, ?_⟩
      simp only [failed, bind, Except.bind]
    | some spec =>
      rw [block] at follows
      obtain ⟨⟨magic, wire⟩, read, -, kept⟩ := follows
      obtain ⟨-, ends⟩ := remaining_spec kept
      simp only [read, bind, Except.bind]
      apply limited_fails streams options
      apply streams.broken
      apply Or.inl
      rw [ends]
      exact broken

end OpenMapX.Artifacts.ArchiveExtraction
