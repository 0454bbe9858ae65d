import OpenMapX.Artifacts.ArtifactStream
import OpenMapX.Foundation.FailingRefinement

/-!
# The archive as one list of bytes

The extraction follows a reading of the whole bytes, whatever the borders of the chunks are.
-/

namespace OpenMapX.Artifacts.FlatArchive

open Foundation.FailingRefinement TarFields ArtifactStream List

structure Holds (failure : Option String) (source : ByteSource) (bytes : List UInt8) : Prop where
  bytes : held source = bytes
  ends : source.failure = failure
  small : ∀ chunk ∈ source.chunks, chunk.length ≤ 1048576

variable {failure : Option String}

theorem pull_spec {maximum : Nat} (positive : 1 ≤ maximum) (chunks : List (List UInt8))
    (small : ∀ chunk ∈ chunks, chunk.length ≤ 1048576) :
    (chunks.flatten ≠ [] ∧ ∃ count next, 1 ≤ count ∧ count ≤ maximum ∧
      count ≤ chunks.flatten.length ∧
      pull maximum failure chunks = .ok (some (chunks.flatten.take count), next) ∧
      Holds failure next (chunks.flatten.drop count)) ∨
    (chunks.flatten = [] ∧ ((∃ message, failure = some message ∧
        pull maximum failure chunks = .error message) ∨
      (failure = none ∧ pull maximum failure chunks = .ok (none, ⟨[], [], none⟩)))) := by
  induction chunks with
  | nil =>
    apply Or.inr
    apply And.intro rfl
    unfold pull
    cases failure with
    | none => exact Or.inr ⟨rfl, rfl⟩
    | some message => exact Or.inl ⟨message, rfl, rfl⟩
  | cons chunk rest ih =>
    have fits := small chunk mem_cons_self
    have later := ih fun other member => small other (mem_cons_of_mem chunk member)
    unfold pull
    rw [if_neg (Nat.not_lt_of_le fits)]
    by_cases blank : chunk = []
    · rw [if_pos blank, blank, flatten_cons, nil_append]
      exact later
    · rw [if_neg blank, flatten_cons]
      have long := length_pos_of_ne_nil blank
      apply Or.inl
      apply And.intro (by simp [blank])
      refine ⟨min maximum chunk.length, ⟨chunk.drop maximum, rest, failure⟩, ?_,
        Nat.min_le_left _ _, ?_, ?_, ?_⟩
      · omega
      · rw [length_append]
        omega
      · apply congrArg Except.ok
        apply Prod.ext
        · rw [take_append_of_le_length (Nat.min_le_right _ _), ← take_eq_take_min]
        · exact rfl
      · apply Holds.mk
        · unfold held
          rw [drop_append_of_le_length (Nat.min_le_right _ _)]
          apply congrArg (· ++ rest.flatten)
          rcases Nat.le_total maximum chunk.length with less | more
          · rw [Nat.min_eq_left less]
          · rw [Nat.min_eq_right more, drop_length, drop_eq_nil_of_le more]
        · exact rfl
        · exact fun other member => small other (mem_cons_of_mem chunk member)

theorem part_spec {source bytes} (holds : Holds failure source bytes) {maximum : Nat}
    (positive : 1 ≤ maximum) :
    (bytes ≠ [] ∧ ∃ count next, 1 ≤ count ∧ count ≤ maximum ∧ count ≤ bytes.length ∧
      part source maximum = .ok (some (bytes.take count), next) ∧
      Holds failure next (bytes.drop count)) ∨ (bytes = [] ∧ ((∃ message, failure = some message ∧
        part source maximum = .error message) ∨
      (failure = none ∧ part source maximum = .ok (none, ⟨[], [], none⟩)))) := by
  obtain ⟨current, chunks, ends⟩ := source
  obtain ⟨same, same_end, small⟩ := holds
  simp only at same_end small
  unfold part
  by_cases blank : current = []
  · simp only [if_pos blank]
    have read := @pull_spec failure maximum positive chunks small
    simp only [held, blank, nil_append] at same
    rw [same] at read
    rw [same_end]
    exact read
  · simp only [if_neg blank]
    have long := length_pos_of_ne_nil blank
    simp only [held] at same
    rw [← same]
    apply Or.inl
    apply And.intro (by simp [blank])
    refine ⟨min maximum current.length, ⟨current.drop maximum, chunks, ends⟩, ?_,
      Nat.min_le_left _ _, ?_, ?_, ?_⟩
    · omega
    · rw [length_append]
      omega
    · apply congrArg Except.ok
      apply Prod.ext
      · rw [take_append_of_le_length (Nat.min_le_right _ _), ← take_eq_take_min]
      · exact rfl
    · apply Holds.mk
      · unfold held
        rw [drop_append_of_le_length (Nat.min_le_right _ _)]
        apply congrArg (· ++ chunks.flatten)
        rcases Nat.le_total maximum current.length with less | more
        · rw [Nat.min_eq_left less]
        · rw [Nat.min_eq_right more, drop_length, drop_eq_nil_of_le more]
      · exact same_end
      · exact small

theorem collect_spec {cap : Nat} : ∀ (fuel : Nat) {needed : Nat} {source : ByteSource}
    {bytes : List UInt8}, needed ≤ fuel → (1 ≤ needed → 1 ≤ cap) → Holds failure source bytes →
    (needed ≤ bytes.length → ∃ next,
      collect cap fuel needed source = .ok (bytes.take needed, next) ∧
      Holds failure next (bytes.drop needed)) ∧
    (bytes.length < needed → (∃ message, collect cap fuel needed source = .error message) ∨
      ∃ got next, collect cap fuel needed source = .ok (got, next) ∧ got.length < needed) := by
  intro fuel
  induction fuel with
  | zero =>
    intro needed source bytes enough _ holds
    have none_needed : needed = 0 := by omega
    rw [none_needed]
    apply And.intro
    · exact fun _ => ⟨source, rfl, holds⟩
    · intro impossible
      omega
  | succ fuel ih =>
    intro needed source bytes enough capped holds
    unfold collect
    by_cases done : needed = 0
    · rw [if_pos done, done]
      apply And.intro
      · exact fun _ => ⟨source, rfl, holds⟩
      · intro impossible
        omega
    · rw [if_neg done]
      have room : 1 ≤ min needed cap := by
        have positive := capped (by omega)
        omega
      rcases part_spec holds room with some_bytes | ended
      · obtain ⟨-, count, next, least, most, within, read, kept⟩ := some_bytes
        have length_take : (bytes.take count).length = count := by
          rw [length_take]
          omega
        obtain ⟨enough_rest, short_rest⟩ := @ih (needed - count) next (bytes.drop count)
          (by omega) (fun _ => capped (by omega)) kept
        rw [read]
        apply And.intro
        · intro whole
          obtain ⟨final, collected, final_kept⟩ := enough_rest (by
            rw [length_drop]
            omega)
          refine ⟨final, ?_, ?_⟩
          · have joined : bytes.take count ++ (bytes.drop count).take (needed - count) =
                bytes.take needed := by
              rw [← take_add]
              congr 1
              omega
            simp only [bind, Except.bind, length_take, collected, joined]
            rfl
          · rw [drop_drop] at final_kept
            have sum : count + (needed - count) = needed := by omega
            rw [sum] at final_kept
            exact final_kept
        · intro short
          cases short_rest (by
            rw [length_drop]
            omega) with
          | inl failed =>
            obtain ⟨message, failed⟩ := failed
            apply Or.inl
            refine ⟨message, ?_⟩
            simp only [bind, Except.bind, length_take, failed]
          | inr few =>
            obtain ⟨got, final, collected, less⟩ := few
            apply Or.inr
            refine ⟨bytes.take count ++ got, final, ?_, ?_⟩
            · simp only [bind, Except.bind, length_take, collected]
              rfl
            · rw [length_append, length_take]
              omega
      · obtain ⟨blank, how⟩ := ended
        rw [blank]
        apply And.intro
        · intro impossible
          simp at impossible
          omega
        · intro _
          rcases how with failed | surplus
          · obtain ⟨message, -, failed⟩ := failed
            apply Or.inl
            refine ⟨message, ?_⟩
            rw [failed]
            rfl
          · apply Or.inr
            refine ⟨[], ⟨[], [], none⟩, ?_, ?_⟩
            · rw [surplus.2]
              rfl
            · simp
              omega

def takeExact (bytes : List UInt8) (count : Nat) : Option (List UInt8 × List UInt8) :=
  if count ≤ bytes.length then some (bytes.take count, bytes.drop count) else none

variable {source : ByteSource} {bytes : List UInt8}

variable (holds : Holds failure source bytes)
include holds

theorem exact_spec (length : Nat) (allowEof : Bool) (label : String) :
    (length ≤ bytes.length → ∃ next,
      exact source length allowEof label = .ok (some (bytes.take length), next) ∧
      Holds failure next (bytes.drop length)) ∧
    (bytes.length < length → (∃ message, exact source length allowEof label = .error message) ∨
      (allowEof = true ∧ ∃ next, exact source length allowEof label = .ok (none, next))) := by
  obtain ⟨enough, short⟩ := @collect_spec failure length length length source bytes
    (Nat.le_refl length) id holds
  unfold exact
  apply And.intro
  · intro whole
    obtain ⟨next, collected, kept⟩ := enough whole
    refine ⟨next, ?_, kept⟩
    have length_take : (bytes.take length).length = length := by
      rw [length_take]
      omega
    simp only [bind, Except.bind, collected, if_pos length_take]
    rfl
  · intro less
    rcases short less with failed | few
    · obtain ⟨message, failed⟩ := failed
      apply Or.inl
      refine ⟨message, ?_⟩
      simp only [bind, Except.bind, failed]
    · obtain ⟨got, next, collected, fewer⟩ := few
      simp only [bind, Except.bind, collected]
      rw [if_neg (by omega)]
      split
      · rename_i ended
        exact Or.inr ⟨ended.2, next, rfl⟩
      · exact Or.inl ⟨label, rfl⟩

theorem exact_follows (length : Nat) (label : String) :
    Follows (fun value spec => value.1 = some spec.1 ∧ Holds failure value.2 spec.2)
      (exact source length false label) (takeExact bytes length) := by
  obtain ⟨enough, short⟩ := exact_spec holds length false label
  unfold takeExact
  split
  · rename_i whole
    obtain ⟨next, read, kept⟩ := enough whole
    exact ⟨_, read, rfl, kept⟩
  · rename_i less
    rcases short (Nat.lt_of_not_le less) with failed | ended
    · exact failed
    · cases ended.1

theorem payload_follows (size : Nat) :
    Follows (fun value spec => value.1 = spec.1 ∧ Holds failure value.2 spec.2)
      (payload source size) (takeExact bytes size) := by
  obtain ⟨enough, short⟩ := @collect_spec failure 65536 size size source bytes
    (Nat.le_refl size) (fun _ => by decide) holds
  unfold payload takeExact
  split
  · rename_i whole
    obtain ⟨next, collected, kept⟩ := enough whole
    have length_take : (bytes.take size).length = size := by
      rw [length_take]
      omega
    refine ⟨(bytes.take size, next), ?_, rfl, kept⟩
    simp only [bind, Except.bind, collected, if_pos length_take]
    rfl
  · rename_i less
    rcases short (Nat.lt_of_not_le less) with failed | few
    · obtain ⟨message, failed⟩ := failed
      refine ⟨message, ?_⟩
      simp only [bind, Except.bind, failed]
    · obtain ⟨got, next, collected, fewer⟩ := few
      refine ⟨"Artifact tar payload is truncated", ?_⟩
      simp only [bind, Except.bind, collected]
      rw [if_neg (by omega)]

omit holds in
theorem remaining_parts {fuel : Nat} : ∀ {source : ByteSource} {bytes : List UInt8},
    Holds failure source bytes → bytes.length < fuel →
    (remainingParts fuel source).1.flatten = bytes ∧ (remainingParts fuel source).2 = failure := by
  induction fuel with
  | zero =>
    intro source bytes _ impossible
    omega
  | succ fuel ih =>
    intro source bytes holds enough
    unfold remainingParts
    rcases @part_spec failure source bytes holds 65536 (by decide) with some_bytes | ended
    · obtain ⟨-, count, next, least, -, within, read, kept⟩ := some_bytes
      obtain ⟨parts, ends⟩ := ih kept (by
        rw [length_drop]
        omega)
      rw [read]
      simp only [flatten_cons, parts, take_append_drop, true_and]
      exact ends
    · obtain ⟨blank, how⟩ := ended
      rcases how with failed | surplus
      · obtain ⟨message, same, failed⟩ := failed
        rw [failed, blank, same]
        exact ⟨rfl, rfl⟩
      · rw [surplus.2, blank, surplus.1]
        exact ⟨rfl, rfl⟩

theorem remaining_spec : (remaining source).1.flatten = bytes ∧ (remaining source).2 = failure := by
  unfold remaining
  apply remaining_parts holds
  rw [holds.bytes]
  omega

omit holds

def flatMember (bytes : List UInt8) (header : Header) (seen : List (List String)) (tree : Tree) :
    Placement → Option (List UInt8 × List (List String) × Tree)
  | .root => some (bytes, seen, tree)
  | .directory parts =>
    (fresh seen parts).toOption.bind fun _ =>
    if header.size ≠ 0 then none
    else (openParents tree [] parts).toOption.bind fun made => some (bytes, parts :: seen, made)
  | .file parts =>
    (fresh seen parts).toOption.bind fun _ =>
    (openParents tree [] parts.dropLast).toOption.bind fun made =>
    (createFile made parts []).toOption.bind fun _ =>
    (takeExact bytes header.size).bind fun content =>
    (createFile made parts content.1).toOption.bind fun written =>
    (takeExact content.2 (padding header.size)).bind fun fill =>
    if zeros fill.1 then some (fill.2, parts :: seen, written) else none

def flatEnd (bytes : List UInt8) (pending : Pending) (tree : Tree) : Option (List UInt8 × Tree) :=
  (takeExact bytes 512).bind fun second =>
  if !zeros second.1 then none
  else if pending ≠ Pending.none then none
  else some (second.2, tree)

/-- The members of an archive, placed in the tree, and the bytes behind its end blocks. -/
def flatMembers : Nat → List UInt8 → Pending → List (List String) → Tree →
    Option (List UInt8 × Tree)
  | 0, bytes, pending, _, tree =>
    (takeExact bytes 512).bind fun block =>
    if zeros block.1 then flatEnd block.2 pending tree else none
  | left + 1, bytes, pending, seen, tree =>
    (takeExact bytes 512).bind fun block =>
    if zeros block.1 then flatEnd block.2 pending tree
    else
      (readHeader pending block.1).toOption.bind fun header =>
      if header.extended then
        if 16384 < header.size then none
        else
          (takeExact block.2 header.size).bind fun content =>
          (extend pending header.kind content.1).toOption.bind fun next =>
          (takeExact content.2 (padding header.size)).bind fun fill =>
          flatMembers left fill.2 next seen tree
      else
        (place pending header).toOption.bind fun placement =>
        (flatMember block.2 header seen tree placement).bind fun placed =>
        flatMembers left placed.1 Pending.none placed.2.1 placed.2.2

variable (holds : Holds failure source bytes)
include holds

theorem member_follows (header : Header) (seen) (tree : Tree) (placement : Placement) :
    Follows (fun value spec => Holds failure value.1 spec.1 ∧ value.2 = spec.2)
      (member source header seen tree placement) (flatMember bytes header seen tree placement) := by
  cases placement with
  | root => exact ⟨_, rfl, holds, rfl⟩
  | directory parts =>
    apply Follows.step
    intro _ _
    split
    · exact Follows.failed
    · apply Follows.step
      intro made _
      exact ⟨_, rfl, holds, rfl⟩
  | file parts =>
    apply Follows.step
    intro _ _
    apply Follows.step
    intro made _
    apply Follows.step
    intro _ _
    apply Follows.bind (payload_follows holds header.size)
    intro content spec related
    obtain ⟨same, kept⟩ := related
    simp only [same]
    apply Follows.step
    intro written _
    apply Follows.bind (exact_follows kept (padding header.size) _)
    intro fill filled again
    obtain ⟨same_fill, still⟩ := again
    simp only [same_fill, Option.all_some]
    split
    · exact ⟨_, rfl, still, rfl⟩
    · exact Follows.failed

theorem block_follows : Follows (fun value spec => value.1 = spec.1 ∧ Holds failure value.2 spec.2)
      (headerBlock source) (takeExact bytes 512) := by
  obtain ⟨enough, short⟩ := exact_spec holds 512 true "Artifact contains a partial tar header"
  unfold headerBlock takeExact
  split
  · rename_i whole
    obtain ⟨next, read, kept⟩ := enough whole
    refine ⟨(bytes.take 512, next), ?_, rfl, kept⟩
    simp only [bind, Except.bind, read]
    rfl
  · rename_i less
    rcases short (Nat.lt_of_not_le less) with failed | ended
    · obtain ⟨message, failed⟩ := failed
      refine ⟨message, ?_⟩
      simp only [bind, Except.bind, failed]
    · obtain ⟨-, next, read⟩ := ended
      refine ⟨"Artifact tar is truncated or missing end blocks", ?_⟩
      simp only [bind, Except.bind, read]

theorem end_follows (pending : Pending) (tree : Tree) :
    Follows (fun value spec => Holds failure value.1 spec.1 ∧ value.2 = spec.2)
      (endBlocks source pending tree) (flatEnd bytes pending tree) := by
  apply Follows.bind (exact_follows holds 512 _)
  intro second spec related
  obtain ⟨same, kept⟩ := related
  simp only [same, Option.all_some]
  split
  · exact Follows.failed
  · split
    · exact Follows.failed
    · exact ⟨_, rfl, kept, rfl⟩

omit holds

theorem members_follows (left : Nat) : ∀ {source : ByteSource} {bytes : List UInt8}
    (pending : Pending) (seen : List (List String)) (tree : Tree), Holds failure source bytes →
    Follows (fun value spec => Holds failure value.1 spec.1 ∧ value.2 = spec.2)
      (members left source pending seen tree) (flatMembers left bytes pending seen tree) := by
  induction left with
  | zero =>
    intro source bytes pending seen tree holds
    unfold members flatMembers
    apply Follows.bind (block_follows holds)
    intro block spec related
    simp only [related.1]
    split
    · exact end_follows related.2 pending tree
    · exact Follows.failed
  | succ left ih =>
    intro source bytes pending seen tree holds
    unfold members flatMembers
    apply Follows.bind (block_follows holds)
    intro block spec related
    simp only [related.1]
    split
    · exact end_follows related.2 pending tree
    · apply Follows.step
      intro header _
      split
      · split
        · exact Follows.failed
        · apply Follows.bind (exact_follows related.2 header.size _)
          intro content taken again
          obtain ⟨same, kept⟩ := again
          simp only [same, Option.getD_some]
          apply Follows.step
          intro next _
          apply Follows.bind (exact_follows kept (padding header.size) _)
          intro fill filled last
          exact ih next seen tree last.2
      · apply Follows.step
        intro placement _
        apply Follows.bind (member_follows related.2 header seen tree placement)
        intro value placed again
        simp only [again.2]
        exact ih Pending.none placed.2.1 placed.2.2 again.1

end OpenMapX.Artifacts.FlatArchive
