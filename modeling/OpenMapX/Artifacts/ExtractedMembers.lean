import OpenMapX.Artifacts.ArchiveExtraction

/-!
# The members of an archive and what is made of them

The grammar of the archives that the extraction accepts, and what it adds to the destination: the
regular members with their bytes and the directories above them.
-/

namespace OpenMapX.Artifacts.ExtractedMembers

open TarFields ArtifactStream FlatArchive ArchiveExtraction List Prod

inductive Entry where
  | directory (parts : List String)
  | file (parts : List String) (bytes : List UInt8)
  deriving DecidableEq

def Entry.parts : Entry → List String
  | .directory parts => parts
  | .file parts _ => parts

def Entry.regular : Entry → Option (List String × List UInt8)
  | .directory _ => none
  | .file parts bytes => some (parts, bytes)

inductive Archive : Pending → List UInt8 → List Entry → Prop where
  | stop {bytes block rest second tail : List UInt8}
      (first : takeExact bytes 512 = some (block, rest))
      (blank : zeros block = true) (next : takeExact rest 512 = some (second, tail))
      (again : zeros second = true) (trailing : zeros tail = true) :
      Archive Pending.none bytes []
  | extended {pending next : Pending} {bytes block rest content after fill tail : List UInt8}
      {header : Header} {entries : List Entry}
      (first : takeExact bytes 512 = some (block, rest)) (used : zeros block = false)
      (read : readHeader pending block = .ok header) (kind : header.extended = true)
      (small : header.size ≤ 16384) (taken : takeExact rest header.size = some (content, after))
      (extends_to : extend pending header.kind content = .ok next)
      (padded : takeExact after (padding header.size) = some (fill, tail))
      (remaining : Archive next tail entries) : Archive pending bytes entries
  | root {pending : Pending} {bytes block rest : List UInt8} {header : Header}
      {entries : List Entry} (first : takeExact bytes 512 = some (block, rest))
      (used : zeros block = false) (read : readHeader pending block = .ok header)
      (kind : header.extended = false) (placed : place pending header = .ok .root)
      (remaining : Archive Pending.none rest entries) : Archive pending bytes entries
  | directory {pending : Pending} {bytes block rest : List UInt8} {header : Header}
      {parts : List String} {entries : List Entry}
      (first : takeExact bytes 512 = some (block, rest)) (used : zeros block = false)
      (read : readHeader pending block = .ok header) (kind : header.extended = false)
      (placed : place pending header = .ok (.directory parts)) (without : header.size = 0)
      (remaining : Archive Pending.none rest entries) :
      Archive pending bytes (.directory parts :: entries)
  | file {pending : Pending} {bytes block rest content after fill tail : List UInt8}
      {header : Header} {parts : List String} {entries : List Entry}
      (first : takeExact bytes 512 = some (block, rest)) (used : zeros block = false)
      (read : readHeader pending block = .ok header) (kind : header.extended = false)
      (placed : place pending header = .ok (.file parts))
      (taken : takeExact rest header.size = some (content, after))
      (padded : takeExact after (padding header.size) = some (fill, tail))
      (blank : zeros fill = true) (remaining : Archive Pending.none tail entries) :
      Archive pending bytes (.file parts content :: entries)

theorem same_split {bytes first rest second tail} {count : Nat}
    (one : takeExact bytes count = some (first, rest))
    (other : takeExact bytes count = some (second, tail)) : first = second ∧ rest = tail :=
  mk.inj (Option.some.inj (one.symm.trans other))

variable {bytes : List UInt8}

theorem archive_unique {pending : Pending} {entries others} (first : Archive pending bytes entries)
    (second : Archive pending bytes others) : entries = others := by
  induction first generalizing others with
  | stop =>
    cases second with
    | stop => rfl
    | _ => simp_all
  | extended first used read kind small taken extends_to padded remaining ih =>
    cases second with
    | extended other_first _ other_read _ _ other_taken other_extends other_padded others =>
      obtain ⟨rfl, rfl⟩ := same_split first other_first
      obtain rfl := Except.ok.inj (read.symm.trans other_read)
      obtain ⟨rfl, rfl⟩ := same_split taken other_taken
      obtain rfl := Except.ok.inj (extends_to.symm.trans other_extends)
      obtain ⟨rfl, rfl⟩ := same_split padded other_padded
      exact ih others
    | _ => simp_all
  | root first used read kind placed remaining ih =>
    cases second with
    | root other_first _ _ _ _ others =>
      obtain ⟨rfl, rfl⟩ := same_split first other_first
      exact ih others
    | _ => simp_all
  | directory first used read kind placed without remaining ih =>
    cases second with
    | directory other_first _ other_read _ other_placed _ others =>
      obtain ⟨rfl, rfl⟩ := same_split first other_first
      obtain rfl := Except.ok.inj (read.symm.trans other_read)
      obtain rfl := Placement.directory.inj (Except.ok.inj (placed.symm.trans other_placed))
      rw [ih others]
    | _ => simp_all
  | file first used read kind placed taken padded blank remaining ih =>
    cases second with
    | file other_first _ other_read _ other_placed other_taken other_padded _ others =>
      obtain ⟨rfl, rfl⟩ := same_split first other_first
      obtain rfl := Except.ok.inj (read.symm.trans other_read)
      obtain rfl := Placement.file.inj (Except.ok.inj (placed.symm.trans other_placed))
      obtain ⟨rfl, rfl⟩ := same_split taken other_taken
      obtain ⟨rfl, rfl⟩ := same_split padded other_padded
      rw [ih others]
    | _ => simp_all

structure Grows (tree made : Tree) (created : Tree) : Prop where
  added : made = tree ++ created
  once : (created.map fst).Nodup
  free : ∀ entry ∈ created, nodeAt tree entry.1 = none
  safe : ∀ entry ∈ created, entry.1 ≠ [] ∧ ∀ name ∈ entry.1, safeComponent name = true
  below : ∀ entry ∈ created, ∀ path, path ≠ [] → path <+: entry.1 → path ≠ entry.1 →
    nodeAt made path = some .directory

variable {path : List String}

theorem node_append_left {tree created : Tree} {node : Node}
    (present : nodeAt tree path = some node) : nodeAt (tree ++ created) path = some node := by
  unfold nodeAt at present ⊢
  rw [find?_append]
  cases found : tree.find? fun entry => entry.1 = path with
  | none =>
    rw [found] at present
    cases present
  | some entry =>
    rw [found] at present
    simpa using present

theorem node_append_none {tree created : Tree} :
    nodeAt (tree ++ created) path = none ↔ nodeAt tree path = none ∧ nodeAt created path = none := by
  unfold nodeAt
  rw [find?_append]
  cases tree.find? fun entry => entry.1 = path with
  | none => simp
  | some entry => simp

variable {tree : Tree}

theorem node_none_path : nodeAt tree path = none ↔ ∀ entry ∈ tree, entry.1 ≠ path := by
  unfold nodeAt
  simp [find?_eq_none]

theorem node_last {node : Node}
    (free : nodeAt tree path = none) : nodeAt (tree ++ [(path, node)]) path = some node := by
  unfold nodeAt at free ⊢
  rw [find?_append]
  cases found : tree.find? fun entry => entry.1 = path with
  | none => simp
  | some entry =>
    rw [found] at free
    cases free

theorem Grows.refl (tree : Tree) : Grows tree tree [] := by
  apply Grows.mk
  · rw [append_nil]
  · exact nodup_nil
  · intro entry member
    cases member
  · intro entry member
    cases member
  · intro entry member
    cases member

theorem Grows.trans {tree middle made first second : Tree} (before : Grows tree middle first)
    (after : Grows middle made second) : Grows tree made (first ++ second) := by
  have apart : ∀ entry ∈ second, nodeAt tree entry.1 = none ∧ nodeAt first entry.1 = none := by
    intro entry member
    have free := after.free entry member
    rw [before.added] at free
    exact node_append_none.mp free
  apply Grows.mk
  · rw [after.added, before.added, append_assoc]
  · rw [map_append, nodup_append]
    refine ⟨before.once, after.once, ?_⟩
    intro path inside other last same
    obtain ⟨old, old_member, old_path⟩ := mem_map.mp inside
    obtain ⟨new, new_member, new_path⟩ := mem_map.mp last
    apply node_none_path.mp (apart new new_member).2 old old_member
    rw [old_path, new_path, same]
  · intro entry member
    rcases mem_append.mp member with old | new
    · exact before.free entry old
    · exact (apart entry new).1
  · exact forall_mem_append.mpr ⟨before.safe, after.safe⟩
  · intro entry member path given leads proper
    rcases mem_append.mp member with old | new
    · rw [after.added]
      exact node_append_left (before.below entry old path given leads proper)
    · exact after.below entry new path given leads proper

def Opened (tree : Tree) (parent : List String) : Prop :=
  (∀ name ∈ parent, safeComponent name = true) ∧
    ∀ path, path ≠ [] → path <+: parent → nodeAt tree path = some .directory

theorem opened_root (tree : Tree) : Opened tree [] := by
  apply And.intro
  · intro name member
    cases member
  · intro path given leads
    exact absurd (prefix_nil.mp leads) given

variable {parent : List String} {name : String}

theorem leads_snoc {path parent}
    (leads : path <+: parent ++ [name]) : path = parent ++ [name] ∨ path <+: parent := by
  exact prefix_concat_iff.mp leads

theorem grow_one (node : Node) (opened : Opened tree parent) (safe : safeComponent name = true)
    (free : nodeAt tree (parent ++ [name]) = none) :
    Grows tree (tree ++ [(parent ++ [name], node)]) [(parent ++ [name], node)] := by
  apply Grows.mk rfl
  · exact nodup_singleton _
  · intro entry member
    rw [mem_singleton] at member
    rw [member]
    exact free
  · intro entry member
    rw [mem_singleton] at member
    rw [member]
    apply And.intro (by simp)
    exact forall_mem_append.mpr ⟨opened.1, forall_mem_singleton.mpr safe⟩
  · intro entry member path given leads proper
    rw [mem_singleton] at member
    rw [member] at leads proper
    rcases leads_snoc leads with same | above
    · exact absurd same proper
    · exact node_append_left (opened.2 path given above)

theorem directory_grows {tree made : Tree}
    (opened : Opened tree parent) (result : openDirectory tree parent name = .ok made) :
    (∃ created, Grows tree made created ∧ ∀ entry ∈ created,
      entry = (parent ++ [name], Node.directory)) ∧ Opened made (parent ++ [name]) := by
  unfold openDirectory at result
  split at result
  · rename_i safe
    have names : ∀ part ∈ parent ++ [name], safeComponent part = true := by
      exact forall_mem_append.mpr ⟨opened.1, forall_mem_singleton.mpr safe⟩
    split at result
    · rename_i free
      have same := Except.ok.inj result
      rw [← same]
      have grows := grow_one .directory opened safe free
      refine ⟨⟨_, grows, fun entry member => mem_singleton.mp member⟩, names, ?_⟩
      intro path given leads
      rcases leads_snoc leads with whole | above
      · rw [whole]
        exact node_last free
      · exact node_append_left (opened.2 path given above)
    · rename_i present
      have same := Except.ok.inj result
      rw [← same]
      refine ⟨⟨[], Grows.refl tree, fun entry member => by cases member⟩, names, ?_⟩
      intro path given leads
      rcases leads_snoc leads with whole | above
      · rw [whole]
        exact present
      · exact opened.2 path given above
    · cases result
    · cases result
  · cases result

def Leading (created : Tree) (parts : List String) : Prop :=
  ∀ entry ∈ created, entry.2 = .directory ∧ entry.1 <+: parts

theorem parents_grow (parts : List String) : ∀ {tree made : Tree} {parent : List String},
    Opened tree parent → openParents tree parent parts = .ok made →
    (∃ created, Grows tree made created ∧ Leading created (parent ++ parts)) ∧
      Opened made (parent ++ parts) := by
  induction parts with
  | nil =>
    intro tree made parent opened result
    have same := Except.ok.inj result
    rw [← same, append_nil]
    exact ⟨⟨[], Grows.refl tree, fun entry member => by cases member⟩, opened⟩
  | cons name rest ih =>
    intro tree made parent opened result
    unfold openParents at result
    cases first : openDirectory tree parent name with
    | error message =>
      rw [first] at result
      cases result
    | ok middle =>
      rw [first] at result
      obtain ⟨⟨created, grows, own⟩, middle_opened⟩ := directory_grows opened first
      obtain ⟨⟨later, later_grows, leading⟩, final⟩ := ih middle_opened result
      have joined : parent ++ [name] ++ rest = parent ++ name :: rest := by simp
      rw [joined] at leading final
      refine ⟨⟨created ++ later, grows.trans later_grows, ?_⟩, final⟩
      intro entry member
      rcases mem_append.mp member with early | late
      · rw [own entry early]
        refine ⟨rfl, ?_⟩
        rw [← joined]
        exact prefix_append _ _
      · exact leading entry late

variable {parts : List String}

theorem create_grows {tree made : Tree} (given : parts ≠ []) (opened : Opened tree parts.dropLast)
    (result : createFile tree parts bytes = .ok made) : Grows tree made [(parts, .file bytes)] := by
  unfold createFile at result
  have split_parts := dropLast_append_getLast given
  rw [getLast?_eq_some_getLast given] at result
  split at result
  · rename_i safe
    split at result
    · rename_i free
      have same := Except.ok.inj result
      rw [← same]
      have grown := grow_one (.file bytes) opened (by simpa using safe)
        (by rw [split_parts]; exact free)
      rw [split_parts] at grown
      exact grown
    · cases result
  · cases result

structure Made (tree made : Tree) (created : Tree) (entries : List Entry) : Prop where
  grows : Grows tree made created
  files : (created.filterMap fun entry => match entry.2 with
    | .file bytes => some (entry.1, bytes)
    | _ => none) = entries.filterMap Entry.regular
  kinds : ∀ entry ∈ created, entry.2 ≠ .other
  named : ∀ entry ∈ created, ∃ member ∈ entries, entry.1 <+: member.parts

def filesOf (created : Tree) : List (List String × List UInt8) :=
  created.filterMap fun entry => match entry.2 with
    | .file bytes => some (entry.1, bytes)
    | _ => none

theorem no_files {created : Tree} (leading : Leading created parts) : filesOf created = [] := by
  unfold filesOf
  apply filterMap_eq_nil_iff.mpr
  intro entry member
  rw [(leading entry member).1]

theorem Made.nothing (tree : Tree) : Made tree tree [] [] := by
  apply Made.mk (Grows.refl tree)
  · rfl
  · intro entry member
    cases member
  · intro entry member
    cases member

theorem Made.directory {tree middle made first second : Tree}
    {entries} (grows : Grows tree middle first) (leading : Leading first parts)
    (later : Made middle made second entries) :
    Made tree made (first ++ second) (.directory parts :: entries) := by
  apply Made.mk (grows.trans later.grows)
  · change filesOf (first ++ second) = _
    unfold filesOf
    rw [filterMap_append]
    change filesOf first ++ filesOf second = _
    rw [no_files leading, nil_append]
    exact later.files
  · intro entry member
    rcases mem_append.mp member with early | late
    · rw [(leading entry early).1]
      simp
    · exact later.kinds entry late
  · intro entry member
    rcases mem_append.mp member with early | late
    · exact ⟨_, mem_cons_self, (leading entry early).2⟩
    · obtain ⟨other, inside, below⟩ := later.named entry late
      exact ⟨other, mem_cons_of_mem _ inside, below⟩

theorem Made.file {tree middle written made first second : Tree} {entries}
    (grows : Grows tree middle first) (leading : Leading first parts)
    (own : Grows middle written [(parts, .file bytes)]) (later : Made written made second entries) :
    Made tree made (first ++ ((parts, .file bytes) :: second)) (.file parts bytes :: entries) := by
  apply Made.mk
  · exact grows.trans (own.trans later.grows)
  · change filesOf (first ++ ((parts, .file bytes) :: second)) = _
    unfold filesOf
    rw [filterMap_append, filterMap_cons, filterMap_cons]
    change filesOf first ++ (parts, bytes) :: filesOf second = _
    rw [no_files leading, nil_append]
    exact congrArg ((parts, bytes) :: ·) later.files
  · intro entry member
    rcases mem_append.mp member with early | late
    · rw [(leading entry early).1]
      simp
    · rcases mem_cons.mp late with same | rest
      · rw [same]
        simp
      · exact later.kinds entry rest
  · intro entry member
    rcases mem_append.mp member with early | late
    · exact ⟨_, mem_cons_self, (leading entry early).2⟩
    · rcases mem_cons.mp late with same | rest
      · rw [same]
        exact ⟨_, mem_cons_self, prefix_rfl⟩
      · obtain ⟨other, inside, below⟩ := later.named entry rest
        exact ⟨other, mem_cons_of_mem _ inside, below⟩

theorem bind_value {Value Next : Type} {first}
    {rest : Value → Except String Next} {result : Next} (done : (first >>= rest) = .ok result) :
    ∃ value, first = .ok value ∧ rest value = .ok result := by
  cases first with
  | error message => cases done
  | ok value => exact ⟨value, rfl, done⟩

theorem placed_parts {pending : Pending} {header : Header}
    (result : place pending header = .ok (.file parts)) : parts ≠ [] := by
  unfold place at result
  obtain ⟨_, -, result⟩ := bind_value result
  obtain ⟨names, -, result⟩ := bind_value result
  obtain ⟨_, -, result⟩ := bind_value result
  split at result
  · cases result
  · split at result
    · split at result
      · cases result
      · cases result
    · rename_i given
      split at result
      · cases result
      · have same := Except.ok.inj result
        rw [← Placement.file.inj same]
        exact given

theorem some_bind {Value Next : Type} {first} {rest : Value → Option Next}
    {result : Next} (done : first.bind rest = some result) :
    ∃ value, first = some value ∧ rest value = some result := Option.bind_eq_some_iff.mp done

theorem ok_option {Value : Type} {first : Except String Value} {value : Value}
    (done : first.toOption = some value) : first = .ok value := by
  cases first with
  | error message => cases done
  | ok other => exact congrArg Except.ok (Option.some.inj done)

theorem flat_archive (left : Nat) : ∀ {bytes rest : List UInt8} {pending : Pending}
    {seen : List (List String)} {tree made : Tree},
    flatMembers left bytes pending seen tree = some (rest, made) → zeros rest = true →
    ∃ entries created, Archive pending bytes entries ∧ Made tree made created entries := by
  have ends : ∀ {bytes rest : List UInt8} {block : List UInt8 × List UInt8} {pending : Pending}
      {tree made : Tree}, takeExact bytes 512 = some block → zeros block.1 = true →
      flatEnd block.2 pending tree = some (rest, made) → zeros rest = true →
      ∃ entries created, Archive pending bytes entries ∧ Made tree made created entries := by
    intro bytes rest block pending tree made first blank result trailing
    unfold flatEnd at result
    obtain ⟨second, taken, result⟩ := some_bind result
    split at result
    · cases result
    · rename_i again
      split at result
      · cases result
      · rename_i settled
        obtain ⟨same_rest, same⟩ := mk.inj (Option.some.inj result)
        rw [not_not] at settled
        rw [settled, ← same]
        rw [← same_rest] at trailing
        exact ⟨[], [], Archive.stop first blank taken (by simpa using again) trailing,
          Made.nothing tree⟩
  induction left with
  | zero =>
    intro bytes rest pending seen tree made result trailing
    unfold flatMembers at result
    obtain ⟨block, first, result⟩ := some_bind result
    split at result
    · rename_i blank
      exact ends first blank result trailing
    · cases result
  | succ left ih =>
    intro bytes rest pending seen tree made result trailing
    unfold flatMembers at result
    obtain ⟨block, first, result⟩ := some_bind result
    split at result
    · rename_i blank
      exact ends first blank result trailing
    · rename_i block_used
      have used : zeros block.1 = false := by simpa using block_used
      obtain ⟨header, read, result⟩ := some_bind result
      split at result
      · rename_i kind
        split at result
        · cases result
        · rename_i small
          obtain ⟨content, taken, result⟩ := some_bind result
          obtain ⟨next, extends_to, result⟩ := some_bind result
          obtain ⟨fill, padded, result⟩ := some_bind result
          obtain ⟨entries, created, archive, builds⟩ := ih result trailing
          exact ⟨entries, created, Archive.extended first used (ok_option read) kind
            (Nat.le_of_not_lt small) taken (ok_option extends_to) padded archive, builds⟩
      · rename_i other_kind
        have kind : header.extended = false := by simpa using other_kind
        obtain ⟨placement, placed, result⟩ := some_bind result
        obtain ⟨after, member_made, result⟩ := some_bind result
        obtain ⟨entries, created, archive, builds⟩ := ih result trailing
        cases placement with
        | root =>
          have same := Option.some.inj member_made
          rw [← same] at archive builds
          exact ⟨entries, created, Archive.root first used (ok_option read) kind
            (ok_option placed) archive, builds⟩
        | directory parts =>
          unfold flatMember at member_made
          obtain ⟨_, -, member_made⟩ := some_bind member_made
          split at member_made
          · cases member_made
          · rename_i without
            obtain ⟨middle, opens, member_made⟩ := some_bind member_made
            have same := Option.some.inj member_made
            rw [← same] at archive builds
            obtain ⟨⟨own, grows, leading⟩, -⟩ :=
              parents_grow parts (opened_root tree) (ok_option opens)
            exact ⟨_, _, Archive.directory first used (ok_option read) kind
              (ok_option placed) (not_not.mp without) archive, builds.directory grows leading⟩
        | file parts =>
          unfold flatMember at member_made
          obtain ⟨_, -, member_made⟩ := some_bind member_made
          obtain ⟨middle, opens, member_made⟩ := some_bind member_made
          obtain ⟨_, -, member_made⟩ := some_bind member_made
          obtain ⟨content, taken, member_made⟩ := some_bind member_made
          obtain ⟨written, creates, member_made⟩ := some_bind member_made
          obtain ⟨fill, padded, member_made⟩ := some_bind member_made
          split at member_made
          · rename_i blank
            have same := Option.some.inj member_made
            rw [← same] at archive builds
            have given := placed_parts (ok_option placed)
            obtain ⟨⟨own, grows, leading⟩, opened⟩ :=
              parents_grow parts.dropLast (opened_root tree) (ok_option opens)
            rw [nil_append] at leading opened
            have file_grows := create_grows given opened (ok_option creates)
            have above : Leading own parts := fun entry inside =>
              ⟨(leading entry inside).1,
                (leading entry inside).2.trans (List.dropLast_prefix _)⟩
            exact ⟨_, _, Archive.file first used (ok_option read) kind (ok_option placed) taken
              padded blank archive, Made.file grows above file_grows builds⟩
          · cases member_made

variable (digest : List UInt8 → String) {gunzip : List UInt8 → Option (List UInt8)}

structure Extracted (options : Options) (wire : List UInt8) (destination made : Tree)
    (result : Result) (bytes : List UInt8) (entries : List Entry) (created : Tree) : Prop where
  expanded : expand gunzip wire = some bytes
  archive : Archive Pending.none bytes entries
  builds : Made destination made created entries
  wireLimit : wire.length ≤ options.maxArtifactBytes
  expandedLimit : bytes.length ≤ options.maxExpandedBytes
  same : result = ⟨digest wire, bytes.length⟩

theorem flat_extracted {options : Options} {wire} {destination made : Tree} {result : Result}
    (done : flatExtract digest gunzip options wire destination = some (result, made)) :
    ∃ bytes entries created, @Extracted digest gunzip options wire destination made result bytes
      entries created := by
  unfold flatExtract at done
  split at done
  · rename_i fits
    obtain ⟨bytes, expanded, done⟩ := some_bind done
    split at done
    · rename_i room
      unfold flatTar at done
      obtain ⟨⟨rest, placed⟩, read, done⟩ := some_bind done
      split at done
      · rename_i trailing
        obtain ⟨_, -, done⟩ := some_bind done
        obtain ⟨same, same_tree⟩ := mk.inj (Option.some.inj done)
        obtain ⟨entries, created, archive, builds⟩ := flat_archive 4096 read trailing
        rw [← same_tree]
        exact ⟨bytes, entries, created,
          ⟨expanded, archive, builds, fits.1.2, room.2, same.symm⟩⟩
      · cases done
    · cases done
  · cases done

/-- The extraction depends on the bytes of the wire alone, and where it succeeds it has made the
members of the archive below the destination and nothing else. -/
theorem extraction_exact (streams : Streams gunzip) (options : Options) (source : List (List UInt8))
    (destination : Tree) (small : ∀ chunk ∈ source, chunk.length ≤ 1048576) :
    (∀ (others : Streams gunzip) (recut : List (List UInt8)),
      (∀ chunk ∈ recut, chunk.length ≤ 1048576) → recut.flatten = source.flatten →
      (extractIntegrationArtifactStream digest others options recut destination).toOption =
        (extractIntegrationArtifactStream digest streams options source destination).toOption) ∧
    ∀ result made, extractIntegrationArtifactStream digest streams options source destination =
        .ok (result, made) →
      ∃ bytes entries created, @Extracted digest gunzip options source.flatten destination made
          result bytes entries created ∧
        ∀ regular, Archive Pending.none bytes regular → regular = entries := by
  have follows := (extraction_follows digest streams options small destination).eq_of_related
  apply And.intro
  · intro others recut recut_small same
    have other := (extraction_follows digest others options recut_small destination).eq_of_related
    rw [other, follows, same]
  · intro result made done
    rw [done] at follows
    obtain ⟨bytes, entries, created, extracted⟩ := flat_extracted digest follows.symm
    exact ⟨bytes, entries, created, extracted,
      fun regular archive => archive_unique archive extracted.archive⟩

def plainStreams : Streams (fun _ => none) where
  deliver parts failure :=
    if isGzip parts.flatten then ([], some (failure.getD "incorrect header check"))
    else (parts.flatten.map ([·]), failure)
  small := by
    intro parts failure chunk member
    split at member
    · cases member
    · obtain ⟨byte, -, same⟩ := mem_map.mp member
      rw [← same]
      simp
  whole := by
    intro parts bytes expanded
    unfold expand at expanded
    split at expanded
    · cases expanded
    · rename_i plain
      rw [if_neg plain]
      have same := Option.some.inj expanded
      rw [← same]
      have singles : ∀ bytes : List UInt8, (bytes.map ([·])).flatten = bytes := by
        intro bytes
        induction bytes with
        | nil => rfl
        | cons byte rest ih =>
          rw [map_cons, flatten_cons, ih]
          rfl
      exact ⟨singles parts.flatten, rfl⟩
  broken := by
    intro parts failure how
    split
    · simp
    · rename_i plain
      rcases how with broken | missing
      · exact broken
      · unfold expand at missing
        rw [if_neg plain] at missing
        cases missing

def blankOptions : Options := ⟨none, 4096, 4096⟩

/-- An archive without members, in one chunk and in three of which one is empty. -/
theorem blank_archive_cut :
    (extractIntegrationArtifactStream (fun _ => "digest") plainStreams blankOptions
      [replicate 1024 0] []).toOption =
    (extractIntegrationArtifactStream (fun _ => "digest") plainStreams blankOptions
      [replicate 24 0, [], replicate 1000 0] []).toOption := by
  have cut := extraction_exact (fun _ => "digest") plainStreams blankOptions
    [replicate 24 0, [], replicate 1000 0] []
    (by simp only [forall_mem_cons, length_replicate, length_nil]; simp)
  apply cut.1 plainStreams
  · simp only [forall_mem_cons, length_replicate]
    simp
  · simp only [flatten_cons, flatten_nil, append_nil, nil_append,
      replicate_append_replicate]

end OpenMapX.Artifacts.ExtractedMembers
