import OpenMapX.Transit.MergedBoard

/-!
# The rows of the merged board

Every listing is folded into one row. A listing of a trip that is listed already can be
folded into that trip's row, and is, unless another row that can take it is at least as
near. What a row holds of one source are repetitions of one departure and of departures
whose trips the row holds.
-/

namespace OpenMapX.Transit.BoardRows

open DedupKeys MergedBoard List

variable {deps : DedupDeps}

def rowFor (deps : DedupDeps) (board : Board) (listing : Listing) : Nat :=
  (findRow deps board listing).getD board.rows.length

def partsAt (board : Board) (row : Nat) : List FoldedDeparture :=
  ((board.rows[row]?).map (·.parts)).getD []

/-- A row can take a listing: it is under one of its keys and taken for the same departure. -/
def CanTake (deps : DedupDeps) (board : Board) (listing : Listing) (row : Nat) : Prop :=
  ∃ entry matched, board.rows[row]? = some entry ∧ (matched, row) ∈ candidates deps board listing ∧
    isSameDeparture deps entry listing matched = true

def gapTo (deps : DedupDeps) (board : Board) (listing : Listing) (row : Nat) : Option Nat :=
  (board.rows[row]?).bind fun entry =>
    timeGap deps entry.departure.scheduledAt listing.departure.scheduledAt

structure Scanned (deps : DedupDeps) (board : Board) (listing : Listing)
    (seen : List (MatchedBy × Nat)) (nearest : Nearest) : Prop where
  found : ∀ row, nearest.existing = some row → CanTake deps board listing row ∧
    gapTo deps board listing row = nearest.distance
  bounded : nearest.distance.isSome → nearest.existing.isSome
  taken : ∀ candidate ∈ seen, ∀ entry, board.rows[candidate.2]? = some entry →
    isSameDeparture deps entry listing candidate.1 = true → nearest.existing.isSome ∧
      ((∀ row entry, board.rows[row]? = some entry → (gapTo deps board listing row).isSome) →
        ∃ least gap, nearest.distance = some least ∧
          gapTo deps board listing candidate.2 = some gap ∧ least ≤ gap)

variable {listing : Listing} {board : Board} {row : Nat}

theorem gap_of_row {entry} (here : board.rows[row]? = some entry) : gapTo deps board listing row =
      timeGap deps entry.departure.scheduledAt listing.departure.scheduledAt := by
  unfold gapTo
  rw [here, Option.bind_some]

theorem scanned_step {seen} {nearest : Nearest} (scanned : Scanned deps board listing seen nearest)
    {candidate} (inside : candidate ∈ candidates deps board listing) :
    Scanned deps board listing (seen ++ [candidate])
      (consider deps board listing nearest candidate) := by
  unfold consider
  split
  · rename_i absent
    apply Scanned.mk
    · exact scanned.found
    · exact scanned.bounded
    · refine forall_mem_append.mpr ⟨scanned.taken, forall_mem_singleton.mpr ?_⟩
      intro entry here same
      rw [absent] at here
      cases here
  · rename_i entry here
    dsimp only
    split
    · rename_i refused
      apply Scanned.mk
      · exact scanned.found
      · exact scanned.bounded
      · intro other member entry' here' same
        rw [mem_append, mem_singleton] at member
        rcases member with earlier | last
        · exact scanned.taken other earlier entry' here' same
        · rw [last, here] at here'
          cases here'
          rw [last] at same ⊢
          -- the candidate is the same departure, so that only its distance refused it
          cases refused with
          | inr differs => exact absurd same differs
          | inl far =>
            unfold atLeast at far
            split at far
            · rename_i gap distance gapHere distanceHere
              apply And.intro
              · apply scanned.bounded
                rw [distanceHere]
                rfl
              · intro _
                refine ⟨distance, gap, distanceHere, ?_, of_decide_eq_true far⟩
                rw [gap_of_row here]
                exact gapHere
            · cases far
    · rename_i accepted
      have same : isSameDeparture deps entry listing candidate.1 = true := by
        by_contra differs
        exact accepted (Or.inr differs)
      apply Scanned.mk
      · intro row given
        cases given
        exact ⟨⟨entry, candidate.1, here, inside, same⟩, gap_of_row here⟩
      · intro _
        rfl
      · intro other member entry' here' same'
        apply And.intro rfl
        intro readable
        have gap := readable candidate.2 entry here
        rw [Option.isSome_iff_exists] at gap
        obtain ⟨least, gap⟩ := gap
        rw [gap_of_row here] at gap
        rw [mem_append, mem_singleton] at member
        cases member with
        | inr last =>
          rw [last, gap_of_row here]
          exact ⟨least, least, gap, gap, le_rfl⟩
        | inl earlier =>
          obtain ⟨before, rest⟩ := (scanned.taken other earlier entry' here' same').2 readable
          obtain ⟨other', given⟩ := rest
          refine ⟨least, other', gap, given.2.1, ?_⟩
          have nearer : ¬ atLeast (some least) nearest.distance = true := by
            intro far
            rw [← gap] at far
            exact accepted (Or.inl far)
          rw [given.1] at nearer
          unfold atLeast at nearer
          rw [decide_eq_true_eq] at nearer
          omega

theorem scanned_all (rest) (inside : ∀ candidate ∈ rest, candidate ∈ candidates deps board listing)
    (seen) (nearest : Nearest) (scanned : Scanned deps board listing seen nearest) :
    Scanned deps board listing (seen ++ rest)
      (rest.foldl (consider deps board listing) nearest) := by
  induction rest generalizing seen nearest with
  | nil =>
    rw [append_nil]
    exact scanned
  | cons candidate rest ih =>
    have here := scanned_step scanned (inside candidate mem_cons_self)
    have onward := ih (fun other member => inside other (mem_cons_of_mem candidate member))
      _ _ here
    rw [append_assoc, singleton_append] at onward
    exact onward

theorem candidates_scanned : Scanned deps board listing (candidates deps board listing)
    ((candidates deps board listing).foldl (consider deps board listing)
      { existing := none, distance := none }) := by
  have start : Scanned deps board listing [] { existing := none, distance := none } := by
    apply Scanned.mk
    · intro other given
      cases given
    · intro given
      cases given
    · intro candidate member
      cases member
  exact scanned_all (candidates deps board listing) (fun candidate member => member) [] _ start

theorem find_row_takes
    (found : findRow deps board listing = some row) : CanTake deps board listing row := by
  exact (candidates_scanned.found row found).1

theorem find_row_nearest (takes : CanTake deps board listing row) :
    ∃ other, findRow deps board listing = some other ∧
      ((∀ row entry, board.rows[row]? = some entry → (gapTo deps board listing row).isSome) →
        ∃ least gap, gapTo deps board listing other = some least ∧
          gapTo deps board listing row = some gap ∧ least ≤ gap) := by
  have scanned := @candidates_scanned deps listing board
  obtain ⟨entry, rest⟩ := takes
  obtain ⟨matched, given⟩ := rest
  have taken := scanned.taken (matched, row) given.2.1 entry given.1 given.2.2
  rw [Option.isSome_iff_exists] at taken
  obtain ⟨other, found⟩ := taken.1
  apply Exists.intro other
  apply And.intro found
  intro readable
  obtain ⟨least, gap, known⟩ := taken.2 readable
  have same := (scanned.found other found).2
  rw [known.1] at same
  exact ⟨least, gap, same, known.2.1, known.2.2⟩

theorem row_for_bound
    (found : findRow deps board listing = some row) : row < board.rows.length := by
  obtain ⟨entry, matched, given⟩ := find_row_takes found
  exact (List.getElem?_eq_some_iff.mp given.1).1

theorem fold_length (board : Board) (listing : Listing) :
    board.rows.length ≤ (foldListing deps board listing).rows.length ∧
      rowFor deps board listing < (foldListing deps board listing).rows.length := by
  unfold foldListing rowFor
  split
  · rename_i nowhere
    rw [nowhere]
    simp
  · rename_i row found
    rw [found]
    have bound := row_for_bound found
    simp only [length_modify, Option.getD_some]
    exact ⟨le_rfl, bound⟩

theorem parts_after (board : Board) (listing : Listing) (row : Nat) :
    partsAt (foldListing deps board listing) row =
      partsAt board row ++ if rowFor deps board listing = row then [partOf listing] else [] := by
  unfold partsAt foldListing rowFor
  split
  · rename_i nowhere
    rw [nowhere, Option.getD_none]
    dsimp only
    rw [getElem?_append]
    split
    · rename_i before
      rw [if_neg (by omega), append_nil]
    · rename_i beyond
      rw [getElem?_eq_none (not_lt.mp beyond)]
      by_cases last : board.rows.length = row
      · rw [if_pos last, last, Nat.sub_self]
        rfl
      · rw [if_neg last, getElem?_eq_none (by simp; omega)]
        rfl
  · rename_i found here
    rw [here, Option.getD_some]
    have bound := row_for_bound here
    dsimp only
    rw [getElem?_modify]
    by_cases same : found = row
    · simp only [if_pos same]
      rw [← same, getElem?_eq_getElem bound]
      rfl
    · simp only [if_neg same, append_nil]
      simp

theorem entry_shape {entry}
    (here : board.rows[row]? = some entry) : partsAt board row = entry.parts := by
  unfold partsAt
  rw [here]
  rfl

def rowAt (deps : DedupDeps) (listings : List Listing) (place : Nat) : Option Nat :=
  (listings[place]?).map (rowFor deps (mergeListings deps (listings.take place)))

variable (listings : List Listing)

theorem merge_snoc (listing : Listing) : mergeListings deps (listings ++ [listing]) =
      foldListing deps (mergeListings deps listings) listing := by
  unfold mergeListings
  rw [foldl_append, foldl_cons, foldl_nil]

theorem row_at_before (listing : Listing) {place : Nat} (before : place < listings.length) :
    rowAt deps (listings ++ [listing]) place = rowAt deps listings place := by
  unfold rowAt
  rw [getElem?_append_left before, take_append_of_le_length before.le]

theorem row_at_last (listing : Listing) : rowAt deps (listings ++ [listing]) listings.length =
      some (rowFor deps (mergeListings deps listings) listing) := by
  unfold rowAt
  rw [getElem?_concat_length, take_left]
  rfl

theorem parts_of_row (row : Nat) : partsAt (mergeListings deps listings) row =
      (listings.zipIdx.filter fun item => rowAt deps listings item.2 = some row).map
        fun item => partOf item.1 := by
  induction listings using reverseRecOn with
  | nil => rfl
  | append_singleton listings listing ih =>
    have earlier : (listings.zipIdx.filter fun item =>
          rowAt deps (listings ++ [listing]) item.2 = some row) =
        listings.zipIdx.filter fun item => rowAt deps listings item.2 = some row := by
      apply filter_congr
      intro item member
      have bound := snd_lt_of_mem_zipIdx member
      rw [row_at_before listings listing (by omega)]
    rw [merge_snoc, parts_after, ih, zipIdx_append, filter_append, earlier,
      map_append]
    congr 1
    simp only [zipIdx_singleton, Nat.zero_add, filter_singleton, row_at_last,
      Option.some.injEq]
    split
    · rename_i here
      rw [decide_eq_true here]
      rfl
    · rename_i elsewhere
      rw [decide_eq_false elsewhere]
      rfl

theorem row_at_bound {place : Nat} (inside : place < listings.length) :
    ∃ row < (mergeListings deps listings).rows.length, rowAt deps listings place = some row := by
  induction listings using reverseRecOn with
  | nil => cases inside
  | append_singleton listings listing ih =>
    have grows := @fold_length deps (mergeListings deps listings) listing
    rw [merge_snoc]
    by_cases before : place < listings.length
    · rw [row_at_before listings listing before]
      obtain ⟨row, given⟩ := ih before
      exact ⟨row, by omega, given.2⟩
    · rw [length_append, length_singleton] at inside
      have last : place = listings.length := by omega
      rw [last, row_at_last]
      exact ⟨_, grows.2, rfl⟩

def lineKey (deps : DedupDeps) (dep : Departure) : String :=
  deps.normalizeShortName dep.shortName ++ ":" ++ (bucketTimestamps deps dep.scheduledAt).1

theorem line_key_own (dep : Departure) : lineKey deps dep ∈ ownKeys deps dep := mem_cons_self

theorem line_key_lookup (dep : Departure) : lineKey deps dep ∈ lookupKeys deps dep :=
  mem_append_left _ (line_key_own dep)

theorem register_keeps {byKey entry} (row : Nat) (keys : List String) (known : entry ∈ byKey) :
    entry ∈ register byKey row keys := by
  unfold register
  induction keys generalizing byKey with
  | nil => exact known
  | cons key keys ih =>
    rw [foldl_cons]
    apply ih
    unfold registerKey
    split
    · exact known
    · exact mem_append_left _ known

theorem register_adds {byKey} {key : String} (row : Nat)
    {keys} (member : key ∈ keys) : (key, row) ∈ register byKey row keys := by
  induction keys generalizing byKey with
  | nil => cases member
  | cons first keys ih =>
    rw [mem_cons] at member
    rcases member with same | later
    · have here : (key, row) ∈ registerKey row byKey first := by
        unfold registerKey
        rw [← same]
        split
        · rename_i known
          exact known
        · exact mem_append_right _ mem_cons_self
      exact register_keeps row keys here
    · exact ih later

structure ListsTrip (deps : DedupDeps) (board : Board) (row : Nat) (listing : Listing) : Prop where
  key : (lineKey deps listing.departure, row) ∈ board.byKey
  trip : ∃ part ∈ partsAt board row, part.tripId = listing.departure.tripId

theorem lists_after (board : Board) (listing : Listing) :
    ListsTrip deps (foldListing deps board listing) (rowFor deps board listing) listing := by
  apply ListsTrip.mk
  · unfold foldListing rowFor
    split
    · rename_i nowhere
      rw [nowhere]
      exact register_adds _ (line_key_own _)
    · rename_i row found
      rw [found]
      exact register_adds _ (line_key_lookup _)
  · rw [parts_after, if_pos rfl]
    exact ⟨partOf listing, mem_append_right _ mem_cons_self, rfl⟩

theorem lists_still (lists : ListsTrip deps board row listing) (other : Listing) :
    ListsTrip deps (foldListing deps board other) row listing := by
  apply ListsTrip.mk
  · unfold foldListing
    split
    · exact register_keeps _ _ lists.key
    · exact register_keeps _ _ lists.key
  · obtain ⟨part, given⟩ := lists.trip
    rw [parts_after]
    exact ⟨part, mem_append_left _ given.1, given.2⟩

/-- The trip id, scheduled time, line name and headsign of two listings are the same. -/
structure SameTrip (first second : Listing) : Prop where
  named : second.departure.tripId ≠ ""
  tripId : first.departure.tripId = second.departure.tripId
  scheduledAt : first.departure.scheduledAt = second.departure.scheduledAt
  shortName : first.departure.shortName = second.departure.shortName
  headsign : first.departure.headsign = second.departure.headsign

theorem listed_takes {first second : Listing} (lists : ListsTrip deps board row first)
    (same : SameTrip first second) : CanTake deps board second row := by
  obtain ⟨part, given⟩ := lists.trip
  cases here : board.rows[row]? with
  | none =>
    have none_ := given.1
    unfold partsAt at none_
    rw [here] at none_
    cases none_
  | some entry =>
    rw [entry_shape here] at given
    refine ⟨entry, matchedBy (lineKey deps second.departure), here, ?_, ?_⟩
    · unfold candidates
      rw [mem_flatMap]
      refine ⟨lineKey deps second.departure, line_key_lookup _, ?_⟩
      rw [mem_map]
      refine ⟨row, ?_, rfl⟩
      unfold rowsUnder
      rw [mem_map]
      refine ⟨(lineKey deps second.departure, row), ?_, rfl⟩
      rw [mem_filter]
      have key := lists.key
      unfold lineKey at key ⊢
      rw [same.shortName, same.scheduledAt] at key
      exact ⟨key, decide_eq_true rfl⟩
    · unfold isSameDeparture
      dsimp only
      apply if_pos
      apply And.intro same.named
      rw [any_eq_true]
      exact ⟨part, given.1, beq_iff_eq.mpr (given.2.trans same.tripId)⟩

theorem lists_later (listings rest : List Listing)
    (lists : ListsTrip deps (mergeListings deps listings) row listing) :
    ListsTrip deps (mergeListings deps (listings ++ rest)) row listing := by
  induction rest using reverseRecOn with
  | nil =>
    rw [append_nil]
    exact lists
  | append_singleton rest other ih =>
    rw [← append_assoc, merge_snoc]
    exact lists_still ih other

theorem lists_at {first second row : Nat} (order : first < second)
    (here : listings[first]? = some listing) (placed : rowAt deps listings first = some row) :
    ListsTrip deps (mergeListings deps (listings.take second)) row listing := by
  have bound := (List.getElem?_eq_some_iff.mp here).1
  have parts : listings.take second =
      (listings.take first ++ [listing]) ++ (listings.take second).drop (first + 1) := by
    have upTo : listings.take (first + 1) = listings.take first ++ [listing] := by
      rw [take_add_one, here]
      rfl
    have whole := take_append_drop (first + 1) (listings.take second)
    rw [take_take, min_eq_left (by omega), upTo] at whole
    exact whole.symm
  unfold rowAt at placed
  rw [here, Option.map_some] at placed
  cases placed
  rw [parts]
  apply lists_later
  rw [merge_snoc]
  exact lists_after _ listing

def Readable (deps : DedupDeps) (listing : Listing) : Prop :=
  (deps.parseDate listing.departure.scheduledAt).isSome

theorem rows_readable (readable : ∀ listing ∈ listings, Readable deps listing) :
    ∀ entry ∈ (mergeListings deps listings).rows,
      (deps.parseDate entry.departure.scheduledAt).isSome := by
  induction listings using reverseRecOn with
  | nil =>
    intro entry member
    cases member
  | append_singleton listings listing ih =>
    have before := ih fun other member => readable other (mem_append_left _ member)
    have here := readable listing (mem_append_right _ mem_cons_self)
    rw [merge_snoc]
    unfold foldListing
    split
    · exact forall_mem_append.mpr ⟨before, forall_mem_singleton.mpr here⟩
    · rename_i row found
      intro entry member
      rw [mem_iff_getElem?] at member
      obtain ⟨index, at_⟩ := member
      dsimp only at at_
      rw [getElem?_modify] at at_
      cases old : (mergeListings deps listings).rows[index]? with
      | none =>
        rw [old] at at_
        cases at_
      | some entry' =>
        have known := before entry' (mem_of_getElem? old)
        rw [old] at at_
        have same := Option.some.inj at_
        rw [← same]
        dsimp only
        split
        · unfold mergeInto
          dsimp only
          split
          · exact here
          · exact known
        · exact known

theorem gaps_readable (listing : Listing) (readable : ∀ listing ∈ listings, Readable deps listing)
    (here : Readable deps listing) (row : Nat) (entry : MergedDeparture)
    (at_ : (mergeListings deps listings).rows[row]? = some entry) :
    (gapTo deps (mergeListings deps listings) listing row).isSome := by
  have known := rows_readable listings readable entry (mem_of_getElem? at_)
  unfold Readable at here
  rw [gap_of_row at_]
  rw [Option.isSome_iff_exists] at known here
  obtain ⟨first, known⟩ := known
  obtain ⟨second, here⟩ := here
  unfold timeGap
  rw [known, here]
  rfl

theorem listed_again {first second row : Nat} {d e : Listing}
    (order : first < second) (inFirst : listings[first]? = some d)
    (inSecond : listings[second]? = some e) (same : SameTrip d e)
    (placed : rowAt deps listings first = some row) : rowAt deps listings second = some row ∨
    ∃ other, other ≠ row ∧ rowAt deps listings second = some other ∧
      CanTake deps (mergeListings deps (listings.take second)) e other ∧
      ((∀ listing ∈ listings, Readable deps listing) →
        ∃ least gap, gapTo deps (mergeListings deps (listings.take second)) e other = some least ∧
          gapTo deps (mergeListings deps (listings.take second)) e row = some gap ∧
          least ≤ gap) := by
  have takes := listed_takes (lists_at listings order inFirst placed) same
  obtain ⟨other, found⟩ := find_row_nearest takes
  have there : rowAt deps listings second = some other := by
    unfold rowAt rowFor
    rw [inSecond, Option.map_some, found.1]
    rfl
  by_cases equal : other = row
  · rw [equal] at there
    exact Or.inl there
  · apply Or.inr
    refine ⟨other, equal, there, find_row_takes found.1, ?_⟩
    intro readable
    apply found.2
    intro index entry at_
    apply gaps_readable _ _ _ _ index entry at_
    · intro listing member
      exact readable listing (mem_of_mem_take member)
    · exact readable e (mem_of_getElem? inSecond)

section

variable (deps)

def RepeatsIn (parts : List FoldedDeparture) (later earlier : FoldedDeparture) : Prop :=
  earlier ∈ parts ∧ earlier.provider = later.provider ∧ repeats deps earlier later.departure = true

/-- Why a departure is in a row: it has the trip of an earlier one, repeats an earlier one
of its source, or is the first of its source. -/
structure Explained (parts : List FoldedDeparture) : Prop where
  why : ∀ (place : Nat) (part : FoldedDeparture), parts[place]? = some part →
    (∃ (earlier : Nat) (other : FoldedDeparture), earlier < place ∧
      parts[earlier]? = some other ∧ part.tripId ≠ "" ∧ other.tripId = part.tripId) ∨
    (∃ (earlier : Nat) (other : FoldedDeparture), earlier < place ∧
      parts[earlier]? = some other ∧ RepeatsIn deps parts part other) ∨
    ∀ (earlier : Nat) (other : FoldedDeparture), earlier < place →
      parts[earlier]? = some other → other.provider ≠ part.provider
  own : ∀ part ∈ parts, part.tripId = part.departure.tripId ∧
    part.scheduledAt = part.departure.scheduledAt

variable {deps}

theorem explained_one (listing : Listing) : Explained deps [partOf listing] := by
  apply Explained.mk
  · intro place part here
    have first : place = 0 := by
      have bound := (List.getElem?_eq_some_iff.mp here).1
      rw [length_singleton] at bound
      omega
    apply Or.inr
    apply Or.inr
    intro earlier other before
    omega
  · intro part member
    rw [mem_singleton] at member
    rw [member]
    exact ⟨rfl, rfl⟩

theorem explained_push {entry} {listing : Listing} {matched}
    (explained : Explained deps entry.parts)
    (same : isSameDeparture deps entry listing matched = true) :
    Explained deps (entry.parts ++ [partOf listing]) := by
  have kept : ∀ (place : Nat) (part : FoldedDeparture), entry.parts[place]? = some part →
      (entry.parts ++ [partOf listing])[place]? = some part := by
    intro place part here
    rw [getElem?_append_left (List.getElem?_eq_some_iff.mp here).1]
    exact here
  apply Explained.mk
  · intro place part here
    by_cases before : place < entry.parts.length
    · rw [getElem?_append_left before] at here
      rcases explained.why place part here with trip | rest
      · obtain ⟨earlier, rest⟩ := trip
        obtain ⟨other, given⟩ := rest
        exact Or.inl ⟨earlier, other, given.1, kept _ _ given.2.1, given.2.2⟩
      · apply Or.inr
        rcases rest with repeated | first
        · obtain ⟨earlier, other, given⟩ := repeated
          exact Or.inl ⟨earlier, other, given.1, kept _ _ given.2.1,
            mem_append_left _ given.2.2.1, given.2.2.2⟩
        · apply Or.inr
          intro earlier other order at_
          rw [getElem?_append_left (by omega)] at at_
          exact first earlier other order at_
    · have bound := (List.getElem?_eq_some_iff.mp here).1
      rw [length_append, length_singleton] at bound
      have last : place = entry.parts.length := by omega
      rw [last, getElem?_concat_length] at here
      cases here
      have found : ∀ part ∈ entry.parts, ∃ earlier, earlier < place ∧
          (entry.parts ++ [partOf listing])[earlier]? = some part := by
        intro part member
        rw [mem_iff_getElem?] at member
        obtain ⟨earlier, at_⟩ := member
        have bound := (List.getElem?_eq_some_iff.mp at_).1
        exact ⟨earlier, by omega, kept _ _ at_⟩
      unfold isSameDeparture at same
      dsimp only at same
      split at same
      · rename_i trip
        apply Or.inl
        rw [any_eq_true] at trip
        obtain ⟨part, given⟩ := trip.2
        obtain ⟨earlier, at_⟩ := found part given.1
        exact ⟨earlier, part, at_.1, at_.2, trip.1, beq_iff_eq.mp given.2⟩
      · apply Or.inr
        split at same
        · apply Or.inl
          rw [any_eq_true] at same
          obtain ⟨part, given⟩ := same
          rw [mem_filter, decide_eq_true_eq] at given
          obtain ⟨earlier, at_⟩ := found part given.1.1
          exact ⟨earlier, part, at_.1, at_.2, mem_append_left _ given.1.1, given.1.2,
            given.2⟩
        · rename_i alone
          apply Or.inr
          intro earlier other order at_ source
          rw [getElem?_append_left (by omega)] at at_
          apply alone
          have member : other ∈ entry.parts.filter fun part => part.provider = listing.provider := by
            rw [mem_filter, decide_eq_true_eq]
            exact ⟨mem_of_getElem? at_, source⟩
          exact ne_nil_of_mem member
  · exact forall_mem_append.mpr ⟨explained.own, forall_mem_singleton.mpr ⟨rfl, rfl⟩⟩

theorem rows_explained (listings : List Listing) :
    ∀ entry ∈ (mergeListings deps listings).rows, Explained deps entry.parts := by
  induction listings using reverseRecOn with
  | nil =>
    intro entry member
    cases member
  | append_singleton listings listing ih =>
    rw [merge_snoc]
    unfold foldListing
    split
    · exact forall_mem_append.mpr ⟨ih, forall_mem_singleton.mpr (explained_one listing)⟩
    · rename_i row found
      intro entry member
      rw [mem_iff_getElem?] at member
      obtain ⟨index, at_⟩ := member
      dsimp only at at_
      rw [getElem?_modify] at at_
      cases old : (mergeListings deps listings).rows[index]? with
      | none =>
        rw [old] at at_
        cases at_
      | some entry' =>
        rw [old] at at_
        have same := Option.some.inj at_
        rw [← same]
        dsimp only
        split
        · rename_i here
          obtain ⟨taken, matched, given⟩ := find_row_takes found
          rw [here, old] at given
          cases given.1
          exact explained_push (ih entry' (mem_of_getElem? old)) given.2.2
        · exact ih entry' (mem_of_getElem? old)

variable {parts : List FoldedDeparture}

/-- A departure leads through repetitions, all at its time, to one that shares its trip
with another one, or to the first of its source. -/
theorem leads_back (explained : Explained deps parts) (place : Nat) (part : FoldedDeparture)
    (here : parts[place]? = some part) :
    ∃ (origin : Nat) (root : FoldedDeparture), origin ≤ place ∧ parts[origin]? = some root ∧
      Relation.ReflTransGen (RepeatsIn deps parts) part root ∧ root.provider = part.provider ∧
      root.scheduledAt = part.scheduledAt ∧
      ((∃ (earlier : Nat) (other : FoldedDeparture), earlier < origin ∧
          parts[earlier]? = some other ∧ root.tripId ≠ "" ∧ other.tripId = root.tripId) ∨
        ∀ (earlier : Nat) (other : FoldedDeparture), earlier < origin →
          parts[earlier]? = some other → other.provider ≠ root.provider) := by
  induction place using Nat.strong_induction_on generalizing part with
  | _ place ih =>
    rcases explained.why place part here with trip | rest
    · exact ⟨place, part, le_rfl, here, .refl, rfl, rfl, Or.inl trip⟩
    · cases rest with
      | inr first => exact ⟨place, part, le_rfl, here, .refl, rfl, rfl, Or.inr first⟩
      | inl repeated =>
        obtain ⟨earlier, rest⟩ := repeated
        obtain ⟨other, given⟩ := rest
        obtain ⟨origin, root, leads⟩ := ih earlier given.1 other given.2.1
        have time : other.scheduledAt = part.scheduledAt := by
          have same := given.2.2.2.2
          unfold repeats at same
          simp only [Bool.and_eq_true, beq_iff_eq] at same
          rw [same.1.1.1]
          exact (explained.own part (mem_of_getElem? here)).2.symm
        exact ⟨origin, root, leads.1.trans given.1.le, leads.2.1,
          .head given.2.2 leads.2.2.1, leads.2.2.2.1.trans given.2.2.2.1,
          leads.2.2.2.2.1.trans time, leads.2.2.2.2.2⟩

/-- One of two departures repeats, itself or in turn, one whose trip another one has. -/
def SharesTrip (deps : DedupDeps) (parts : List FoldedDeparture) (p q : FoldedDeparture) : Prop :=
  ∃ (place other : Nat) (root sharing : FoldedDeparture), place ≠ other ∧
    parts[place]? = some root ∧ parts[other]? = some sharing ∧ root.tripId ≠ "" ∧
    sharing.tripId = root.tripId ∧ root.provider = p.provider ∧
    (Relation.ReflTransGen (RepeatsIn deps parts) p root ∨
      Relation.ReflTransGen (RepeatsIn deps parts) q root)

theorem one_source_shares (explained : Explained deps parts) {first second : Nat}
    {p q} (inFirst : parts[first]? = some p) (inSecond : parts[second]? = some q)
    (source : p.provider = q.provider) (times : p.scheduledAt ≠ q.scheduledAt) :
    SharesTrip deps parts p q := by
  obtain ⟨origin, rest⟩ := leads_back explained first p inFirst
  obtain ⟨root, fromP⟩ := rest
  obtain ⟨origin', rest⟩ := leads_back explained second q inSecond
  obtain ⟨root', fromQ⟩ := rest
  rcases fromP.2.2.2.2.2 with trip | isFirst
  · obtain ⟨earlier, rest⟩ := trip
    obtain ⟨other, given⟩ := rest
    exact ⟨origin, earlier, root, other, by omega, fromP.2.1, given.2.1, given.2.2.1,
      given.2.2.2, fromP.2.2.2.1, Or.inl fromP.2.2.1⟩
  · cases fromQ.2.2.2.2.2 with
    | inl trip =>
      obtain ⟨earlier, other, given⟩ := trip
      exact ⟨origin', earlier, root', other, by omega, fromQ.2.1, given.2.1,
        given.2.2.1, given.2.2.2, fromQ.2.2.2.1.trans source.symm,
        Or.inr fromQ.2.2.1⟩
    | inr isFirst' =>
      -- both would be the first of the source, at two times
      have sources : root.provider = root'.provider := by
        rw [fromP.2.2.2.1, fromQ.2.2.2.1, source]
      have notBefore : ¬ origin' < origin := fun order =>
        isFirst origin' root' order fromQ.2.1 sources.symm
      have notAfter : ¬ origin < origin' := fun order =>
        isFirst' origin root order fromP.2.1 sources
      have one : origin = origin' := by omega
      have equal := fromP.2.1
      rw [one, fromQ.2.1] at equal
      cases equal
      exact absurd (fromP.2.2.2.2.1.symm.trans fromQ.2.2.2.2.1) times

end

theorem built_rows {stops rows} (built : buildMergedTimetable deps stops = .ok rows) :
    rows = (mergeListings deps (listingsOf stops)).rows := by
  unfold buildMergedTimetable at built
  split at built
  · rename_i empty
    cases built
    rw [empty]
    rfl
  · split at built
    · cases built
    · cases built
      rfl

/-- Every listing is in one row; a trip that is listed again joins its row or another one
that is no farther; and departures of one source at two times are in one row only for a
trip that one of them, or one that it repeats, shares with another departure of the row. -/
theorem merged_board_rows (deps : DedupDeps) (stops : List StopBoard) (rows : List MergedDeparture)
    (built : buildMergedTimetable deps stops = .ok rows) : (∀ place < (listingsOf stops).length,
      ∃ row < rows.length, rowAt deps (listingsOf stops) place = some row) ∧
    (∀ (row : Nat) (entry : MergedDeparture), rows[row]? = some entry →
      entry.parts = ((listingsOf stops).zipIdx.filter fun item =>
        rowAt deps (listingsOf stops) item.2 = some row).map fun item => partOf item.1) ∧
    (∀ (first second row : Nat) (d e : Listing), first < second →
      (listingsOf stops)[first]? = some d → (listingsOf stops)[second]? = some e →
      SameTrip d e → rowAt deps (listingsOf stops) first = some row →
      rowAt deps (listingsOf stops) second = some row ∨
      ∃ other, other ≠ row ∧ rowAt deps (listingsOf stops) second = some other ∧
        CanTake deps (mergeListings deps ((listingsOf stops).take second)) e other ∧
        ((∀ listing ∈ listingsOf stops, Readable deps listing) → ∃ least gap,
          gapTo deps (mergeListings deps ((listingsOf stops).take second)) e other = some least ∧
          gapTo deps (mergeListings deps ((listingsOf stops).take second)) e row = some gap ∧
          least ≤ gap)) ∧
    ∀ (row first second : Nat) (entry : MergedDeparture) (p q : FoldedDeparture),
      rows[row]? = some entry → entry.parts[first]? = some p → entry.parts[second]? = some q →
      p.provider = q.provider → p.scheduledAt ≠ q.scheduledAt →
      SharesTrip deps entry.parts p q := by
  rw [built_rows built]
  refine ⟨?_, ?_, ?_, ?_⟩
  · intro place inside
    exact row_at_bound _ inside
  · intro row entry here
    rw [← entry_shape here]
    exact parts_of_row _ row
  · intro first second row d e order inFirst inSecond same placed
    exact listed_again _ order inFirst inSecond same placed
  · intro row first second entry p q here inFirst inSecond source times
    exact one_source_shares (rows_explained _ entry (mem_of_getElem? here)) inFirst inSecond
      source times

def minuteText (minute : Nat) : String :=
  "2024-03-10T12:" ++ (if minute < 10 then "0" else "") ++ toString minute ++ ":00.000Z"

def noon : Int := 1710072000000

def plainDeps : DedupDeps :=
  { normalizeName := id
    normalizeShortName := id
    diceSimilarity := fun _ _ => 0
    isLetter := Char.isAlpha
    parseDate := fun ts => ((range 60).find? fun minute => minuteText minute = ts).map
      fun minute : Nat => noon + minute * 60000
    toISOString := fun ms => some (minuteText ((ms - noon) / 60000).toNat) }

def lineOne (provider tripId : String) (minute : Nat) (platform : Option String) : Listing :=
  { provider := provider
    departure :=
      { tripId := tripId, shortName := "1", headsign := "", scheduledAt := minuteText minute
        expectedAt := none, delaySeconds := none, platform := platform
        scheduledPlatform := none, canceled := false, remarks := [], feedTag := none } }

def stopOf (listing : Listing) : StopBoard :=
  { provider := listing.provider, departures := some [listing.departure] }

/-- Two copies of one trip, from a station and its platform. -/
theorem copies_in_one_row :
    (rowAt plainDeps [lineOne "p" "a" 20 none, lineOne "q" "a" 20 none] 1 = some 0 ∨
      ∃ other, other ≠ 0 ∧
        rowAt plainDeps [lineOne "p" "a" 20 none, lineOne "q" "a" 20 none] 1 = some other) := by
  have rows := (merged_board_rows plainDeps
    [stopOf (lineOne "p" "a" 20 none), stopOf (lineOne "q" "a" 20 none)]
    (mergeListings plainDeps [lineOne "p" "a" 20 none, lineOne "q" "a" 20 none]).rows rfl).2.2.1
    0 1 0 (lineOne "p" "a" 20 none) (lineOne "q" "a" 20 none) (by decide) rfl rfl
    ⟨by decide, rfl, rfl, rfl, rfl⟩ (by decide +kernel)
  rcases rows with same | apart
  · exact Or.inl same
  · obtain ⟨other, given⟩ := apart
    exact Or.inr ⟨other, given.1, given.2.1⟩

/-- A trip of two providers is split when another row at its time is found first, and a
row can hold two departures of one source through the repetition of a third one. -/
theorem trip_split_and_sources_joined :
    (rowAt plainDeps [lineOne "p" "a" 20 (some "1"), lineOne "p" "b" 20 (some "2"),
        lineOne "q" "b" 20 (some "2")] 1 = some 1 ∧
      rowAt plainDeps [lineOne "p" "a" 20 (some "1"), lineOne "p" "b" 20 (some "2"),
        lineOne "q" "b" 20 (some "2")] 2 = some 0) ∧
    (mergeListings plainDeps [lineOne "p" "a" 20 none, lineOne "q" "c" 20 none,
        lineOne "p" "c" 21 none, lineOne "p" "b" 21 none]).rows.map
      (fun row => row.parts.map fun part => (part.provider, part.tripId, part.scheduledAt)) =
      [[("p", "a", minuteText 20), ("q", "c", minuteText 20), ("p", "c", minuteText 21),
        ("p", "b", minuteText 21)]] := by
  decide +kernel

end OpenMapX.Transit.BoardRows
