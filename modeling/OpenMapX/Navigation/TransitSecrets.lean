import OpenMapX.Foundation.JsonValue

/-!
# Transit secrets

`stripTransitSecretsForSnapshot` and what it hides. `mask` is a value as seen by
somebody who may not read what stands under a secret key, at any depth;
`deeperThan` lists the parts that `strip` hands out as they are because they are
nested too deeply. Among values with one mask, `strip` tells two apart exactly
where those parts differ.
-/

namespace OpenMapX.Navigation.TransitSecrets

open Foundation.JsonValue List

def SECRET_KEYS : List String := ["refreshToken", "refresh_token", "token"]

/-- The depth below which `strip` no longer descends. -/
def MAX_STRIP_DEPTH : Nat := 32

/-- The members that `strip` copies. An assignment to `__proto__` sets the
prototype of the copy and leaves no member. -/
def copiesKey (key : String) : Bool := !SECRET_KEYS.contains key && key != "__proto__"

mutual

def strip (value : Json) (depth : Nat) : Json :=
  match value with
  | .array items =>
    if MAX_STRIP_DEPTH < depth then .array items else .array (stripItems items (depth + 1))
  | .object members =>
    if MAX_STRIP_DEPTH < depth then .object members
    else .object (stripMembers members (depth + 1))
  | value => value

def stripItems (items : List Json) (depth : Nat) : List Json :=
  match items with
  | [] => []
  | item :: rest => strip item depth :: stripItems rest depth

def stripMembers (members : List (String × Json)) (depth : Nat) : List (String × Json) :=
  match members with
  | [] => []
  | (key, child) :: rest =>
    if copiesKey key then (key, strip child depth) :: stripMembers rest depth
    else stripMembers rest depth

end

def stripTransitSecretsForSnapshot (value : Json) : Json := strip value 0

mutual

def mask : Json → Json
  | .array items => .array (maskItems items)
  | .object members => .object (maskMembers members)
  | value => value

def maskItems : List Json → List Json
  | [] => []
  | item :: rest => mask item :: maskItems rest

def maskMembers : List (String × Json) → List (String × Json)
  | [] => []
  | (key, child) :: rest =>
    (key, if SECRET_KEYS.contains key then .null else mask child) :: maskMembers rest

end

mutual

/-- The arrays and objects of `value` that `strip` reaches below its depth limit. -/
def deeperThan (value : Json) (depth : Nat) : List Json :=
  match value with
  | .array items =>
    if MAX_STRIP_DEPTH < depth then [.array items] else deeperItems items (depth + 1)
  | .object members =>
    if MAX_STRIP_DEPTH < depth then [.object members] else deeperMembers members (depth + 1)
  | _ => []

def deeperItems (items : List Json) (depth : Nat) : List Json :=
  match items with
  | [] => []
  | item :: rest => deeperThan item depth ++ deeperItems rest depth

def deeperMembers (members : List (String × Json)) (depth : Nat) : List Json :=
  match members with
  | [] => []
  | (key, child) :: rest =>
    if copiesKey key then deeperThan child depth ++ deeperMembers rest depth
    else deeperMembers rest depth

end

theorem copied_not_secret {key : String} (copied : copiesKey key = true) :
    SECRET_KEYS.contains key = false := by
  unfold copiesKey at copied
  rw [Bool.and_eq_true, Bool.not_eq_true'] at copied
  exact copied.1

mutual

theorem deeper_count_mask (value : Json) (depth : Nat) :
    (deeperThan (mask value) depth).length = (deeperThan value depth).length := by
  cases value with
  | array items =>
    rw [mask, deeperThan, deeperThan]
    split
    · rfl
    · exact deeper_items_count items (depth + 1)
  | object members =>
    rw [mask, deeperThan, deeperThan]
    split
    · rfl
    · exact deeper_members_count members (depth + 1)
  | _ => simp [mask, deeperThan]

theorem deeper_items_count (items : List Json) (depth : Nat) :
    (deeperItems (maskItems items) depth).length = (deeperItems items depth).length := by
  cases items with
  | nil => rfl
  | cons item rest =>
    rw [maskItems, deeperItems, deeperItems, length_append, length_append, deeper_count_mask item,
      deeper_items_count rest]

theorem deeper_members_count (members) (depth : Nat) :
    (deeperMembers (maskMembers members) depth).length = (deeperMembers members depth).length := by
  match members with
  | [] => rfl
  | (key, child) :: rest =>
    rw [maskMembers, deeperMembers, deeperMembers]
    split
    · rename_i copied
      rw [copied_not_secret copied, if_neg Bool.false_ne_true, length_append, length_append,
        deeper_count_mask child, deeper_members_count rest]
    · exact deeper_members_count rest depth

end

theorem deeper_count_of_mask (left right : Json) (depth : Nat) (alike : mask left = mask right) :
    (deeperThan left depth).length = (deeperThan right depth).length := by
  rw [← deeper_count_mask left, alike, deeper_count_mask]

mutual

theorem strip_eq_iff (left right : Json) (depth : Nat) (alike : mask left = mask right) :
    strip left depth = strip right depth ↔ deeperThan left depth = deeperThan right depth := by
  cases left with
  | array items =>
    cases right with
    | array others =>
      rw [mask, mask, Json.array.injEq] at alike
      rw [strip, strip, deeperThan, deeperThan]
      split
      · rw [List.cons.injEq, and_iff_left rfl]
      · rw [Json.array.injEq]
        exact strip_items_eq_iff items others (depth + 1) alike
    | _ => simp [mask] at alike
  | object members =>
    cases right with
    | object others =>
      rw [mask, mask, Json.object.injEq] at alike
      rw [strip, strip, deeperThan, deeperThan]
      split
      · rw [List.cons.injEq, and_iff_left rfl]
      · rw [Json.object.injEq]
        exact strip_members_eq_iff members others (depth + 1) alike
    | _ => simp [mask] at alike
  | _ => cases right <;> simp_all [mask, strip, deeperThan]

theorem strip_items_eq_iff (items others : List Json) (depth : Nat)
    (alike : maskItems items = maskItems others) :
    stripItems items depth = stripItems others depth ↔
      deeperItems items depth = deeperItems others depth := by
  cases items with
  | nil =>
    cases others with
    | nil => exact Iff.intro (fun _ => rfl) (fun _ => rfl)
    | cons other more => simp [maskItems] at alike
  | cons item rest =>
    cases others with
    | nil => simp [maskItems] at alike
    | cons other more =>
      rw [maskItems, maskItems, List.cons.injEq] at alike
      have sameCount := deeper_count_of_mask item other depth alike.1
      rw [stripItems, stripItems, deeperItems, deeperItems, List.cons.injEq,
        strip_eq_iff item other depth alike.1,
        strip_items_eq_iff rest more depth alike.2]
      apply Iff.intro
      · intro parts
        rw [parts.1, parts.2]
      · intro joined
        exact append_inj joined sameCount

theorem strip_members_eq_iff (members others) (depth : Nat)
    (alike : maskMembers members = maskMembers others) :
    stripMembers members depth = stripMembers others depth ↔
      deeperMembers members depth = deeperMembers others depth := by
  match members, others with
  | [], [] => exact Iff.intro (fun _ => rfl) (fun _ => rfl)
  | [], _ :: _ => simp [maskMembers] at alike
  | _ :: _, [] => simp [maskMembers] at alike
  | (key, child) :: rest, (name, other) :: more =>
    rw [maskMembers, maskMembers, List.cons.injEq, Prod.mk.injEq] at alike
    have sameKey : key = name := alike.1.1
    subst sameKey
    have restIff := strip_members_eq_iff rest more depth alike.2
    rw [stripMembers, stripMembers, deeperMembers, deeperMembers]
    split
    · rename_i copied
      have childAlike := alike.1.2
      rw [copied_not_secret copied] at childAlike
      have sameCount := deeper_count_of_mask child other depth (by simpa using childAlike)
      rw [List.cons.injEq, Prod.mk.injEq, and_iff_right rfl,
        strip_eq_iff child other depth (by simpa using childAlike), restIff]
      apply Iff.intro
      · intro parts
        rw [parts.1, parts.2]
      · intro joined
        exact append_inj joined sameCount
    · exact restIff

end

theorem mask_nested (name : String) (inner : Json) (depth : Nat)
    (ordinary : SECRET_KEYS.contains name = false) :
    mask (nestedUnder name inner depth) = nestedUnder name (mask inner) depth := by
  induction depth with
  | zero => rfl
  | succ depth ih =>
    rw [nestedUnder, mask, maskMembers, maskMembers, ih, ordinary]
    rfl

theorem deeper_nested (name : String) (inner : Json) (depth start : Nat)
    (copied : copiesKey name = true) (within : start + depth ≤ MAX_STRIP_DEPTH + 1) :
    deeperThan (nestedUnder name inner depth) start = deeperThan inner (start + depth) := by
  induction depth generalizing start with
  | zero => rfl
  | succ depth ih =>
    have reached : ¬ MAX_STRIP_DEPTH < start := by omega
    rw [nestedUnder, deeperThan, if_neg reached, deeperMembers, deeperMembers, if_pos copied,
      append_nil, ih (start + 1) (by omega)]
    congr 1
    omega

end OpenMapX.Navigation.TransitSecrets
