import Mathlib.Data.List.Sort
import OpenMapX.Foundation.JsText

/-!
# The order of texts

`sort` without a comparator puts texts in the order of their UTF-16 code units, which is
a linear order: the sorted list does not depend on the order of its input.
-/

namespace OpenMapX.Foundation.TextOrder

open JsText List

/-- A stable sort by a comparator, given as whether its left argument is not after its
right one. -/
def sortBy {Item : Type*} (le : Item → Item → Bool) (items : List Item) : List Item :=
  items.insertionSort fun left right => le left right = true

theorem sort_by_perm {Item : Type*} (le : Item → Item → Bool) (items : List Item) :
    (sortBy le items).Perm items := perm_insertionSort _ items

theorem mem_sort_by {Item : Type*} {le : Item → Item → Bool} {items} {item : Item} :
    item ∈ sortBy le items ↔ item ∈ items := (sort_by_perm le items).mem_iff

theorem map_sort_by {Item Image : Type*} {le : Item → Item → Bool} {imageLe : Image → Image → Bool}
    {f : Item → Image} (same : ∀ left right, le left right = imageLe (f left) (f right))
    (items : List Item) : (sortBy le items).map f = sortBy imageLe (items.map f) := by
  apply map_insertionSort
  intro left _ right _
  rw [same]

def textLe (left right : String) : Bool := codeUnits left ≤ codeUnits right

def sortTexts (texts : List String) : List String := sortBy textLe texts

theorem units_cases (c : Char) :
    (codeUnitsOf c = [c.toNat] ∧ ¬ (0xD800 ≤ c.toNat ∧ c.toNat < 0xDC00)) ∨
    ∃ high low, codeUnitsOf c = [high, low] ∧ 0xD800 ≤ high ∧ high < 0xDC00 ∧
      c.toNat = 0x10000 + (high - 0xD800) * 0x400 + (low - 0xDC00) := by
  have valid := c.valid
  have bound : c.toNat < 0x110000 ∧ ¬ (0xD800 ≤ c.toNat ∧ c.toNat < 0xE000) := by
    have cases_ : c.toNat < 0xD800 ∨ (0xDFFF < c.toNat ∧ c.toNat < 0x110000) := valid
    omega
  unfold codeUnitsOf
  by_cases small : c.toNat < 0x10000
  · rw [if_pos small]
    apply Or.inl
    exact ⟨rfl, by omega⟩
  · rw [if_neg small]
    apply Or.inr
    exact ⟨_, _, rfl, by omega, by omega, by omega⟩

theorem code_units_injective (left right : List Char)
    (same : left.flatMap codeUnitsOf = right.flatMap codeUnitsOf) : left = right := by
  induction left generalizing right with
  | nil =>
    cases right with
    | nil => rfl
    | cons d right =>
      rcases units_cases d with one | two
      · simp [one.1] at same
      · obtain ⟨high, two⟩ := two
        obtain ⟨low, two⟩ := two
        simp [two.1] at same
  | cons c left ih =>
    cases right with
    | nil =>
      rcases units_cases c with one | two
      · simp [one.1] at same
      · obtain ⟨high, two⟩ := two
        obtain ⟨low, two⟩ := two
        simp [two.1] at same
    | cons d right =>
      rw [flatMap_cons, flatMap_cons] at same
      have heads : c.toNat = d.toNat ∧
          left.flatMap codeUnitsOf = right.flatMap codeUnitsOf := by
        rcases units_cases c with one | one
        · rcases units_cases d with other | other
          · rw [one.1, other.1] at same
            simpa using same
          · obtain ⟨high, other⟩ := other
            obtain ⟨low, other⟩ := other
            rw [one.1, other.1] at same
            simp only [cons_append, nil_append, List.cons.injEq] at same
            omega
        · obtain ⟨high, one⟩ := one
          obtain ⟨low, one⟩ := one
          rcases units_cases d with other | other
          · rw [one.1, other.1] at same
            simp only [cons_append, nil_append, List.cons.injEq] at same
            omega
          · obtain ⟨high', other⟩ := other
            obtain ⟨low', other⟩ := other
            rw [one.1, other.1] at same
            simp only [cons_append, nil_append, List.cons.injEq] at same
            rw [one.2.2.2, other.2.2.2, same.1, same.2.1]
            exact ⟨rfl, same.2.2⟩
      rw [ih right heads.2, Char.toNat_inj.mp heads.1]

theorem text_le_trans (first second third : String) (lower : textLe first second = true)
    (upper : textLe second third = true) : textLe first third = true := by
  simp only [textLe, decide_eq_true_eq] at lower upper ⊢
  exact le_trans lower upper

theorem text_le_total (first second : String) :
    (textLe first second || textLe second first) = true := by
  simp only [textLe, Bool.or_eq_true, decide_eq_true_eq]
  exact le_total _ _

theorem text_le_antisymm (first second : String) (lower : textLe first second = true)
    (upper : textLe second first = true) : first = second := by
  simp only [textLe, decide_eq_true_eq] at lower upper
  apply String.toList_inj.mp
  exact code_units_injective _ _ (le_antisymm lower upper)

theorem sort_texts_perm {first second} (same : first.Perm second) :
    sortTexts first = sortTexts second := by
  have sorted : ∀ texts : List String,
      (sortTexts texts).Pairwise fun left right => textLe left right = true := by
    intro texts
    have total : Std.Total fun left right : String => textLe left right = true := by
      constructor
      intro left right
      have either := text_le_total left right
      rw [Bool.or_eq_true] at either
      exact either
    have trans : IsTrans String fun left right => textLe left right = true := ⟨text_le_trans⟩
    exact pairwise_insertionSort _ texts
  apply List.Perm.eq_of_pairwise _ (sorted first) (sorted second)
  · exact (sort_by_perm textLe first).trans (same.trans (sort_by_perm textLe second).symm)
  · intro left right _ _ lower upper
    exact text_le_antisymm left right lower upper

end OpenMapX.Foundation.TextOrder
