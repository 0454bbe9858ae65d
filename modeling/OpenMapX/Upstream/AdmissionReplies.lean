import OpenMapX.Foundation.DecimalText
import OpenMapX.Upstream.SharedRequest

/-!
# The replies of the shared-request script

Every number of a reply is a decimal text that the client reads back exactly.
-/

namespace OpenMapX.Upstream.AdmissionReplies

open Foundation.DecimalText SharedRequest

theorem decimal_digits (n : Nat) : decimal (Nat.toDigits 10 n) = true := by
  rcases Nat.eq_zero_or_pos n with zero | positive
  · rw [zero, Nat.toDigits_zero]
    decide
  · obtain ⟨first, rest, digits, nonzero⟩ := digits_head n positive
    have every := digits_all n
    rw [digits] at every ⊢
    have rest_digits : rest.all Char.isDigit = true :=
      List.all_eq_true.mpr fun digit member => every digit (List.mem_cons_of_mem first member)
    simp [decimal, nonzero, every first List.mem_cons_self, rest_digits]

theorem decode_integer (n : Nat) (safe : n ≤ MAX_SAFE_INTEGER) :
    decodeInteger (.text (toString n)) = some n := by
  have digits : (toString n).toList = Nat.toDigits 10 n := by simp
  simp only [decodeInteger, digits, decimal_digits, if_true, Nat.ofDigitChars_ten_toDigits,
    safe]

theorem text_difference {larger smaller : Nat} (le : smaller ≤ larger) :
    toString ((larger : Int) - smaller) = toString (larger - smaller) := by
  have natural : (larger : Int) - smaller = ((larger - smaller : Nat) : Int) := by omega
  rw [natural]
  rfl

theorem decode_deny {now untilAt : Nat} {reason : String} {known : Reason}
    (named : reasonOf (.text reason) = some known) (future : now < untilAt)
    (safe : untilAt ≤ MAX_SAFE_INTEGER) :
    decode (deny now reason untilAt) = some (.refused known (some (untilAt - now))) := by
  have read : decodeInteger (.text (toString ((untilAt : Int) - now))) = some (untilAt - now) := by
    rw [text_difference (Nat.le_of_lt future)]
    exact decode_integer _ ((Nat.sub_le untilAt now).trans safe)
  have positive : untilAt - now > 0 := Nat.sub_pos_of_lt future
  simp only [deny, decode, read, named, positive, if_true]

theorem decode_admitted {limit count : Nat} (room : count < limit) (safe : limit ≤ MAX_SAFE_INTEGER)
    : decode (.array [.integer 1, .text (toString ((limit : Int) - count - 1))]) =
      some (.allowed (some (limit - count - 1))) := by
  have natural : (limit : Int) - count - 1 = ((limit : Nat) : Int) - ((count + 1 : Nat) : Int) := by
    omega
  have read : decodeInteger (.text (toString ((limit : Int) - count - 1))) =
      some (limit - count - 1) := by
    rw [natural, text_difference room]
    exact decode_integer _ (((Nat.sub_le _ _).trans (Nat.le_refl limit)).trans safe)
  simp only [decode, read, Option.map_some]

end OpenMapX.Upstream.AdmissionReplies
