import CommandGrammar.Text.Basic

set_option autoImplicit false

/-!
# Ranges of code points

A set of characters is given by the ranges of its code points, the least first. The ranges ascend,
so that a look-up ends at the first range above the character.
-/
namespace CommandGrammar.Text

abbrev Ranges := List (Nat × Nat)

namespace Ranges

def covers : Ranges → Char → Bool
  | [], _ => false
  | range :: rest, c =>
    if c.toNat < range.1 then false else c.toNat ≤ range.2 || covers rest c

def ascend (floor : Nat) : Ranges → Bool
  | [] => true
  | range :: rest => floor ≤ range.1 && range.1 ≤ range.2 && ascend (range.2 + 1) rest

theorem ascend_cons (floor : Nat) (range : Nat × Nat) (rest : Ranges) :
    ascend floor (range :: rest) = true ↔
      floor ≤ range.1 ∧ range.1 ≤ range.2 ∧ ascend (range.2 + 1) rest = true := by
  simp [ascend, and_assoc]

theorem covers_eq_false (c : Char) (floor : Nat) (ranges : Ranges)
    (ha : ascend floor ranges = true) (hc : c.toNat < floor) : covers ranges c = false := by
  cases ranges with
  | nil => rfl
  | cons range rest =>
    have h : c.toNat < range.1 := Nat.lt_of_lt_of_le hc ((ascend_cons floor range rest).1 ha).1
    simp [covers, h]

/-- Nothing is lost by ending the look-up early. -/
theorem covers_iff (c : Char) (floor : Nat) (ranges : Ranges)
    (ha : ascend floor ranges = true) :
    covers ranges c = true ↔ ∃ range ∈ ranges, range.1 ≤ c.toNat ∧ c.toNat ≤ range.2 := by
  induction ranges generalizing floor with
  | nil => simp [covers]
  | cons range rest ih =>
    obtain ⟨_, hle, hr⟩ := (ascend_cons floor range rest).1 ha
    simp only [List.mem_cons, exists_eq_or_imp, ← ih (range.2 + 1) hr]
    by_cases h : c.toNat < range.1
    · have hn : covers rest c = false := covers_eq_false c (range.2 + 1) rest hr (by omega)
      simp [covers, h, hn, Nat.not_le.2 h]
    · simp [covers, h, Nat.not_lt.1 h]

end Ranges
end CommandGrammar.Text
