import Mathlib
import CommandGrammar.Scalar

set_option autoImplicit false

namespace CommandGrammar

namespace Scalar

variable {α : Type} (type : Scalar α)

def Comparable (a b : α) : Prop := type.le a b = true ∨ type.le b a = true

def Transitive : Prop :=
  ∀ a b c, type.le a b = true → type.le b c = true → type.le a c = true

structure Linear : Prop where
  trans : type.Transitive
  total : ∀ a b, type.Comparable a b

/-- The greater of two values, or the second if they are equal. -/
def greater (a b : α) : α := if type.le a b = true then b else a

def lesser (a b : α) : α := if type.le a b = true then a else b

theorem Linear.le_of_not_le (h : type.Linear) (a b : α) (hn : ¬ type.le a b = true) :
    type.le b a = true := (h.total a b).resolve_left hn

theorem Linear.greater_le_iff (h : type.Linear) (a b c : α) :
    type.le (type.greater a b) c = true ↔ type.le a c = true ∧ type.le b c = true := by
  unfold greater
  split
  · rename_i hab
    exact ⟨fun hb => ⟨h.trans a b c hab hb, hb⟩, fun hc => hc.2⟩
  · rename_i hn
    have hba := h.le_of_not_le type a b hn
    exact ⟨fun ha => ⟨ha, h.trans b a c hba ha⟩, fun hc => hc.1⟩

theorem Linear.le_lesser_iff (h : type.Linear) (a b c : α) :
    type.le c (type.lesser a b) = true ↔ type.le c a = true ∧ type.le c b = true := by
  unfold lesser
  split
  · rename_i hab
    exact ⟨fun ha => ⟨ha, h.trans c a b ha hab⟩, fun hc => hc.1⟩
  · rename_i hn
    have hba := h.le_of_not_le type a b hn
    exact ⟨fun hb => ⟨h.trans c b a hb hba, hb⟩, fun hc => hc.2⟩

end Scalar

namespace Text

theorem le_iff (s t : Text) : le s t = true ↔ s ≤ t := by
  induction s generalizing t with
  | nil =>
    rw [← not_lt]
    exact iff_of_true rfl (List.not_lt_nil t)
  | cons c s ih =>
    cases t with
    | nil =>
      rw [← not_lt]
      exact iff_of_false (by simp [le]) (not_not.2 (List.nil_lt_cons c s))
    | cons d t =>
      have hlt : ∀ a b : Char, a.toNat < b.toNat ↔ a < b := fun a b => Iff.rfl
      rw [← not_lt, List.cons_lt_cons_iff]
      simp only [le, Bool.or_eq_true, Bool.and_eq_true, decide_eq_true_eq, beq_iff_eq, ih, hlt]
      rcases lt_trichotomy c d with h | rfl | h
      · simp [h, h.ne', h.not_gt]
      · simp
      · simp [h, h.ne', h.not_gt]

end Text

namespace BinaryFloat

/-- The number on the line from infinity to infinity; there is none for `nan`. -/
def number? : BinaryFloat → Option (WithBot (WithTop Int))
  | .nan => none
  | .infinite true => some ⊥
  | .infinite false => some ⊤
  | .finite negative units => some (signed negative units : WithTop Int)

theorem le_iff (a b : BinaryFloat) :
    le a b = true ↔ ∃ x y, a.number? = some x ∧ b.number? = some y ∧ x ≤ y := by
  cases a with
  | nan => simp [le, number?]
  | infinite negative =>
    cases b with
    | nan => simp [le, number?]
    | infinite negative' => cases negative <;> cases negative' <;> simp [le, number?]
    | finite negative' units' => cases negative <;> simp [le, number?]
  | finite negative units =>
    cases b with
    | nan => simp [le, number?]
    | infinite negative' => cases negative' <;> simp [le, number?]
    | finite negative' units' => simp [le, number?]

theorem exists_number?_iff (a : BinaryFloat) : (∃ x, a.number? = some x) ↔ a ≠ .nan := by
  cases a with
  | nan => exact iff_of_false nofun fun h => h rfl
  | infinite negative => cases negative <;> exact iff_of_true ⟨_, rfl⟩ nofun
  | finite negative units => exact iff_of_true ⟨_, rfl⟩ nofun

end BinaryFloat

namespace Scalar

theorem transitive_float (format : BinaryFormat) : (float format).Transitive := by
  intro a b c hab hbc
  obtain ⟨x, y, ha, hb, hxy⟩ := (BinaryFloat.le_iff a b).1 hab
  obtain ⟨y', z, hb', hc, hyz⟩ := (BinaryFloat.le_iff b c).1 hbc
  obtain rfl := Option.some.inj (hb.symm.trans hb')
  exact (BinaryFloat.le_iff a c).2 ⟨x, z, ha, hc, hxy.trans hyz⟩

/-- Two floats compare unless one of them is no number. -/
theorem comparable_float_iff (format : BinaryFormat) (a b : BinaryFloat) :
    (float format).Comparable a b ↔ a ≠ .nan ∧ b ≠ .nan := by
  change BinaryFloat.le a b = true ∨ BinaryFloat.le b a = true ↔ _
  rw [BinaryFloat.le_iff, BinaryFloat.le_iff, ← a.exists_number?_iff, ← b.exists_number?_iff]
  constructor
  · rintro (⟨x, y, ha, hb, _⟩ | ⟨y, x, hb, ha, _⟩)
    · exact ⟨⟨x, ha⟩, ⟨y, hb⟩⟩
    · exact ⟨⟨x, ha⟩, ⟨y, hb⟩⟩
  · rintro ⟨⟨x, ha⟩, ⟨y, hb⟩⟩
    rcases le_total x y with h | h
    · exact .inl ⟨x, y, ha, hb, h⟩
    · exact .inr ⟨y, x, hb, ha, h⟩

theorem not_linear_float (format : BinaryFormat) : ¬ (float format).Linear := by
  intro h
  exact ((comparable_float_iff format .nan .nan).1 (h.total .nan .nan)).1 rfl

theorem linear_of_place {α β : Type} [LinearOrder β] (type : Scalar α) (place : α → β)
    (h : ∀ a b, type.le a b = true ↔ place a ≤ place b) : type.Linear := by
  refine ⟨?_, ?_⟩
  · intro a b c hab hbc
    exact (h a c).2 (((h a b).1 hab).trans ((h b c).1 hbc))
  · intro a b
    rw [Comparable, h, h]
    exact le_total (place a) (place b)

end Scalar

/-- Of the built-in types those without floating point are linear. -/
theorem ScalarType.linear_iff (type : ScalarType) :
    type.scalar.Linear ↔ type ≠ .float32 ∧ type ≠ .float64 := by
  cases type with
  | integer type =>
    have h := Scalar.linear_of_place (.integer type) id fun _ _ => decide_eq_true_iff
    exact iff_of_true h ⟨nofun, nofun⟩
  | float32 => exact iff_of_false (Scalar.not_linear_float .binary32) fun h => h.1 rfl
  | float64 => exact iff_of_false (Scalar.not_linear_float .binary64) fun h => h.2 rfl
  | bool =>
    have h := Scalar.linear_of_place .bool id (by decide)
    exact iff_of_true h ⟨nofun, nofun⟩
  | char =>
    have h := Scalar.linear_of_place .char id fun _ _ => decide_eq_true_iff
    exact iff_of_true h ⟨nofun, nofun⟩
  | text =>
    have h := Scalar.linear_of_place .text id Text.le_iff
    exact iff_of_true h ⟨nofun, nofun⟩
  | ipv4 =>
    have h := Scalar.linear_of_place .ipv4 Ipv4.toNat fun _ _ => decide_eq_true_iff
    exact iff_of_true h ⟨nofun, nofun⟩

theorem ScalarType.transitive (type : ScalarType) : type.scalar.Transitive := by
  by_cases h : type.scalar.Linear
  · exact h.trans
  · rw [linear_iff, not_and_or, not_not, not_not] at h
    rcases h with rfl | rfl
    · exact Scalar.transitive_float .binary32
    · exact Scalar.transitive_float .binary64

end CommandGrammar
