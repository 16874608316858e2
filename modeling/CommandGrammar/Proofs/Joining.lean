import Mathlib
import CommandGrammar.Proofs.Elements
import CommandGrammar.Proofs.Numerals

set_option autoImplicit false

namespace CommandGrammar

namespace Text

def joined (texts : List Text) : Text := [','].intercalate texts

theorem joined_eq_nil_iff (texts : List Text) : joined texts = [] ↔ texts = [] ∨ texts = [[]] := by
  cases texts with
  | nil => exact iff_of_true rfl (.inl rfl)
  | cons first rest =>
    cases rest with
    | nil => simp [joined]
    | cons second rest => simp [joined]

end Text

namespace Parameter

theorem elements_joined (texts : List Text) (hc : ∀ text ∈ texts, ',' ∉ text) (hn : texts ≠ [[]]) :
    elements (Text.joined texts) = texts := by
  by_cases h : texts = []
  · rw [h]
    rfl
  · have hj : Text.joined texts ≠ [] := by
      intro hj
      exact ((Text.joined_eq_nil_iff texts).1 hj).elim h hn
    rw [elements, if_neg hj]
    exact List.splitOn_intercalate ',' hc h

/-- One empty text is the only list of texts without commas that does not come back. -/
theorem elements_joined_iff (texts : List Text) (hc : ∀ text ∈ texts, ',' ∉ text) :
    elements (Text.joined texts) = texts ↔ texts ≠ [[]] := by
  constructor
  · rintro he rfl
    cases he
  · exact elements_joined texts hc

theorem joined_elements (stored : Text) : Text.joined (elements stored) = stored := by
  by_cases hs : stored = []
  · rw [hs]
    rfl
  · exact (elements_of_ne_nil stored hs).1

section Value

variable (parameter : Parameter) (hk : parameter.kind = .value)
include hk

theorem readList_text_eq_ok_iff (texts : List Text) :
    parameter.readList .text = .ok texts ↔ elements parameter.stored = texts := by
  rw [readList_eq_ok_iff parameter hk]
  change List.Forall₂ (fun element text => some element = some text) _ _ ↔ _
  simp only [Option.some.injEq]
  exact iff_of_eq (congrFun₂ List.forall₂_eq_eq_eq _ _)

theorem readList_joined {α : Type} (type : Scalar α) (write : α → Text) (values : List α)
    (hw : ∀ value ∈ values,
      write value ≠ [] ∧ ',' ∉ write value ∧ type.read? (write value) = some value) :
    (parameter.resolve (Text.joined (values.map write))).readList type = .ok values := by
  have hc : ∀ text ∈ values.map write, ',' ∉ text :=
    List.forall_mem_map.2 fun value hm => (hw value hm).2.1
  have hn : values.map write ≠ [[]] := by
    intro he
    have hm : [] ∈ values.map write := he ▸ List.mem_singleton_self []
    obtain ⟨value, hv, he⟩ := List.mem_map.1 hm
    exact (hw value hv).1 he
  rw [readList_eq_ok_iff (parameter.resolve _) hk, stored_resolve, elements_joined _ hc hn,
    List.forall₂_map_left_iff, List.forall₂_same]
  exact fun value hm => (hw value hm).2.2

theorem readList_integers (type : IntegerType) (values : List Int)
    (hv : ∀ value ∈ values, type.least ≤ value ∧ value ≤ type.greatest) :
    (parameter.resolve (Text.joined (values.map Integer.render))).readList (.integer type) =
      .ok values := by
  refine readList_joined parameter hk (.integer type) Integer.render values ?_
  intro value hm
  obtain ⟨hl, hg⟩ := hv value hm
  have hs := type.spells_render value hl
  have hc := Integer.notMem_of_spells type.signed value _ hs ',' (by decide) (by decide) (by decide)
  exact ⟨Integer.ne_nil_of_spells type.signed value _ hs, hc, type.read?_render value hl hg⟩

/-- The texts that a value is read as are the value again with commas between them. Lists come back
    from what they are written as: texts without commas if they are not one empty text, integers in
    the range of their type, and values of any type that are written so that they can be read. -/
theorem readList_inverse_joined :
    (∃ texts, parameter.readList .text = .ok texts ∧ Text.joined texts = parameter.stored) ∧
    (∀ texts : List Text, (∀ text ∈ texts, ',' ∉ text) →
      ((parameter.resolve (Text.joined texts)).readList .text = .ok texts ↔ texts ≠ [[]])) ∧
    (parameter.resolve (Text.joined [[]])).readList .text = .ok [] ∧
    (∀ (type : IntegerType) (values : List Int),
      (∀ value ∈ values, type.least ≤ value ∧ value ≤ type.greatest) →
      (parameter.resolve (Text.joined (values.map Integer.render))).readList (.integer type) =
        .ok values) ∧
    ∀ {α : Type} (type : Scalar α) (write : α → Text) (values : List α),
      (∀ value ∈ values,
        write value ≠ [] ∧ ',' ∉ write value ∧ type.read? (write value) = some value) →
      (parameter.resolve (Text.joined (values.map write))).readList type = .ok values := by
  refine ⟨⟨elements parameter.stored, ?_, joined_elements parameter.stored⟩, ?_, ?_,
    parameter.readList_integers hk, parameter.readList_joined hk⟩
  · exact (readList_text_eq_ok_iff parameter hk _).2 rfl
  · intro texts hc
    rw [readList_text_eq_ok_iff (parameter.resolve _) hk, stored_resolve,
      elements_joined_iff texts hc]
  · exact (readList_text_eq_ok_iff (parameter.resolve _) hk _).2 rfl

end Value

theorem readList_inverse_joined_limits :
    let parameter : Parameter := .value ⟨"levels".toList, none⟩ (some "a,,b".toList)
    let limits : List Int := [IntegerType.int64.least, 0, IntegerType.int64.greatest]
    parameter.kind = .value ∧
      Text.joined (limits.map Integer.render) =
        "-9223372036854775808,0,9223372036854775807".toList ∧
      (parameter.resolve (Text.joined (limits.map Integer.render))).readList
        (.integer .int64) = .ok limits ∧
      (parameter.resolve (Text.joined [[], "x".toList, []])).readList .text =
        .ok [[], "x".toList, []] ∧
      (parameter.resolve "true,false".toList).readList .bool = .ok [true, false] ∧
      ∃ texts, parameter.readList .text = .ok texts ∧ Text.joined texts = "a,,b".toList := by
  intro parameter limits
  obtain ⟨hback, htexts, _, hintegers, hvalues⟩ := readList_inverse_joined parameter rfl
  refine ⟨rfl, by decide +kernel, hintegers .int64 limits (by decide +kernel), ?_, ?_, hback⟩
  · exact (htexts _ (by decide)).2 (by decide)
  · exact hvalues .bool Scalar.renderBool [true, false] (by decide)

end Parameter
end CommandGrammar
