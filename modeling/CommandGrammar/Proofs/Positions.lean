import Mathlib
import CommandGrammar.Proofs.DefinitionForm

set_option autoImplicit false

namespace CommandGrammar.Definition

variable (definition : Definition)

theorem filter_wildcard_of_pairwise (arguments : List Argument)
    (h : arguments.Pairwise fun earlier _ => earlier.wildcard = false) :
    arguments.filter (·.wildcard) = (arguments.getLast?.filter (·.wildcard)).toList := by
  cases arguments using List.reverseRecOn with
  | nil => rfl
  | append_singleton front last =>
    obtain ⟨_, hf⟩ := (Draft.pairwise_concat_iff front last).1 h
    have hn : front.filter (·.wildcard) = [] := List.filter_eq_nil_iff.2 (List.any_eq_false.1 hf)
    rw [List.filter_append, hn, List.nil_append, List.getLast?_concat]
    cases hw : last.wildcard <;> simp [hw, Option.filter]

theorem filter_wildcard (h : definition.WellFormed) :
    definition.arguments.filter (·.wildcard) = definition.wildcard?.toList :=
  filter_wildcard_of_pairwise definition.arguments h.wildcard

theorem wildcard?_eq_some_iff (h : definition.WellFormed) (argument : Argument) :
    definition.wildcard? = some argument ↔
      argument ∈ definition.arguments ∧ argument.wildcard = true := by
  have hm : argument ∈ definition.arguments.filter (·.wildcard) ↔ _ := List.mem_filter
  rwa [filter_wildcard definition h, Option.mem_toList] at hm

theorem wildcard?_eq_none_iff (h : definition.WellFormed) :
    definition.wildcard? = none ↔
      ∀ argument ∈ definition.arguments, argument.wildcard = false := by
  rw [← Option.toList_eq_nil_iff, ← filter_wildcard definition h, List.filter_eq_nil_iff]
  simp only [Bool.not_eq_true]

theorem argumentAt?_of_lt (position : Nat) (h : position < definition.arguments.length) :
    definition.argumentAt? position = some definition.arguments[position] := by
  rw [argumentAt?, List.getElem?_eq_getElem h]
  rfl

theorem argumentAt?_of_le (position : Nat) (h : definition.arguments.length ≤ position) :
    definition.argumentAt? position = definition.wildcard? := by
  rw [argumentAt?, List.getElem?_eq_none h]
  rfl

theorem argumentAt?_eq_none_iff (position : Nat) :
    definition.argumentAt? position = none ↔
      definition.arguments.length ≤ position ∧ definition.wildcard? = none := by
  by_cases hp : position < definition.arguments.length
  · rw [argumentAt?_of_lt definition position hp]
    simp [Nat.not_le.2 hp]
  · have hp := Nat.not_lt.1 hp
    rw [argumentAt?_of_le definition position hp]
    simp [hp]

/-- No argument but the last is a wildcard, so one before the last has no part in it. -/
theorem wildcard_getElem (h : definition.WellFormed) (position : Nat)
    (hp : position < definition.arguments.length)
    (hw : definition.arguments[position].wildcard = true) :
    definition.arguments.length - 1 ≤ position := by
  by_contra hn
  have hlast : definition.arguments.length - 1 < definition.arguments.length := by omega
  have hf := List.pairwise_iff_getElem.1 h.wildcard position _ hp hlast (by omega)
  rw [hw] at hf
  cases hf

/-- The wildcard stands at its own position and at all that follow. -/
theorem argumentAt?_eq_some_wildcard_iff (h : definition.WellFormed) (position : Nat)
    (argument : Argument) (hw : argument.wildcard = true) :
    definition.argumentAt? position = some argument ↔
      definition.wildcard? = some argument ∧ definition.arguments.length - 1 ≤ position := by
  by_cases hp : position < definition.arguments.length
  · rw [argumentAt?_of_lt definition position hp, Option.some.injEq]
    constructor
    · rintro rfl
      have hm := List.getElem_mem hp
      exact ⟨(wildcard?_eq_some_iff definition h _).2 ⟨hm, hw⟩,
        wildcard_getElem definition h position hp hw⟩
    · rintro ⟨hlast, hle⟩
      have he : position = definition.arguments.length - 1 := by omega
      obtain ⟨hlast, _⟩ := Option.filter_eq_some_iff.1 hlast
      rw [List.getLast?_eq_getElem?, ← he, List.getElem?_eq_getElem hp] at hlast
      exact Option.some.inj hlast
  · have hp := Nat.not_lt.1 hp
    rw [argumentAt?_of_le definition position hp]
    have hle : definition.arguments.length - 1 ≤ position := by omega
    simp [hle]

/-- Every position has the argument declared for it, or else the wildcard if there is one, which is
    the only wildcard among all arguments; and from the position of the wildcard on all values are
    the wildcard's. -/
theorem argumentAt?_of_parse (source : Text) (definition : Definition)
    (h : parse source = .ok definition) :
    definition.arguments.filter (·.wildcard) = definition.wildcard?.toList ∧
    (∀ argument, definition.wildcard? = some argument ↔
      argument ∈ definition.arguments ∧ argument.wildcard = true) ∧
    (definition.wildcard? = none ↔
      ∀ argument ∈ definition.arguments, argument.wildcard = false) ∧
    (∀ position (hp : position < definition.arguments.length),
      definition.argumentAt? position = some definition.arguments[position]) ∧
    ∀ position,
      (definition.arguments.length ≤ position →
        definition.argumentAt? position = definition.wildcard?) ∧
      (definition.argumentAt? position = none ↔
        definition.arguments.length ≤ position ∧ definition.wildcard? = none) ∧
      ((∃ argument, definition.argumentAt? position = some argument ∧ argument.wildcard = true) ↔
        (∃ argument ∈ definition.arguments, argument.wildcard = true) ∧
          definition.arguments.length - 1 ≤ position) ∧
      ∀ argument later, definition.argumentAt? position = some argument →
        argument.wildcard = true → position ≤ later →
          definition.argumentAt? later = some argument := by
  have hw := wellFormed_of_parse source definition h
  have hsome := wildcard?_eq_some_iff definition hw
  have hat := argumentAt?_eq_some_wildcard_iff definition hw
  refine ⟨filter_wildcard definition hw, hsome, wildcard?_eq_none_iff definition hw,
    argumentAt?_of_lt definition, ?_⟩
  intro position
  refine ⟨argumentAt?_of_le definition position, argumentAt?_eq_none_iff definition position,
    ⟨?_, ?_⟩, ?_⟩
  · rintro ⟨argument, ha, hwild⟩
    obtain ⟨hlast, hle⟩ := (hat position argument hwild).1 ha
    exact ⟨⟨argument, (hsome argument).1 hlast⟩, hle⟩
  · rintro ⟨⟨argument, hm, hwild⟩, hle⟩
    have hlast := (hsome argument).2 ⟨hm, hwild⟩
    exact ⟨argument, (hat position argument hwild).2 ⟨hlast, hle⟩, hwild⟩
  · intro argument later ha hwild hl
    obtain ⟨hlast, hle⟩ := (hat position argument hwild).1 ha
    exact (hat later argument hwild).2 ⟨hlast, hle.trans hl⟩

theorem argumentAt?_of_parse_copyLine :
    let source : Text := "$from --force[f]? ...$to copy".toList
    let target : Argument := ⟨"to".toList, true⟩
    let definition : Definition :=
      ⟨source, "copy".toList, [⟨"from".toList, false⟩, target],
        [.flag ⟨"force".toList, some 'f'⟩], none⟩
    parse source = .ok definition ∧ definition.wildcard? = some target ∧
      definition.argumentAt? 0 = some ⟨"from".toList, false⟩ ∧
      definition.argumentAt? 1 = some target ∧
      ∀ later, definition.argumentAt? (1 + later) = some target := by
  intro source target definition
  have hp : parse source = .ok definition := rfl
  obtain ⟨_, hwildcard, _, hdeclared, hposition⟩ := argumentAt?_of_parse source definition hp
  have hone := hdeclared 1 (by decide)
  obtain ⟨_, _, _, hlater⟩ := hposition 1
  refine ⟨hp, (hwildcard target).2 ⟨by decide, rfl⟩, hdeclared 0 (by decide), hone, ?_⟩
  intro later
  exact hlater target (1 + later) hone rfl (Nat.le_add_right 1 later)

end CommandGrammar.Definition
