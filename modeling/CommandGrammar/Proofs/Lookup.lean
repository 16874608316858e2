import Mathlib
import CommandGrammar.Proofs.Reachability

set_option autoImplicit false

namespace CommandGrammar
open Relation (ReflTransGen)

namespace Parameter

def hasShort (name : Text) (parameter : Parameter) : Bool :=
  parameter.name.short.map (fun letter => [letter]) == some name

def hasLong (name : Text) (parameter : Parameter) : Bool := parameter.name.long == name

theorem answersTo_eq (name : Text) (parameter : Parameter) :
    parameter.answersTo name = (parameter.hasShort name || parameter.hasLong name) := rfl

theorem hasShort_letter (letter : Char) (parameter : Parameter) :
    parameter.hasShort [letter] = (parameter.name.short == some letter) := by
  rw [hasShort]
  cases parameter.name.short <;> simp

theorem hasShort_eq_false (name : Text) (hn : name.length ≠ 1) (parameter : Parameter) :
    parameter.hasShort name = false := by
  rw [hasShort, beq_eq_false_iff_ne]
  intro h
  obtain ⟨letter, _, rfl⟩ := Option.map_eq_some_iff.1 h
  exact hn rfl

theorem hasLong_letter (letter : Char) (parameter : Parameter) (h : parameter.WellFormed) :
    parameter.hasLong [letter] = false := by
  have hl := Name.two_le_length parameter.name.long h.name.long
  rw [hasLong, beq_eq_false_iff_ne]
  intro he
  rw [he, List.length_singleton] at hl
  omega

end Parameter

namespace Definition

/-- The first parameter of this short form. -/
def withShort? (definition : Definition) (name : Text) : Option Parameter :=
  definition.parameters.find? (·.hasShort name)

def withLong? (definition : Definition) (name : Text) : Option Parameter :=
  definition.parameters.find? (·.hasLong name)

variable (definition : Definition)

theorem withShort?_letter (letter : Char) :
    definition.withShort? [letter] =
      definition.parameters.find? (·.name.short == some letter) :=
  List.find?_congr fun parameter _ => parameter.hasShort_letter letter

theorem withShort?_eq_none (name : Text) (hn : name.length ≠ 1) :
    definition.withShort? name = none := by
  rw [withShort?, List.find?_eq_none]
  intro parameter _
  rw [parameter.hasShort_eq_false name hn]
  exact Bool.false_ne_true

theorem withLong?_letter (h : definition.WellFormed) (letter : Char) :
    definition.withLong? [letter] = none := by
  rw [withLong?, List.find?_eq_none]
  intro parameter hm
  rw [parameter.hasLong_letter letter (h.parameters parameter hm)]
  exact Bool.false_ne_true

theorem withShort?_or_withLong?_eq_none (h : definition.WellFormed) (name : Text) :
    definition.withShort? name = none ∨ definition.withLong? name = none := by
  by_cases hn : name.length = 1
  · obtain ⟨letter, rfl⟩ := List.length_eq_one_iff.1 hn
    exact .inr (definition.withLong?_letter h letter)
  · exact .inl (definition.withShort?_eq_none name hn)

theorem parameterNamed?_letter (h : definition.WellFormed) (letter : Char) :
    definition.parameterNamed? [letter] = definition.withShort? [letter] := by
  refine List.find?_congr fun parameter hm => ?_
  rw [parameter.answersTo_eq, parameter.hasLong_letter letter (h.parameters parameter hm),
    Bool.or_false]

theorem parameterNamed?_of_length_ne_one (name : Text) (hn : name.length ≠ 1) :
    definition.parameterNamed? name = definition.withLong? name := by
  refine List.find?_congr fun parameter _ => ?_
  rw [parameter.answersTo_eq, parameter.hasShort_eq_false name hn, Bool.false_or]

/-- One pass for both forms finds what two passes find. -/
theorem parameterNamed?_eq_or (h : definition.WellFormed) (name : Text) :
    definition.parameterNamed? name =
      (definition.withShort? name).or (definition.withLong? name) := by
  by_cases hn : name.length = 1
  · obtain ⟨letter, rfl⟩ := List.length_eq_one_iff.1 hn
    rw [parameterNamed?_letter definition h, withLong?_letter definition h, Option.or_none]
  · rw [parameterNamed?_of_length_ne_one definition name hn, withShort?_eq_none definition name hn,
      Option.none_or]

theorem or_comm_of_withShort? (h : definition.WellFormed) (name : Text) :
    (definition.withShort? name).or (definition.withLong? name) =
      (definition.withLong? name).or (definition.withShort? name) := by
  rcases definition.withShort?_or_withLong?_eq_none h name with hs | hl
  · rw [hs, Option.none_or, Option.or_none]
  · rw [hl, Option.none_or, Option.or_none]

theorem exists_parameterNamed?_long (h : definition.WellFormed) (parameter : Parameter)
    (hm : parameter ∈ definition.parameters) :
    ∃ before found after, definition.parameters = before ++ found :: after ∧
      found.name.long = parameter.name.long ∧
      (∀ earlier ∈ before, earlier.name.long ≠ parameter.name.long) ∧
      definition.parameterNamed? parameter.name.long = some found := by
  have hl := Name.two_le_length _ (h.parameters parameter hm).name.long
  have hsome : (definition.withLong? parameter.name.long).isSome = true :=
    List.find?_isSome.2 ⟨parameter, hm, beq_self_eq_true _⟩
  obtain ⟨found, hf⟩ := Option.isSome_iff_exists.1 hsome
  obtain ⟨hlong, before, after, hp, hb⟩ := List.find?_eq_some_iff_append.1 hf
  refine ⟨before, found, after, hp, beq_iff_eq.1 hlong, ?_, ?_⟩
  · intro earlier he
    have hn := hb earlier he
    rw [Bool.not_eq_true', Parameter.hasLong, beq_eq_false_iff_ne] at hn
    exact hn
  · rw [parameterNamed?_of_length_ne_one definition _ (by omega), hf]

/-- A text of one character is looked up as a short form and any other as a long form, and the
    first parameter of that form is found. The order in which forms are searched does not show, and
    whatever the forms of other parameters are, a long form finds a parameter that has it. -/
theorem lookup_of_reachable (source : Text) (first last : Definition)
    (h : parse source = .ok first) (hr : ReflTransGen Step first last) :
    (∀ letter, last.parameterNamed? [letter] =
      last.parameters.find? (·.name.short == some letter)) ∧
    (∀ name, name.length ≠ 1 →
      last.parameterNamed? name = last.parameters.find? (·.name.long == name)) ∧
    (∀ name,
      last.parameterNamed? name = (last.withShort? name).or (last.withLong? name) ∧
      last.parameterNamed? name = (last.withLong? name).or (last.withShort? name) ∧
      (last.withShort? name = none ∨ last.withLong? name = none)) ∧
    ∀ parameter ∈ last.parameters, ∃ before found after,
      last.parameters = before ++ found :: after ∧ found.name.long = parameter.name.long ∧
      (∀ earlier ∈ before, earlier.name.long ≠ parameter.name.long) ∧
      last.parameterNamed? parameter.name.long = some found := by
  have hw := (wellFormed_of_parse source first h).run first last hr
  refine ⟨?_, parameterNamed?_of_length_ne_one last, ?_, exists_parameterNamed?_long last hw⟩
  · intro letter
    rw [parameterNamed?_letter last hw, withShort?_letter]
  · intro name
    have hone := parameterNamed?_eq_or last hw name
    exact ⟨hone, hone.trans (or_comm_of_withShort? last hw name),
      withShort?_or_withLong?_eq_none last hw name⟩

theorem lookup_of_reachable_sharedForms :
    let region : Parameter := .value ⟨"region".toList, some 'r'⟩ (some "us".toList)
    let quiet : Parameter := .flag ⟨"r-quiet".toList, some 'g'⟩
    let again : Parameter := .value ⟨"region".toList, some 'g'⟩ none
    let first : Definition :=
      ⟨"run --region[r]=us --r-quiet[g]? --region[g]=".toList, "run".toList, [],
        [region, quiet, again], none⟩
    let last : Definition := first.describe "g".toList "Quietly.".toList
    parse first.source = .ok first ∧ ReflTransGen Step first last ∧
      last.parameterNamed? "g".toList = some (quiet.about "Quietly.".toList) ∧
      last.parameterNamed? "region".toList = some region ∧
      last.parameterNamed? "r-quiet[g]".toList = none ∧
      ∃ before found after, last.parameters = before ++ found :: after ∧
        found.name.long = "region".toList ∧
        last.parameterNamed? "region".toList = some found := by
  intro region quiet again first last
  have hp : parse first.source = .ok first := rfl
  have hr : ReflTransGen Step first last := .single (.describe first _ _)
  obtain ⟨hshort, hlong, _, hfound⟩ := lookup_of_reachable first.source first last hp hr
  have hm : again ∈ last.parameters := List.mem_of_getElem? (i := 2) rfl
  obtain ⟨before, found, after, hparts, hname, _, hnamed⟩ := hfound again hm
  exact ⟨hp, hr, hshort 'g', hlong "region".toList (by decide),
    hlong "r-quiet[g]".toList (by decide), before, found, after, hparts, hname, hnamed⟩

end Definition
end CommandGrammar
