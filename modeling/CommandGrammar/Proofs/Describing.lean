import Mathlib
import CommandGrammar.Proofs.DefinitionForm

set_option autoImplicit false

namespace CommandGrammar

/-- One step of describing. -/
inductive Note where
  | about (text : Text)
  | describe (name text : Text)
  deriving DecidableEq, Repr

def Note.overall? : Note → Option Text
  | .about text => some text
  | .describe _ _ => none

def Parameter.undescribed (parameter : Parameter) : Parameter :=
  { parameter with description := none }

namespace Definition

def note (definition : Definition) : Note → Definition
  | .about text => definition.about text
  | .describe name text => definition.describe name text

def noteAll (definition : Definition) (notes : List Note) : Definition :=
  notes.foldl note definition

def undescribed (definition : Definition) : Definition :=
  { definition with
    parameters := definition.parameters.map Parameter.undescribed
    description := none }

def place? (definition : Definition) (name : Text) : Option Nat :=
  definition.parameters.findIdx? (·.answersTo name)

def remark? (definition : Definition) (place : Nat) : Note → Option Text
  | .about _ => none
  | .describe name text => if definition.place? name = some place then some text else none

/-- What a run of notes makes of a definition without descriptions. -/
structure Noted (first : Definition) (notes : List Note) (last : Definition) : Prop where
  source : last.source = first.source
  command : last.command = first.command
  arguments : last.arguments = first.arguments
  parameters : last.parameters.map Parameter.undescribed = first.parameters
  description : last.description = (notes.filterMap Note.overall?).getLast?
  descriptions : ∀ place parameter, last.parameters[place]? = some parameter →
    parameter.description = (notes.filterMap (first.remark? place)).getLast?
  render : last.render = first.render
  argumentAt : ∀ position, last.argumentAt? position = first.argumentAt? position
  place : ∀ name, last.place? name = first.place? name
  named : ∀ name, last.parameterNamed? name = (first.place? name).bind (last.parameters[·]?)

variable (definition : Definition)

theorem parameterNamed?_eq_place? (name : Text) :
    definition.parameterNamed? name = (definition.place? name).bind (definition.parameters[·]?) :=
  List.find?_eq_bind_findIdx?_getElem?

theorem place?_undescribed (name : Text) :
    definition.undescribed.place? name = definition.place? name :=
  List.findIdx?_map

theorem argumentAt?_undescribed (position : Nat) :
    definition.undescribed.argumentAt? position = definition.argumentAt? position := rfl

theorem render_undescribed : definition.undescribed.render = definition.render := by
  rw [render, render, undescribed, List.map_map]
  rfl

theorem getElem?_describe (name text : Text) (place : Nat) :
    (definition.describe name text).parameters[place]? =
      definition.parameters[place]?.map fun parameter =>
        if definition.place? name = some place then parameter.about text else parameter := by
  rw [describe, List.getElem?_modify]
  refine Option.map_congr fun parameter hp => ?_
  have hlt := (List.getElem?_eq_some_iff.1 hp).1
  simp only [place?, List.findIdx?_eq_some_iff_findIdx_eq, hlt, true_and]

theorem undescribed_describe (name text : Text) :
    (definition.describe name text).undescribed = definition.undescribed := by
  have hp : (definition.describe name text).parameters.map Parameter.undescribed =
      definition.parameters.map Parameter.undescribed := by
    refine List.ext_getElem? fun place => ?_
    rw [List.getElem?_map, List.getElem?_map, getElem?_describe, Option.map_map]
    refine Option.map_congr fun parameter _ => ?_
    rw [Function.comp_apply]
    split <;> rfl
  rw [undescribed, hp]
  rfl

theorem place?_describe (name text other : Text) :
    (definition.describe name text).place? other = definition.place? other := by
  rw [← place?_undescribed, undescribed_describe, place?_undescribed]

theorem undescribed_note (note : Note) :
    (definition.note note).undescribed = definition.undescribed := by
  cases note with
  | about text => rfl
  | describe name text => exact definition.undescribed_describe name text

theorem undescribed_noteAll (notes : List Note) :
    (definition.noteAll notes).undescribed = definition.undescribed := by
  induction notes generalizing definition with
  | nil => rfl
  | cons note rest ih => exact (ih (definition.note note)).trans (definition.undescribed_note note)

theorem noteAll_concat (notes : List Note) (note : Note) :
    definition.noteAll (notes ++ [note]) = (definition.noteAll notes).note note :=
  List.foldl_append

theorem place?_noteAll (notes : List Note) (name : Text) :
    (definition.noteAll notes).place? name = definition.place? name := by
  rw [← place?_undescribed, undescribed_noteAll, place?_undescribed]

/-- The last text for the whole definition stays. -/
theorem description_noteAll (notes : List Note) :
    (definition.noteAll notes).description =
      (notes.filterMap Note.overall?).getLast?.or definition.description := by
  induction notes using List.reverseRecOn with
  | nil => rfl
  | append_singleton notes note ih =>
    rw [noteAll_concat, List.filterMap_append]
    cases note with
    | about text => simp [Definition.note, about, Note.overall?]
    | describe name text => simp [Definition.note, describe, Note.overall?, ih]

theorem getElem?_noteAll (notes : List Note) (place : Nat) :
    (definition.noteAll notes).parameters[place]? =
      definition.parameters[place]?.map fun parameter =>
        { parameter with
          description :=
            (notes.filterMap (definition.remark? place)).getLast?.or parameter.description } := by
  -- The last note counts, so the induction is on notes added at the end.
  induction notes using List.reverseRecOn with
  | nil => exact Option.map_id'.symm
  | append_singleton notes note ih =>
    rw [noteAll_concat, List.filterMap_append]
    cases note with
    | about text => simpa [Definition.note, about, remark?] using ih
    | describe name text =>
      -- Earlier notes have moved no parameter: the place is that in `definition`.
      rw [Definition.note, getElem?_describe, place?_noteAll, ih, Option.map_map]
      refine Option.map_congr fun parameter _ => ?_
      by_cases hp : definition.place? name = some place
      · simp [remark?, hp, Parameter.about]
      · simp [remark?, hp]

/-- Describing takes the parameter out and puts it back, described, in the same place. -/
theorem describe_eq_insertIdx (name text : Text) (place : Nat) (found : Parameter)
    (h : definition.place? name = some place) (hf : definition.parameters[place]? = some found) :
    definition.describe name text =
      { definition with
        parameters :=
          (definition.parameters.eraseIdx place).insertIdx place (found.about text) } := by
  obtain ⟨hlt, hi⟩ := List.findIdx?_eq_some_iff_findIdx_eq.1 h
  rw [List.insertIdx_eraseIdx_self hlt.ne, describe, hi, List.modify_eq_set_getElem?, hf]
  rfl

/-- Two parameters can be described in either order. -/
theorem describe_comm (first second text other : Text)
    (h : definition.place? first ≠ definition.place? second) :
    (definition.describe first text).describe second other =
      (definition.describe second other).describe first text := by
  have hc : ((definition.describe first text).describe second other).parameters =
      ((definition.describe second other).describe first text).parameters := by
    refine List.ext_getElem? fun place => ?_
    -- At each place at most one of the two texts is written.
    rw [getElem?_describe, getElem?_describe, getElem?_describe, getElem?_describe,
      place?_describe, place?_describe, Option.map_map, Option.map_map]
    refine Option.map_congr fun parameter _ => ?_
    simp only [Function.comp_apply]
    by_cases hf : definition.place? first = some place
    · have hs : definition.place? second ≠ some place := fun hs => h (hf.trans hs.symm)
      rw [if_neg hs, if_neg hs]
    · rw [if_neg hf, if_neg hf]
  exact congrArg (fun parameters => { definition with parameters }) hc

theorem noted_noteAll (h : definition.undescribed = definition) (notes : List Note) :
    Noted definition notes (definition.noteAll notes) := by
  have hu := (definition.undescribed_noteAll notes).trans h
  have hdescription : definition.description = none := congrArg Definition.description h.symm
  refine ⟨(congrArg Definition.source hu :), (congrArg Definition.command hu :),
    (congrArg Definition.arguments hu :), (congrArg Definition.parameters hu :), ?_, ?_, ?_, ?_,
    definition.place?_noteAll notes, ?_⟩
  · rw [description_noteAll, hdescription, Option.or_none]
  · intro place parameter hp
    rw [getElem?_noteAll] at hp
    obtain ⟨earlier, he, rfl⟩ := Option.map_eq_some_iff.1 hp
    have hm : earlier ∈ definition.undescribed.parameters := h.symm ▸ List.mem_of_getElem? he
    obtain ⟨_, _, rfl⟩ := List.mem_map.1 hm
    exact Option.or_none
  · rw [← render_undescribed, hu]
  · intro position
    rw [← argumentAt?_undescribed, hu]
  · intro name
    rw [parameterNamed?_eq_place?, place?_noteAll]

theorem undescribed_eq_of_parse (source : Text) (h : parse source = .ok definition) :
    definition.undescribed = definition := by
  obtain ⟨_, hd, _⟩ := (ofTokens_eq_ok_iff source _ definition).1 h
  have hp : definition.parameters.map Parameter.undescribed = definition.parameters := by
    refine (List.map_congr_left fun parameter hm => ?_).trans (List.map_id _)
    rw [Parameter.undescribed, ← undescribed_of_parse source definition h parameter hm, id_eq]
  rw [undescribed, hp, ← hd]

/-- Whatever is written onto a definition that was read, nothing but descriptions changes, and each
    of them is the last text for its place. What no parameter answers to is written nowhere, and
    texts for two places can be written in either order. -/
theorem noted_of_parse (source : Text) (first : Definition) (h : parse source = .ok first)
    (notes : List Note) :
    Noted first notes (first.noteAll notes) ∧
    ∀ last : Definition,
      (∀ name text, last.parameterNamed? name = none → last.describe name text = last) ∧
      (∀ name text place found, last.place? name = some place →
        last.parameters[place]? = some found →
        last.describe name text =
          { last with
            parameters := (last.parameters.eraseIdx place).insertIdx place (found.about text) }) ∧
      ∀ one another text other, last.place? one ≠ last.place? another →
        (last.describe one text).describe another other =
          (last.describe another other).describe one text := by
  refine ⟨noted_noteAll first (first.undescribed_eq_of_parse source h) notes, ?_⟩
  intro last
  exact ⟨last.describe_of_unanswered, last.describe_eq_insertIdx, last.describe_comm⟩

/-- Both names of the flag write to one place, and the parameter that shares one of them is not
    described. -/
theorem noted_of_parse_aliases :
    let first : Definition :=
      ⟨"deploy $who* --region[r]=us --force[f]? --region[f]=eu".toList, "deploy".toList,
        [⟨"who".toList, true⟩],
        [.value ⟨"region".toList, some 'r'⟩ (some "us".toList), .flag ⟨"force".toList, some 'f'⟩,
          .value ⟨"region".toList, some 'f'⟩ (some "eu".toList)], none⟩
    let notes : List Note :=
      [.describe "f".toList "First.".toList, .about "Old.".toList,
        .describe "force".toList "Last.".toList, .describe "nope".toList "Lost.".toList,
        .about "New.".toList]
    let last : Definition := first.noteAll notes
    parse first.source = .ok first ∧ Noted first notes last ∧
      last.description = some "New.".toList ∧
      (∀ parameter, last.parameters[1]? = some parameter →
        parameter.description = some "Last.".toList) ∧
      (∀ parameter, last.parameters[2]? = some parameter → parameter.description = none) ∧
      last.describe "nope".toList "Lost.".toList = last ∧
      (last.describe "r".toList "Where.".toList).describe "f".toList "Now.".toList =
        (last.describe "f".toList "Now.".toList).describe "r".toList "Where.".toList := by
  intro first notes last
  have hp : parse first.source = .ok first := rfl
  obtain ⟨hn, hlast⟩ := noted_of_parse first.source first hp notes
  obtain ⟨hsame, _, hcomm⟩ := hlast last
  exact ⟨hp, hn, hn.description, hn.descriptions 1, hn.descriptions 2, hsame _ _ rfl,
    hcomm _ _ _ _ (by decide)⟩

end Definition
end CommandGrammar
