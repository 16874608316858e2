import Mathlib
import CommandGrammar.Proofs.DefinitionForm

set_option autoImplicit false

namespace CommandGrammar.Definition
open List (Forall₂)

theorem exists_parameters (parameters : List Parameter)
    (h : ∀ parameter ∈ parameters, parameter.WellFormed) :
    ∃ again : List Parameter,
      (∀ parameter ∈ again, parameter.WellFormed ∧ parameter.description = none) ∧
        again.map Parameter.word =
          (Token.assemble (parameters.map Parameter.word)).map Text.trim := by
  obtain ⟨again, hr⟩ := exists_forall₂
    (fun token (parameter : Parameter) =>
      (parameter.WellFormed ∧ parameter.description = none) ∧ parameter.word = Text.trim token)
    _ (Parameter.exists_word_of_mem_assemble parameters h)
  refine ⟨again, ?_, ?_⟩
  · intro parameter hm
    obtain ⟨token, _, hp, _⟩ := exists_of_forall₂ _ _ _ hr.flip parameter hm
    exact hp
  · have he : Forall₂ (fun token (parameter : Parameter) => Text.trim token = parameter.word)
        (Token.assemble (parameters.map Parameter.word)) again := hr.imp fun _ _ hp => hp.2.symm
    rw [← List.forall₂_eq_eq_eq, List.forall₂_map_left_iff, List.forall₂_map_right_iff]
    exact he.flip.imp fun _ _ hp => Eq.symm hp

/-- What comes of reading the printed line of a definition. -/
structure Rereads (definition again : Definition) : Prop where
  parse : Definition.parse definition.render = .ok again
  command : again.command = definition.command
  arguments : again.arguments = definition.arguments
  parameters : again.parameters.map Parameter.word =
    (Token.assemble (definition.parameters.map Parameter.word)).map Text.trim
  wellFormed : again.WellFormed
  undescribed : ∀ parameter ∈ again.parameters, parameter.description = none

theorem words_eq_of_parameters (definition again : Definition) (h : definition.WellFormed)
    (hc : again.command = definition.command) (ha : again.arguments = definition.arguments)
    (hp : again.parameters.map Parameter.word =
      (Token.assemble (definition.parameters.map Parameter.word)).map Text.trim) :
    again.words = (Token.assemble definition.words).map Text.trim := by
  rw [assemble_words definition h, List.map_append, ← hp, words, hc, ha]
  congr 1
  refine (Text.map_trim_eq_self _ ?_).symm
  intro word hm
  exact (solid_of_mem_words definition h word (List.mem_append_left _ hm)).toFirm

theorem tokens_render (definition : Definition) (h : definition.WellFormed) :
    Token.tokens definition.render =
      ((Token.assemble definition.words).map Text.trim).filter (· ≠ []) := by
  rw [Token.tokens, render_eq_line definition h, Token.assemble_line]
  intro word hm
  have hs := solid_of_mem_words definition h word hm
  exact ⟨hs.ne_nil, hs.toFirm.endsIn_of_isBlank word ' ' (by decide)⟩

theorem exists_rereads (definition : Definition) (h : definition.WellFormed) :
    ∃ again, Rereads definition again := by
  obtain ⟨parameters, hw, hp⟩ := exists_parameters definition.parameters h.parameters
  let again : Definition :=
    ⟨definition.render, definition.command, definition.arguments, parameters, none⟩
  have hd : ∀ parameter ∈ again.parameters, parameter.description = none :=
    fun parameter hm => (hw parameter hm).2
  have hwell : again.WellFormed :=
    ⟨h.command, h.arguments, h.wildcard, fun parameter hm => (hw parameter hm).1⟩
  have htokens : Token.tokens definition.render = again.words := by
    rw [tokens_render definition h, ← words_eq_of_parameters definition again h rfl rfl hp]
    refine List.filter_eq_self.2 ?_
    intro word hm
    simpa using (solid_of_mem_words again hwell word hm).ne_nil
  refine ⟨again, ?_, rfl, rfl, hp, hwell, hd⟩
  rw [parse, htokens, ofTokens_eq_ok_iff]
  exact ⟨rfl, rfl, declared_words again hwell hd⟩

theorem Rereads.words (definition again : Definition) (h : definition.WellFormed)
    (hr : Rereads definition again) :
    again.words = (Token.assemble definition.words).map Text.trim :=
  words_eq_of_parameters definition again h hr.command hr.arguments hr.parameters

end CommandGrammar.Definition
