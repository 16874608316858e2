import Mathlib
import CommandGrammar.Proofs.ParameterForm

set_option autoImplicit false

namespace CommandGrammar

namespace Definition

structure WellFormed (definition : Definition) : Prop where
  command : Name.isLong definition.command = true
  arguments : ∀ argument ∈ definition.arguments, Name.isLong argument.name = true
  wildcard : definition.arguments.Pairwise fun earlier _ => earlier.wildcard = false
  parameters : ∀ parameter ∈ definition.parameters, parameter.WellFormed

def words (definition : Definition) : List Text :=
  (definition.command :: definition.arguments.map Argument.render) ++
    definition.parameters.map Parameter.word

end Definition

namespace Name

theorem exists_render_cons (name : Name) (h : name.WellFormed) :
    ∃ first rest, name.render = first :: rest ∧ first.isLower = true := by
  obtain ⟨first, rest, hl, hf, _⟩ := (isLong_iff name.long).1 h.long
  exact ⟨first, rest ++ name.suffix, by rw [render_eq, hl, List.cons_append], hf⟩

theorem solid_render (name : Name) (h : name.WellFormed) : Token.Solid name.render := by
  have hf : Text.Firm name.render := Text.firm_of_forall _ fun c hc =>
    isBlank_of_isNameChar c (isNameChar_of_mem name h c hc)
  have hb := notMem_render name h '\\' (by decide)
  obtain ⟨first, rest, he, _⟩ := exists_render_cons name h
  refine ⟨hf, by rw [he]; exact List.cons_ne_nil _ _, ?_⟩
  intro ho
  exact hb (List.mem_of_mem_head? ho)

theorem declaresCommand_render (name : Name) (h : name.WellFormed) :
    DeclaresCommand name.render name.long := by
  refine ⟨name, h, ?_, rfl⟩
  obtain ⟨first, rest, he, hl⟩ := exists_render_cons name h
  have hopen : ∀ c pattern, c.isLower = false → ¬ c :: pattern <+: name.render := by
    intro c pattern hn hp
    rw [he] at hp
    obtain ⟨rfl, _⟩ := List.cons_prefix_cons.1 hp
    rw [hl] at hn
    cases hn
  exact .bare name.render (hopen '-' ['-'] (by decide)) (hopen '$' [] (by decide))
    (hopen '.' ['.', '.', '$'] (by decide))

end Name

theorem solid_command (command : Text) (h : Name.isLong command = true) : Token.Solid command :=
  Name.solid_render ⟨command, none⟩ (Name.wellFormed_of_isLong command h)

theorem declaresCommand_self (command : Text) (h : Name.isLong command = true) :
    DeclaresCommand command command :=
  Name.declaresCommand_render ⟨command, none⟩ (Name.wellFormed_of_isLong command h)

namespace Argument

theorem mem_render (argument : Argument) (c : Char) (hc : c ∈ argument.render) :
    c = '$' ∨ c ∈ argument.name ∨ c = '*' := by
  rw [render] at hc
  cases hw : argument.wildcard <;> simp [hw] at hc <;> tauto

theorem solid_render (argument : Argument) (h : Name.isLong argument.name = true) :
    Token.Solid argument.render := by
  have hf : Text.Firm argument.render := by
    apply Text.firm_of_forall
    intro c hc
    rcases mem_render argument c hc with rfl | hm | rfl
    · decide
    · exact Name.isBlank_of_mem_isLong _ h c hm
    · decide
  exact ⟨hf, List.cons_ne_nil _ _, by simp [render]⟩

theorem notMem_render (argument : Argument) (h : Name.isLong argument.name = true) (c : Char)
    (hn : Name.isNameChar c = false) (hd : c ≠ '$') (hs : c ≠ '*') : c ∉ argument.render := by
  intro hc
  rcases mem_render argument c hc with he | hm | he
  · exact hd he
  · exact Name.notMem_of_isLong _ h c hn hm
  · exact hs he

theorem declares_render (argument : Argument) (h : Name.isLong argument.name = true) :
    DeclaresArgument argument.render argument := by
  refine ⟨⟨argument.name, none⟩, Name.wellFormed_of_isLong _ h, ?_, rfl⟩
  rw [render]
  cases argument.wildcard with
  | true => exact .markedArgument argument.name
  | false =>
    rw [if_neg (by decide), List.append_nil]
    have hn := Name.notMem_of_isLong _ h '*' (by decide)
    exact .argument argument.name (Text.endsIn_of_notMem '*' _ hn)

end Argument

namespace Definition

theorem declared_words (definition : Definition) (h : definition.WellFormed)
    (hd : ∀ parameter ∈ definition.parameters, parameter.description = none) :
    Draft.Declared definition.words
      ⟨some definition.command, definition.arguments, definition.parameters⟩ := by
  have hc := declaresCommand_self _ h.command
  have ha := forall₂_map_self DeclaresArgument Argument.render definition.arguments
    fun argument hm => argument.declares_render (h.arguments argument hm)
  have hp := forall₂_map_self DeclaresParameter Parameter.word definition.parameters
    fun parameter hm => Parameter.declares_word parameter (h.parameters parameter hm) (hd _ hm)
  have hkc : ∀ token ∈ [definition.command], TokenClass.ofToken token = .bare := by
    intro token ht
    rw [List.mem_singleton.1 ht]
    exact hc.ofToken_eq
  have hka : ∀ token ∈ definition.arguments.map Argument.render,
      TokenClass.ofToken token = .argument := by
    intro token ht
    obtain ⟨argument, _, hr⟩ := exists_of_forall₂ _ _ _ ha token ht
    exact hr.ofToken_eq
  have hkp : ∀ token ∈ definition.parameters.map Parameter.word,
      TokenClass.ofToken token = .option := by
    intro token ht
    obtain ⟨parameter, _, hr⟩ := exists_of_forall₂ _ _ _ hp token ht
    exact hr.ofToken_eq
  have hs : ∀ kind : TokenClass, kind.select definition.words =
      (if .bare = kind then [definition.command] else []) ++
        (if .argument = kind then definition.arguments.map Argument.render else []) ++
          if .option = kind then definition.parameters.map Parameter.word else [] := by
    intro kind
    rw [words, ← List.singleton_append, TokenClass.select_append, TokenClass.select_append,
      TokenClass.select_of_forall kind _ _ hkc, TokenClass.select_of_forall kind _ _ hka,
      TokenClass.select_of_forall kind _ _ hkp]
  refine ⟨?_, ?_, ?_, h.wildcard⟩
  · rw [hs]
    exact .cons hc .nil
  · rw [hs]
    simpa using ha
  · rw [hs]
    simpa using hp

theorem solid_of_mem_words (definition : Definition) (h : definition.WellFormed) (word : Text)
    (hw : word ∈ definition.words) : Token.Solid word := by
  rw [words, List.mem_append, List.mem_cons] at hw
  rcases hw with (rfl | hm) | hm
  · exact solid_command _ h.command
  · obtain ⟨argument, ha, rfl⟩ := List.mem_map.1 hm
    exact argument.solid_render (h.arguments argument ha)
  · obtain ⟨parameter, hp, rfl⟩ := List.mem_map.1 hm
    exact Parameter.solid_word parameter (h.parameters parameter hp)

theorem render_eq_line (definition : Definition) (h : definition.WellFormed) :
    definition.render = Token.line definition.words := by
  have hc := Token.keepSpaces_eq_self _ (Name.notMem_of_isLong _ h.command ' ' (by decide))
  have ha : definition.arguments.map (Token.keepSpaces ∘ Argument.render) =
      definition.arguments.map Argument.render := by
    refine List.map_congr_left ?_
    intro argument hm
    exact Token.keepSpaces_eq_self _ (argument.notMem_render (h.arguments _ hm) ' '
      (by decide) (by decide) (by decide))
  have hp : definition.parameters.map (Token.keepSpaces ∘ Parameter.word) =
      definition.parameters.map Parameter.render := by
    refine List.map_congr_left ?_
    intro parameter hm
    exact (parameter.render_eq_keepSpaces (h.parameters _ hm).name).symm
  rw [render, Token.line, words, List.map_append, List.map_cons, List.map_map, List.map_map, hc, ha,
    hp]

/-- Only parameters can end in a backslash. -/
theorem assemble_words (definition : Definition) (h : definition.WellFormed) :
    Token.assemble definition.words =
      (definition.command :: definition.arguments.map Argument.render) ++
        Token.assemble (definition.parameters.map Parameter.word) := by
  apply Token.assemble_append_of_plain
  intro word hw
  apply Text.endsIn_of_notMem
  rcases List.mem_cons.1 hw with rfl | hm
  · exact Name.notMem_of_isLong _ h.command '\\' (by decide)
  · obtain ⟨argument, ha, rfl⟩ := List.mem_map.1 hm
    exact argument.notMem_render (h.arguments _ ha) '\\' (by decide) (by decide) (by decide)

theorem wellFormed_of_parse (source : Text) (definition : Definition)
    (h : parse source = .ok definition) : definition.WellFormed := by
  obtain ⟨_, _, hd⟩ := (ofTokens_eq_ok_iff source _ definition).1 h
  refine ⟨?_, ?_, hd.wildcard, ?_⟩
  · obtain ⟨token, _, name, hn, _, he⟩ :=
      exists_of_forall₂ _ _ _ hd.command.flip definition.command (by simp)
    exact he ▸ hn.long
  · intro argument hm
    obtain ⟨token, _, name, hn, _, he⟩ := exists_of_forall₂ _ _ _ hd.arguments.flip argument hm
    exact he ▸ hn.long
  · intro parameter hm
    obtain ⟨token, ht, hp⟩ := exists_of_forall₂ _ _ _ hd.parameters.flip parameter hm
    have hf := Token.firm_of_mem_tokens source token ((TokenClass.mem_select _ _ _).1 ht).1
    exact Parameter.wellFormed_of_declares token parameter hf.2 hp

theorem undescribed_of_parse (source : Text) (definition : Definition)
    (h : parse source = .ok definition) :
    ∀ parameter ∈ definition.parameters, parameter.description = none := by
  intro parameter hm
  obtain ⟨_, _, hd⟩ := (ofTokens_eq_ok_iff source _ definition).1 h
  obtain ⟨token, _, hp⟩ := exists_of_forall₂ _ _ _ hd.parameters.flip parameter hm
  cases hp <;> rfl

end Definition
end CommandGrammar
