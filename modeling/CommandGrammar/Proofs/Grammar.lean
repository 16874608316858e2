import Mathlib
import CommandGrammar.Proofs.Declaration

set_option autoImplicit false

namespace CommandGrammar
open List (Forall₂)

def IsWildcard (token : Text) : Prop := ∃ name, Shape.Spells (.argument name true) token

structure Grammatical (tokens : List Text) : Prop where
  names : ∀ token ∈ tokens, ∀ shape, Shape.Spells shape token → Name.IsWritten shape.name
  command : (TokenClass.bare.select tokens).length = 1
  wildcard : tokens.Pairwise fun earlier later =>
    IsWildcard earlier → TokenClass.ofToken later ≠ .argument

structure Declares (tokens : List Text) (definition : Definition) : Prop where
  command : Forall₂ DeclaresCommand (TokenClass.bare.select tokens) [definition.command]
  arguments : Forall₂ DeclaresArgument (TokenClass.argument.select tokens) definition.arguments
  parameters : Forall₂ DeclaresParameter (TokenClass.option.select tokens) definition.parameters

theorem exists_command (token : Text) (hk : TokenClass.ofToken token = .bare)
    (hn : ∀ shape, Shape.Spells shape token → Name.IsWritten shape.name) :
    ∃ command, DeclaresCommand token command := by
  have h := TokenClass.exists_spells token
  rw [hk] at h
  obtain ⟨text, hs⟩ := h
  obtain ⟨name, hw, rfl⟩ := hn _ hs
  exact ⟨name.long, name, hw, hs, rfl⟩

theorem exists_argument (token : Text) (hk : TokenClass.ofToken token = .argument)
    (hn : ∀ shape, Shape.Spells shape token → Name.IsWritten shape.name) :
    ∃ argument, DeclaresArgument token argument := by
  have h := TokenClass.exists_spells token
  rw [hk] at h
  obtain ⟨text, wildcard, hs⟩ := h
  obtain ⟨name, hw, rfl⟩ := hn _ hs
  exact ⟨⟨name.long, wildcard⟩, name, hw, hs, rfl⟩

theorem exists_parameter (token : Text) (hk : TokenClass.ofToken token = .option)
    (hn : ∀ shape, Shape.Spells shape token → Name.IsWritten shape.name) :
    ∃ parameter, DeclaresParameter token parameter := by
  have h := TokenClass.exists_spells token
  rw [hk] at h
  rcases h with ⟨text, hs⟩ | ⟨text, default, hs⟩
  · obtain ⟨name, hw, rfl⟩ := hn _ hs
    exact ⟨.flag name, .flag name hw hs⟩
  · obtain ⟨name, hw, rfl⟩ := hn _ hs
    exact ⟨.value name default, .value name default hw hs⟩

theorem isWritten_of_spells (token : Text) (name : Name) (hn : name.WellFormed) (known shape : Shape)
    (hk : Shape.Spells known token) (he : known.name = name.render)
    (hs : Shape.Spells shape token) : Name.IsWritten shape.name := by
  rw [← Shape.ofToken_of_spells shape token hs, Shape.ofToken_of_spells known token hk, he]
  exact ⟨name, hn, rfl⟩

theorem isWildcard_iff (token : Text) (argument : Argument) (h : DeclaresArgument token argument) :
    IsWildcard token ↔ argument.wildcard = true := by
  obtain ⟨name, hn, hs, _⟩ := h
  constructor
  · rintro ⟨text, ht⟩
    have he := (Shape.ofToken_of_spells _ token hs).symm.trans (Shape.ofToken_of_spells _ token ht)
    exact (Shape.argument.inj he).2
  · intro hw
    exact ⟨name.render, hw ▸ hs⟩

theorem IsWildcard.ofToken_eq (token : Text) (h : IsWildcard token) :
    TokenClass.ofToken token = .argument := by
  obtain ⟨name, hs⟩ := h
  exact TokenClass.ofToken_of_spells _ token hs

theorem wildcard_iff (tokens : List Text) (arguments : List Argument)
    (h : Forall₂ DeclaresArgument (TokenClass.argument.select tokens) arguments) :
    (tokens.Pairwise fun earlier later =>
      IsWildcard earlier → TokenClass.ofToken later ≠ .argument) ↔
      arguments.Pairwise fun earlier _ => earlier.wildcard = false := by
  have hq : ∀ token argument, DeclaresArgument token argument →
      (¬ IsWildcard token ↔ argument.wildcard = false) := by
    intro token argument hd
    rw [isWildcard_iff token argument hd, Bool.not_eq_true]
  rw [← pairwise_iff_of_forall₂ DeclaresArgument _ _ hq _ _ h, TokenClass.select,
    List.pairwise_filter]
  -- A wildcard is an argument itself, so only pairs of arguments count.
  apply List.Pairwise.iff
  intro earlier later
  simp only [decide_eq_true_eq]
  constructor
  · intro hw _ hl he
    exact hw he hl
  · intro hn he hl
    exact hn he.ofToken_eq hl he

theorem grammatical_of_declared (tokens : List Text) (draft : Draft) (command : Text)
    (hc : draft.command = some command) (h : Draft.Declared tokens draft) : Grammatical tokens := by
  refine ⟨?_, ?_, (wildcard_iff tokens _ h.arguments).2 h.wildcard⟩
  · intro token ht shape hs
    cases hk : TokenClass.ofToken token with
    | bare =>
      obtain ⟨_, _, name, hn, hd, _⟩ :=
        exists_of_forall₂ _ _ _ h.command token ((TokenClass.mem_select _ _ _).2 ⟨ht, hk⟩)
      exact isWritten_of_spells token name hn _ shape hd rfl hs
    | argument =>
      obtain ⟨_, _, name, hn, hd, _⟩ :=
        exists_of_forall₂ _ _ _ h.arguments token ((TokenClass.mem_select _ _ _).2 ⟨ht, hk⟩)
      exact isWritten_of_spells token name hn _ shape hd rfl hs
    | option =>
      obtain ⟨_, _, hd⟩ :=
        exists_of_forall₂ _ _ _ h.parameters token ((TokenClass.mem_select _ _ _).2 ⟨ht, hk⟩)
      cases hd with
      | flag name hn hd => exact isWritten_of_spells token name hn _ shape hd rfl hs
      | value name default hn hd => exact isWritten_of_spells token name hn _ shape hd rfl hs
  · rw [h.command.length_eq, hc]
    rfl

theorem declared_of_grammatical (tokens : List Text) (h : Grammatical tokens) :
    ∃ draft command, draft.command = some command ∧ Draft.Declared tokens draft := by
  obtain ⟨commands, hc⟩ := exists_forall₂ DeclaresCommand (TokenClass.bare.select tokens) <| by
    intro token ht
    obtain ⟨hm, hk⟩ := (TokenClass.mem_select _ _ _).1 ht
    exact exists_command token hk (h.names token hm)
  obtain ⟨arguments, ha⟩ := exists_forall₂ DeclaresArgument (TokenClass.argument.select tokens) <| by
    intro token ht
    obtain ⟨hm, hk⟩ := (TokenClass.mem_select _ _ _).1 ht
    exact exists_argument token hk (h.names token hm)
  obtain ⟨parameters, hp⟩ := exists_forall₂ DeclaresParameter (TokenClass.option.select tokens) <| by
    intro token ht
    obtain ⟨hm, hk⟩ := (TokenClass.mem_select _ _ _).1 ht
    exact exists_parameter token hk (h.names token hm)
  obtain ⟨command, rfl⟩ : ∃ command, commands = [command] :=
    List.length_eq_one_iff.1 (hc.length_eq.symm.trans h.command)
  exact ⟨⟨some command, arguments, parameters⟩, command, rfl, hc, ha, hp,
    (wildcard_iff tokens arguments ha).1 h.wildcard⟩

namespace Definition

theorem ofTokens_eq_ok_iff (source : Text) (tokens : List Text) (definition : Definition) :
    ofTokens source tokens = .ok definition ↔
      definition.source = source ∧ definition.description = none ∧
        Draft.Declared tokens
          ⟨some definition.command, definition.arguments, definition.parameters⟩ := by
  rw [← Draft.addAll_eq_ok_iff, ofTokens, ofDraft.eq_def]
  cases Draft.empty.addAll tokens with
  | error fault => simp
  | ok draft =>
    obtain ⟨command, arguments, parameters⟩ := draft
    obtain ⟨text, name, as, ps, description⟩ := definition
    cases command with
    | none => simp [Draft.close]
    | some command =>
      simp only [Draft.close, Except.ok.injEq, Definition.mk.injEq, Draft.mk.injEq,
        Option.some.injEq]
      constructor
      · rintro ⟨rfl, rfl, rfl, rfl, rfl⟩
        exact ⟨rfl, rfl, rfl, rfl, rfl⟩
      · rintro ⟨rfl, rfl, rfl, rfl, rfl⟩
        exact ⟨rfl, rfl, rfl, rfl, rfl⟩

theorem exists_ofTokens_iff (source : Text) (tokens : List Text) :
    (∃ definition, ofTokens source tokens = .ok definition) ↔ Grammatical tokens := by
  simp only [ofTokens_eq_ok_iff]
  constructor
  · rintro ⟨definition, _, _, hd⟩
    exact grammatical_of_declared tokens _ definition.command rfl hd
  · intro h
    obtain ⟨⟨_, arguments, parameters⟩, command, rfl, hd⟩ := declared_of_grammatical tokens h
    exact ⟨⟨source, command, arguments, parameters, none⟩, rfl, rfl, hd⟩

theorem declares_of_ofTokens (source : Text) (tokens : List Text) (definition : Definition)
    (h : ofTokens source tokens = .ok definition) : Declares tokens definition := by
  obtain ⟨_, _, hd⟩ := (ofTokens_eq_ok_iff source tokens definition).1 h
  exact ⟨hd.command, hd.arguments, hd.parameters⟩

/-- Every token has one shape; a line is read if it is grammatical, and then holds what its tokens
    declare; how the classes of tokens are mixed does not count. -/
theorem parse_iff_grammatical :
    (∀ token, ∃! shape, Shape.Spells shape token) ∧
    (∀ source, ((∃ definition, parse source = .ok definition) ↔
      Grammatical (Token.tokens source)) ∧
      ∀ definition, parse source = .ok definition →
        Declares (Token.tokens source) definition ∧ definition.source = source ∧
          definition.description = none) ∧
    ∀ first second : List Text, (∀ kind : TokenClass, kind.select first = kind.select second) →
      ∀ source other command arguments parameters,
        ofTokens source first = .ok ⟨source, command, arguments, parameters, none⟩ ↔
          ofTokens other second = .ok ⟨other, command, arguments, parameters, none⟩ := by
  refine ⟨?_, ?_, ?_⟩
  · intro token
    simp only [Shape.spells_iff]
    exact ⟨Shape.ofToken token, rfl, fun _ he => he.symm⟩
  · intro source
    refine ⟨exists_ofTokens_iff source _, ?_⟩
    intro definition h
    obtain ⟨hs, hn, _⟩ := (ofTokens_eq_ok_iff source _ definition).1 h
    exact ⟨declares_of_ofTokens source _ definition h, hs, hn⟩
  · intro first second h source other command arguments parameters
    rw [ofTokens_eq_ok_iff, ofTokens_eq_ok_iff]
    constructor
    · rintro ⟨_, _, hd⟩
      exact ⟨rfl, rfl, hd.congr first second _ h⟩
    · rintro ⟨_, _, hd⟩
      exact ⟨rfl, rfl, hd.congr second first _ fun kind => (h kind).symm⟩

def mixedLine : Text := "--verbose $first deploy --to=prod $rest*".toList

def mixedDefinition : Definition :=
  ⟨mixedLine, "deploy".toList, [⟨"first".toList, false⟩, ⟨"rest".toList, true⟩],
    [.flag ⟨"verbose".toList, none⟩, .value ⟨"to".toList, none⟩ (some "prod".toList)], none⟩

def unmixedTokens : List Text :=
  ["deploy", "$first", "$rest*", "--verbose", "--to=prod"].map String.toList

theorem parse_mixedLine :
    parse mixedLine = .ok mixedDefinition ∧
      (∀ kind : TokenClass, kind.select (Token.tokens mixedLine) = kind.select unmixedTokens) ∧
      Declares (Token.tokens mixedLine) mixedDefinition ∧
      ofTokens [] unmixedTokens = .ok { mixedDefinition with source := [] } := by
  have hp : parse mixedLine = .ok mixedDefinition := rfl
  have hk : ∀ kind : TokenClass,
      kind.select (Token.tokens mixedLine) = kind.select unmixedTokens := by
    intro kind
    cases kind <;> rfl
  obtain ⟨_, hline, hmix⟩ := parse_iff_grammatical
  exact ⟨hp, hk, ((hline mixedLine).2 mixedDefinition hp).1,
    (hmix _ _ hk mixedLine [] _ _ _).1 hp⟩

end Definition
end CommandGrammar
