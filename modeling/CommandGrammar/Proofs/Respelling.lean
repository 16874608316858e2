import Mathlib
import CommandGrammar.Proofs.DefinitionForm

set_option autoImplicit false

/-!
# Tokens that say the same

Some things can be spelled in several ways: a flag with and without its mark, a wildcard with one
mark or the other, and a command or an argument with a short form, which is then forgotten. Every
draft takes the spellings of one thing alike, so that in a list of tokens one may stand for another:
nothing changes but the token that an error shows.
-/
namespace CommandGrammar
open List (Forall₂)

inductive Spellings : List Text → Prop
  | flag (name : Text) (hc : '=' ∉ name) (hm : Text.endsIn '?' name = false) :
      Spellings ['-' :: '-' :: name, '-' :: '-' :: (name ++ ['?'])]
  | wildcard (name : Text) (hm : Text.endsIn '*' name = false) :
      Spellings ['.' :: '.' :: '.' :: '$' :: name, '.' :: '.' :: '.' :: '$' :: (name ++ ['*']),
        '$' :: (name ++ ['*'])]
  | argument (long : Text) (letter : Char) (hn : Name.IsIdentifier long)
      (hl : Name.IsLetter letter) :
      Spellings ['$' :: long, '$' :: (long ++ ['[', letter, ']'])]
  | markedArgument (long : Text) (letter : Char) (hn : Name.IsIdentifier long)
      (hl : Name.IsLetter letter) :
      Spellings ['$' :: (long ++ ['*']), '$' :: (long ++ ['[', letter, ']'] ++ ['*'])]
  | command (long : Text) (letter : Char) (hn : Name.IsIdentifier long)
      (hl : Name.IsLetter letter) :
      Spellings [long, long ++ ['[', letter, ']']]

def Fault.withToken (token : Text) : Fault → Fault
  | .invalidIdentifier _ cause => .invalidIdentifier token cause
  | .argumentAfterWildcard _ => .argumentAfterWildcard token
  | .secondCommand _ => .secondCommand token
  | .missingCommand => .missingCommand

namespace Draft

/-- The tokens before `place` are accepted, and the token there is refused. -/
structure RefusedAt (draft : Draft) (tokens : List Text) (place : Nat) (token : Text)
    (fault : Fault) : Prop where
  there : tokens[place]? = some token
  refused : ∃ middle, draft.addAll (tokens.take place) = .ok middle ∧
    middle.add token = .error fault

/-- Every draft takes both tokens alike, but for the token in a fault. -/
def Interchangeable (first second : Text) : Prop :=
  ∀ draft : Draft, draft.add second = (draft.add first).mapError (·.withToken second)

theorem identify_mapError (first second name : Text) :
    identify second name = (identify first name).mapError (·.withToken second) := by
  rw [identify, identify]
  cases Name.parse name <;> rfl

theorem map_mapError {α β : Type} (use : α → β) (change : Fault → Fault) (result : Except Fault α) :
    (result.mapError change).map use = (result.map use).mapError change := by
  cases result <;> rfl

theorem interchangeable_of_ofToken_eq (first second : Text)
    (h : Shape.ofToken first = Shape.ofToken second) : Interchangeable first second := by
  intro draft
  rw [add.eq_def draft second, add.eq_def draft first, h]
  cases Shape.ofToken second with
  | flag name =>
    change (identify second name).map _ = ((identify first name).map _).mapError _
    rw [identify_mapError first second, map_mapError]
  | value name default =>
    change (identify second name).map _ = ((identify first name).map _).mapError _
    rw [identify_mapError first second, map_mapError]
  | argument name wildcard =>
    simp only [identify_mapError first second]
    cases identify first name with
    | error fault => rfl
    | ok name => cases draft.hasWildcard <;> rfl
  | bare name =>
    simp only [identify_mapError first second, map_mapError]
    cases draft.command.isSome <;> rfl

theorem interchangeable_self (token : Text) : Interchangeable token token :=
  interchangeable_of_ofToken_eq token token rfl

theorem add_of_declaresArgument (draft : Draft) (token : Text) (argument : Argument)
    (h : DeclaresArgument token argument) :
    draft.add token =
      if draft.hasWildcard then .error (.argumentAfterWildcard token)
      else .ok { draft with arguments := draft.arguments ++ [argument] } := by
  obtain ⟨name, hn, hs, he⟩ := h
  rw [add, Shape.ofToken_of_spells _ token hs]
  simp only [identify_render token name hn, ← he]

theorem add_of_declaresCommand (draft : Draft) (token command : Text)
    (h : DeclaresCommand token command) :
    draft.add token =
      if draft.command.isSome then .error (.secondCommand token)
      else .ok { draft with command := some command } := by
  obtain ⟨name, hn, hs, rfl⟩ := h
  rw [add, Shape.ofToken_of_spells _ token hs]
  simp only [identify_render token name hn]
  rfl

theorem interchangeable_of_declaresArgument (first second : Text) (argument : Argument)
    (hf : DeclaresArgument first argument) (hs : DeclaresArgument second argument) :
    Interchangeable first second := by
  intro draft
  rw [add_of_declaresArgument draft first argument hf,
    add_of_declaresArgument draft second argument hs]
  cases draft.hasWildcard <;> rfl

theorem interchangeable_of_declaresCommand (first second command : Text)
    (hf : DeclaresCommand first command) (hs : DeclaresCommand second command) :
    Interchangeable first second := by
  intro draft
  rw [add_of_declaresCommand draft first command hf, add_of_declaresCommand draft second command hs]
  cases draft.command.isSome <;> rfl

end Draft

theorem Name.wellFormed_plain (long : Text) (hn : Name.IsIdentifier long) :
    (⟨long, none⟩ : Name).WellFormed :=
  Name.wellFormed_of_isLong long ((Name.isLong_iff_isIdentifier long).2 hn)

theorem Name.wellFormed_lettered (long : Text) (letter : Char) (hn : Name.IsIdentifier long)
    (hl : Name.IsLetter letter) : (⟨long, some letter⟩ : Name).WellFormed := by
  refine (Name.conforms_iff _).1 ⟨hn, ?_⟩
  rintro _ ⟨⟩
  exact hl

theorem declaresArgument_plain (name : Name) (h : name.WellFormed) :
    DeclaresArgument ('$' :: name.render) ⟨name.long, false⟩ := by
  have hm := Text.endsIn_of_notMem '*' _ (Name.notMem_render name h '*' (by decide))
  exact ⟨name, h, .argument name.render hm, rfl⟩

theorem declaresArgument_marked (name : Name) (h : name.WellFormed) :
    DeclaresArgument ('$' :: (name.render ++ ['*'])) ⟨name.long, true⟩ :=
  ⟨name, h, .markedArgument name.render, rfl⟩

/-- A thing shows in its spellings as their shape, or as what a name in them declares with or
    without a short form. -/
theorem Spellings.cases_same (spellings : List Text) (h : Spellings spellings) :
    (∃ shape, ∀ token ∈ spellings, Shape.ofToken token = shape) ∨
      (∃ argument, ∀ token ∈ spellings, DeclaresArgument token argument) ∨
        ∃ command, ∀ token ∈ spellings, DeclaresCommand token command := by
  cases h with
  | flag name hc hm =>
    have hplain := Shape.ofToken_of_spells _ _ (.flag name hc hm)
    have hmarked := Shape.ofToken_of_spells _ _ (.markedFlag name hc)
    exact .inl ⟨_, List.forall_mem_cons.2 ⟨hplain, List.forall_mem_singleton.2 hmarked⟩⟩
  | wildcard name hm =>
    have hdotted := Shape.ofToken_of_spells _ _ (.variadic name hm)
    have hboth := Shape.ofToken_of_spells _ _ (.markedVariadic name)
    have hmarked := Shape.ofToken_of_spells _ _ (.markedArgument name)
    exact .inl ⟨_, List.forall_mem_cons.2 ⟨hdotted, List.forall_mem_cons.2
      ⟨hboth, List.forall_mem_singleton.2 hmarked⟩⟩⟩
  | argument long letter hn hl =>
    have hplain := declaresArgument_plain _ (Name.wellFormed_plain long hn)
    have hlettered := declaresArgument_plain _ (Name.wellFormed_lettered long letter hn hl)
    exact .inr (.inl ⟨_, List.forall_mem_cons.2 ⟨hplain, List.forall_mem_singleton.2 hlettered⟩⟩)
  | markedArgument long letter hn hl =>
    have hplain := declaresArgument_marked _ (Name.wellFormed_plain long hn)
    have hlettered := declaresArgument_marked _ (Name.wellFormed_lettered long letter hn hl)
    exact .inr (.inl ⟨_, List.forall_mem_cons.2 ⟨hplain, List.forall_mem_singleton.2 hlettered⟩⟩)
  | command long letter hn hl =>
    have hplain := Name.declaresCommand_render _ (Name.wellFormed_plain long hn)
    have hlettered := Name.declaresCommand_render _ (Name.wellFormed_lettered long letter hn hl)
    exact .inr (.inr ⟨_, List.forall_mem_cons.2 ⟨hplain, List.forall_mem_singleton.2 hlettered⟩⟩)

theorem Spellings.interchangeable (spellings : List Text) (h : Spellings spellings)
    (first second : Text) (hf : first ∈ spellings) (hs : second ∈ spellings) :
    Draft.Interchangeable first second := by
  rcases h.cases_same with ⟨shape, hsame⟩ | ⟨argument, hsame⟩ | ⟨command, hsame⟩
  · exact Draft.interchangeable_of_ofToken_eq first second
      ((hsame first hf).trans (hsame second hs).symm)
  · exact Draft.interchangeable_of_declaresArgument first second argument (hsame first hf)
      (hsame second hs)
  · exact Draft.interchangeable_of_declaresCommand first second command (hsame first hf)
      (hsame second hs)

namespace Draft

theorem RefusedAt.addAll_eq (draft : Draft) (tokens : List Text) (place : Nat) (token : Text)
    (fault : Fault) (h : draft.RefusedAt tokens place token fault) :
    draft.addAll tokens = .error fault := by
  obtain ⟨ht, middle, hm, ha⟩ := h
  obtain ⟨hp, hget⟩ := List.getElem?_eq_some_iff.1 ht
  rw [← List.take_append_drop place tokens, List.drop_eq_getElem_cons hp, hget, addAll_append, hm]
  simp only [addAll, ha]

theorem RefusedAt.cons (draft next : Draft) (first : Text) (tokens : List Text) (place : Nat)
    (token : Text) (fault : Fault) (hn : draft.add first = .ok next)
    (h : next.RefusedAt tokens place token fault) :
    draft.RefusedAt (first :: tokens) (place + 1) token fault := by
  obtain ⟨ht, middle, hm, ha⟩ := h
  refine ⟨ht, middle, ?_, ha⟩
  rw [List.take_succ_cons, addAll, hn]
  exact hm

theorem addAll_of_interchangeable (draft : Draft) (tokens others : List Text)
    (h : Forall₂ Interchangeable tokens others) :
    (∃ last, draft.addAll tokens = .ok last ∧ draft.addAll others = .ok last) ∨
      ∃ place token other fault, draft.RefusedAt tokens place token fault ∧
        draft.RefusedAt others place other (fault.withToken other) := by
  -- A pair that is accepted leads to one draft, from which the rest of both lists goes on.
  induction h generalizing draft with
  | nil => exact .inl ⟨draft, rfl, rfl⟩
  | @cons token other tokens others hi _ ih =>
    have hother := hi draft
    cases ha : draft.add token with
    | error fault =>
      rw [ha] at hother
      exact .inr ⟨0, token, other, fault, ⟨rfl, draft, rfl, ha⟩, rfl, draft, rfl, hother⟩
    | ok next =>
      rw [ha] at hother
      rcases ih next with ⟨last, ht, ho⟩ | ⟨place, bad, replaced, fault, ht, ho⟩
      · refine .inl ⟨last, ?_, ?_⟩
        · rw [addAll, ha]
          exact ht
        · rw [addAll, hother]
          exact ho
      · have ht := ht.cons draft next token tokens place bad fault ha
        have ho := ho.cons draft next other others place replaced _ hother
        exact .inr ⟨place + 1, bad, replaced, fault, ht, ho⟩

end Draft

namespace Definition

inductive SameOutcome (source other : Text) (tokens others : List Text) : Prop
  | accepted (command : Text) (arguments : List Argument) (parameters : List Parameter)
      (ht : ofTokens source tokens = .ok ⟨source, command, arguments, parameters, none⟩)
      (ho : ofTokens other others = .ok ⟨other, command, arguments, parameters, none⟩) :
      SameOutcome source other tokens others
  | refused (place : Nat) (token replaced : Text) (fault : Fault)
      (ht : Draft.empty.RefusedAt tokens place token fault)
      (ho : Draft.empty.RefusedAt others place replaced (fault.withToken replaced))
      (hte : ofTokens source tokens = .error ⟨source, fault⟩)
      (hoe : ofTokens other others = .error ⟨other, fault.withToken replaced⟩) :
      SameOutcome source other tokens others
  | incomplete (ht : ofTokens source tokens = .error ⟨source, .missingCommand⟩)
      (ho : ofTokens other others = .error ⟨other, .missingCommand⟩) :
      SameOutcome source other tokens others

theorem sameOutcome_of_interchangeable (source other : Text) (tokens others : List Text)
    (h : Forall₂ Draft.Interchangeable tokens others) : SameOutcome source other tokens others := by
  rcases Draft.addAll_of_interchangeable .empty tokens others h with
    ⟨⟨command, arguments, parameters⟩, ht, ho⟩ | ⟨place, token, replaced, fault, ht, ho⟩
  · cases command with
    | none =>
      refine .incomplete ?_ ?_
      · rw [ofTokens, ht]
        rfl
      · rw [ofTokens, ho]
        rfl
    | some command =>
      refine .accepted command arguments parameters ?_ ?_
      · rw [ofTokens, ht]
        rfl
      · rw [ofTokens, ho]
        rfl
  · refine .refused place token replaced fault ht ho ?_ ?_
    · rw [ofTokens, ht.addAll_eq]
      rfl
    · rw [ofTokens, ho.addAll_eq]
      rfl

/-- Wherever a token stands, another spelling of the same thing may stand. -/
theorem ofTokens_respelled (spellings : List Text) (h : Spellings spellings) (first second : Text)
    (hf : first ∈ spellings) (hs : second ∈ spellings) (before after : List Text)
    (source other : Text) :
    SameOutcome source other (before ++ first :: after) (before ++ second :: after) := by
  apply sameOutcome_of_interchangeable
  have hself : ∀ tokens : List Text, Forall₂ Draft.Interchangeable tokens tokens := fun tokens =>
    List.forall₂_same.2 fun token _ => Draft.interchangeable_self token
  have hi := h.interchangeable spellings first second hf hs
  exact List.rel_append (hself before) (.cons hi (hself after))

/-- The marks of a wildcard are exchanged before an argument that may not follow it, and a flag that
    has no name gets its mark. -/
theorem ofTokens_respelled_faultyTokens :
    let command : Text := "copy".toList
    let marked : Text := "$files*".toList
    let dotted : Text := "...$files".toList
    Spellings [dotted, "...$files*".toList, marked] ∧
      SameOutcome [] [] [command, marked, "$more".toList] [command, dotted, "$more".toList] ∧
      ofTokens [] [command, dotted, "$more".toList] =
        .error ⟨[], .argumentAfterWildcard "$more".toList⟩ ∧
      Spellings ["--".toList, "--?".toList] ∧
      SameOutcome [] [] [command, "--".toList] [command, "--?".toList] ∧
      ofTokens [] [command, "--?".toList] =
        .error ⟨[], .invalidIdentifier "--?".toList ⟨[]⟩⟩ := by
  intro command marked dotted
  have hwildcard : Spellings [dotted, "...$files*".toList, marked] :=
    .wildcard "files".toList (by decide)
  have hflag : Spellings ["--".toList, "--?".toList] := .flag [] (by decide) (by decide)
  exact ⟨hwildcard,
    ofTokens_respelled _ hwildcard marked dotted (by decide) (by decide) [command]
      ["$more".toList] [] [],
    rfl, hflag,
    ofTokens_respelled _ hflag "--".toList "--?".toList (by decide) (by decide) [command] [] [] [],
    rfl⟩

end Definition
end CommandGrammar
