import Mathlib
import CommandGrammar.Draft
import CommandGrammar.Proofs.NameForm
import CommandGrammar.Proofs.Pairing
import CommandGrammar.Proofs.Spelling

set_option autoImplicit false

namespace CommandGrammar
open List (Forall₂)

/-- A short form on the command is dropped. -/
def DeclaresCommand (token command : Text) : Prop :=
  ∃ name : Name, name.WellFormed ∧ Shape.Spells (.bare name.render) token ∧ command = name.long

def DeclaresArgument (token : Text) (argument : Argument) : Prop :=
  ∃ name : Name, name.WellFormed ∧
    Shape.Spells (.argument name.render argument.wildcard) token ∧ argument.name = name.long

inductive DeclaresParameter (token : Text) : Parameter → Prop
  | flag (name : Name) (hn : name.WellFormed) (hs : Shape.Spells (.flag name.render) token) :
      DeclaresParameter token (.flag name)
  | value (name : Name) (default : Option Text) (hn : name.WellFormed)
      (hs : Shape.Spells (.value name.render default) token) :
      DeclaresParameter token (.value name default)

theorem DeclaresCommand.ofToken_eq (token command : Text) (h : DeclaresCommand token command) :
    TokenClass.ofToken token = .bare := by
  obtain ⟨name, _, hs, _⟩ := h
  exact TokenClass.ofToken_of_spells _ token hs

theorem DeclaresArgument.ofToken_eq (token : Text) (argument : Argument)
    (h : DeclaresArgument token argument) : TokenClass.ofToken token = .argument := by
  obtain ⟨name, _, hs, _⟩ := h
  exact TokenClass.ofToken_of_spells _ token hs

theorem DeclaresParameter.ofToken_eq (token : Text) (parameter : Parameter)
    (h : DeclaresParameter token parameter) : TokenClass.ofToken token = .option := by
  cases h with
  | flag name hn hs => exact TokenClass.ofToken_of_spells _ token hs
  | value name default hn hs => exact TokenClass.ofToken_of_spells _ token hs

namespace Draft

theorem identify_render (token : Text) (name : Name) (h : name.WellFormed) :
    identify token name.render = .ok name := by
  rw [identify, Name.parse_render name h]
  rfl

theorem identify_unwritten (token text : Text) (h : ¬ Name.IsWritten text) :
    identify token text = .error (.invalidIdentifier token ⟨text⟩) := by
  have hp : Name.parse text = .error ⟨text⟩ :=
    (Name.parse_error_iff _ _).2 ⟨(Name.read?_eq_none_iff text).2 h, rfl⟩
  rw [identify, hp]
  rfl

theorem identify_eq_ok_iff (token text : Text) (name : Name) :
    identify token text = .ok name ↔ name.WellFormed ∧ text = name.render := by
  constructor
  · intro h
    by_cases hw : Name.IsWritten text
    · obtain ⟨other, hn, rfl⟩ := hw
      rw [identify_render token other hn] at h
      cases h
      exact ⟨hn, rfl⟩
    · rw [identify_unwritten token text hw] at h
      cases h
  · rintro ⟨hn, rfl⟩
    exact identify_render token name hn

theorem map_eq_ok {α β : Type} (f : α → β) (result : Except Fault α) (value : β)
    (h : result.map f = .ok value) : ∃ source, result = .ok source ∧ f source = value := by
  cases result with
  | error fault => cases h
  | ok source =>
    cases h
    exact ⟨source, rfl, rfl⟩

/-- What a token that is accepted does to a draft. -/
inductive Step (draft : Draft) (token : Text) : Draft → Prop
  | command (command : Text) (hd : DeclaresCommand token command) (hn : draft.command = none) :
      Step draft token { draft with command := some command }
  | argument (argument : Argument) (hd : DeclaresArgument token argument)
      (hw : draft.hasWildcard = false) :
      Step draft token { draft with arguments := draft.arguments ++ [argument] }
  | parameter (parameter : Parameter) (hd : DeclaresParameter token parameter) :
      Step draft token { draft with parameters := draft.parameters ++ [parameter] }

theorem step_of_add (draft : Draft) (token : Text) (next : Draft) (h : draft.add token = .ok next) :
    Step draft token next := by
  have hs := Shape.spells_ofToken token
  rw [add] at h
  cases he : Shape.ofToken token with
  | flag text =>
    simp only [he] at h hs
    obtain ⟨name, hi, rfl⟩ := map_eq_ok _ _ _ h
    obtain ⟨hn, rfl⟩ := (identify_eq_ok_iff token text name).1 hi
    exact .parameter _ (.flag name hn hs)
  | value text default =>
    simp only [he] at h hs
    obtain ⟨name, hi, rfl⟩ := map_eq_ok _ _ _ h
    obtain ⟨hn, rfl⟩ := (identify_eq_ok_iff token text name).1 hi
    exact .parameter _ (.value name default hn hs)
  | argument text wildcard =>
    simp only [he] at h hs
    cases hi : identify token text with
    | error fault => simp [hi] at h
    | ok name =>
      obtain ⟨hn, rfl⟩ := (identify_eq_ok_iff token text name).1 hi
      cases hw : draft.hasWildcard with
      | true => simp [hi, hw] at h
      | false =>
        simp only [hi, hw, Bool.false_eq_true, ↓reduceIte] at h
        cases h
        exact .argument ⟨name.long, wildcard⟩ ⟨name, hn, hs, rfl⟩ hw
  | bare text =>
    simp only [he] at h hs
    cases hc : draft.command with
    | some command => simp [hc] at h
    | none =>
      simp only [hc, Option.isSome_none, Bool.false_eq_true, ↓reduceIte] at h
      obtain ⟨name, hi, rfl⟩ := map_eq_ok _ _ _ h
      obtain ⟨hn, rfl⟩ := (identify_eq_ok_iff token text name).1 hi
      exact .command _ ⟨name, hn, hs, rfl⟩ hc

theorem add_of_step (draft : Draft) (token : Text) (next : Draft) (h : Step draft token next) :
    draft.add token = .ok next := by
  rw [add]
  cases h with
  | command command hd hn =>
    obtain ⟨name, hw, hs, rfl⟩ := hd
    rw [Shape.ofToken_of_spells _ token hs]
    simp only [hn, Option.isSome_none, Bool.false_eq_true, ↓reduceIte, identify_render token name hw]
    rfl
  | argument argument hd hn =>
    obtain ⟨name, hw, hs, he⟩ := hd
    rw [Shape.ofToken_of_spells _ token hs]
    simp only [hn, Bool.false_eq_true, ↓reduceIte, identify_render token name hw, ← he]
  | parameter parameter hd =>
    cases hd with
    | flag name hw hs =>
      rw [Shape.ofToken_of_spells _ token hs]
      simp only [identify_render token name hw]
      rfl
    | value name default hw hs =>
      rw [Shape.ofToken_of_spells _ token hs]
      simp only [identify_render token name hw]
      rfl

theorem add_eq_ok_iff (draft : Draft) (token : Text) (next : Draft) :
    draft.add token = .ok next ↔ Step draft token next :=
  ⟨step_of_add draft token next, add_of_step draft token next⟩

/-- A draft that holds, class by class, what the tokens declare. -/
structure Declared (tokens : List Text) (draft : Draft) : Prop where
  command : Forall₂ DeclaresCommand (TokenClass.bare.select tokens) draft.command.toList
  arguments : Forall₂ DeclaresArgument (TokenClass.argument.select tokens) draft.arguments
  parameters : Forall₂ DeclaresParameter (TokenClass.option.select tokens) draft.parameters
  wildcard : draft.arguments.Pairwise fun earlier _ => earlier.wildcard = false

/-- Only the tokens of each class count, not how the classes are mixed. -/
theorem Declared.congr (first second : List Text) (draft : Draft)
    (h : ∀ kind : TokenClass, kind.select first = kind.select second) (hd : Declared first draft) :
    Declared second draft := by
  obtain ⟨hc, ha, hp, hw⟩ := hd
  rw [h] at hc ha hp
  exact ⟨hc, ha, hp, hw⟩

theorem pairwise_concat_iff (arguments : List Argument) (argument : Argument) :
    (arguments ++ [argument]).Pairwise (fun earlier _ => earlier.wildcard = false) ↔
      arguments.Pairwise (fun earlier _ => earlier.wildcard = false) ∧
        arguments.any (·.wildcard) = false := by
  rw [List.pairwise_append]
  simp

theorem declared_of_step (tokens : List Text) (token : Text) (draft next : Draft)
    (hd : Declared tokens draft) (hs : Step draft token next) : Declared (tokens ++ [token]) next := by
  cases hs with
  | command command hc hn =>
    have hk := hc.ofToken_eq
    have hb := hd.command
    rw [hn, Option.toList_none, List.forall₂_nil_right_iff] at hb
    refine ⟨?_, ?_, ?_, hd.wildcard⟩
    · rw [TokenClass.select_concat_of_eq _ _ _ hk, hb]
      exact .cons hc .nil
    · rw [TokenClass.select_concat_of_ne _ _ _ (by simp [hk])]
      exact hd.arguments
    · rw [TokenClass.select_concat_of_ne _ _ _ (by simp [hk])]
      exact hd.parameters
  | argument argument ha hw =>
    have hk := ha.ofToken_eq
    refine ⟨?_, ?_, ?_, (pairwise_concat_iff _ _).2 ⟨hd.wildcard, hw⟩⟩
    · rw [TokenClass.select_concat_of_ne _ _ _ (by simp [hk])]
      exact hd.command
    · rw [TokenClass.select_concat_of_eq _ _ _ hk]
      exact (forall₂_concat_iff _ _ _ _).2 ⟨_, _, rfl, hd.arguments, ha⟩
    · rw [TokenClass.select_concat_of_ne _ _ _ (by simp [hk])]
      exact hd.parameters
  | parameter parameter hp =>
    have hk := hp.ofToken_eq
    refine ⟨?_, ?_, ?_, hd.wildcard⟩
    · rw [TokenClass.select_concat_of_ne _ _ _ (by simp [hk])]
      exact hd.command
    · rw [TokenClass.select_concat_of_ne _ _ _ (by simp [hk])]
      exact hd.arguments
    · rw [TokenClass.select_concat_of_eq _ _ _ hk]
      exact (forall₂_concat_iff _ _ _ _).2 ⟨_, _, rfl, hd.parameters, hp⟩

theorem step_of_declared (tokens : List Text) (token : Text) (next : Draft)
    (h : Declared (tokens ++ [token]) next) :
    ∃ draft, Declared tokens draft ∧ Step draft token next := by
  obtain ⟨command, arguments, parameters⟩ := next
  obtain ⟨hc, ha, hp, hw⟩ := h
  cases hk : TokenClass.ofToken token with
  | option =>
    rw [TokenClass.select_concat_of_ne _ _ _ (by simp [hk])] at hc ha
    rw [TokenClass.select_concat_of_eq _ _ _ hk, forall₂_concat_iff] at hp
    obtain ⟨ps, p, rfl, hps, hlast⟩ := hp
    exact ⟨⟨command, arguments, ps⟩, ⟨hc, ha, hps, hw⟩, .parameter p hlast⟩
  | argument =>
    rw [TokenClass.select_concat_of_ne _ _ _ (by simp [hk])] at hc hp
    rw [TokenClass.select_concat_of_eq _ _ _ hk, forall₂_concat_iff] at ha
    obtain ⟨as, a, rfl, has, hlast⟩ := ha
    obtain ⟨hpair, hany⟩ := (pairwise_concat_iff _ _).1 hw
    exact ⟨⟨command, as, parameters⟩, ⟨hc, has, hp, hpair⟩, .argument a hlast hany⟩
  | bare =>
    rw [TokenClass.select_concat_of_ne _ _ _ (by simp [hk])] at ha hp
    rw [TokenClass.select_concat_of_eq _ _ _ hk, forall₂_concat_iff] at hc
    obtain ⟨cs, c, he, hcs, hlast⟩ := hc
    -- A draft has room for one command, so there was none before this token.
    cases command with
    | none => simp at he
    | some command =>
      obtain ⟨rfl, rfl⟩ : cs = [] ∧ c = command := by
        cases cs <;> simp_all
      exact ⟨⟨none, arguments, parameters⟩, ⟨hcs, ha, hp, hw⟩, .command c hlast rfl⟩

theorem addAll_concat_eq_ok_iff (draft : Draft) (tokens : List Text) (token : Text) (next : Draft) :
    draft.addAll (tokens ++ [token]) = .ok next ↔
      ∃ middle, draft.addAll tokens = .ok middle ∧ middle.add token = .ok next := by
  rw [addAll_append]
  cases draft.addAll tokens with
  | error fault => simp
  | ok middle =>
    simp only [addAll, Except.ok.injEq, exists_eq_left']
    cases middle.add token <;> simp

/-- The drafts that tokens lead to are the drafts that hold what the tokens declare. -/
theorem addAll_eq_ok_iff (tokens : List Text) (draft : Draft) :
    empty.addAll tokens = .ok draft ↔ Declared tokens draft := by
  -- What the last token declares stands last in its class, so it can be taken off.
  induction tokens using List.reverseRecOn generalizing draft with
  | nil =>
    constructor
    · intro h
      cases h
      exact ⟨.nil, .nil, .nil, .nil⟩
    · rintro ⟨hc, ha, hp, _⟩
      obtain ⟨command, arguments, parameters⟩ := draft
      have h1 : command.toList = [] := List.forall₂_nil_left_iff.1 hc
      have h2 : arguments = [] := List.forall₂_nil_left_iff.1 ha
      have h3 : parameters = [] := List.forall₂_nil_left_iff.1 hp
      rw [Option.toList_eq_nil_iff] at h1
      subst h1 h2 h3
      rfl
  | append_singleton tokens token ih =>
    rw [addAll_concat_eq_ok_iff]
    simp only [ih, add_eq_ok_iff]
    constructor
    · rintro ⟨middle, hd, hs⟩
      exact declared_of_step tokens token middle draft hd hs
    · exact step_of_declared tokens token draft

end Draft
end CommandGrammar
