import Mathlib
import CommandGrammar.Proofs.Grammar

set_option autoImplicit false

/-!
# The first fault

Which fault a token has depends on the tokens before it only through two questions: whether one was
bare, and whether one was a wildcard. A line that is not read has the fault of the first token that
has one, whatever comes after it, or else lacks a command.
-/
namespace CommandGrammar

/-- The fault of `token` after the tokens `before`. On an argument the name is looked at first, on
    a bare token the place. -/
inductive Violates (before : List Text) (token : Text) : Fault → Prop
  | flag (text : Text) (hs : Shape.Spells (.flag text) token) (hn : ¬ Name.IsWritten text) :
      Violates before token (.invalidIdentifier token ⟨text⟩)
  | value (text : Text) (default : Option Text) (hs : Shape.Spells (.value text default) token)
      (hn : ¬ Name.IsWritten text) : Violates before token (.invalidIdentifier token ⟨text⟩)
  | argument (text : Text) (wildcard : Bool) (hs : Shape.Spells (.argument text wildcard) token)
      (hn : ¬ Name.IsWritten text) : Violates before token (.invalidIdentifier token ⟨text⟩)
  | afterWildcard (text : Text) (wildcard : Bool)
      (hs : Shape.Spells (.argument text wildcard) token) (hn : Name.IsWritten text)
      (hw : ∃ earlier ∈ before, IsWildcard earlier) :
      Violates before token (.argumentAfterWildcard token)
  | secondCommand (hs : Shape.Spells (.bare token) token)
      (hb : ∃ earlier ∈ before, TokenClass.ofToken earlier = .bare) :
      Violates before token (.secondCommand token)
  | command (hs : Shape.Spells (.bare token) token)
      (hb : ∀ earlier ∈ before, TokenClass.ofToken earlier ≠ .bare)
      (hn : ¬ Name.IsWritten token) : Violates before token (.invalidIdentifier token ⟨token⟩)

def Clean (tokens : List Text) : Prop :=
  ∀ before token, before ++ [token] <+: tokens → ∀ fault, ¬ Violates before token fault

inductive FirstFault (tokens : List Text) : Fault → Prop
  | violation (before : List Text) (token : Text) (fault : Fault)
      (hp : before ++ [token] <+: tokens) (hc : Clean before) (hv : Violates before token fault) :
      FirstFault tokens fault
  | missingCommand (hc : Clean tokens)
      (hb : ∀ token ∈ tokens, TokenClass.ofToken token ≠ .bare) : FirstFault tokens .missingCommand

theorem violates_iff (before : List Text) (token : Text) (fault : Fault) :
    Violates before token fault ↔
      match Shape.ofToken token with
      | .flag text | .value text _ =>
        ¬ Name.IsWritten text ∧ fault = .invalidIdentifier token ⟨text⟩
      | .argument text _ =>
        ¬ Name.IsWritten text ∧ fault = .invalidIdentifier token ⟨text⟩ ∨
          Name.IsWritten text ∧ (∃ earlier ∈ before, IsWildcard earlier) ∧
            fault = .argumentAfterWildcard token
      | .bare text =>
        (∃ earlier ∈ before, TokenClass.ofToken earlier = .bare) ∧ fault = .secondCommand token ∨
          (∀ earlier ∈ before, TokenClass.ofToken earlier ≠ .bare) ∧
            ¬ Name.IsWritten text ∧ fault = .invalidIdentifier token ⟨text⟩ := by
  constructor
  · intro h
    cases h with
    | flag text hs hn =>
      rw [Shape.ofToken_of_spells _ token hs]
      exact ⟨hn, rfl⟩
    | value text default hs hn =>
      rw [Shape.ofToken_of_spells _ token hs]
      exact ⟨hn, rfl⟩
    | argument text wildcard hs hn =>
      rw [Shape.ofToken_of_spells _ token hs]
      exact .inl ⟨hn, rfl⟩
    | afterWildcard text wildcard hs hn hw =>
      rw [Shape.ofToken_of_spells _ token hs]
      exact .inr ⟨hn, hw, rfl⟩
    | secondCommand hs hb =>
      rw [Shape.ofToken_of_spells _ token hs]
      exact .inl ⟨hb, rfl⟩
    | command hs hb hn =>
      rw [Shape.ofToken_of_spells _ token hs]
      exact .inr ⟨hb, hn, rfl⟩
  · have hs := Shape.spells_ofToken token
    cases he : Shape.ofToken token with
    | flag text =>
      rw [he] at hs
      rintro ⟨hn, rfl⟩
      exact .flag text hs hn
    | value text default =>
      rw [he] at hs
      rintro ⟨hn, rfl⟩
      exact .value text default hs hn
    | argument text wildcard =>
      rw [he] at hs
      rintro (⟨hn, rfl⟩ | ⟨hn, hw, rfl⟩)
      · exact .argument text wildcard hs hn
      · exact .afterWildcard text wildcard hs hn hw
    | bare text =>
      rw [he] at hs
      obtain rfl : text = token := by cases hs; rfl
      rintro (⟨hb, rfl⟩ | ⟨hb, hn, rfl⟩)
      · exact .secondCommand hs hb
      · exact .command hs hb hn

theorem clean_nil : Clean [] := by
  intro before token hp
  simp at hp

theorem clean_concat_iff (tokens : List Text) (token : Text) :
    Clean (tokens ++ [token]) ↔ Clean tokens ∧ ∀ fault, ¬ Violates tokens token fault := by
  constructor
  · intro h
    refine ⟨?_, h tokens token (List.prefix_refl _)⟩
    intro before other hp
    exact h before other (hp.trans (List.prefix_append _ _))
  · rintro ⟨hc, hv⟩ before other hp
    rcases List.prefix_concat_iff.1 hp with he | hp
    · obtain ⟨rfl, ht⟩ := List.append_inj' he rfl
      cases ht
      exact hv
    · exact hc before other hp

theorem Violates.ne_missingCommand (before : List Text) (token : Text) (fault : Fault)
    (h : Violates before token fault) : fault ≠ .missingCommand := by
  cases h <;> exact Fault.noConfusion

namespace Draft

theorem identify_eq_error_iff (token text : Text) (fault : Fault) :
    identify token text = .error fault ↔
      ¬ Name.IsWritten text ∧ fault = .invalidIdentifier token ⟨text⟩ := by
  by_cases hw : Name.IsWritten text
  · obtain ⟨name, hn, rfl⟩ := hw
    have hw : Name.IsWritten name.render := ⟨name, hn, rfl⟩
    simp [identify_render token name hn, hw]
  · rw [identify_unwritten token text hw]
    simp [hw, eq_comm]

theorem map_eq_error_iff {α β : Type} (f : α → β) (result : Except Fault α) (fault : Fault) :
    result.map f = .error fault ↔ result = .error fault := by
  cases result with
  | error other =>
    change Except.error other = .error fault ↔ _
    rw [Except.error.injEq, Except.error.injEq]
  | ok value =>
    change Except.ok (f value) = .error fault ↔ _
    simp

theorem Declared.isSome_iff (tokens : List Text) (draft : Draft) (h : Declared tokens draft) :
    draft.command.isSome = true ↔ ∃ token ∈ tokens, TokenClass.ofToken token = .bare := by
  constructor
  · intro hs
    obtain ⟨command, hc⟩ := Option.isSome_iff_exists.1 hs
    obtain ⟨token, ht, _⟩ :=
      exists_of_forall₂ _ _ _ h.command.flip command (Option.mem_toList.2 hc)
    exact ⟨token, (TokenClass.mem_select _ _ _).1 ht⟩
  · rintro ⟨token, ht⟩
    obtain ⟨command, hc, _⟩ :=
      exists_of_forall₂ _ _ _ h.command token ((TokenClass.mem_select _ _ _).2 ht)
    exact Option.isSome_iff_exists.2 ⟨command, Option.mem_toList.1 hc⟩

theorem Declared.hasWildcard_iff (tokens : List Text) (draft : Draft) (h : Declared tokens draft) :
    draft.hasWildcard = true ↔ ∃ token ∈ tokens, IsWildcard token := by
  rw [hasWildcard, List.any_eq_true]
  constructor
  · rintro ⟨argument, ha, hw⟩
    obtain ⟨token, ht, hd⟩ := exists_of_forall₂ _ _ _ h.arguments.flip argument ha
    exact ⟨token, ((TokenClass.mem_select _ _ _).1 ht).1, (isWildcard_iff token argument hd).2 hw⟩
  · rintro ⟨token, ht, hw⟩
    obtain ⟨argument, ha, hd⟩ := exists_of_forall₂ _ _ _ h.arguments token
      ((TokenClass.mem_select _ _ _).2 ⟨ht, hw.ofToken_eq⟩)
    exact ⟨argument, ha, (isWildcard_iff token argument hd).1 hw⟩

/-- A draft refuses a token with the fault that it has after the tokens of the draft. -/
theorem add_eq_error_iff (before : List Text) (draft : Draft) (hd : Declared before draft)
    (token : Text) (fault : Fault) : draft.add token = .error fault ↔ Violates before token fault := by
  have hb := hd.isSome_iff
  have hw := hd.hasWildcard_iff
  rw [violates_iff, add]
  cases he : Shape.ofToken token with
  | flag text => simp only [map_eq_error_iff, identify_eq_error_iff]
  | value text default => simp only [map_eq_error_iff, identify_eq_error_iff]
  | argument text wildcard =>
    simp only [← hw]
    -- The name comes before the place.
    cases hi : identify token text with
    | error other =>
      obtain ⟨hn, rfl⟩ := (identify_eq_error_iff token text other).1 hi
      simp only [hn, not_false_eq_true, true_and, false_and, or_false, Except.error.injEq]
      exact eq_comm
    | ok name =>
      obtain ⟨hn, rfl⟩ := (identify_eq_ok_iff token text name).1 hi
      have hr : Name.IsWritten name.render := ⟨name, hn, rfl⟩
      cases draft.hasWildcard with
      | true =>
        simp only [hr, ↓reduceIte, not_true_eq_false, true_and, false_and, false_or,
          Except.error.injEq]
        exact eq_comm
      | false => simp [hr]
  | bare text =>
    have hnb : (∀ earlier ∈ before, TokenClass.ofToken earlier ≠ .bare) ↔
        draft.command.isSome = false := by
      rw [← Bool.not_eq_true, hb]
      simp only [not_exists, not_and, ne_eq]
    simp only [hnb, ← hb]
    -- The place comes before the name.
    cases draft.command.isSome with
    | true =>
      simp only [↓reduceIte, true_and, Bool.true_eq_false, false_and, or_false,
        Except.error.injEq]
      exact eq_comm
    | false => simp [map_eq_error_iff, identify_eq_error_iff]

theorem addAll_concat_eq_error_iff (draft : Draft) (tokens : List Text) (token : Text)
    (fault : Fault) : draft.addAll (tokens ++ [token]) = .error fault ↔
      draft.addAll tokens = .error fault ∨
        ∃ middle, draft.addAll tokens = .ok middle ∧ middle.add token = .error fault := by
  rw [addAll_append]
  cases draft.addAll tokens with
  | error other => simp
  | ok middle =>
    simp only [addAll, reduceCtorEq, Except.ok.injEq, exists_eq_left', false_or]
    cases middle.add token <;> simp

theorem exists_addAll_iff_clean (tokens : List Text) :
    (∃ draft, empty.addAll tokens = .ok draft) ↔ Clean tokens := by
  induction tokens using List.reverseRecOn with
  | nil => exact ⟨fun _ => clean_nil, fun _ => ⟨empty, rfl⟩⟩
  | append_singleton tokens token ih =>
    rw [clean_concat_iff, ← ih]
    simp only [addAll_concat_eq_ok_iff]
    constructor
    · rintro ⟨next, middle, hm, ha⟩
      refine ⟨⟨middle, hm⟩, ?_⟩
      intro fault hv
      rw [← add_eq_error_iff tokens middle ((addAll_eq_ok_iff _ _).1 hm), ha] at hv
      cases hv
    · rintro ⟨⟨middle, hm⟩, hv⟩
      cases ha : middle.add token with
      | error fault =>
        exact absurd ((add_eq_error_iff _ _ ((addAll_eq_ok_iff _ _).1 hm) _ _).1 ha) (hv fault)
      | ok next => exact ⟨next, middle, hm, ha⟩

theorem addAll_eq_error_iff (tokens : List Text) (fault : Fault) :
    empty.addAll tokens = .error fault ↔
      ∃ before token, before ++ [token] <+: tokens ∧ Clean before ∧ Violates before token fault := by
  induction tokens using List.reverseRecOn with
  | nil => simp [addAll]
  | append_singleton tokens token ih =>
    rw [addAll_concat_eq_error_iff, ih]
    constructor
    · rintro (⟨before, other, hp, hc, hv⟩ | ⟨middle, hm, ha⟩)
      · exact ⟨before, other, hp.trans (List.prefix_append _ _), hc, hv⟩
      · exact ⟨tokens, token, List.prefix_refl _, (exists_addAll_iff_clean tokens).1 ⟨middle, hm⟩,
          (add_eq_error_iff _ _ ((addAll_eq_ok_iff _ _).1 hm) _ _).1 ha⟩
    · rintro ⟨before, other, hp, hc, hv⟩
      rcases List.prefix_concat_iff.1 hp with he | hp
      · obtain ⟨rfl, ht⟩ := List.append_inj' he rfl
        cases ht
        obtain ⟨middle, hm⟩ := (exists_addAll_iff_clean before).2 hc
        exact .inr ⟨middle, hm, (add_eq_error_iff _ _ ((addAll_eq_ok_iff _ _).1 hm) _ _).2 hv⟩
      · exact .inl ⟨before, other, hp, hc, hv⟩

end Draft

theorem firstFault_iff (tokens : List Text) (fault : Fault) :
    FirstFault tokens fault ↔
      (∃ before token, before ++ [token] <+: tokens ∧ Clean before ∧
        Violates before token fault) ∨
      Clean tokens ∧ (∀ token ∈ tokens, TokenClass.ofToken token ≠ .bare) ∧
        fault = .missingCommand := by
  constructor
  · intro h
    cases h with
    | violation before token _ hp hc hv => exact .inl ⟨before, token, hp, hc, hv⟩
    | missingCommand hc hb => exact .inr ⟨hc, hb, rfl⟩
  · rintro (⟨before, token, hp, hc, hv⟩ | ⟨hc, hb, rfl⟩)
    · exact .violation before token fault hp hc hv
    · exact .missingCommand hc hb

namespace Definition

theorem ofTokens_eq_error_iff (source : Text) (tokens : List Text) (error : ParseError) :
    ofTokens source tokens = .error error ↔
      error.source = source ∧ FirstFault tokens error.fault := by
  obtain ⟨text, fault⟩ := error
  rw [firstFault_iff, ← Draft.addAll_eq_error_iff, ofTokens, ofDraft.eq_def]
  cases hr : Draft.empty.addAll tokens with
  | error other =>
    have hc : ¬ Clean tokens := by
      rw [← Draft.exists_addAll_iff_clean, hr]
      simp
    simp only [Except.error.injEq, ParseError.mk.injEq, hc, false_and, or_false]
    rw [eq_comm]
  | ok draft =>
    have hc : Clean tokens := (Draft.exists_addAll_iff_clean tokens).1 ⟨draft, hr⟩
    have hb := ((Draft.addAll_eq_ok_iff _ _).1 hr).isSome_iff
    simp only [reduceCtorEq, hc, true_and, false_or, Draft.close]
    cases hd : draft.command with
    | some command =>
      obtain ⟨token, ht, hk⟩ := hb.1 (by rw [hd]; rfl)
      simp only [reduceCtorEq, false_iff, not_and]
      intro _ hn
      exact absurd hk (hn token ht)
    | none =>
      have hn : ∀ token ∈ tokens, TokenClass.ofToken token ≠ .bare := by
        intro token ht hk
        have hs := hb.2 ⟨token, ht, hk⟩
        rw [hd] at hs
        cases hs
      simp only [Except.error.injEq, ParseError.mk.injEq]
      constructor
      · rintro ⟨rfl, rfl⟩
        exact ⟨rfl, hn, rfl⟩
      · rintro ⟨rfl, _, rfl⟩
        exact ⟨rfl, rfl⟩

theorem ofTokens_eq_missingCommand_iff (source : Text) (tokens : List Text) :
    ofTokens source tokens = .error ⟨source, .missingCommand⟩ ↔
      Clean tokens ∧ ∀ token ∈ tokens, TokenClass.ofToken token ≠ .bare := by
  rw [ofTokens_eq_error_iff, firstFault_iff]
  constructor
  · rintro ⟨_, ⟨before, token, _, _, hv⟩ | ⟨hc, hb, _⟩⟩
    · exact absurd rfl (hv.ne_missingCommand)
    · exact ⟨hc, hb⟩
  · rintro ⟨hc, hb⟩
    exact ⟨rfl, .inr ⟨hc, hb, rfl⟩⟩

/-- What comes after the first token with a fault does not count. -/
theorem exists_cut_of_ofTokens_eq_error (source : Text) (tokens : List Text) (fault : Fault)
    (hf : fault ≠ .missingCommand) (h : ofTokens source tokens = .error ⟨source, fault⟩) :
    ∃ cut, cut <+: tokens ∧
      ∀ other line, cut <+: line → ofTokens other line = .error ⟨other, fault⟩ := by
  obtain ⟨_, hfirst⟩ := (ofTokens_eq_error_iff _ _ _).1 h
  rcases (firstFault_iff _ _).1 hfirst with ⟨before, token, hp, hc, hv⟩ | ⟨_, _, he⟩
  · refine ⟨before ++ [token], hp, ?_⟩
    intro other line hl
    exact (ofTokens_eq_error_iff _ _ _).2 ⟨rfl, .violation before token fault hl hc hv⟩
  · exact absurd he hf

/-- A line that is not read has its first fault; it lacks a command only if no token has a fault;
    and more tokens do not change any other fault. -/
theorem parse_error_iff_firstFault :
    (∀ source error, parse source = .error error ↔
      error.source = source ∧ FirstFault (Token.tokens source) error.fault) ∧
    (∀ source, parse source = .error ⟨source, .missingCommand⟩ ↔
      Clean (Token.tokens source) ∧
        ∀ token ∈ Token.tokens source, TokenClass.ofToken token ≠ .bare) ∧
    ∀ source tokens fault, fault ≠ .missingCommand →
      ofTokens source tokens = .error ⟨source, fault⟩ →
        (∀ other more, ofTokens other (tokens ++ more) = .error ⟨other, fault⟩) ∧
        ∃ cut, cut <+: tokens ∧
          ∀ other line, cut <+: line → ofTokens other line = .error ⟨other, fault⟩ := by
  refine ⟨?_, ?_, ?_⟩
  · intro source error
    exact ofTokens_eq_error_iff source _ error
  · intro source
    exact ofTokens_eq_missingCommand_iff source _
  · intro source tokens fault hf h
    obtain ⟨cut, hp, hcut⟩ := exists_cut_of_ofTokens_eq_error source tokens fault hf h
    refine ⟨?_, cut, hp, hcut⟩
    intro other more
    exact hcut other _ (hp.trans (List.prefix_append _ _))

/-- Of two faults of one argument the name comes first, also before the second command after it. -/
theorem parse_faultyLine :
    parse "deploy $first* $B now".toList =
        .error ⟨"deploy $first* $B now".toList, .invalidIdentifier "$B".toList ⟨"B".toList⟩⟩ ∧
      ofTokens [] (["deploy", "$first*", "$B", "now", "--force"].map String.toList) =
        .error ⟨[], .invalidIdentifier "$B".toList ⟨"B".toList⟩⟩ := by
  have hp : parse "deploy $first* $B now".toList =
    .error ⟨"deploy $first* $B now".toList, .invalidIdentifier "$B".toList ⟨"B".toList⟩⟩ := rfl
  obtain ⟨_, _, hmore⟩ := parse_error_iff_firstFault
  refine ⟨hp, ?_⟩
  exact (hmore _ _ _ (by decide) hp).1 [] ["--force".toList]

end Definition
end CommandGrammar
