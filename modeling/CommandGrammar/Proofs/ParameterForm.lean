import Mathlib
import CommandGrammar.Proofs.Assembly
import CommandGrammar.Proofs.Grammar

set_option autoImplicit false

namespace CommandGrammar

namespace Parameter

structure WellFormed (parameter : Parameter) : Prop where
  name : parameter.name.WellFormed
  unresolved : parameter.isResolved = false
  flag : parameter.kind = .flag → parameter.default? = none
  default : ∀ text, parameter.default? = some text →
    text ≠ [] ∧ ∀ c, text.getLast? = some c → Text.isBlank c = false

/-- What is printed, before its spaces are kept. -/
def word (parameter : Parameter) : Text :=
  '-' :: '-' :: (parameter.name.render ++
    match parameter.kind with
    | .flag => ['?']
    | .value => '=' :: parameter.stored)

theorem render_eq_keepSpaces (parameter : Parameter) (h : parameter.name.WellFormed) :
    parameter.render = Token.keepSpaces parameter.word := by
  have hn : ' ' ∉ parameter.name.render := Name.notMem_render _ h ' ' (by decide)
  have hp : ' ' ∉ '-' :: '-' :: parameter.name.render := by simpa using hn
  have hk := Token.keepSpaces_eq_self _ hp
  rw [render, word, ← List.cons_append, ← List.cons_append, Token.keepSpaces_append, hk]
  cases parameter.kind <;> rfl

theorem wellFormed_flag (name : Name) (h : name.WellFormed) : (flag name).WellFormed :=
  ⟨h, rfl, fun _ => rfl, fun _ hd => absurd hd (by simp [flag, default?])⟩

theorem wellFormed_value (name : Name) (default : Option Text) (h : name.WellFormed)
    (hd : ∀ text, default = some text →
      text ≠ [] ∧ ∀ c, text.getLast? = some c → Text.isBlank c = false) :
    (value name default).WellFormed :=
  ⟨h, rfl, fun hk => absurd hk (by simp [value]), hd⟩

theorem WellFormed.eq_flag_or_value (parameter : Parameter) (h : parameter.WellFormed)
    (hd : parameter.description = none) :
    parameter = .flag parameter.name ∨ parameter = .value parameter.name parameter.default? := by
  obtain ⟨name, kind, binding, description⟩ := parameter
  cases hd
  cases binding with
  | resolved text => exact absurd h.unresolved (by simp [isResolved])
  | unresolved default =>
    cases kind with
    | flag =>
      have hf : default = none := h.flag rfl
      exact .inl (by rw [hf]; rfl)
    | value => exact .inr rfl

theorem getLast?_named (name : Name) (c : Char) (rest : Text) :
    ('-' :: '-' :: (name.render ++ c :: rest)).getLast? = (c :: rest).getLast? := by
  change (('-' :: '-' :: name.render) ++ c :: rest).getLast? = _
  exact List.getLast?_append_of_ne_nil _ (List.cons_ne_nil c rest)

theorem word_flag (name : Name) : (flag name).word = '-' :: '-' :: (name.render ++ ['?']) := rfl

theorem word_value (name : Name) (default : Option Text) :
    (value name default).word = '-' :: '-' :: (name.render ++ '=' :: default.getD []) := rfl

theorem declares_word (parameter : Parameter) (h : parameter.WellFormed)
    (hd : parameter.description = none) : DeclaresParameter parameter.word parameter := by
  have hn := h.name
  have hc : '=' ∉ parameter.name.render := Name.notMem_render _ hn '=' (by decide)
  have hdefault := h.default
  rcases h.eq_flag_or_value parameter hd with he | he
  · rw [he, word_flag]
    exact .flag _ hn (.markedFlag _ hc)
  · rw [he, word_value]
    cases ht : parameter.default? with
    | none => exact .value _ none hn (.emptyValue _ hc)
    | some text => exact .value _ (some text) hn (.value _ text hc (hdefault text ht).1)

theorem wellFormed_of_declares (token : Text) (parameter : Parameter) (hf : Text.Firm token)
    (h : DeclaresParameter token parameter) : parameter.WellFormed := by
  cases h with
  | flag name hn hs => exact wellFormed_flag name hn
  | value name default hn hs =>
    refine wellFormed_value name default hn ?_
    rintro text rfl
    cases hs with
    | value _ _ hc hne =>
      refine ⟨hne, ?_⟩
      intro c hl
      apply hf.last c
      rwa [getLast?_named, List.getLast?_cons_of_ne_nil hne]

theorem getLast?_word (parameter : Parameter) (h : parameter.WellFormed) :
    parameter.word.getLast? =
      match parameter.kind, parameter.default? with
      | .flag, _ => some '?'
      | .value, none => some '='
      | .value, some text => text.getLast? := by
  obtain ⟨name, kind, binding, description⟩ := parameter
  cases binding with
  | resolved text => exact absurd h.unresolved (by simp [isResolved])
  | unresolved default =>
    cases kind with
    | flag => exact getLast?_named name '?' []
    | value =>
      cases default with
      | none => exact getLast?_named name '=' []
      | some text =>
        have hne : text ≠ [] := (h.default text rfl).1
        exact (getLast?_named name '=' text).trans (List.getLast?_cons_of_ne_nil hne)

theorem last_word (parameter : Parameter) (h : parameter.WellFormed) (c : Char)
    (hl : parameter.word.getLast? = some c) : Text.isBlank c = false := by
  rw [getLast?_word parameter h] at hl
  split at hl
  · cases hl
    decide
  · cases hl
    decide
  · rename_i text _ hd
    exact (h.default text hd).2 c hl

theorem solid_word (parameter : Parameter) (h : parameter.WellFormed) :
    Token.Solid parameter.word := by
  refine ⟨⟨?_, last_word parameter h⟩, List.cons_ne_nil _ _, by simp [word]⟩
  intro c hc
  obtain rfl : '-' = c := by simpa [word] using hc
  decide

/-- Trimming a token that has a name and a `=` only touches what is behind the `=`. -/
theorem trim_value (name : Name) (rest : Text) :
    Text.trim ('-' :: '-' :: (name.render ++ '=' :: rest)) =
      '-' :: '-' :: (name.render ++ '=' :: Text.trimEnd rest) := by
  have hl : ∀ c, ('-' :: '-' :: (name.render ++ ['='])).getLast? = some c →
      Text.isBlank c = false := by
    intro c hc
    rw [getLast?_named] at hc
    obtain rfl : '=' = c := by simpa using hc
    decide
  have ht := Text.trimEnd_append ('-' :: '-' :: (name.render ++ ['='])) rest hl
  rw [Text.trim, Text.dropWhile_eq_self _ (by simp [show Text.isBlank '-' = false by decide])]
  simpa using ht

def trimmedDefault (rest : Text) : Option Text :=
  if Text.trimEnd rest = [] then none else some (Text.trimEnd rest)

theorem getD_trimmedDefault (rest : Text) : (trimmedDefault rest).getD [] = Text.trimEnd rest := by
  rw [trimmedDefault]
  split
  · rename_i he
    exact he.symm
  · rfl

theorem wellFormed_trimmedDefault (name : Name) (h : name.WellFormed) (rest : Text) :
    (value name (trimmedDefault rest)).WellFormed := by
  apply wellFormed_value name _ h
  intro text ht
  rw [trimmedDefault] at ht
  split at ht
  · cases ht
  · rename_i hne
    cases ht
    exact ⟨hne, Text.last_trimEnd rest⟩

theorem word_trimmedDefault (name : Name) (rest : Text) :
    (value name (trimmedDefault rest)).word =
      Text.trim ('-' :: '-' :: (name.render ++ '=' :: rest)) := by
  rw [trim_value, word_value, getD_trimmedDefault]

theorem exists_word_of_value (name : Name) (hn : name.WellFormed) (rest : Text) :
    ∃ parameter : Parameter, (parameter.WellFormed ∧ parameter.description = none) ∧
      parameter.word = Text.trim ('-' :: '-' :: (name.render ++ '=' :: rest)) :=
  ⟨value name (trimmedDefault rest), ⟨wellFormed_trimmedDefault name hn rest, rfl⟩,
    word_trimmedDefault name rest⟩

/-- A word that ends in a backslash is that of a value parameter, and the backslash belongs to the
    default. -/
theorem exists_rest_of_word (parameter : Parameter) (stem : Text)
    (h : parameter.word = stem ++ ['\\']) :
    ∃ rest, stem = '-' :: '-' :: (parameter.name.render ++ '=' :: rest) := by
  have hl : parameter.word.getLast? = some '\\' := by rw [h, List.getLast?_concat]
  rw [word] at h hl
  cases hk : parameter.kind with
  | flag =>
    simp only [hk] at hl
    rw [getLast?_named] at hl
    exact absurd hl (by decide)
  | value =>
    simp only [hk] at h hl
    cases hs : parameter.stored using List.reverseRecOn with
    | nil =>
      rw [hs, getLast?_named] at hl
      exact absurd hl (by decide)
    | append_singleton text c =>
      rw [hs] at h
      have he : '-' :: '-' :: (parameter.name.render ++ '=' :: text) ++ [c] = stem ++ ['\\'] := by
        simpa using h
      obtain ⟨he, _⟩ := List.append_inj' he rfl
      exact ⟨text, he.symm⟩

theorem exists_word_of_mem_assemble (parameters : List Parameter)
    (h : ∀ parameter ∈ parameters, parameter.WellFormed) (token : Text)
    (ht : token ∈ Token.assemble (parameters.map word)) :
    ∃ parameter : Parameter, (parameter.WellFormed ∧ parameter.description = none) ∧
      parameter.word = Text.trim token := by
  induction parameters generalizing token with
  | nil => cases ht
  | cons parameter parameters ih =>
    have hp := h parameter List.mem_cons_self
    have ih := ih fun other ho => h other (List.mem_cons_of_mem _ ho)
    rw [List.map_cons, Token.assemble_cons] at ht
    cases hb : Text.endsIn '\\' parameter.word with
    | false =>
      rw [Token.attach_of_plain _ _ hb] at ht
      rcases List.mem_cons.1 ht with rfl | hm
      · refine ⟨{ parameter with description := none }, ⟨⟨hp.1, hp.2, hp.3, hp.4⟩, rfl⟩, ?_⟩
        exact (Text.trim_eq_self _ (solid_word parameter hp).toFirm).symm
      · exact ih token hm
    | true =>
      -- The backslash ends a default, which goes on with whatever is assembled next.
      obtain ⟨stem, he⟩ := Text.exists_concat_of_endsIn _ _ hb
      obtain ⟨rest, rfl⟩ := exists_rest_of_word parameter stem he
      rw [he] at ht
      cases ha : Token.assemble (parameters.map word) with
      | nil =>
        rw [ha, Token.attach_concat_nil, List.mem_singleton] at ht
        rw [ht]
        exact exists_word_of_value _ hp.name rest
      | cons next others =>
        rw [ha] at ih
        rw [ha, Token.attach_concat_cons] at ht
        rcases List.mem_cons.1 ht with rfl | hm
        · have hv := exists_word_of_value _ hp.name (rest ++ ' ' :: next)
          simpa using hv
        · exact ih token (List.mem_cons_of_mem _ hm)

end Parameter
end CommandGrammar
