import Mathlib
import CommandGrammar.Proofs.Rereading

set_option autoImplicit false

namespace CommandGrammar

theorem DeclaresParameter.unique (token : Text) {first second : Parameter}
    (hf : DeclaresParameter token first) (hs : DeclaresParameter token second) : first = second := by
  cases hf with
  | flag name hn h =>
    have he := Shape.ofToken_of_spells _ token h
    cases hs with
    | flag other ho h =>
      rw [Shape.ofToken_of_spells _ token h] at he
      rw [Name.render_injective other name ho hn (Shape.flag.inj he)]
    | value other default ho h =>
      rw [Shape.ofToken_of_spells _ token h] at he
      cases he
  | value name default hn h =>
    have he := Shape.ofToken_of_spells _ token h
    cases hs with
    | flag other ho h =>
      rw [Shape.ofToken_of_spells _ token h] at he
      cases he
    | value other default ho h =>
      rw [Shape.ofToken_of_spells _ token h] at he
      obtain ⟨hr, rfl⟩ := Shape.value.inj he
      rw [Name.render_injective other name ho hn hr]

namespace Parameter

theorem endsIn_word_iff (parameter : Parameter) (h : parameter.WellFormed) :
    Text.endsIn '\\' parameter.word = true ↔
      parameter.kind = .value ∧
        ∃ text, parameter.default? = some text ∧ text.getLast? = some '\\' := by
  rw [Text.endsIn_iff, getLast?_word parameter h]
  split
  · rename_i hk
    simp [hk]
  · rename_i hk hd
    simp [hk, hd]
  · rename_i text hk hd
    simp [hk, hd]

end Parameter

namespace Definition

theorem words_unchanged_iff (words : List Text) (h : ∀ word ∈ words, Token.Solid word) :
    (Token.assemble words).map Text.trim = words ↔
      ∀ word ∈ words, Text.endsIn '\\' word = false := by
  constructor
  · intro he word hm
    -- Each backslash at the end of a word costs weight, and trimming gives none back.
    have hw := Token.weight_assemble words
    have ht := Token.weight_map_trim_le (Token.assemble words)
    rw [he] at ht
    have hc : words.countP (Text.endsIn '\\') = 0 := by omega
    exact Bool.not_eq_true _ ▸ List.countP_eq_zero.1 hc word hm
  · intro hp
    rw [Token.assemble_of_plain words hp]
    exact Text.map_trim_eq_self words fun word hm => (h word hm).toFirm

theorem parameters_eq_of_words (first second : List Parameter)
    (hf : ∀ parameter ∈ first, parameter.WellFormed ∧ parameter.description = none)
    (hs : ∀ parameter ∈ second, parameter.WellFormed ∧ parameter.description = none)
    (h : first.map Parameter.word = second.map Parameter.word) : first = second := by
  have h1 := forall₂_map_self DeclaresParameter Parameter.word first
    fun parameter hm => Parameter.declares_word parameter (hf _ hm).1 (hf _ hm).2
  have h2 := forall₂_map_self DeclaresParameter Parameter.word second
    fun parameter hm => Parameter.declares_word parameter (hs _ hm).1 (hs _ hm).2
  rw [h] at h1
  exact List.right_unique_forall₂' (fun token _ _ => DeclaresParameter.unique token) h1 h2

theorem Rereads.parameters_eq_iff (definition again : Definition) (h : definition.WellFormed)
    (hd : ∀ parameter ∈ definition.parameters, parameter.description = none)
    (hr : Rereads definition again) :
    again.parameters = definition.parameters ↔
      ∀ parameter ∈ definition.parameters, Text.endsIn '\\' parameter.word = false := by
  have hsolid : ∀ word ∈ definition.parameters.map Parameter.word, Token.Solid word := by
    intro word hm
    obtain ⟨parameter, hp, rfl⟩ := List.mem_map.1 hm
    exact Parameter.solid_word parameter (h.parameters parameter hp)
  have hsame := words_unchanged_iff _ hsolid
  rw [← hr.parameters, List.forall_mem_map] at hsame
  rw [← hsame]
  constructor
  · intro he
    rw [he]
  · intro he
    exact parameters_eq_of_words _ _
      (fun parameter hm => ⟨hr.wellFormed.parameters parameter hm, hr.undescribed parameter hm⟩)
      (fun parameter hm => ⟨h.parameters parameter hm, hd parameter hm⟩) he

/-- A definition that was read can be printed and read again, which changes its parameters exactly
    if a default ends in a backslash, and never its command and arguments. -/
theorem parse_render_roundTrip (source : Text) (definition : Definition)
    (h : parse source = .ok definition) :
    ∃ again, parse definition.render = .ok again ∧ again.command = definition.command ∧
      again.arguments = definition.arguments ∧
      (again.parameters = definition.parameters ↔
        ∀ parameter ∈ definition.parameters, parameter.kind = .value →
          ∀ text, parameter.default? = some text → text.getLast? ≠ some '\\') := by
  have hw := wellFormed_of_parse source definition h
  obtain ⟨again, hr⟩ := exists_rereads definition hw
  refine ⟨again, hr.parse, hr.command, hr.arguments, ?_⟩
  rw [hr.parameters_eq_iff definition again hw (undescribed_of_parse source definition h)]
  refine forall₂_congr fun parameter hm => ?_
  rw [← Bool.not_eq_true, Parameter.endsIn_word_iff parameter (hw.parameters parameter hm)]
  simp only [not_and, not_exists, ne_eq]

/-- A default with spaces and backslashes inside is kept; one that ends in a backslash takes in the
    parameter after it. -/
theorem parse_render_backslashLine :
    let definition : Definition :=
      ⟨"copy --to=c:\\\t --note=a\\ \\ b\\c --force".toList, "copy".toList, [],
        [.value ⟨"to".toList, none⟩ (some "c:\\".toList),
          .value ⟨"note".toList, none⟩ (some "a  b\\c".toList), .flag ⟨"force".toList, none⟩], none⟩
    parse definition.source = .ok definition ∧
      ∃ again, parse definition.render = .ok again ∧ again.command = definition.command ∧
        again.arguments = definition.arguments ∧ again.parameters ≠ definition.parameters := by
  intro definition
  have hp : parse definition.source = .ok definition := rfl
  obtain ⟨again, ha, hc, hs, hiff⟩ := parse_render_roundTrip _ definition hp
  refine ⟨hp, again, ha, hc, hs, ?_⟩
  rw [ne_eq, hiff]
  intro hn
  exact hn _ List.mem_cons_self rfl _ rfl rfl

end Definition
end CommandGrammar
