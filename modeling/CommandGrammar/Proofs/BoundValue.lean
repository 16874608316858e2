import Mathlib
import CommandGrammar.Proofs.DefinitionForm

set_option autoImplicit false

namespace CommandGrammar

namespace Text

/-- What is left of a text that is printed as a default and read again. -/
def residue (t : Text) : Text := trimEnd (dropFinal '\\' t)

theorem residue_concat (t : Text) (c : Char) :
    residue (t ++ [c]) = if c = '\\' ∨ isBlank c = true then trimEnd t else t ++ [c] := by
  by_cases hb : c = '\\'
  · rw [hb, residue, dropFinal_concat, if_pos (.inl rfl)]
  · have he : endsIn '\\' (t ++ [c]) = false := by
      rw [endsIn_concat]
      exact beq_false_of_ne hb
    rw [residue, dropFinal_eq_self _ _ he, trimEnd_concat]
    by_cases hc : isBlank c = true
    · rw [if_pos hc, if_pos (.inr hc)]
    · rw [if_neg hc, if_neg (not_or.2 ⟨hb, hc⟩)]

theorem residue_eq_self_iff (t : Text) :
    residue t = t ↔ t = [] ∨ ∃ c, t.getLast? = some c ∧ c ≠ '\\' ∧ isBlank c = false := by
  cases t using List.reverseRecOn with
  | nil => exact iff_of_true rfl (.inl rfl)
  | append_singleton t c =>
    have hl := (isPrefix_trimEnd t).length_le
    have hne : trimEnd t ≠ t ++ [c] := by
      intro he
      rw [he, List.length_append] at hl
      exact absurd hl (by simp)
    rw [residue_concat]
    by_cases hc : c = '\\' ∨ isBlank c = true
    · rw [if_pos hc]
      refine iff_of_false hne ?_
      rintro (hn | ⟨d, hd, hb, hs⟩)
      · simp at hn
      · obtain rfl : c = d := by simpa using hd
        exact hc.elim hb (by rw [hs]; simp)
    · rw [if_neg hc]
      rw [not_or, Bool.not_eq_true] at hc
      exact iff_of_true rfl (.inr ⟨c, List.getLast?_concat .., hc⟩)

end Text

namespace Token

theorem assemble_keepSpaces_alone (word : Text) (hn : word ≠ [])
    (hs : Text.endsIn ' ' word = false) :
    assemble (pieces (keepSpaces word)) = [Text.dropFinal '\\' word] := by
  have ha := assemble_keepSpaces word [] hn hs (.inl rfl)
  rw [List.append_nil] at ha
  exact ha.trans (attach_nil word)

theorem keepSpaces_concat_space (stem : Text) :
    keepSpaces (stem ++ [' ']) = keepSpaces (stem ++ ['\\']) ++ [' '] := by
  rw [keepSpaces_append, keepSpaces_append, List.append_assoc]
  rfl

/-- Trimming hides that a space at the end is lost with its backslash. -/
theorem trim_assemble_keepSpaces (word : Text) (hn : word ≠ []) :
    (assemble (pieces (keepSpaces word))).map Text.trim =
      [Text.trim (Text.dropFinal '\\' word)] := by
  cases hs : Text.endsIn ' ' word with
  | false => rw [assemble_keepSpaces_alone word hn hs, List.map_singleton]
  | true =>
    obtain ⟨stem, rfl⟩ := Text.exists_concat_of_endsIn _ _ hs
    have hp : pieces (keepSpaces (stem ++ [' '])) = pieces (keepSpaces (stem ++ ['\\'])) := by
      rw [keepSpaces_concat_space, pieces_append]
      exact List.append_nil _
    have ha := assemble_keepSpaces_alone (stem ++ ['\\']) (by simp)
      (Text.endsIn_concat ' ' '\\' stem)
    have hd := Text.dropFinal_eq_self '\\' (stem ++ [' ']) (Text.endsIn_concat '\\' ' ' stem)
    rw [hp, ha, hd, Text.dropFinal_concat, List.map_singleton,
      Text.trim_concat stem ' ' (by decide)]

end Token

namespace Parameter

theorem word_resolve (parameter : Parameter) (hk : parameter.kind = .value) (text : Text) :
    (parameter.resolve text).word = '-' :: '-' :: (parameter.name.render ++ '=' :: text) := by
  rw [word, resolve, hk]
  rfl

/-- What becomes of a bound parameter that is printed and read again. -/
def reread (parameter : Parameter) (text : Text) : Parameter :=
  .value parameter.name (trimmedDefault (Text.dropFinal '\\' text))

theorem wellFormed_reread (parameter : Parameter) (h : parameter.WellFormed) (text : Text) :
    (parameter.reread text).WellFormed :=
  wellFormed_trimmedDefault parameter.name h.name _

theorem trim_word_resolve (parameter : Parameter) (hk : parameter.kind = .value) (text : Text) :
    Text.trim (Text.dropFinal '\\' (parameter.resolve text).word) =
      (parameter.reread text).word := by
  have hd := Text.dropFinal_append '\\' '=' ('-' :: '-' :: parameter.name.render) text (by decide)
  rw [word_resolve parameter hk text, reread, word_trimmedDefault]
  exact congrArg Text.trim hd

end Parameter

namespace Definition

def boundLine (command : Text) (parameter : Parameter) (text : Text) : Text :=
  command ++ ' ' :: (parameter.resolve text).render

theorem tokens_boundLine (name : Name) (hn : name.WellFormed) (parameter : Parameter)
    (hp : parameter.WellFormed) (hk : parameter.kind = .value) (text : Text) :
    Token.tokens (boundLine name.render parameter text) =
      [name.render, (parameter.reread text).word] := by
  have hs := Name.solid_render name hn
  have hw := Parameter.solid_word _ (parameter.wellFormed_reread hp text)
  have hpieces : Token.pieces name.render = [name.render] := by
    have he := Token.pieces_word name.render [] hs.ne_nil
      (Name.notMem_render name hn ' ' (by decide)) (.inl rfl)
    rwa [List.append_nil] at he
  have hplain : ∀ word ∈ [name.render], Text.endsIn '\\' word = false := by
    rw [List.forall_mem_singleton]
    exact Text.endsIn_of_notMem _ _ (Name.notMem_render name hn '\\' (by decide))
  apply Token.tokens_of_map_trim
  · rw [List.forall_mem_cons, List.forall_mem_singleton]
    exact ⟨hs.ne_nil, hw.ne_nil⟩
  · rw [boundLine, (parameter.resolve text).render_eq_keepSpaces hp.name, Token.pieces_append,
      hpieces, Token.assemble_append_of_plain _ _ hplain, List.map_append,
      Token.trim_assemble_keepSpaces _ (by simp [Parameter.word]),
      parameter.trim_word_resolve hk text, List.map_singleton, Text.trim_eq_self _ hs.toFirm]
    rfl

theorem parse_boundLine (name : Name) (hn : name.WellFormed) (parameter : Parameter)
    (hp : parameter.WellFormed) (hk : parameter.kind = .value) (text : Text) :
    parse (boundLine name.render parameter text) =
      .ok ⟨boundLine name.render parameter text, name.long, [], [parameter.reread text], none⟩ := by
  have hc := Name.declaresCommand_render name hn
  have hd := Parameter.declares_word _ (parameter.wellFormed_reread hp text) rfl
  have hs : ∀ kind : TokenClass,
      kind.select [name.render, (parameter.reread text).word] =
        (if .bare = kind then [name.render] else []) ++
          if .option = kind then [(parameter.reread text).word] else [] := by
    intro kind
    rw [← List.singleton_append, TokenClass.select_append, TokenClass.select_singleton,
      TokenClass.select_singleton, hc.ofToken_eq, hd.ofToken_eq]
  rw [parse, tokens_boundLine name hn parameter hp hk text, ofTokens_eq_ok_iff]
  refine ⟨rfl, rfl, ?_, ?_, ?_, .nil⟩
  · rw [hs]
    exact .cons hc .nil
  · rw [hs]
    exact .nil
  · rw [hs]
    exact .cons hd .nil

/-- Whatever text a parameter is bound to, printing it behind a command gives a line that declares
    one parameter of the same name, with the residue of the text as its default. -/
theorem parse_render_resolve (source : Text) (definition : Definition)
    (h : parse source = .ok definition) (parameter : Parameter)
    (hm : parameter ∈ definition.parameters) (hk : parameter.kind = .value) (command : Text)
    (name : Name) (hn : Name.parse command = .ok name) (text : Text) :
    ∃ again bound, parse (command ++ ' ' :: (parameter.resolve text).render) = .ok again ∧
      again.command = name.long ∧ again.arguments = [] ∧ again.parameters = [bound] ∧
      bound.name = parameter.name ∧ bound.kind = .value ∧ bound.isResolved = false ∧
      bound.stored = Text.residue text ∧
      (bound.stored = text ↔
        text = [] ∨ ∃ c, text.getLast? = some c ∧ c ≠ '\\' ∧ Text.isBlank c = false) := by
  obtain ⟨hname, rfl⟩ := (Name.read?_eq_some_iff_render _ _).1 ((Name.parse_ok_iff _ _).1 hn)
  have hp := (wellFormed_of_parse source definition h).parameters parameter hm
  have hr : (parameter.reread text).stored = Text.residue text := Parameter.getD_trimmedDefault _
  refine ⟨_, parameter.reread text, parse_boundLine name hname parameter hp hk text, rfl, rfl, rfl,
    rfl, rfl, rfl, hr, ?_⟩
  rw [hr, Text.residue_eq_self_iff]

theorem parse_render_resolve_tokenLike :
    let definition : Definition :=
      ⟨"send --note[n]=hi".toList, "send".toList, [],
        [.value ⟨"note".toList, some 'n'⟩ (some "hi".toList)], none⟩
    let parameter : Parameter := .value ⟨"note".toList, some 'n'⟩ (some "hi".toList)
    let text : Text := "--to=$all  = \\".toList
    parse definition.source = .ok definition ∧
      Name.parse "run[r]".toList = .ok ⟨"run".toList, some 'r'⟩ ∧
      ∃ again bound, parse ("run[r]".toList ++ ' ' :: (parameter.resolve text).render) = .ok again ∧
        again.command = "run".toList ∧ again.parameters = [bound] ∧
        bound.stored = "--to=$all  =".toList := by
  intro definition parameter text
  have hp : parse definition.source = .ok definition := rfl
  have hn : Name.parse "run[r]".toList = .ok ⟨"run".toList, some 'r'⟩ := rfl
  obtain ⟨again, bound, ha, hc, _, hb, _, _, _, hr, _⟩ :=
    parse_render_resolve _ definition hp parameter List.mem_cons_self rfl _ _ hn text
  exact ⟨hp, hn, again, bound, ha, hc, hb, hr⟩

end Definition
end CommandGrammar
