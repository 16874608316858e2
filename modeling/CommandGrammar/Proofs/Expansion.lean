import Mathlib
import CommandGrammar.Embedding
import CommandGrammar.Proofs.Grammar
import CommandGrammar.Proofs.Unquoting

set_option autoImplicit false

namespace CommandGrammar.Embedding

/-- The text of the literal that stands right after `before`, and what follows the literal. -/
def literalAfter? (before printed : Text) : Option (Text × Text) :=
  (before.isPrefixOf? printed).bind Text.unquote?

theorem literalAfter?_append (before text rest : Text) :
    literalAfter? before (before ++ (Text.literal text ++ rest)) = some (text, rest) := by
  have hp : before.isPrefixOf? (before ++ (Text.literal text ++ rest)) =
      some (Text.literal text ++ rest) := List.isPrefixOf?_eq_some_iff_append_eq.2 rfl
  rw [literalAfter?, hp, Option.bind_some, Text.unquote?_literal]

/-- A call that reads a definition, as a program holds it: the text that it reads and what it says
    if the text is no definition. -/
structure Call where
  argument : Text
  complaint : Text
  deriving DecidableEq, Repr

namespace Call

def read? (expansion : Text) : Option Call :=
  (literalAfter? ":: cmdform :: Definition :: parse (".toList expansion).bind fun first =>
    (literalAfter? ") . expect (".toList first.2).bind fun second =>
      if second.2 = ")".toList then some ⟨first.1, second.1⟩ else none

/-- A call that fails stops the program with its complaint. -/
def run (call : Call) : Except Text Definition :=
  (Definition.parse call.argument).mapError fun _ => call.complaint

end Call

def certainty : Text :=
  "internal error - the definition was validated at compile time".toList

theorem call_eq (text : Text) :
    call text = ":: cmdform :: Definition :: parse (".toList ++ (Text.literal text ++
      (") . expect (".toList ++ (Text.literal certainty ++ ")".toList))) := by
  unfold call certainty
  -- Only the brackets differ; `rw` or `simp` would also unfold the strings.
  rewrite [List.append_assoc, List.append_assoc, List.append_assoc]
  rfl

theorem read?_call (text : Text) : Call.read? (call text) = some ⟨text, certainty⟩ := by
  rw [call_eq, Call.read?, literalAfter?_append, Option.bind_some, literalAfter?_append,
    Option.bind_some]
  exact if_pos rfl

theorem call_of_isPlain (text : Text) (h : ∀ c ∈ text, Text.isPlain c = true) :
    call text = ":: cmdform :: Definition :: parse (\"".toList ++ text.flatMap Text.escapePlain ++
      "\") . expect (\"".toList ++ certainty ++ "\")".toList := by
  have hopen : ":: cmdform :: Definition :: parse (\"".toList =
      ":: cmdform :: Definition :: parse (".toList ++ ['"'] := by decide +kernel
  have hclose : "\") . expect (\"".toList ++ (certainty ++ "\")".toList) =
      '"' :: (") . expect (".toList ++ (Text.literal certainty ++ ")".toList)) := by
    decide +kernel
  rw [call_eq, Text.literal_of_isPlain text h, hopen]
  simp only [List.append_assoc, List.cons_append, List.nil_append]
  rw [hclose]

theorem call_injective (first second : Text) (h : call first = call second) : first = second := by
  have hr := congrArg Call.read? h
  rw [read?_call, read?_call] at hr
  exact congrArg Call.argument (Option.some.inj hr)

theorem expand_eq_ok_iff (text expansion : Text) :
    expand text = .ok expansion ↔
      (∃ definition, Definition.parse text = .ok definition) ∧ expansion = call text := by
  rw [expand]
  cases Definition.parse text with
  | error error => simp [Except.map]
  | ok definition => simp [Except.map, eq_comm]

/-- A text is expanded if it is a definition, and the error is that of reading it otherwise. The
    expansion holds the text, so that it builds the definition that the text is read as and no two
    texts share it. Hidden characters are written as numbers; a literal that keeps them as they are
    would be read as the same text. -/
theorem expand_agrees_with_parse (text : Text) :
    ((∃ expansion, expand text = .ok expansion) ↔
      ∃ definition, Definition.parse text = .ok definition) ∧
    (∀ error, Definition.parse text = .error error →
      (expand text).mapError ParseError.message = .error error.message) ∧
    (∀ expansion, expand text = .ok expansion →
      ∃ call definition, Call.read? expansion = some call ∧ call.argument = text ∧
        call.run = .ok definition ∧ Definition.parse text = .ok definition ∧
          definition.source = text) ∧
    (∀ other expansion, expand text = .ok expansion → expand other = .ok expansion →
      other = text) ∧
    ((∀ c ∈ text, Text.isPlain c = true) → ∀ expansion, expand text = .ok expansion →
      expansion = ":: cmdform :: Definition :: parse (\"".toList ++
        text.flatMap Text.escapePlain ++ "\") . expect (\"".toList ++ certainty ++
          "\")".toList) ∧
    ∀ rest, Text.unquote? ('"' :: text.flatMap Text.escapePlain ++ '"' :: rest) =
      some (text, rest) := by
  refine ⟨?_, ?_, ?_, ?_, ?_, Text.unquote?_escapePlain text⟩
  · simp [expand_eq_ok_iff]
  · intro error h
    rw [expand, h]
    rfl
  · intro expansion h
    obtain ⟨⟨definition, hd⟩, rfl⟩ := (expand_eq_ok_iff text expansion).1 h
    have hs := ((Definition.ofTokens_eq_ok_iff text _ definition).1 hd).1
    have hrun : (Call.mk text certainty).run = .ok definition := by
      rw [Call.run, hd]
      rfl
    exact ⟨⟨text, certainty⟩, definition, read?_call text, rfl, hrun, hd, hs⟩
  · intro other expansion h ho
    exact call_injective other text
      (((expand_eq_ok_iff _ _).1 ho).2.symm.trans ((expand_eq_ok_iff _ _).1 h).2)
  · intro hplain expansion h
    rw [((expand_eq_ok_iff text expansion).1 h).2]
    exact call_of_isPlain text hplain

theorem expand_agrees_with_parse_escapedLines :
    let plain : Text := "greet $who --motd[m]=say\\ \"hi\t\"".toList
    let hidden : Text := "list --mark=\u200b7".toList
    let faulty : Text := "deploy $service now".toList
    (∃ definition, Definition.parse plain = .ok definition ∧
      (∃ call, Call.read? (Embedding.call plain) = some call ∧ call.run = .ok definition) ∧
      expand plain = .ok (":: cmdform :: Definition :: parse (\"".toList ++
        "greet $who --motd[m]=say\\\\ \\\"hi\\t\\\"".toList ++ "\") . expect (\"".toList ++
          certainty ++ "\")".toList)) ∧
    (∃ call, Call.read? (Embedding.call hidden) = some call ∧ call.argument = hidden) ∧
    (expand faulty).mapError ParseError.message =
      .error ("Definition parse error in 'deploy $service now': ".toList ++
        "Unexpected value 'now' after the command name.".toList) := by
  intro plain hidden faulty
  have hplain : expand plain = .ok (call plain) := rfl
  have hhidden : expand hidden = .ok (call hidden) := rfl
  have hfaulty : Definition.parse faulty = .error ⟨faulty, .secondCommand "now".toList⟩ := rfl
  have hall : plain.all Text.isPlain = true := by decide +kernel
  refine ⟨?_, ?_, ?_⟩
  · obtain ⟨_, _, hread, _, hwhole, _⟩ := expand_agrees_with_parse plain
    obtain ⟨call, definition, hc, _, hr, hd, _⟩ := hread _ hplain
    refine ⟨definition, hd, ⟨call, hc, hr⟩, ?_⟩
    rw [hplain, hwhole (List.all_eq_true.1 hall) _ hplain]
    rfl
  · obtain ⟨call, _, hc, ha, _⟩ := (expand_agrees_with_parse hidden).2.2.1 _ hhidden
    exact ⟨call, hc, ha⟩
  · rw [(expand_agrees_with_parse faulty).2.1 _ hfaulty]
    rfl

end CommandGrammar.Embedding
