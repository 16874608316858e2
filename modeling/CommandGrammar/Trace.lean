import CommandGrammar.Draft
import CommandGrammar.Text.Quoted

set_option autoImplicit false

namespace CommandGrammar

inductive Event where
  | tokenized (source : Text) (tokens : List Text)
  | classifying (token : Text)
  | failed (error : ParseError)
  deriving DecidableEq, Repr

namespace Event

def message : Event → Text
  | .tokenized source tokens =>
    "Tokenized '".toList ++ source ++ "' into ".toList ++ Text.listing tokens ++ ".".toList
  | .classifying token => "Classifying '".toList ++ token ++ "'.".toList
  | .failed error => error.message

def render (event : Event) : Text := "DEBUG ".toList ++ event.message

end Event

def Draft.trace (draft : Draft) : List Text → List Event × Except Fault Draft
  | [] => ([], .ok draft)
  | token :: rest =>
    match draft.add token with
    | .error fault => ([.classifying token], .error fault)
    | .ok next =>
      let (events, outcome) := next.trace rest
      (.classifying token :: events, outcome)

structure Trace where
  events : List Event
  outcome : Except ParseError Definition

namespace Trace

def ending : Except ParseError Definition → List Event
  | .error error => [.failed error]
  | .ok _ => []

def ofSource (source : Text) : Trace :=
  let tokens := Token.tokens source
  let (events, draft) := Draft.empty.trace tokens
  let outcome := Definition.ofDraft source draft
  ⟨.tokenized source tokens :: events ++ ending outcome, outcome⟩

end Trace

theorem Draft.trace_outcome (draft : Draft) (tokens : List Text) :
    (draft.trace tokens).2 = draft.addAll tokens := by
  induction tokens generalizing draft with
  | nil => rfl
  | cons token rest ih =>
    simp only [trace, addAll]
    cases draft.add token with
    | error fault => rfl
    | ok next => exact ih next

theorem Trace.ofSource_outcome (source : Text) :
    (ofSource source).outcome = Definition.parse source :=
  congrArg (Definition.ofDraft source) (Draft.trace_outcome Draft.empty (Token.tokens source))

end CommandGrammar
