import CommandGrammar.Definition
import CommandGrammar.Fault
import CommandGrammar.Shape

set_option autoImplicit false

/-!
# Reading a definition

The tokens of a line are added one by one to a draft. The first token that does not fit ends the
reading; a draft with a command is a definition. Arguments, parameters and the command may stand in
any order.
-/
namespace CommandGrammar

structure Draft where
  command : Option Text
  arguments : List Argument
  parameters : List Parameter
  deriving DecidableEq, Repr

namespace Draft

def empty : Draft := ⟨none, [], []⟩

def hasWildcard (draft : Draft) : Bool := draft.arguments.any (·.wildcard)

def identify (token name : Text) : Except Fault Name :=
  (Name.parse name).mapError (.invalidIdentifier token)

/-- An argument's name is looked at before its place, a command's place before its name. A short
    form is allowed on both and then forgotten. -/
def add (draft : Draft) (token : Text) : Except Fault Draft :=
  match Shape.ofToken token with
  | .flag name =>
    (identify token name).map fun name =>
      { draft with parameters := draft.parameters ++ [.flag name] }
  | .value name default =>
    (identify token name).map fun name =>
      { draft with parameters := draft.parameters ++ [.value name default] }
  | .argument name wildcard =>
    match identify token name with
    | .error fault => .error fault
    | .ok name =>
      if draft.hasWildcard then .error (.argumentAfterWildcard token)
      else .ok { draft with arguments := draft.arguments ++ [⟨name.long, wildcard⟩] }
  | .bare name =>
    if draft.command.isSome then .error (.secondCommand token)
    else (identify token name).map fun name => { draft with command := some name.long }

def close (source : Text) (draft : Draft) : Except ParseError Definition :=
  match draft.command with
  | some command => .ok ⟨source, command, draft.arguments, draft.parameters, none⟩
  | none => .error ⟨source, .missingCommand⟩

def addAll (draft : Draft) : List Text → Except Fault Draft
  | [] => .ok draft
  | token :: rest =>
    match draft.add token with
    | .error fault => .error fault
    | .ok next => next.addAll rest

theorem addAll_append (draft : Draft) (first second : List Text) :
    draft.addAll (first ++ second) =
      match draft.addAll first with
      | .error fault => .error fault
      | .ok next => next.addAll second := by
  induction first generalizing draft with
  | nil => rfl
  | cons token rest ih =>
    simp only [List.cons_append, addAll]
    cases draft.add token with
    | error fault => rfl
    | ok next => exact ih next

end Draft

namespace Definition

def ofDraft (source : Text) : Except Fault Draft → Except ParseError Definition
  | .error fault => .error ⟨source, fault⟩
  | .ok draft => draft.close source

def ofTokens (source : Text) (tokens : List Text) : Except ParseError Definition :=
  ofDraft source (Draft.empty.addAll tokens)

def parse (source : Text) : Except ParseError Definition := ofTokens source (Token.tokens source)

def reparse (definition : Definition) : Except ParseError Definition := parse definition.render

end Definition
end CommandGrammar
