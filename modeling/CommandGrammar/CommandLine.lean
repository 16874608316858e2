import CommandGrammar.Definition

set_option autoImplicit false

/-!
# Command lines

A command line is matched against a definition word by word: `--name=value` or `-name=value` binds
a parameter, a name alone binds it to `1`, and any other word goes to the argument at its position.
The first word that the definition has no place for ends the matching.
-/
namespace CommandGrammar

inductive Word where
  | option (name value : Text)
  | positional (value : Text)
  deriving DecidableEq, Repr

namespace Word

def ofBinding (text : Text) : Word :=
  match Text.cutAt? '=' text with
  | some (name, value) => .option name value
  | none => .option text ['1']

def ofToken : Text → Word
  | '-' :: '-' :: text => ofBinding text
  | '-' :: text => ofBinding text
  | token => .positional token

end Word

inductive Line where
  | out (text : Text)
  | err (text : Text)
  deriving DecidableEq, Repr

namespace Line

def out? : Line → Option Text
  | .out text => some text
  | .err _ => none

def err? : Line → Option Text
  | .out _ => none
  | .err text => some text

end Line

structure Report where
  exit : UInt32
  out : Text
  err : Text
  deriving DecidableEq, Repr

def Report.ofLines (lines : List Line) : Report :=
  let stream (ts : List Text) : Text := ts.flatMap (· ++ ['\n'])
  ⟨0, stream (lines.filterMap Line.out?), stream (lines.filterMap Line.err?)⟩

namespace CommandLine

def setting (name value : Text) : Line := .out (name ++ " = ".toList ++ value)

def parameterHelp (parameter : Parameter) : Line :=
  .err ("  ".toList ++ parameter.render ++ "  ".toList ++ parameter.description.getD [])

def unknownParameter (definition : Definition) (token : Text) : List Line :=
  .err ("Unknown parameter '".toList ++ token ++ "' for: ".toList ++ definition.render) ::
    definition.parameters.map parameterHelp

def unexpectedArgument (definition : Definition) (token : Text) : Line :=
  .err ("Unexpected argument '".toList ++ token ++ "' for: ".toList ++ definition.render)

/-- The lines for the words from `position` on, and the parameters they bind, in order, unless a
    word has no place. -/
def bindFrom (definition : Definition) (position : Nat) :
    List Text → List Line × Option (List Parameter)
  | [] => ([], some [])
  | token :: rest =>
    match Word.ofToken token with
    | .option name value =>
      match definition.parameterNamed? name with
      | none => (unknownParameter definition token, none)
      | some parameter =>
        let (lines, bound) := bindFrom definition position rest
        (lines, bound.map (parameter.resolve value :: ·))
    | .positional value =>
      match definition.argumentAt? position with
      | none => ([unexpectedArgument definition token], none)
      | some argument =>
        let (lines, bound) := bindFrom definition (position + 1) rest
        (setting argument.name value :: lines, bound)

def inForce (bound : List Parameter) (declared : Parameter) : Parameter :=
  (bound.find? (·.name.long == declared.name.long)).getD declared

def lines (definition : Definition) (summary : Parameter → Line) (tokens : List Text) : List Line :=
  match bindFrom definition 0 tokens with
  | (seen, none) => seen
  | (seen, some bound) => seen ++ definition.parameters.map fun p => summary (inForce bound p)

end CommandLine
end CommandGrammar
