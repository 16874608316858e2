import CommandGrammar.Name
import CommandGrammar.Token

set_option autoImplicit false

namespace CommandGrammar

inductive Kind where
  | flag
  | value
  deriving DecidableEq, Repr

inductive Binding where
  | unresolved (default : Option Text)
  | resolved (value : Text)
  deriving DecidableEq, Repr

/-- The text in force: the bound value, else the default, else nothing. -/
def Binding.stored : Binding → Text
  | .unresolved default => default.getD []
  | .resolved value => value

structure Parameter where
  name : Name
  kind : Kind
  binding : Binding
  description : Option Text
  deriving DecidableEq, Repr

namespace Parameter

def flag (name : Name) : Parameter := ⟨name, .flag, .unresolved none, none⟩

def value (name : Name) (default : Option Text) : Parameter :=
  ⟨name, .value, .unresolved default, none⟩

def isFlag (parameter : Parameter) : Bool := parameter.kind == .flag

def stored (parameter : Parameter) : Text := parameter.binding.stored

def default? (parameter : Parameter) : Option Text :=
  match parameter.binding with
  | .unresolved default => default
  | .resolved _ => none

def isResolved (parameter : Parameter) : Bool :=
  match parameter.binding with
  | .unresolved _ => false
  | .resolved _ => true

/-- Whether the text in force is exactly `1`, for flags and values alike. -/
def isEnabled (parameter : Parameter) : Bool := parameter.stored == ['1']

def about (parameter : Parameter) (text : Text) : Parameter :=
  { parameter with description := some text }

def resolve (parameter : Parameter) (text : Text) : Parameter :=
  { parameter with binding := .resolved text }

def answersTo (name : Text) (parameter : Parameter) : Bool :=
  parameter.name.short.map (fun letter => [letter]) == some name || parameter.name.long == name

def render (parameter : Parameter) : Text :=
  '-' :: '-' :: parameter.name.render ++
    match parameter.kind with
    | .flag => ['?']
    | .value => '=' :: Token.keepSpaces parameter.stored

theorem stored_resolve (parameter : Parameter) (text : Text) :
    (parameter.resolve text).stored = text := rfl

end Parameter
end CommandGrammar
