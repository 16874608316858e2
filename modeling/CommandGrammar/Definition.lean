import CommandGrammar.Argument
import CommandGrammar.Parameter

set_option autoImplicit false

namespace CommandGrammar

structure Definition where
  source : Text
  command : Text
  arguments : List Argument
  parameters : List Parameter
  description : Option Text
  deriving DecidableEq, Repr

namespace Definition

def flags (definition : Definition) : List Parameter := definition.parameters.filter (·.isFlag)

def options (definition : Definition) : List Parameter :=
  definition.parameters.filter (!·.isFlag)

/-- A wildcard can only be the last argument. -/
def wildcard? (definition : Definition) : Option Argument :=
  definition.arguments.getLast?.filter (·.wildcard)

/-- The argument that takes the value at `position`: past the declared ones it is the wildcard. -/
def argumentAt? (definition : Definition) (position : Nat) : Option Argument :=
  definition.arguments[position]? <|> definition.wildcard?

def parameterNamed? (definition : Definition) (name : Text) : Option Parameter :=
  definition.parameters.find? (·.answersTo name)

def about (definition : Definition) (text : Text) : Definition :=
  { definition with description := some text }

def describe (definition : Definition) (name text : Text) : Definition :=
  { definition with
    parameters := definition.parameters.modify
      (definition.parameters.findIdx (·.answersTo name)) (·.about text) }

def render (definition : Definition) : Text :=
  [' '].intercalate
    (definition.command :: definition.arguments.map Argument.render ++
      definition.parameters.map Parameter.render)

theorem describe_of_unanswered (definition : Definition) (name text : Text)
    (h : definition.parameterNamed? name = none) : definition.describe name text = definition := by
  have hn : definition.parameters.findIdx (·.answersTo name) = definition.parameters.length := by
    simpa [parameterNamed?, List.findIdx_eq_length] using h
  simp [describe, hn, List.modify_eq_self]

end Definition
end CommandGrammar
