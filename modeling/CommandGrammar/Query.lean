import CommandGrammar.Parameter.Value

set_option autoImplicit false

namespace CommandGrammar

inductive Query where
  | text
  | switch
  | enabled
  | one (type : ScalarType)
  | within (type : ScalarType) (min max : type.Carrier)
  | list (type : ScalarType)
  | choice (type : ScalarType) (choices : List (Text × type.Carrier))

inductive Answer where
  | one (value : Text)
  | many (values : List Text)
  deriving DecidableEq, Repr

/-- Only the query for `enabled` has an answer from a flag. -/
def Query.run (parameter : Parameter) : Query → Except ValueError Answer
  | .text => parameter.text.map .one
  | .switch => parameter.readSwitch.map fun b => .one (Scalar.renderBool b)
  | .enabled => .ok (.one (Scalar.renderBool parameter.isEnabled))
  | .one type => (parameter.read type.scalar).map fun value => .one (type.scalar.render value)
  | .within type min max =>
    (parameter.readWithin type.scalar min max).map fun value => .one (type.scalar.render value)
  | .list type =>
    (parameter.readList type.scalar).map fun values => .many (values.map type.scalar.render)
  | .choice type choices =>
    (parameter.readChoice choices).map fun value => .one (type.scalar.render value)

end CommandGrammar
