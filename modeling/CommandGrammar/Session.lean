import CommandGrammar.Draft
import CommandGrammar.Query

set_option autoImplicit false

namespace CommandGrammar

structure Session where
  definition : Option Definition
  slots : List (Text × Parameter)
  deriving DecidableEq, Repr

inductive Request where
  | parse (source : Text)
  | reparse
  | showDefinition
  | about (text : Text)
  | describe (name text : Text)
  | argumentAt (position : Nat)
  | wildcard
  | parameterNamed (name : Text)
  | take (name slot : Text)
  | resolve (slot value into : Text)
  | aboutSlot (slot text : Text)
  | showSlot (slot : Text)
  | read (slot : Text) (query : Query)
  | same (left right : Text)

inductive Reply where
  | definition (definition : Definition)
  | argument (argument : Option Argument)
  | lookup (parameter : Option Parameter)
  | parameter (parameter : Parameter)
  | answer (answer : Answer)
  | equal (equal : Bool)
  deriving DecidableEq, Repr

inductive Refusal where
  | noDefinition
  | noSlot
  | parse (error : ParseError)
  | value (error : ValueError)
  deriving DecidableEq, Repr

namespace Session

def empty : Session := ⟨none, []⟩

def current (session : Session) : Except Refusal Definition :=
  match session.definition with
  | some definition => .ok definition
  | none => .error .noDefinition

/-- The parameter last put into `slot`. -/
def slot (session : Session) (slot : Text) : Except Refusal Parameter :=
  match session.slots.lookup slot with
  | some parameter => .ok parameter
  | none => .error .noSlot

def define (session : Session) (definition : Definition) : Session × Reply :=
  ({ session with definition := some definition }, .definition definition)

def put (session : Session) (slot : Text) (parameter : Parameter) : Session × Reply :=
  ({ session with slots := (slot, parameter) :: session.slots }, .parameter parameter)

def run (session : Session) : Request → Except Refusal (Session × Reply)
  | .parse source => ((Definition.parse source).mapError .parse).map session.define
  | .reparse => do
    let definition ← session.current
    (definition.reparse.mapError .parse).map session.define
  | .showDefinition => do
    let definition ← session.current
    return (session, .definition definition)
  | .about text => do
    let definition ← session.current
    return session.define (definition.about text)
  | .describe name text => do
    let definition ← session.current
    return session.define (definition.describe name text)
  | .argumentAt position => do
    let definition ← session.current
    return (session, .argument (definition.argumentAt? position))
  | .wildcard => do
    let definition ← session.current
    return (session, .argument definition.wildcard?)
  | .parameterNamed name => do
    let definition ← session.current
    return (session, .lookup (definition.parameterNamed? name))
  | .take name slot => do
    let definition ← session.current
    match definition.parameterNamed? name with
    | some parameter => return session.put slot parameter
    | none => return (session, .lookup none)
  | .resolve slot value into => do
    let parameter ← session.slot slot
    return session.put into (parameter.resolve value)
  | .aboutSlot slot text => do
    let parameter ← session.slot slot
    return session.put slot (parameter.about text)
  | .showSlot slot => do
    let parameter ← session.slot slot
    return (session, .parameter parameter)
  | .read slot query => do
    let parameter ← session.slot slot
    let answer ← (query.run parameter).mapError .value
    return (session, .answer answer)
  | .same left right => do
    let left ← session.slot left
    let right ← session.slot right
    return (session, .equal (left = right))

/-- Runs the requests in order and goes on after a refusal. -/
def runAll (session : Session) : List Request → List (Except Refusal Reply)
  | [] => []
  | request :: rest =>
    match session.run request with
    | .ok (next, reply) => .ok reply :: next.runAll rest
    | .error refusal => .error refusal :: session.runAll rest

end Session
end CommandGrammar
