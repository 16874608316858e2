import CommandGrammar.Parameter
import CommandGrammar.Scalar
import CommandGrammar.ValueError

set_option autoImplicit false

namespace CommandGrammar.Parameter

def reading {α : Type} (parameter : Parameter) (use : Text → Except ValueError α) :
    Except ValueError α :=
  match parameter.kind with
  | .flag => .error (.flagAsValue parameter.name.long)
  | .value => use parameter.stored

def text (parameter : Parameter) : Except ValueError Text := parameter.reading .ok

def read {α : Type} (parameter : Parameter) (type : Scalar α) : Except ValueError α :=
  parameter.reading fun stored =>
    match type.read? stored with
    | some value => .ok value
    | none => .error (.unconvertible parameter.name.long stored type.label)

/-- Both bounds are allowed values. Nothing is within bounds that it cannot be compared with. -/
def readWithin {α : Type} (parameter : Parameter) (type : Scalar α) (min max : α) :
    Except ValueError α :=
  parameter.reading fun stored =>
    match type.read? stored with
    | none => .error (.rejected parameter.name.long stored (.unconvertible type.label))
    | some value =>
      if type.le min value && type.le value max then .ok value
      else
        .error (.rejected parameter.name.long stored
          (.outOfRange (type.render min) (type.render max)))

def elements (stored : Text) : List Text := if stored = [] then [] else stored.splitOn ','

def readElements {α : Type} (type : Scalar α) (index : Nat) :
    List Text → Except (Nat × Text) (List α)
  | [] => .ok []
  | element :: rest =>
    match type.read? element with
    | none => .error (index, element)
    | some value => (readElements type (index + 1) rest).map (value :: ·)

def readList {α : Type} (parameter : Parameter) (type : Scalar α) : Except ValueError (List α) :=
  parameter.reading fun stored =>
    (readElements type 0 (elements stored)).mapError fun bad =>
      .unconvertibleElement parameter.name.long bad.1 bad.2 type.label

/-- The value that the stored text is paired with; the last of several pairs counts. -/
def readChoice {α : Type} (parameter : Parameter) (choices : List (Text × α)) :
    Except ValueError α :=
  parameter.reading fun stored =>
    match choices.reverse.lookup stored with
    | some value => .ok value
    | none => .error (.rejected parameter.name.long stored .unmapped)

def truths : List Text := ["1", "t", "T", "TRUE", "true", "True"].map String.toList

def falsehoods : List Text := ["0", "f", "F", "FALSE", "false", "False"].map String.toList

/-- Reads the usual spellings of true and false, of which the type `bool` itself has only two. -/
def readSwitch (parameter : Parameter) : Except ValueError Bool :=
  parameter.reading fun stored =>
    if stored ∈ truths then .ok true
    else if stored ∈ falsehoods then .ok false
    else .error (.unconvertible parameter.name.long stored Scalar.bool.label)

end CommandGrammar.Parameter
