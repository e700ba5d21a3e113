import Overdue.CommandLine.Choices

/-!
# Arguments

The arguments of a command line, read from left to right up to the first thing that is wrong with
them. A parameter without a value attached to it waits: for its value, which is the next argument
unless that looks like an option, and then to be settled, which happens when the next option is
recognised or the arguments end.
-/

namespace Overdue

/-- What an argument looks like. -/
inductive Argument where
  /-- Two hyphens alone. What follows is never an option. -/
  | separator
  /-- A name after two hyphens, with what stands after an equals sign. -/
  | long (name : String) (value : Option String)
  /-- Letters after one hyphen. -/
  | short (letters : List Char)
  | plain (text : String)
deriving DecidableEq, Repr

/-- An argument by its looks. -/
def Argument.of (text : String) : Argument :=
  match text.toList with
  | '-' :: '-' :: [] => .separator
  | '-' :: '-' :: rest =>
    match Text.splitFirst? '=' rest with
    | some (name, value) => .long (String.ofList name) (some (String.ofList value))
    | none => .long (String.ofList rest) none
  | '-' :: c :: cs => .short (c :: cs)
  | _ => .plain text

/-- A parameter that waits, with its value if that has come. -/
structure Waiting where
  parameter : Parameter
  value : Option String
deriving DecidableEq, Repr

/-- How far the arguments have been read. -/
structure Reading where
  choices : Choices := {}
  waiting : Option Waiting := none
deriving DecidableEq

namespace Reading

/-- Settles the parameter that waits. -/
def settle (r : Reading) : Except Halt Choices :=
  match r.waiting with
  | none => .ok r.choices
  | some ⟨p, none⟩ => .error (.misuse (.missingValue p))
  | some ⟨p, some value⟩ => (r.choices.set p value).mapError .misuse

/-- Takes in a flag. -/
def takeFlag (r : Reading) (f : Flag) : Except Halt Reading := do
  let choices ← r.settle
  return { choices := ← choices.raise f }

/-- Takes in a parameter, with the value that is attached to it. -/
def takeParameter (r : Reading) (p : Parameter) (value : Option String) : Except Halt Reading := do
  let choices ← r.settle
  match value with
  | some value => return { choices := ← (choices.set p value).mapError .misuse }
  | none => return { choices, waiting := some ⟨p, none⟩ }

/-- Takes in the flags of some letters. -/
def takeLetters (r : Reading) : List Char → Except Halt Reading
  | [] => .ok r
  | c :: cs =>
    match Flag.ofLetter? c with
    | some f => do (← r.takeFlag f).takeLetters cs
    | none => .error (.misuse (.unknownArgument (String.ofList ['-', c])))

/-- Takes in a text that does not look like an option. -/
def takePlain (r : Reading) (text : String) : Except Halt Reading :=
  match r.waiting with
  | some ⟨p, none⟩ => .ok { r with waiting := some ⟨p, some text⟩ }
  | _ => .error (.misuse (.unknownArgument text))

/-- Takes in a long option. -/
def takeLong (r : Reading) (name : String) (value : Option String) : Except Halt Reading :=
  match Parameter.ofName? name with
  | some p => r.takeParameter p value
  | none =>
    match Flag.ofName? name, value with
    | some f, none => r.takeFlag f
    | some f, some value => .error (.misuse (.unneededValue f value))
    | none, _ => .error (.misuse (.unknownArgument ("--" ++ name)))

/-- Reads some arguments to their end. -/
def finish (r : Reading) : List String → Except Halt Choices
  | [] => r.settle
  | text :: rest =>
    match Argument.of text with
    | .separator =>
      match rest with
      | [] => r.settle
      | next :: _ => .error (.misuse (.unknownArgument next))
    | .long name value => do (← r.takeLong name value).finish rest
    | .short letters => do (← r.takeLetters letters).finish rest
    | .plain text => do (← r.takePlain text).finish rest

end Reading

/-- What some arguments choose. -/
def Choices.ofArguments (arguments : List String) : Except Halt Choices :=
  Reading.finish {} arguments

end Overdue
