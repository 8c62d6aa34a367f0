import ComponentCrd.Command.Run
import ComponentCrd.Command.Usage

/-! Reading the arguments of the command line from left to right. An option whose value is the
next argument is settled only when another option follows or the arguments end, so that an
argument that means nothing is reported before what is wrong with the option in front of it.
-/

namespace ComponentCrd.Command

/-- What the command line asks for. -/
inductive Request where
  | help
  | run (config : Config) (verbose : Bool)
deriving DecidableEq, Repr

/-- An option that waits for its value, or has one and is not settled yet. -/
structure Pending where
  option : ValueOption
  value? : Option String := none
deriving DecidableEq, Repr

/-- What has been read of the command line. -/
structure Arguments where
  values : List (ValueOption × String) := []
  verbose : Bool := false
  pending? : Option Pending := none
deriving DecidableEq, Repr

namespace Arguments

/-- Takes the value of an option, which may be given once. -/
def accept (arguments : Arguments) (option : ValueOption) (value : String) :
    Except UsageError Arguments :=
  if (arguments.values.lookup option).isSome then
    .error (.repeated option.display)
  else if value.isEmpty && !option.admitsEmpty then
    .error (.valueRequired option)
  else
    .ok { arguments with values := (option, value) :: arguments.values }

/-- Settles the option that is pending. -/
def settle (arguments : Arguments) : Except UsageError Arguments :=
  match arguments.pending? with
  | none => .ok arguments
  | some ⟨option, none⟩ => .error (.valueRequired option)
  | some ⟨option, some value⟩ =>
      accept { arguments with pending? := none } option value

/-- Takes an option, with its value if that is attached. -/
def takeOption (arguments : Arguments) (option : ValueOption) (attached? : Option String) :
    Except UsageError Arguments := do
  let arguments ← arguments.settle
  match attached? with
  | some value => arguments.accept option value
  | none => return { arguments with pending? := some ⟨option, none⟩ }

/-- Takes the option for progress lines, which may be given once. -/
def takeVerbose (arguments : Arguments) : Except UsageError Arguments := do
  let arguments ← arguments.settle
  if arguments.verbose then
    throw (.repeated "--verbose")
  else
    return { arguments with verbose := true }

/-- The name of a long option and the value attached to it. -/
def splitAttached (text : List Char) : String × Option String :=
  let (name, rest) := text.span (· != '=')
  match rest with
  | [] => (String.ofList name, none)
  | _ :: value => (String.ofList name, some (String.ofList value))

/-- The request of a command line that has been read to its end. -/
def request (arguments : Arguments) : Except UsageError Request := do
  let arguments ← arguments.settle
  let value? (option : ValueOption) : Option String := arguments.values.lookup option
  match value? .input with
  | none => throw .inputRequired
  | some input =>
      let overrides := {
        group? := value? .group, version? := value? .version, kind? := value? .kind
        plural? := value? .plural, singular? := value? .singular }
      let config := {
        input, overrides, component := (value? .component).getD "", output? := value? .output }
      return .run config arguments.verbose

/-- What a command line asks for, from what has been read of it and the arguments left. -/
def read (arguments : Arguments) : List String → Except UsageError Request
  | [] => arguments.request
  | argument :: rest => do
      match argument.toList with
      | ['-', '-'] =>
          match rest with
          | [] => arguments.request
          | other :: _ => throw (.unexpectedArgument other)
      | '-' :: '-' :: text =>
          let (name, attached?) := splitAttached text
          match ValueOption.all.find? (·.name == name), attached? with
          | some option, attached? => (← arguments.takeOption option attached?).read rest
          | none, some value =>
              if name = "verbose" ∨ name = "help" then
                throw (.unexpectedValue value ("--" ++ name))
              else
                throw (.unexpectedArgument ("--" ++ name))
          | none, none =>
              if name = "verbose" then
                (← arguments.takeVerbose).read rest
              else if name = "help" then
                let _ ← arguments.settle
                return .help
              else
                throw (.unexpectedArgument ("--" ++ name))
      | '-' :: letter :: _ =>
          if letter = 'h' then
            let _ ← arguments.settle
            return .help
          else
            throw (.unexpectedArgument (String.ofList ['-', letter]))
      | _ =>
          match arguments.pending? with
          | some ⟨option, none⟩ =>
              read { arguments with pending? := some ⟨option, some argument⟩ } rest
          | _ => throw (.unexpectedArgument argument)

end Arguments

/-- What a command line asks for. -/
def Request.ofArguments (arguments : List String) : Except UsageError Request :=
  ({} : Arguments).read arguments

end ComponentCrd.Command
