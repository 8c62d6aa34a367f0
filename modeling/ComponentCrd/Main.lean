import ComponentCrd.Command.Session

/-! The command: it reads the files that an input may stand for, runs, and prints what the run
reports. No web address is asked.
-/

namespace ComponentCrd.Command

/-- The fault that an error number stands for. Some calls give the number with the opposite sign.
-/
def faultOfNumber (code : UInt32) (details : String) : Source.FileFault :=
  match min code.toNat (Nat.pow 2 32 - code.toNat) with
  | 2 => .notFound
  | 20 => .notDirectory
  | 21 => .isDirectory
  | 36 => .nameTooLong
  | number => .other (details ++ " (os error " ++ toString number ++ ")")

/-- The fault of a file that an error of the operating system stands for. -/
def faultOf (error : IO.Error) : Source.FileFault :=
  match error with
  | .noFileOrDirectory _ code details => faultOfNumber code details
  | .inappropriateType _ code details => faultOfNumber code details
  | .invalidArgument _ code details => faultOfNumber code details
  | .permissionDenied _ code details => faultOfNumber code details
  | .resourceExhausted _ code details => faultOfNumber code details
  | error => .other error.toString

/-- What reading the files gives that an input may stand for. -/
def readCandidates (settings : Source.Settings) (input : String) :
    IO (List (String × Except Source.FileFault (List UInt8))) :=
  match Source.Location.ofText input with
  | .url _ => return []
  | .path path =>
      (Source.candidates settings path).mapM fun (candidate : String) => do
        match ← (IO.FS.readBinFile candidate).toBaseIO with
        | .ok bytes => return (candidate, .ok bytes.toList)
        | .error error => return (candidate, .error (faultOf error))

/-- Writes the text of a definition to a file. -/
def writeOutput (target text : String) : IO (Except Source.FileFault Unit) := do
  match ← (IO.FS.writeFile target text).toBaseIO with
  | .ok () => return .ok ()
  | .error error => return .error (faultOf error)

/-- Runs with a configuration and gives the exit code. -/
def execute (config : Config) (verbose : Bool) : IO Nat := do
  let settings := { workingDirectory? := ← IO.getEnv "PWD" }
  let files ← readCandidates settings config.input
  let world := {
    read := fun path => (files.lookup path).getD (.error .notFound)
    fetch := fun _ => .error .sending }
  let work := render world settings config
  match work.result, config.output? with
  | .ok yaml, some target =>
      let result ← writeOutput target yaml
      let all := work.andThen fun _ => written target result
      IO.eprint (all.transcript verbose)
      return all.exitCode
  | .ok yaml, none =>
      IO.eprint (work.transcript verbose)
      IO.print yaml
      return 0
  | .error _, _ =>
      IO.eprint (work.transcript verbose)
      return work.exitCode

end ComponentCrd.Command

open ComponentCrd Command in
/-- Translates a component schema as the arguments say. -/
def main (arguments : List String) : IO UInt32 := do
  match Request.ofArguments arguments with
  | .ok .help =>
      IO.print helpText
      return 0
  | .ok (.run config verbose) => return UInt32.ofNat (← execute config verbose)
  | .error error =>
      let error := RunError.usage error.message
      IO.eprint (error.report.text false)
      return UInt32.ofNat error.exitCode
