import ComponentCrd.Package.Document
import ComponentCrd.Source.FileTree
import ComponentCrd.Source.Location

/-! Loading a document from a file or a web address. A relative path is tried from the working
directory of the caller's shell first, and then from the current directory.
-/

namespace ComponentCrd.Source

/-- Why an exchange with a server ended without an answer. -/
inductive TransportFault where
  | sending
  | redirecting
  | decodingBody
  | timedOut
deriving DecidableEq, Repr

/-- The answer of a server: its status and its body. -/
structure Answer where
  status : Nat
  body : List UInt8
deriving DecidableEq, Repr

/-- Where inputs come from: what reading a file gives, and what asking a server gives. -/
structure World where
  read : String → Except FileFault (List UInt8)
  fetch : Url → Except TransportFault Answer

/-- How to load: the working directory of the shell, the time limit in milliseconds, and whether
the user has called the loading off, which only a web address waits for.
-/
structure Settings where
  workingDirectory? : Option String := none
  timeout : Nat := 15000
  cancelled : Bool := false
deriving DecidableEq, Repr

/-- Why there is no document. -/
inductive LoadError where
  | read (location : String) (fault : FileFault)
  | transport (url : String) (cause : String)
  | status (url : String) (code : Nat)
  | timeout (url : String) (milliseconds : Nat)
  | parse (message : String)
  | cancelled (location : String)
deriving DecidableEq, Repr

/-- A time in milliseconds in the largest unit that it fills. -/
def durationText (milliseconds : Nat) : String :=
  if milliseconds = 0 then
    "0ns"
  else if milliseconds < 1000 then
    toString milliseconds ++ "ms"
  else
    let thousandths := (toString (1000 + milliseconds % 1000)).toList.drop 1
    let fraction := (thousandths.reverse.dropWhile (· == '0')).reverse
    let seconds := toString (milliseconds / 1000)
    if fraction.isEmpty then seconds ++ "s" else seconds ++ "." ++ String.ofList fraction ++ "s"

namespace LoadError

/-- The wording of a load error. -/
def message : LoadError → String
  | .read location fault => "read input schema \"" ++ location ++ "\": " ++ fault.message
  | .transport url cause => "fetch input schema \"" ++ url ++ "\": " ++ cause
  | .status url code => "fetch input schema \"" ++ url ++ "\": HTTP " ++ toString code
  | .timeout url milliseconds =>
      "fetch input schema \"" ++ url ++ "\": timed out after " ++ durationText milliseconds
  | .parse message => message
  | .cancelled location => "load input schema \"" ++ location ++ "\": cancelled"

/-- Whether the loading was called off. -/
def isCancelled : LoadError → Bool
  | .cancelled _ => true
  | _ => false

end LoadError

/-- The load error of a transport fault, which names the address without credentials. -/
def TransportFault.loadError (fault : TransportFault) (url : Url) (timeout : Nat) : LoadError :=
  match fault with
  | .sending => .transport url.sanitized "error sending request"
  | .redirecting => .transport url.sanitized "error following redirect"
  | .decodingBody => .transport url.sanitized "error decoding response body"
  | .timedOut => .timeout url.sanitized timeout

/-- The paths to try for a path, in order. -/
def candidates (settings : Settings) (path : String) : List String :=
  match settings.workingDirectory? with
  | some directory =>
      if FileTree.isAbsolute path || !FileTree.isAbsolute directory then
        [path]
      else if directory.toList.getLast? = some '/' then
        [directory ++ path, path]
      else
        [directory ++ "/" ++ path, path]
  | none => [path]

/-- The bytes of the first candidate that can be read, or the fault of the last. -/
def readFirst (world : World) (location : String) : List String → Except LoadError (List UInt8)
  | [] => .error (.read location .notFound)
  | [path] => (world.read path).mapError (.read location)
  | path :: others =>
      match world.read path with
      | .ok bytes => .ok bytes
      | .error _ => readFirst world location others

/-- The bytes behind a web address. Every status other than a success is an error. -/
def fetch (world : World) (settings : Settings) (url : Url) : Except LoadError (List UInt8) :=
  if settings.cancelled then
    .error (.cancelled url.sanitized)
  else
    match world.fetch url with
    | .error fault => .error (fault.loadError url settings.timeout)
    | .ok answer =>
        if 200 ≤ answer.status ∧ answer.status < 300 then .ok answer.body
        else .error (.status url.sanitized answer.status)

/-- The bytes behind an input. -/
def loadBytes (world : World) (settings : Settings) (input : String) :
    Except LoadError (List UInt8) :=
  match Location.ofText input with
  | .url url => fetch world settings url
  | .path path => readFirst world input (candidates settings path)

/-- The document behind an input. -/
def load (world : World) (settings : Settings) (input : String) : Except LoadError Document := do
  let bytes ← loadBytes world settings input
  match Document.ofText bytes with
  | .ok doc => return doc
  | .error fault => throw (.parse (Document.faultMessage fault bytes))

end ComponentCrd.Source
