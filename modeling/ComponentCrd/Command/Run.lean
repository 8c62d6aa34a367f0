import ComponentCrd.Command.Report
import ComponentCrd.Manifest.Definition
import ComponentCrd.Schema.Preflight
import ComponentCrd.Schema.Translation
import ComponentCrd.Source.Loading

/-! A run: load the document, select the component, check it, name it, translate it, and write the
definition.
-/

namespace ComponentCrd.Command

/-- What a run is asked to do. -/
structure Config where
  input : String
  component : String := ""
  overrides : IdentityOverrides := {}
  output? : Option String := none
deriving DecidableEq, Repr

/-- Why a run fails. -/
inductive RunError where
  | usage (message : String)
  | input (cause : Source.LoadError)
  | select (cause : SelectionError)
  | preflight (cause : PreflightError)
  | identity (cause : IdentityError)
  | translate (cause : TranslationError)
  | emit (cause : DefinitionError)
  | output (target : String) (cause : Source.FileFault)

namespace RunError

/-- The wording of a run error. -/
def message : RunError → String
  | .usage message => message
  | .input cause => cause.message
  | .select cause => cause.message
  | .preflight cause => cause.message
  | .identity cause => cause.message
  | .translate cause => cause.message
  | .emit cause => cause.message
  | .output target cause => "write CRD to " ++ Text.quoted target ++ ": " ++ cause.message

/-- The exit code of a run that fails: two for what the user can mend, three for a construct that
cannot be skipped, and four for a failure to write or a loading that was called off.
-/
def exitCode : RunError → Nat
  | .input cause => if cause.isCancelled then 4 else 2
  | .translate (.unsupported _) => 3
  | .emit _ => 4
  | .output _ _ => 4
  | _ => 2

/-- The stage that a run error comes from, as diagnostics name it. -/
def code : RunError → String
  | .usage _ => "pulumi_crd::usage"
  | .input _ => "pulumi_crd::input"
  | .select _ => "pulumi_crd::select"
  | .preflight _ => "pulumi_crd::preflight"
  | .identity _ => "pulumi_crd::identity"
  | .translate _ => "pulumi_crd::translate"
  | .emit _ => "pulumi_crd::emit"
  | .output _ _ => "pulumi_crd::output"

/-- What the user may do about an error. -/
def help? : RunError → Option String
  | .usage _ => some "run `pulumi-crd --help` for usage"
  | .select _ => some "pass --component with one of the listed tokens"
  | .identity _ => some "override the derived value with the flag named in the message"
  | _ => none

/-- The lines that report an error. -/
def report (error : RunError) : Report :=
  (error.help?.map fun help => Line.info ("hint: " ++ help)).toList ++ [.error error.message]

end RunError

/-- Work that reports as it goes: its lines, and its result or the error that ends it. -/
structure Reported (α : Type) where
  report : Report
  result : Except RunError α

namespace Reported

variable {α β : Type}

/-- Goes on with a result; the lines follow each other. -/
def andThen (work : Reported α) (next : α → Reported β) : Reported β :=
  match work.result with
  | .ok result => ⟨work.report ++ (next result).report, (next result).result⟩
  | .error error => ⟨work.report, .error error⟩

instance : Monad Reported where
  pure result := ⟨[], .ok result⟩
  bind := andThen

/-- Reports a line of progress. -/
def info (text : String) : Reported Unit := ⟨[.info text], .ok ()⟩

/-- The result of a step that reports nothing. -/
def step {ε : Type} (error : ε → RunError) (result : Except ε α) : Reported α :=
  ⟨[], result.mapError error⟩

end Reported

/-- The translation of a component, with the paths that were left out reported either way. -/
def translated (doc : Document) (component : Component) : Reported Translation :=
  match doc.translate component with
  | .ok translation => ⟨translation.skipped.map .skip, .ok translation⟩
  | .error error => ⟨error.skipped.map .skip, .error (.translate error)⟩

/-- The text of the definition that a run is asked for. -/
def render (world : Source.World) (settings : Source.Settings) (config : Config) :
    Reported String := do
  let location := (Source.Location.ofText config.input).display
  .info ("loading input schema " ++ Text.quoted location)
  let doc ← .step .input (Source.load world settings config.input)
  let tokens := doc.componentTokens
  .info ("found " ++ toString tokens.length ++ " component(s): " ++ ", ".intercalate tokens)
  let component ← .step .select (doc.select config.component)
  .info ("selected component " ++ Text.quoted component.token)
  .step .preflight (doc.preflight component)
  .info "preflight passed"
  let identity ← .step .identity (doc.identify component.token config.overrides)
  .info ("identity " ++ identity.objectName ++ " version " ++ identity.version ++ " kind "
    ++ identity.kind)
  let translation ← translated doc component
  .info ("translated spec schema (" ++ toString translation.skipped.length ++ " path(s) skipped)")
  .step .emit (Definition.render identity translation.schema.toJson)

/-- What is written for the user of work and of the error that ended it, if one did. -/
def Reported.transcript {α : Type} (work : Reported α) (verbose : Bool) : String :=
  let ending :=
    match work.result with
    | .ok _ => []
    | .error error => error.report
  Report.text (work.report ++ ending) verbose

/-- The exit code of work. -/
def Reported.exitCode {α : Type} (work : Reported α) : Nat :=
  match work.result with
  | .ok _ => 0
  | .error error => error.exitCode

/-- What is reported once the definition was to be written to a file. -/
def written (target : String) (result : Except Source.FileFault Unit) : Reported Unit := do
  .step (.output target) result
  .info ("wrote CRD to " ++ target)

end ComponentCrd.Command
