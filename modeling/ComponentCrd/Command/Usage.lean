import ComponentCrd.Text.Basic

/-! The command line: its options, what can be wrong with it, and its help. -/

namespace ComponentCrd.Command

/-- Options that take a value. -/
inductive ValueOption where
  | input
  | component
  | group
  | version
  | kind
  | plural
  | singular
  | output
deriving DecidableEq, Repr

namespace ValueOption

/-- Every option with a value. -/
def all : List ValueOption :=
  [.input, .component, .group, .version, .kind, .plural, .singular, .output]

/-- The name of an option, without the dashes. -/
def name : ValueOption → String
  | .input => "in"
  | .component => "component"
  | .group => "group"
  | .version => "version"
  | .kind => "kind"
  | .plural => "plural"
  | .singular => "singular"
  | .output => "out"

/-- What stands for the value of an option. -/
def valueName : ValueOption → String
  | .input => "PATH_OR_URL"
  | .component => "TOKEN"
  | .group => "GROUP"
  | .version => "VERSION"
  | .kind => "KIND"
  | .plural => "PLURAL"
  | .singular => "SINGULAR"
  | .output => "FILE"

/-- An option and what stands for its value. -/
def display (option : ValueOption) : String :=
  "--" ++ option.name ++ " <" ++ option.valueName ++ ">"

/-- Whether an option may have an empty value. -/
def admitsEmpty : ValueOption → Bool
  | .output => false
  | _ => true

end ValueOption

/-- What is wrong with a command line. -/
inductive UsageError where
  | unexpectedArgument (text : String)
  | unexpectedValue (value option : String)
  | valueRequired (option : ValueOption)
  | repeated (option : String)
  | inputRequired
deriving DecidableEq, Repr

namespace UsageError

/-- The wording of a usage error, which may hold line ends that were given by the user. -/
def wording : UsageError → String
  | .unexpectedArgument text => "unexpected argument '" ++ text ++ "' found"
  | .unexpectedValue value option =>
      "unexpected value '" ++ value ++ "' for '" ++ option ++ "' found; no more were expected"
  | .valueRequired option =>
      "a value is required for '" ++ option.display ++ "' but none was supplied"
  | .repeated option => "the argument '" ++ option ++ "' cannot be used multiple times"
  | .inputRequired =>
      "the following required arguments were not provided:\n  " ++ ValueOption.input.display

/-- The text without terminal control sequences and control characters other than blanks. -/
def withoutControls : List Char → List Char
  | [] => []
  | '\x1b' :: '[' :: rest => afterSequence rest
  | '\x1b' :: _ :: rest => withoutControls rest
  | c :: rest =>
      let isLayout : Bool := ['\t', '\n', '\x0c', '\r'].contains c
      let dropped := (c.toNat < 0x20 && !isLayout) || c.toNat == 0x7F
      if dropped then withoutControls rest else c :: withoutControls rest
where
  /-- Past the end of a control sequence. -/
  afterSequence : List Char → List Char
    | [] => []
    | c :: rest =>
        if 0x40 ≤ c.toNat && c.toNat ≤ 0x7E then withoutControls rest else afterSequence rest

/-- The lines of a text up to the first blank one, on one line. -/
def firstParagraph (text : List Char) : List Char :=
  let lines := (Text.segments '\n' text).map Text.trim
  [' '].intercalate (lines.takeWhile fun line => !line.isEmpty)

/-- The wording of a usage error on one line. -/
def message (error : UsageError) : String :=
  String.ofList (firstParagraph (withoutControls error.wording.toList))

end UsageError

/-- The help for the command line. -/
def helpText : String :=
  "Translate a Pulumi component schema into a Kubernetes CustomResourceDefinition\n"
    ++ "\n"
    ++ "Usage: pulumi-crd [OPTIONS] --in <PATH_OR_URL>\n"
    ++ "\n"
    ++ "Options:\n"
    ++ "      --in <PATH_OR_URL>     Pulumi package schema: a local path or an http(s) URL\n"
    ++ "      --component <TOKEN>    "
    ++ "Component token to translate (required when the schema has several)\n"
    ++ "      --group <GROUP>        CRD API group\n"
    ++ "      --version <VERSION>    CRD version name (e.g. v1alpha1)\n"
    ++ "      --kind <KIND>          CRD kind\n"
    ++ "      --plural <PLURAL>      CRD plural name\n"
    ++ "      --singular <SINGULAR>  CRD singular name\n"
    ++ "      --out <FILE>           Write the CRD to this file instead of stdout\n"
    ++ "      --verbose              Report pipeline stages and skipped schema paths on stderr\n"
    ++ "  -h, --help                 Print help\n"

end ComponentCrd.Command
