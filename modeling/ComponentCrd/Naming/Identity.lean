import ComponentCrd.Naming.Derivation
import ComponentCrd.Package.Document

/-! The identity of a custom resource definition: its group, version and names. Each field is
derived from the package and the token of the component, with a default where no valid value can
be derived, and can be overridden.
-/

namespace ComponentCrd

/-- The fields of an identity. -/
inductive IdentityField where
  | group
  | version
  | kind
  | plural
  | singular
deriving DecidableEq, Repr

namespace IdentityField

/-- The fields in the order in which they are checked. -/
def all : List IdentityField := [.group, .version, .kind, .plural, .singular]

/-- The command line flag that overrides a field. -/
def flag : IdentityField → String
  | .group => "--group"
  | .version => "--version"
  | .kind => "--kind"
  | .plural => "--plural"
  | .singular => "--singular"

/-- Whether a text satisfies the rule of a field. -/
def admits : IdentityField → String → Bool
  | .group, text => Naming.isSubdomain text.toList
  | .kind, text => Naming.isKind text.toList
  | _, text => Naming.isLabel text.toList

/-- The rule of a field in words. -/
def rule : IdentityField → String
  | .group => "must be a DNS subdomain-like name"
  | .kind => "must match ^[A-Za-z][A-Za-z0-9]*$"
  | _ => "must be a DNS label-like name"

end IdentityField

/-- The field of an identity that breaks its rule. -/
structure IdentityError where
  field : IdentityField
deriving DecidableEq, Repr

/-- The wording of an identity error. -/
def IdentityError.message (error : IdentityError) : String :=
  "invalid " ++ error.field.flag ++ ": " ++ error.field.rule

/-- The names of a custom resource definition. A field that is not given has its default. -/
structure Identity where
  group : String := "components.platform"
  version : String := "v1alpha1"
  kind : String := "Component"
  plural : String := "components"
  singular : String := "component"
deriving DecidableEq, Repr

/-- Values to take the place of derived fields. -/
structure IdentityOverrides where
  group? : Option String := none
  version? : Option String := none
  kind? : Option String := none
  plural? : Option String := none
  singular? : Option String := none
deriving DecidableEq, Repr

/-- The override of a field, if it has one. -/
def IdentityOverrides.get? (overrides : IdentityOverrides) : IdentityField → Option String
  | .group => overrides.group?
  | .version => overrides.version?
  | .kind => overrides.kind?
  | .plural => overrides.plural?
  | .singular => overrides.singular?

namespace Identity

/-- The value of a field. -/
def get (identity : Identity) : IdentityField → String
  | .group => identity.group
  | .version => identity.version
  | .kind => identity.kind
  | .plural => identity.plural
  | .singular => identity.singular

/-- The identity of defaults. -/
def default : Identity := {}

/-- What follows the key of a package in its group. -/
def groupSuffix : String := ".components.platform"

/-- The derived value if the rule of its field admits it, otherwise the default. -/
def admitted (field : IdentityField) (derived : String) : String :=
  if field.admits derived then derived else default.get field

/-- The group of a package: its key, or else the key of the token's first part, and the suffix. -/
def groupOf (packageName token : String) : String :=
  let named := Naming.groupKey packageName.toList
  let key :=
    if named.isEmpty then Naming.groupKey ((Text.segments ':' token.toList).headD []) else named
  if key.isEmpty then default.group
  else admitted .group (String.ofList key ++ groupSuffix)

/-- The version of a package: its major version. -/
def versionOf (packageVersion : String) : String :=
  match Naming.majorVersion? packageVersion.toList with
  | some major => "v" ++ toString major
  | none => default.version

/-- The kind of a token: its third part. -/
def kindOf (token : String) : String :=
  match (Text.segments ':' token.toList)[2]? with
  | some segment => admitted .kind (String.ofList segment)
  | none => default.kind

/-- The identity that a package and the token of a component suggest. -/
def derive (packageName packageVersion token : String) : Identity :=
  let kind := kindOf token
  let singular := admitted .singular (String.ofList (Naming.kebab kind.toList))
  { group := groupOf packageName token
    version := versionOf packageVersion
    kind := kind
    plural := admitted .plural (String.ofList (Naming.plural singular.toList))
    singular := singular }

/-- The identity with every override that is set in place of the field. -/
def override (identity : Identity) (overrides : IdentityOverrides) : Identity :=
  let value (field : IdentityField) : String := (overrides.get? field).getD (identity.get field)
  { group := value .group
    version := value .version
    kind := value .kind
    plural := value .plural
    singular := value .singular }

/-- Checks the rules of all fields; the first field that breaks its rule is reported. -/
def validate (identity : Identity) : Except IdentityError Unit :=
  match IdentityField.all.find? fun field => !field.admits (identity.get field) with
  | some field => .error ⟨field⟩
  | none => .ok ()

/-- The name of the definition as an object. -/
def objectName (identity : Identity) : String := identity.plural ++ "." ++ identity.group

end Identity

/-- The identity for a component of a document, with overrides. -/
def Document.identify (doc : Document) (token : String) (overrides : IdentityOverrides) :
    Except IdentityError Identity := do
  let identity := (Identity.derive doc.name doc.version token).override overrides
  identity.validate
  return identity

end ComponentCrd
