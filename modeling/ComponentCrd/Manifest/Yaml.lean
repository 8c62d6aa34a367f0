import ComponentCrd.Manifest.Scalar

/-! YAML documents in block style. The text of a document is a list of lines, and what belongs to
a key or a dash is indented by two blanks below it.
-/

namespace ComponentCrd.Yaml

/-- A YAML node whose scalars and keys are written already. -/
inductive Node where
  | scalar (text : List Char)
  | mapping (entries : List (List Char × Node))
  | sequence (items : List Node)
deriving Repr, Inhabited

namespace Node

/-- The node of a string. -/
def ofString (text : String) : Node := .scalar (scalarOf text)

/-- The node of a string that is always quoted. -/
def ofQuoted (text : String) : Node := .scalar (doubleQuoted text)

/-- The node of a truth value. -/
def ofBool (value : Bool) : Node := .scalar (Json.bool value).chars

/-- A mapping with the given keys, which need no quotes. -/
def ofEntries (entries : List (String × Node)) : Node :=
  .mapping (entries.map fun (key, value) => (key.toList, value))

/-- Whether the string below a key is quoted even if it could be plain. -/
def isProse (key? : Option String) : Bool := key? == some "description"

mutual

/-- The node of a JSON value that stands below a key, or somewhere else. -/
def ofJson (key? : Option String) : Json → Node
  | .null => .scalar Json.null.chars
  | .bool value => ofBool value
  | .number value => .scalar value.chars
  | .string text => if isProse key? then ofQuoted text else ofString text
  | .array items => .sequence (itemsOfJson items)
  | .object members => .mapping (entriesOfJson members)

/-- The nodes of the items of a list. -/
def itemsOfJson : List Json → List Node
  | [] => []
  | item :: rest => ofJson none item :: itemsOfJson rest

/-- The entries of the members of an object. -/
def entriesOfJson : List (String × Json) → List (List Char × Node)
  | [] => []
  | (name, value) :: rest => (scalarOf name, ofJson (some name) value) :: entriesOfJson rest

end

/-- The text of a node that fits behind a key or a dash: a scalar or an empty collection. -/
def inline? : Node → Option (List Char)
  | .scalar text => some text
  | .mapping [] => some ['\x7b', '\x7d']
  | .sequence [] => some ['[', ']']
  | _ => none

/-- A line two blanks further to the right. -/
def indented (line : List Char) : List Char := ' ' :: ' ' :: line

/-- Lines behind a dash: the first on its line, the others below. -/
def behindDash : List (List Char) → List (List Char)
  | [] => [['-']]
  | first :: others => ('-' :: ' ' :: first) :: others.map indented

mutual

/-- The lines of a node. -/
def lines : Node → List (List Char)
  | .scalar text => [text]
  | .mapping entries => entryLines entries
  | .sequence items => itemLines items

/-- The lines of the entries of a mapping: a value that does not fit behind its key is below it.
-/
def entryLines : List (List Char × Node) → List (List Char)
  | [] => []
  | (key, value) :: rest =>
      let own :=
        match value.inline? with
        | some text => [key ++ ':' :: ' ' :: text]
        | none => (key ++ [':']) :: (lines value).map indented
      own ++ entryLines rest

/-- The lines of the items of a sequence: a mapping begins behind the dash, a sequence below it.
-/
def itemLines : List Node → List (List Char)
  | [] => []
  | item :: rest =>
      let own :=
        match item.inline? with
        | some text => [['-', ' '] ++ text]
        | none =>
            match item with
            | .sequence nested => ['-'] :: (itemLines nested).map indented
            | item => behindDash (lines item)
      own ++ itemLines rest

end

/-- The text of a document with the node as its root. Roots are mappings: any other node that does
not fit on a line leaves the line empty.
-/
def document (root : Node) : String :=
  let lines :=
    match root with
    | .mapping (first :: others) => entryLines (first :: others)
    | other => [other.inline?.getD []]
  String.ofList (lines.flatMap (· ++ ['\n']))

end Node

end ComponentCrd.Yaml
