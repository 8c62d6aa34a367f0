import ComponentCrd.Manifest.Definition
import ComponentCrd.Proofs.Manifest.DocumentReading

/-! The text of a definition is read as the definition: the fixed frame with the names of the
identity, and the schema of the specification in its place. So the text tells identities and schemas
apart.
-/

namespace ComponentCrd.Definition

open Yaml Yaml.Reader

-----------------------------------------------------------------------------------------
-- The definition as a value
-----------------------------------------------------------------------------------------

/-- A version of the definition, with the schema of its specification. -/
def versionValue (identity : Identity) (spec : Json) : Json := .object [
  ("name", .string identity.version),
  ("served", .bool true),
  ("storage", .bool true),
  ("schema", .object [
    ("openAPIV3Schema", .object [
      ("type", .string "object"),
      ("properties", .object [("spec", spec)])])])]

/-- The definition of an identity as a value. -/
def value (identity : Identity) (spec : Json) : Json := .object [
  ("apiVersion", .string "apiextensions.k8s.io/v1"),
  ("kind", .string "CustomResourceDefinition"),
  ("metadata", .object [("name", .string (identity.plural ++ "." ++ identity.group))]),
  ("spec", .object [
    ("group", .string identity.group),
    ("names", .object [
      ("kind", .string identity.kind),
      ("plural", .string identity.plural),
      ("singular", .string identity.singular)]),
    ("scope", .string "Namespaced"),
    ("versions", .array [versionValue identity spec])])]

/-- Different identities or schemas have different definitions. -/
theorem value_injective {identity other : Identity} {spec otherSpec : Json}
    (same : value identity spec = value other otherSpec)
    : identity = other ∧ spec = otherSpec := by
  obtain ⟨group, version, kind, plural, singular⟩ := identity
  obtain ⟨group', version', kind', plural', singular'⟩ := other
  simp only [value, versionValue, Json.object.injEq, Json.string.injEq, Json.array.injEq,
    List.cons.injEq, Prod.mk.injEq, true_and, and_true] at same
  obtain ⟨_, rfl, ⟨rfl, rfl, rfl⟩, rfl, rfl⟩ := same
  exact ⟨rfl, rfl⟩

-----------------------------------------------------------------------------------------
-- The definition as a node
-----------------------------------------------------------------------------------------

variable {float? : List Char → Option Binary64}

/-- An entry with a plain key. -/
theorem spells_plainEntry {key : String} {node : Node} {value : Json}
    {entries : List (List Char × Node)} {members : List (String × Json)}
    (plain : isPlain key.toList) (spells : Spells float? node value)
    (rest : SpellsEntries float? entries members)
    : SpellsEntries float? ((key.toList, node) :: entries) ((key, value) :: members) := by
  have names : Names float? key.toList key := by
    simpa only [String.ofList_toList] using names_plain float? plain
  exact .cons names spells rest

theorem spells_string (text : String) : Spells float? (.ofString text) (.string text) :=
  .scalar (standsFor_scalarOf float? text)

theorem spells_bool (truth : Bool) : Spells float? (.ofBool truth) (.bool truth) :=
  .scalar (standsFor_word (.inr ⟨truth, rfl⟩))

/-- A mapping of given keys spells an object with their names, none of which is repeated. -/
theorem spells_ofEntries {entries : List (String × Node)} {members : List (String × Json)}
    (names : List String) (same : members.map Prod.fst = names) (distinct : names.Nodup)
    (each
      : SpellsEntries float? (entries.map fun (key, value) => (key.toList, value)) members)
    : Spells float? (.ofEntries entries) (.object members) :=
  .mapping each (same ▸ distinct)

/-- The node of a definition spells the definition, part by part. -/
theorem spells_node (identity : Identity) {spec : Json} (readable : Readable float? spec)
    : Spells float? (node identity spec) (value identity spec) := by
  refine spells_ofEntries ["apiVersion", "kind", "metadata", "spec"] rfl (by decide) ?_
  refine spells_plainEntry (by decide) (spells_string _) ?_
  refine spells_plainEntry (by decide) (spells_string _) ?_
  refine spells_plainEntry (by decide) ?metadata (spells_plainEntry (by decide) ?spec .nil)
  case metadata =>
    refine spells_ofEntries ["name"] rfl (by decide) ?_
    exact spells_plainEntry (by decide) (.scalar (standsFor_doubleQuoted float? _)) .nil
  case spec =>
    refine spells_ofEntries ["group", "names", "scope", "versions"] rfl (by decide) ?_
    refine spells_plainEntry (by decide) (spells_string _) ?_
    refine spells_plainEntry (by decide) ?names ?_
    case names =>
      refine spells_ofEntries ["kind", "plural", "singular"] rfl (by decide) ?_
      refine spells_plainEntry (by decide) (spells_string _) ?_
      refine spells_plainEntry (by decide) (spells_string _) ?_
      exact spells_plainEntry (by decide) (spells_string _) .nil
    refine spells_plainEntry (by decide) (spells_string _) ?_
    refine spells_plainEntry (by decide) (.sequence (.cons ?version .nil)) .nil
    refine spells_ofEntries ["name", "served", "storage", "schema"] rfl (by decide) ?_
    refine spells_plainEntry (by decide) (spells_string _) ?_
    refine spells_plainEntry (by decide) (spells_bool true) ?_
    refine spells_plainEntry (by decide) (spells_bool true) ?_
    refine spells_plainEntry (by decide) ?schema .nil
    refine spells_ofEntries ["openAPIV3Schema"] rfl (by decide) ?_
    refine spells_plainEntry (by decide) ?_ .nil
    refine spells_ofEntries ["type", "properties"] rfl (by decide) ?_
    refine spells_plainEntry (by decide) (spells_string _) ?_
    refine spells_plainEntry (by decide) ?_ .nil
    refine spells_ofEntries ["spec"] rfl (by decide) ?_
    exact spells_plainEntry (by decide) (spells_ofJson readable none) .nil

-----------------------------------------------------------------------------------------
-- The text of a definition
-----------------------------------------------------------------------------------------

/-- A schema that is not null has a definition, whose text is read as the definition. -/
theorem document?_render (identity : Identity) {spec : Json} (schema : spec ≠ .null)
    (readable : Readable float? spec)
    : ∃ text,
        render identity spec = .ok text
        ∧ document? float? text = some (value identity spec) := by
  refine ⟨(node identity spec).document, render_of_ne_null schema, ?_⟩
  cases spells_node identity readable with
  | mapping each distinct => exact document?_document (by simp) each distinct

/-- The text of a definition is read as the definition, and no other identity or schema has the
text.
-/
structure ReadsBack (float? : List Char → Option Binary64) (identity : Identity) (spec : Json)
    : Prop where
  reads
    : ∃ text,
        render identity spec = .ok text
        ∧ document? float? text = some (value identity spec)
  unique
    : ∀ other otherSpec,
        Readable float? otherSpec
        → render other otherSpec = render identity spec
        → other = identity ∧ otherSpec = spec

/-- Every definition reads back. Witness: its node spells it, and the reader cuts the lines of a
node where the writer has put them together.
-/
theorem readsBack_of_readable {float? : List Char → Option Binary64} {identity : Identity}
    {spec : Json} (schema : spec ≠ .null) (readable : Readable float? spec)
    : ReadsBack float? identity spec := by
  obtain ⟨text, rendered, read⟩ := document?_render identity schema readable
  refine ⟨⟨text, rendered, read⟩, fun other otherSpec otherReadable same => ?_⟩
  have otherSchema : otherSpec ≠ .null := by
    rintro rfl
    exact nomatch same.trans rendered
  obtain ⟨otherText, otherRendered, otherRead⟩ :=
    document?_render other otherSchema otherReadable
  obtain rfl : otherText = text := Except.ok.inj (otherRendered.symm.trans (same.trans rendered))
  exact value_injective (Option.some.inj (otherRead.symm.trans read))

/-- A reader of decimal numbers: the double nearest to the number that the text stands for. -/
def nearestFloat? (text : List Char) : Option Binary64 := do
  let whole := (unsigned text).takeWhile Char.isDigit
  let (fraction, rest) :=
    match (unsigned text).dropWhile Char.isDigit with
    | '.' :: rest => (rest.takeWhile Char.isDigit, rest.dropWhile Char.isDigit)
    | rest => ([], rest)
  let digits ← Text.numberOf? 10 (whole ++ fraction)
  let exponent ← if rest.isEmpty then some 0 else integer? (rest.drop 1)
  let power := exponent - fraction.length
  let magnitude ← Magnitude.round? (digits * Nat.pow 10 power.toNat) (Nat.pow 10 (-power).toNat)
  return ⟨text.head? == some '-', magnitude⟩

/-- One and a half. -/
def oneAndHalf : Binary64 := ⟨false, ⟨1023 * Nat.pow 2 52 + Nat.pow 2 51, by decide⟩⟩

/-- A schema with a double, reserved words, and collections in collections. -/
def nestedSchema : Json := .object [
  ("default", .number (.float oneAndHalf)),
  ("description", .string "a: b"),
  ("enum", .array [
    .null,
    .array [.bool true, .array []],
    .object [("yes", .number (.integer (-3)))]])]

/-- The nested schema reads back with the nearest doubles. -/
theorem nestedSchema_readsBack
    : nestedSchema ≠ .null
      ∧ Readable nearestFloat? nestedSchema
      ∧ ReadsBack nearestFloat? Identity.default nestedSchema := by
  have schema : nestedSchema ≠ .null := nofun
  have readable : Readable nearestFloat? nestedSchema := by
    constructor
    · intro members inside
      simp [nestedSchema, contains_object_iff, contains_array_iff, contains_scalar_iff] at inside
      rcases inside with rfl | rfl
      · exact (by decide : ["default", "description", "enum"].Nodup)
      · exact (by decide : ["yes"].Nodup)
    · intro x inside
      obtain rfl : x = oneAndHalf := by
        simpa [nestedSchema, contains_object_iff, contains_array_iff, contains_scalar_iff]
          using inside
      decide +kernel
  exact ⟨schema, readable, readsBack_of_readable schema readable⟩

end ComponentCrd.Definition
