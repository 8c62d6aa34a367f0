import ComponentCrd.Manifest.Definition
import ComponentCrd.Proofs.Manifest.LineBreaks

/-! The lines of definitions. A reader of the newer version of YAML finds every key and every scalar
on the line where it was written. A reader of the older one does so exactly if no string in the
definition holds a separator of lines or paragraphs, which the writer leaves as it is.
-/

namespace ComponentCrd.Definition

open Yaml

-----------------------------------------------------------------------------------------
-- The strings of a definition
-----------------------------------------------------------------------------------------

/-- The strings that a definition is made with. -/
def strings (identity : Identity) (spec : Json) : List String :=
  [identity.group, identity.version, identity.kind, identity.plural, identity.singular]
    ++ spec.strings

variable {c : Char}

/-- Nothing that is plain separates lines. -/
theorem not_separates_plain {text : String} (plain : isPlain text.toList)
    : ¬ Separates c [text] := by
  rintro ⟨separator, other, member, inside⟩
  obtain rfl := List.mem_singleton.mp member
  exact Reader.not_mem_of_isPlain plain (by decide) inside separator

theorem bears_ofEntries {key : String} {value : Node} {rest : List (String × Node)}
    (ends : c ∈ Version.v1_1.breaks) (plain : isPlain key.toList)
    : (Node.ofEntries ((key, value) :: rest)).Bears c
      ↔ value.Bears c ∨ (Node.ofEntries rest).Bears c := by
  have absent : c ∉ key.toList := fun member =>
    Reader.not_mem_of_isPlain plain (by decide) member ends
  change (Node.mapping ((key.toList, value) :: _)).Bears c ↔ _
  rw [Node.bears_mapping]
  exact or_iff_right absent

/-- The name of the object has the separators of its two parts. -/
theorem separates_objectName {identity : Identity}
    : Separates c [identity.objectName] ↔ Separates c [identity.plural, identity.group] := by
  have noPoint (separator : c ∈ separators) : c ∉ ".".toList := by
    intro point
    obtain rfl : c = '.' := List.mem_singleton.mp point
    exact absurd separator (by decide)
  simp only [Separates, Identity.objectName, List.mem_cons, List.not_mem_nil, or_false,
    exists_eq_left, exists_eq_or_imp, String.toList_append, List.mem_append]
  refine and_congr_right fun separator => ?_
  rw [or_iff_left (noPoint separator)]

theorem separates_strings {identity : Identity} {spec : Json}
    : Separates c (strings identity spec)
      ↔ Separates c [identity.group] ∨ Separates c [identity.version]
        ∨ Separates c [identity.kind] ∨ Separates c [identity.plural]
        ∨ Separates c [identity.singular] ∨ Separates c spec.strings :=
  separates_cons.trans <| or_congr_right <| separates_cons.trans <| or_congr_right <|
    separates_cons.trans <| or_congr_right <| separates_cons.trans <| or_congr_right
      separates_cons

/-- The line ends in the keys and scalars of a definition are the separators in its strings. -/
theorem bears_node {identity : Identity} {spec : Json} (ends : c ∈ Version.v1_1.breaks)
    : (node identity spec).Bears c ↔ Separates c (strings identity spec) := by
  have none : ¬ (Node.ofEntries []).Bears c := Node.not_bears_emptyMapping
  have named : Separates c [identity.objectName]
      ↔ Separates c [identity.plural] ∨ Separates c [identity.group] :=
    separates_objectName.trans separates_cons
  simp (disch := first | assumption | decide) only [node, bears_ofEntries, Node.bears_ofString,
    Node.bears_ofQuoted, Node.not_bears_ofBool, Node.bears_ofJson, Node.bears_sequence,
    Node.not_bears_emptySequence, none, not_separates_plain, named, or_false, false_or]
  rw [separates_strings]
  tauto

-----------------------------------------------------------------------------------------
-- The lines of a definition
-----------------------------------------------------------------------------------------

/-- Of what ends a line in one of the versions, the scalars of a text hold its separators only. -/
structure BreaksAtSeparators (text : String) : Prop where
  scalar : ∀ c ∈ Version.v1_1.breaks, c ∈ scalarOf text ↔ c ∈ separators ∧ c ∈ text.toList
  quoted : ∀ c ∈ Version.v1_1.breaks, c ∈ doubleQuoted text ↔ c ∈ separators ∧ c ∈ text.toList

/-- Readers of the newer version find the lines of a definition, and readers of the older one unless
one of its strings holds a separator.
-/
structure FallsIntoLines (identity : Identity) (spec : Json) : Prop where
  newer : ∀ yaml, render identity spec = .ok yaml → KeepsLines .v1_2 (node identity spec) yaml
  older
    : ∀ yaml, render identity spec = .ok yaml
        → (KeepsLines .v1_1 (node identity spec) yaml
          ↔ ∀ c, ¬ Separates c (strings identity spec))

theorem eq_of_render {identity : Identity} {spec : Json} {yaml : String}
    (rendered : render identity spec = .ok yaml)
    : (node identity spec).document = yaml := by
  unfold render at rendered
  split at rendered
  · cases rendered
  · exact Except.ok.inj rendered

theorem keepsLines_node_iff {version : Version} {identity : Identity} {spec : Json}
    : KeepsLines version (node identity spec) (node identity spec).document
      ↔ ∀ c ∈ version.breaks, ¬ (node identity spec).Bears c :=
  keepsLines_iff

/-- Separators are the only line ends in scalars, for every string, and keep readers of the older
version from the lines of a definition, for every identity and every schema.
-/
theorem fallsIntoLines (text : String) (identity : Identity) (spec : Json)
    : BreaksAtSeparators text ∧ FallsIntoLines identity spec := by
  refine ⟨⟨fun _ => mem_scalarOf_iff, fun _ => mem_doubleQuoted_iff⟩, ⟨?_, ?_⟩⟩
  · intro yaml rendered
    obtain rfl := eq_of_render rendered
    refine keepsLines_node_iff.mpr fun c ends bears => ?_
    have separates := (bears_node (Version.mem_breaks_v1_1 ends)).mp bears
    exact not_mem_separators ends separates.1
  · intro yaml rendered
    obtain rfl := eq_of_render rendered
    rw [keepsLines_node_iff]
    refine forall_congr' fun c => ⟨fun free separates => ?_, fun free ends => ?_⟩
    · have ends : c ∈ Version.v1_1.breaks := List.mem_append_right _ separates.1
      exact free ends ((bears_node ends).mpr separates)
    · exact mt (bears_node ends).mp free

/-- A schema with a name that holds a separator of lines. -/
def separatedSchema : Json := .object [("a\u2028b", .null)]

/-- The separator is written as it is, and a reader of the older version ends the line of the key
there.
-/
theorem separatedSchema_broken
    : '\u2028' ∈ scalarOf "a\u2028b"
      ∧ ¬ (∀ text, ∀ c ∈ Version.v1_1.breaks, c ∉ scalarOf text)
      ∧ ∃ yaml,
          render Identity.default separatedSchema = .ok yaml
          ∧ ¬ KeepsLines .v1_1 (node Identity.default separatedSchema) yaml := by
  have ends : '\u2028' ∈ Version.v1_1.breaks := by decide
  have shown : '\u2028' ∈ scalarOf "a\u2028b" := by decide
  refine ⟨shown, fun unbroken => unbroken _ _ ends shown, _, rfl, ?_⟩
  rw [keepsLines_node_iff]
  intro free
  refine free _ ends ((bears_node ends).mpr ⟨by decide, "a\u2028b", ?_, by decide⟩)
  simp [strings, separatedSchema, Json.strings, Json.memberStrings]

end ComponentCrd.Definition
