import ComponentCrd.Proofs.Schema.Inheritance
import ComponentCrd.Proofs.Schema.TargetGrammar

/-! Every schema that a translation produces is structural: what a reference leads to, what is left
of an object after some of its properties were passed over, and what the annotations at a reference
make of its target, which may have annotations already.
-/

namespace ComponentCrd

namespace Schema

-----------------------------------------------------------------------------------------
-- Annotations and objects
-----------------------------------------------------------------------------------------

/-- Annotations leave a sound schema sound. -/
theorem Sound.annotated {schema result : Schema} {source : Entries Json} (sound : schema.Sound)
    (annotates : schema.annotated source = .ok result)
    : result.Sound := by
  obtain ⟨notes, updated, rfl⟩ := annotated_eq_ok.mp annotates
  cases sound with
  | scalar admitted => exact .scalar (Annotations.update_admitted admitted updated)
  | array each admitted => exact .array each (Annotations.update_admitted admitted updated)
  | object properties values increasing kept admitted =>
      exact .object properties values increasing kept
        (Annotations.update_admitted admitted updated)
  | freeform admitted => exact .freeform (Annotations.update_admitted admitted updated)

/-- Nothing is allowed in particular by no annotations. -/
theorem admittedBy_empty (type : SchemaType) : Annotations.AdmittedBy {} type := nofun

/-- An object of sound parts is sound: only names of properties that were kept stay required. -/
theorem sound_assemble {required : List String} {properties? : Option (Entries Schema)}
    {values? : Option Schema} (increasing : required.Pairwise (· < ·))
    (properties : ∀ entry ∈ properties?.getD [], entry.2.Sound)
    (values : ∀ values, values? = some values → values.Sound)
    : (assemble required properties? values?).Sound := by
  refine .object properties values (increasing.filter _) ?_ (admittedBy_empty _)
  intro name member
  exact (List.mem_filter.mp member).2

/-- Schemas are sound whatever nodes they are translated from. -/
theorem inherited_sound : Inherited (fun _ => True) Sound where
  property _ _ _ _ := trivial
  items _ _ := trivial
  values _ _ := trivial
  fallback _ _ _ := .freeform (admittedBy_empty _)
  scalar _ := .scalar (admittedBy_empty _)
  array sound := .array sound (admittedBy_empty _)
  object _ increasing kept values := sound_assemble increasing kept.each values
  annotated _ sound annotates := sound.annotated annotates

/-- Nodes are translated to sound schemas where references are. -/
theorem sound_ofNode {resolve : Reference → Path → Attempt Schema}
    (resolves : ∀ reference path, (resolve reference path).Yields Sound)
    (node : Json) (path : Path)
    : (ofNode resolve node path).Yields Sound :=
  inherited_sound.yields_ofNode (fun _ _ path => resolves _ path) node path trivial

end Schema

namespace Document

variable {doc : Document}

/-- What a reference leads to is translated to a sound schema. -/
theorem sound_resolve (trail : List Reference) (reference : Reference) (path : Path)
    : (doc.resolve trail reference path).Yields Schema.Sound := by
  cases inside : reference.isLocal with
  | false =>
      obtain ⟨text, rfl⟩ := Reference.eq_external_of_not_isLocal inside
      rw [resolve_external]
      exact Attempt.yields_pure (.freeform (Schema.admittedBy_empty _))
  | true =>
      rw [← Reference.ofText_text inside]
      have refers
          : List.lookup "$ref" [("$ref", Json.string reference.text)]
            = some (.string reference.text) :=
        rfl
      exact Schema.inherited_sound.resolvesTo (fun _ => trivial) trail trivial refers path

/-- The schema of a translated component is structural. Witness: every schema that the translation
produces on the way is sound, and sound schemas have structural JSON forms.
-/
theorem structural_of_translate {component : Component} {translation : Translation}
    (translated : doc.translate component = .ok translation)
    : Grammar.Structural translation.schema.toJson := by
  unfold translate at translated
  dsimp only at translated
  split at translated
  · cases translated
  · cases translated
  · next properties outcome =>
      split at translated
      · cases translated
      · obtain rfl := Except.ok.inj translated
        refine Schema.Sound.structural (.object ?_ nofun ?_ ?_ (Schema.admittedBy_empty _))
        · refine Schema.yields_ofProperties (fun entry _ => ?_) properties outcome
          exact Schema.sound_ofNode (sound_resolve []) entry.2 _
        · exact (increasing_sortedNames _).filter _
        · exact fun name member => (List.mem_filter.mp member).2

/-- A document with an annotated type. -/
def annotatedDocument : Document where
  types := [("p:i:Mode", .object [
    ("description", .string "how to run"),
    ("enum", .array [.string "fast", .object [("value", .string "slow")]]),
    ("type", .string "string")])]

/-- A component that annotates what its references lead to, and loses a required property. -/
def annotatedComponent : Component where
  token := "p:i:Job"
  resource := {
    isComponent := true
    inputProperties := [
      ("any", .object [("oneOf", .array []), ("type", .string "string")]),
      ("modes", .object [
        ("items", .object [("$ref", .string "#/types/p:i:Mode"), ("enum", .array [.null])]),
        ("type", .string "array")]),
      ("spec", .object [
        ("properties", .object [
          ("mode", .object [("$ref", .string "#/types/p:i:Mode"), ("default", .string "fast")]),
          ("url", .object [("$ref", .string "pulumi.json#/Asset")])]),
        ("required", .array [.string "url", .string "name", .string "mode", .string "url"]),
        ("type", .string "object")])]
    requiredInputs := ["spec", "any", "modes"] }

/-- References, annotations on annotations and a lost property leave a structural schema. -/
theorem annotatedComponent_structural
    : ∃ translation,
        annotatedDocument.translate annotatedComponent = .ok translation
        ∧ Grammar.Structural translation.schema.toJson := by
  have ok : (annotatedDocument.translate annotatedComponent).isOk := by decide +kernel
  obtain ⟨translation, translated⟩ := Except.exists_of_isOk ok
  exact ⟨translation, translated, structural_of_translate translated⟩

end Document

end ComponentCrd
