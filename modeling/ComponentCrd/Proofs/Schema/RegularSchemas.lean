import ComponentCrd.Proofs.Json.ReadValues
import ComponentCrd.Proofs.Schema.Inheritance
import ComponentCrd.Proofs.Schema.SchemaSources
import ComponentCrd.Proofs.Schema.TargetGrammar

/-! The schemas of a regular document are regular. All values that annotations hold come from the
document, properties stay in the order of their names, and so the JSON form of a translated schema
is as regular as the document was.
-/

namespace ComponentCrd

open Json

-----------------------------------------------------------------------------------------
-- Annotations
-----------------------------------------------------------------------------------------

/-- The default and the allowed values are regular. -/
structure Annotations.Regular (notes : Annotations) : Prop where
  default : ∀ value, notes.default? = some value → value.Regular
  enum : ∀ values, notes.enum? = some values → ∀ value ∈ values, value.Regular

/-- The members of a regular object are regular. -/
theorem Json.Regular.of_lookup {members : Entries Json} {name : String} {value : Json}
    (regular : (Json.object members).Regular) (found : members.lookup name = some value)
    : value.Regular := by
  cases regular with
  | object _ each => exact each _ (Entries.mem_of_lookup found)

namespace Annotations

theorem regular_empty : Annotations.Regular {} := ⟨nofun, nofun⟩

/-- The values of a regular enumeration are its items, or values of members of its items. -/
theorem regular_enumValues {raw : Json} {values : List Json} (regular : raw.Regular)
    (reads : enumValues raw = .ok values)
    : ∀ value ∈ values, value.Regular := by
  have own {item value : Json} (regular : item.Regular) (reads : enumValue item = .ok value)
      : value.Regular := by
    rcases enumValue_eq_ok.mp reads with ⟨members, rfl, found⟩ | ⟨_, rfl⟩
    · exact regular.of_lookup found
    · exact regular
  cases regular with
  | @array items each =>
      replace reads : List.Forall₂ (fun item value => enumValue item = .ok value) items values :=
        Except.forall₂_of_mapM reads
      induction reads with
      | nil => simp
      | cons first _ ih =>
          exact List.forall_mem_cons.mpr ⟨own (each _ (.head _)) first,
            ih fun item member => each item (.tail _ member)⟩
  | null | bool _ | number _ | string _ | object _ _ => cases reads

/-- Regular annotations stay regular under those of a regular node. -/
theorem Regular.update {source : Entries Json} {type : SchemaType} {before after : Annotations}
    (regular : before.Regular) (own : (Json.object source).Regular)
    (updated : update source type before = .ok after)
    : after.Regular := by
  have default (value : Json) (found : (source.lookup "default").or before.default? = some value)
      : value.Regular := by
    rcases Option.or_eq_some_iff.mp found with brought | ⟨_, kept⟩
    · exact own.of_lookup brought
    · exact regular.default value kept
  obtain ⟨_, defaulted, enumerated⟩ := update_eq_ok.mp updated
  refine ⟨defaulted ▸ default, ?_⟩
  rcases enumerated with ⟨_, same⟩ | ⟨raw, values, found, checked, same⟩
  · exact same ▸ regular.enum
  · rw [same]
    rintro _ ⟨⟩
    exact regular_enumValues (own.of_lookup found) (checkedEnum_eq_ok.mp checked).1

end Annotations

-----------------------------------------------------------------------------------------
-- Schemas
-----------------------------------------------------------------------------------------

namespace Schema

/-- At any depth, properties increase and annotations are regular. -/
inductive Regular : Schema → Prop
  | scalar {type : ScalarType} {notes : Annotations} (annotations : notes.Regular)
    : Regular (.scalar type notes)
  | array {items : Schema} {notes : Annotations} (each : Regular items)
    (annotations : notes.Regular)
    : Regular (.array items notes)
  | object {properties? : Option (Entries Schema)} {values? : Option Schema}
    {required : List String} {notes : Annotations}
    (increasing : Entries.Increasing (properties?.getD []))
    (properties : ∀ entry ∈ properties?.getD [], Regular entry.2)
    (values : ∀ values, values? = some values → Regular values)
    (annotations : notes.Regular)
    : Regular (.object properties? values? required notes)
  | freeform {notes : Annotations} (annotations : notes.Regular) : Regular (.freeform notes)

/-- Annotations of a regular node leave a regular schema regular. -/
theorem Regular.annotated {schema result : Schema} {source : Entries Json}
    (regular : schema.Regular) (own : (Json.object source).Regular)
    (annotates : schema.annotated source = .ok result)
    : result.Regular := by
  obtain ⟨notes, updated, rfl⟩ := annotated_eq_ok.mp annotates
  cases regular with
  | scalar before => exact .scalar (before.update own updated)
  | array each before => exact .array each (before.update own updated)
  | object increasing properties values before =>
      exact .object increasing properties values (before.update own updated)
  | freeform before => exact .freeform (before.update own updated)

/-- Names taken from increasing entries in their order increase. -/
theorem increasing_of_sublist {α β : Type} {kept : Entries α} {entries : Entries β}
    (sublist : kept.names.Sublist entries.names) (increasing : entries.Increasing)
    : kept.Increasing :=
  Entries.increasing_iff.mpr ((Entries.increasing_iff.mp increasing).sublist sublist)

/-- Regular nodes are translated to regular schemas. -/
theorem inherited_regular : Inherited Json.Regular Regular where
  property regular found := by
    cases regular.of_lookup found with
    | object _ each => exact each
  items regular found := regular.of_lookup found
  values regular found := regular.of_lookup found
  fallback _ _ _ := .freeform Annotations.regular_empty
  scalar _ := .scalar Annotations.regular_empty
  array regular := .array regular Annotations.regular_empty
  object {_ properties? _ _} regular _ kept values := by
    refine .object ?_ kept.each values Annotations.regular_empty
    cases properties? with
    | none => exact .nil
    | some properties =>
        obtain ⟨source, found, sublist⟩ := kept.names properties rfl
        cases regular.of_lookup found with
        | object increasing _ => exact increasing_of_sublist sublist increasing
  annotated own regular annotates := regular.annotated own annotates

-----------------------------------------------------------------------------------------
-- The JSON form
-----------------------------------------------------------------------------------------

theorem regular_ofStrings (texts : List String) : (Json.ofStrings texts).Regular := by
  refine .array fun item member => ?_
  obtain ⟨text, _, rfl⟩ := List.mem_map.mp member
  exact .string text

/-- A member has the value of one of the slots. -/
theorem mem_present {slots : Entries (Option Json)} {entry : String × Json}
    (member : entry ∈ present slots)
    : ∃ slot ∈ slots, slot.2 = some entry.2 := by
  obtain ⟨slot, inside, member⟩ := List.mem_flatMap.mp member
  obtain ⟨value, found, rfl⟩ := List.mem_map.mp member
  exact ⟨slot, inside, Option.mem_toList.mp found⟩

/-- The members of a node are regular where its annotations are and the nodes below it. -/
theorem regular_membersOf {type : SchemaType} {notes : Annotations}
    {values? items? properties? : Option Json} {required : List String} {freeform : Bool}
    (annotations : notes.Regular) (values : ∀ value, values? = some value → value.Regular)
    (items : ∀ value, items? = some value → value.Regular)
    (properties : ∀ value, properties? = some value → value.Regular)
    : (Json.object
        (membersOf type notes values? items? properties? required freeform)).Regular := by
  refine .object (Entries.increasing_iff.mpr (memberNames_increasing.sublist names_membersOf)) ?_
  intro entry member
  rw [membersOf_eq_present] at member
  obtain ⟨slot, inside, found⟩ := mem_present member
  simp only [slots, List.mem_cons, List.not_mem_nil, or_false] at inside
  rcases inside with rfl | rfl | rfl | rfl | rfl | rfl | rfl | rfl | rfl
  · exact values _ found
  · exact annotations.default _ found
  · obtain ⟨text, _, same⟩ := Option.map_eq_some_iff.mp found
    exact same ▸ .string text
  · obtain ⟨allowed, notes, same⟩ := Option.map_eq_some_iff.mp found
    exact same ▸ .array (annotations.enum allowed notes)
  · exact items _ found
  · exact properties _ found
  · obtain ⟨_, same⟩ : ¬required.isEmpty ∧ Json.ofStrings required = entry.2 := by simpa using found
    exact same ▸ regular_ofStrings required
  · exact Option.some.inj found ▸ .string _
  · obtain ⟨_, same⟩ : freeform ∧ Json.bool true = entry.2 := by simpa using found
    exact same ▸ .bool true

/-- Named schemas are as many named values, with the same names. -/
theorem names_entriesToJson (properties : Entries Schema)
    : (Entries.names (entriesToJson properties)) = properties.names := by
  induction properties with
  | nil => rfl
  | cons entry rest ih => exact congrArg _ ih

/-- The JSON form of a regular schema is regular, by induction on what makes it so. -/
theorem Regular.toJson {schema : Schema} (regular : schema.Regular) : schema.toJson.Regular := by
  induction regular with
  | scalar annotations =>
      rw [Schema.toJson]
      exact regular_membersOf annotations nofun nofun nofun
  | @array items notes _ annotations ih =>
      rw [Schema.toJson]
      refine regular_membersOf annotations nofun ?_ nofun
      rintro _ ⟨⟩
      exact ih
  | @object properties? values? required notes increasing _ _ annotations ihProperties ihValues =>
      rw [Schema.toJson]
      refine regular_membersOf annotations ?_ nofun ?_
      · cases values? with
        | none => exact nofun
        | some values =>
            rintro _ ⟨⟩
            exact ihValues values rfl
      · cases properties? with
        | none => exact nofun
        | some properties =>
            rintro _ ⟨⟩
            refine .object ?_ fun entry member => ?_
            · rw [Entries.increasing_iff, names_entriesToJson]
              exact Entries.increasing_iff.mp increasing
            · obtain ⟨named, inside, same⟩ := mem_entriesToJson member
              exact same ▸ ihProperties named inside
  | freeform annotations =>
      rw [Schema.toJson]
      exact regular_membersOf annotations nofun nofun nofun

end Schema

namespace Document

theorem regular_node {resource : Resource} (regular : resource.Regular)
    : resource.node.Regular := by
  have inputs : (Json.object resource.inputProperties).Regular := .object regular.1 regular.2
  unfold Resource.node
  dsimp only
  split
  · refine .object (Entries.increasing_iff.mpr ?_) ?_
    · change List.Pairwise (· < ·) ["properties", "type"]
      decide
    · simpa using ⟨inputs, .string _⟩
  · refine .object (Entries.increasing_iff.mpr ?_) ?_
    · change List.Pairwise (· < ·) ["properties", "required", "type"]
      decide
    · simpa using ⟨inputs, Schema.regular_ofStrings _, .string _⟩

/-- What references of a regular document lead to is regular. -/
theorem Regular.target {doc : Document} (regular : doc.Regular) {reference : Reference}
    {target : Target} (found : doc.target? reference = some target)
    : match target with
      | .type node => node.Regular
      | .resource resource => resource.Regular := by
  cases reference with
  | type token =>
      obtain ⟨node, entry, rfl⟩ := Option.map_eq_some_iff.mp found
      exact regular.types _ (Entries.mem_of_lookup entry)
  | resource token =>
      obtain ⟨resource, entry, rfl⟩ := Option.map_eq_some_iff.mp found
      exact regular.resources _ (Entries.mem_of_lookup entry)
  | external text => cases found

/-- Regular nodes stand behind the references of a regular document. -/
theorem Regular.standIn {doc : Document} (regular : doc.Regular) {reference : Reference}
    {node : Json} (found : doc.standIn? reference = some node)
    : node.Regular := by
  unfold standIn? at found
  split at found
  · next target =>
      obtain rfl := Option.some.inj found
      exact regular.target target
  · next target =>
      obtain rfl := Option.some.inj found
      exact regular_node (regular.target target)
  · cases found

/-- A component of a regular document is translated to a regular schema. -/
theorem Regular.translate {doc : Document} (regular : doc.Regular) {component : Component}
    (own : component.resource.Regular) {translation : Translation}
    (translated : doc.translate component = .ok translation)
    : translation.schema.Regular := by
  obtain ⟨kept, required, same, each, sublist, _⟩ :=
    Schema.inherited_regular.object_of_translate regular.standIn own.2 translated
  rw [same]
  exact .object (Schema.increasing_of_sublist sublist own.1) each nofun Annotations.regular_empty

end Document

end ComponentCrd
