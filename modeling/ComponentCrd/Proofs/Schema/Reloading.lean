import ComponentCrd.Proofs.Json.WrittenValues
import ComponentCrd.Proofs.Schema.ReferenceExpansion
import ComponentCrd.Proofs.Schema.RegularSchemas
import ComponentCrd.Proofs.Schema.Retranslation

/-! A translated schema that is written as the one component of a document, and loaded again. The
schema comes back as it was, as long as its doubles read back and its text has no more open brackets
at a time than may be open. References make a schema deeper than anything in the document that it
was translated from; a text that is too deep for that reason is not loaded.
-/

namespace ComponentCrd

open Json Decode

-----------------------------------------------------------------------------------------
-- Components written down
-----------------------------------------------------------------------------------------

/-- A resource as a value. -/
def Resource.toJson (resource : Resource) : Json :=
  .object [
    ("inputProperties", .object resource.inputProperties),
    ("isComponent", .bool resource.isComponent),
    ("requiredInputs", .ofStrings resource.requiredInputs)]

/-- The document that has a name and the component alone, as a value. -/
def Component.toJson (component : Component) (name : String) : Json :=
  .object [
    ("name", .string name),
    ("resources", .object [(component.token, component.resource.toJson)])]

/-- The input properties, if there is room for their brackets. -/
def Resource.within? (room : Nat) (resource : Resource) : Option Resource :=
  if depthOfMembers resource.inputProperties ≤ room then some resource else none

/-- A resource is read from its text, if there is room for the brackets of its input properties. -/
theorem Resource.written {resource : Resource} (regular : resource.Regular)
    (doubles : ∀ x ∈ doublesOfMembers resource.inputProperties, (Number.float x).ReadsBack)
    (room : Nat)
    : Written (Tree.record? Document.resourceTreeFields {} (room + 2)) resource.toJson
        (resource.within? room) := by
  have inputs
      : Written (Tree.map? Tree.value (room + 1)) (.object resource.inputProperties) _ :=
    written_map fun member inside =>
      (regular.2 member inside).written
        (fun x double => doubles x (mem_doublesOfMembers inside double)) room
  rw [mapM_members_within?] at inputs
  have each : ∀ item ∈ resource.requiredInputs.map Json.string,
      Written Tree.string? item item.string? := by
    intro item member
    obtain ⟨text, _, rfl⟩ := List.mem_map.mp member
    exact written_string text
  have required
      : Written (Tree.list? (fun _ => Tree.string?) (room + 1)) (.ofStrings resource.requiredInputs)
          (ofStrings resource.requiredInputs).strings? :=
    written_list each
  rw [strings?_ofStrings] at required
  have first
      : RecordMember.Known Document.resourceTreeFields (room + 1)
          ⟨"inputProperties", .object resource.inputProperties, _⟩ :=
    known_of_written rfl inputs
  have second
      : RecordMember.Known Document.resourceTreeFields (room + 1)
          ⟨"isComponent", .bool resource.isComponent, _⟩ :=
    known_of_written rfl (written_bool resource.isComponent)
  have third
      : RecordMember.Known Document.resourceTreeFields (room + 1)
          ⟨"requiredInputs", .ofStrings resource.requiredInputs, _⟩ :=
    known_of_written rfl required
  have known := List.forall_mem_cons.mpr ⟨first, List.forall_mem_cons.mpr ⟨second,
    List.forall_mem_singleton.mpr third⟩⟩
  have distinct : ["inputProperties", "isComponent", "requiredInputs"].Nodup := by decide
  refine (congrArg (Written _ resource.toJson) ?_).mp (written_record known distinct {})
  unfold within?
  split
  · simp [Entries.ofList_of_increasing regular.1]
  · rfl

theorem doubles_ofStrings (texts : List String) : (ofStrings texts).doubles = [] := by
  induction texts with
  | nil => rfl
  | cons text rest ih => exact ih

theorem depth_ofStrings (texts : List String) : (ofStrings texts).depth = 1 := by
  have flat (texts : List String) : depthOfItems (texts.map .string) = 0 := by
    induction texts with
    | nil => rfl
    | cons text rest ih => simp [depthOfItems, depth, ih]
  rw [ofStrings, depth, flat]

/-- The doubles of a document with one component are those of its input properties. -/
theorem Component.doubles_toJson (component : Component) (name : String)
    : (component.toJson name).doubles = doublesOfMembers component.resource.inputProperties := by
  simp [toJson, Resource.toJson, doubles, doublesOfMembers, doubles_ofStrings]

/-- The input properties stand in four brackets. -/
theorem Component.depth_toJson (component : Component) (name : String)
    : (component.toJson name).depth
      = depthOfMembers component.resource.inputProperties + 4 := by
  simp only [toJson, Resource.toJson, depth, depthOfMembers, depth_ofStrings]
  omega

/-- One resource in the text of a document, if there is room for the brackets of its input
properties.
-/
theorem Component.known_resources {component : Component} (regular : component.resource.Regular)
    (doubles
      : ∀ x ∈ doublesOfMembers component.resource.inputProperties, (Number.float x).ReadsBack)
    : RecordMember.Known Document.documentTreeFields 126
        ⟨"resources", .object [(component.token, component.resource.toJson)],
          (component.resource.within? 123).map fun found doc =>
            { doc with resources := [(component.token, found)] }⟩ := by
  let inside? (_ : Json) : Option Resource := component.resource.within? 123
  have each
      : ∀ member ∈ [(component.token, component.resource.toJson)],
          Written (Tree.record? Document.resourceTreeFields {} 125) member.2 (inside? member.2) :=
    List.forall_mem_singleton.mpr (Resource.written regular doubles 123)
  obtain ⟨field, found, tree, spelled, meant⟩
      : RecordMember.Known Document.documentTreeFields 126
          ⟨"resources", .object [(component.token, component.resource.toJson)], _⟩ :=
    known_of_written rfl (written_map each)
  refine ⟨field, found, tree, spelled, meant.trans ?_⟩
  dsimp only [inside?]
  cases component.resource.within? 123 <;> rfl

/-- The text of known members holds the document that they make. -/
theorem Document.toOption_ofText_known {members : List (RecordMember Document)}
    (known : ∀ member ∈ members, member.Known documentTreeFields 126)
    (distinct : (members.map (·.name)).Nodup)
    : let value := Json.object (members.map fun member => (member.name, member.value))
      (ofText (Text.toUtf8 value.compact)).toOption
        = members.foldlM (fun doc member => member.put?.map (· doc)) {} := by
  obtain ⟨tree, spelled, meant⟩ := written_record known distinct {}
  intro value
  rw [toUtf8_compact, ← spelled, toOption_ofText tree.spellsWhole_text]
  exact meant

/-- The written component is read as it was, if there is room for the brackets of its text. -/
theorem Component.toOption_ofText_toJson {component : Component}
    (regular : component.resource.Regular) (name : String)
    (doubles : ∀ x ∈ (component.toJson name).doubles, (Number.float x).ReadsBack)
    : (Document.ofText (Text.toUtf8 (component.toJson name).compact)).toOption
      = if (component.toJson name).depth ≤ deepest then some (.ofComponent name "" component)
        else none := by
  rw [component.doubles_toJson name] at doubles
  have first
      : RecordMember.Known Document.documentTreeFields 126 ⟨"name", .string name, _⟩ :=
    known_of_written rfl (written_string name)
  have second := known_resources regular doubles
  have known := List.forall_mem_cons.mpr ⟨first, List.forall_mem_singleton.mpr second⟩
  have distinct : ["name", "resources"].Nodup := by decide
  refine (Document.toOption_ofText_known known distinct).trans ?_
  have room
      : depthOfMembers component.resource.inputProperties + 4 ≤ deepest
        ↔ depthOfMembers component.resource.inputProperties ≤ 123 := by
    unfold deepest
    omega
  simp only [component.depth_toJson, room, Resource.within?]
  split <;> rfl

/-- The members of a regular value are those of a regular object. -/
theorem ordered_of_members? {value : Json} {members : Entries Json} (regular : value.Regular)
    (found : value.members? = some members)
    : Ordered Json.Regular members := by
  cases regular with
  | object increasing each =>
      obtain rfl := Option.some.inj found
      exact ⟨increasing, each⟩
  | null | bool _ | number _ | string _ | array _ => cases found

/-- The component of a regular node is regular. -/
theorem Component.regular_ofNode (token : String) {node : Json} (regular : node.Regular)
    : (ofNode token node).resource.Regular := by
  change Ordered Json.Regular (((node.member? "properties").bind Json.members?).getD [])
  cases inputs : (node.member? "properties").bind Json.members? with
  | none => exact ordered_nil
  | some properties =>
      obtain ⟨value, member, object⟩ := Option.bind_eq_some_iff.mp inputs
      obtain ⟨members, own, found⟩ := Option.bind_eq_some_iff.mp member
      have each := (ordered_of_members? regular own).2 _ (Entries.mem_of_lookup found)
      exact ordered_of_members? each object

-----------------------------------------------------------------------------------------
-- Translations written down
-----------------------------------------------------------------------------------------

/-- The document that has a name and the component of a translated schema alone, as a value. -/
def Translation.toJson (translation : Translation) (name token : String) : Json :=
  (translation.component token).toJson name

namespace Document

/-- A regular document has regular components. -/
theorem Regular.select {doc : Document} (regular : doc.Regular) {requested : String}
    {component : Component} (selected : doc.select requested = .ok component)
    : component.resource.Regular := by
  obtain ⟨entry, inside, rfl⟩ := List.mem_map.mp (mem_components_of_select selected)
  exact regular.resources entry (List.mem_filter.mp inside).1

/-- The text of a regular schema as the one component of a document. -/
theorem toOption_ofText_translation {translation : Translation}
    (regular : translation.schema.Regular) (name token : String)
    (doubles : ∀ x ∈ (translation.toJson name token).doubles, (Number.float x).ReadsBack)
    : (ofText (Text.toUtf8 (translation.toJson name token).compact)).toOption
      = if (translation.toJson name token).depth ≤ deepest then
          some (translation.document name "" token)
        else none :=
  Component.toOption_ofText_toJson (Component.regular_ofNode token regular.toJson) name doubles

/-- The text of a translated schema as the one component of a document is loaded as just that, if
its doubles read back and there is room for its brackets. Without the room it is not loaded.
-/
theorem reloads_of_translate {text : List UInt8} {doc : Document} {requested : String}
    {component : Component} {translation : Translation} (decodes : ofText text = .ok doc)
    (selected : doc.select requested = .ok component)
    (translated : doc.translate component = .ok translation) (name token : String)
    (doubles : ∀ x ∈ (translation.toJson name token).doubles, (Number.float x).ReadsBack)
    : ((translation.toJson name token).depth ≤ deepest
        → ofText (Text.toUtf8 (translation.toJson name token).compact)
          = .ok (translation.document name "" token))
      ∧ (deepest < (translation.toJson name token).depth
        → ∃ fault,
            ofText (Text.toUtf8 (translation.toJson name token).compact) = .error fault) := by
  have regular := regular_of_ofText decodes
  have schema := regular.translate (regular.select selected) translated
  have reads := toOption_ofText_translation schema name token doubles
  constructor
  · intro room
    exact Except.toOption_eq_some.mp (reads.trans (if_pos room))
  · intro deep
    exact Except.toOption_eq_none.mp (reads.trans (if_neg (Nat.not_le.mpr deep)))

/-- A component that refers to a type. -/
def referring : Component where
  token := "p:i:A"
  resource := {
    isComponent := true
    inputProperties := [("a", .object [("$ref", .string "#/types/X")])] }

/-- Lists of strings, with a default. -/
def listsFrom (default : Json) : Schema := .array (.scalar .string {}) { default? := some default }

/-- The document of the component and of the type. -/
def withDefault (default : Json) : Document where
  resources := [(referring.token, referring.resource)]
  types := [("X", (listsFrom default).toJson)]

/-- The text of the document. -/
def textWithDefault (default : Json) : String :=
  (Json.object [
    ("resources", .object [(referring.token, referring.resource.toJson)]),
    ("types", .object [("X", (listsFrom default).toJson)])]).compact

variable {default : Json}

theorem toJson_listsFrom (default : Json)
    : (listsFrom default).toJson
      = .object [("default", default), ("items", .object [("type", .string "string")]),
          ("type", .string "array")] :=
  rfl

theorem doubles_listsFrom (default : Json)
    : (listsFrom default).toJson.doubles = default.doubles := by
  simp [toJson_listsFrom, Json.doubles, doublesOfMembers]

theorem depth_listsFrom (default : Json)
    : (listsFrom default).toJson.depth = max default.depth 1 + 1 := by
  simp only [toJson_listsFrom, depth, depthOfMembers]
  omega

theorem regular_listsFrom (regular : default.Regular) : (listsFrom default).Regular := by
  refine .array (.scalar Annotations.regular_empty) ⟨?_, nofun⟩
  rintro _ ⟨⟩
  exact regular

/-- The text holds the document, if there is room for the brackets of the default. -/
theorem ofText_textWithDefault (regular : default.Regular)
    (doubles : ∀ x ∈ default.doubles, (Number.float x).ReadsBack) (room : default.depth ≤ 124)
    : ofText (Text.toUtf8 (textWithDefault default)) = .ok (withDefault default) := by
  have inputs : referring.resource.Regular := by
    refine ⟨List.pairwise_singleton _ _, List.forall_mem_singleton.mpr ?_⟩
    exact .object (List.pairwise_singleton _ _) (List.forall_mem_singleton.mpr (.string _))
  have resources :=
    Component.known_resources inputs (by simp [referring, doublesOfMembers, Json.doubles])
  have each
      : ∀ member ∈ [("X", (listsFrom default).toJson)],
          Written (Tree.value 125) member.2 (member.2.within? 125) :=
    List.forall_mem_singleton.mpr
      ((regular_listsFrom regular).toJson.written (by rwa [doubles_listsFrom default]) 125)
  have types
      : RecordMember.Known documentTreeFields 126
          ⟨"types", .object [("X", (listsFrom default).toJson)], _⟩ :=
    known_of_written rfl (written_map each)
  have known := List.forall_mem_cons.mpr ⟨resources, List.forall_mem_singleton.mpr types⟩
  have distinct : ["resources", "types"].Nodup := by decide
  refine Except.toOption_eq_some.mp ((toOption_ofText_known known distinct).trans ?_)
  have fits : (listsFrom default).toJson.within? 125 = some (listsFrom default).toJson := by
    refine if_pos ?_
    rw [depth_listsFrom]
    omega
  simp [fits]
  rfl

/-- The translation of the component: the schema of the type in place of the reference. -/
def translationWith (default : Json) : Translation :=
  ⟨.object (some [("a", listsFrom default)]) none [] {}, []⟩

theorem translate_withDefault (default : Json)
    : (withDefault default).translate referring = .ok (translationWith default) := by
  have found
      : (withDefault default).standIn? (.ofText "#/types/X") = some (listsFrom default).toJson :=
    rfl
  have node (path : Path)
      : Schema.ofNode ((withDefault default).resolve [])
            (.object [("$ref", .string "#/types/X")]) path
        = pure (listsFrom default) := by
    have sound : (listsFrom default).Sound := .array (.scalar nofun) nofun
    rw [ofNode_reference, resolve_local _ [] path (isLocal_of_standIn? found), found]
    exact (if_neg List.not_mem_nil).trans (Schema.ofNode_toJson sound rfl path)
  have attempt
      : (withDefault default).attemptInputs referring = pure [("a", listsFrom default)] := by
    change Schema.ofProperties _ [("a", .object [("$ref", .string "#/types/X")])] .spec = _
    rw [Schema.ofProperties_cons, node, Schema.ofProperties]
    rfl
  have nothing : (withDefault default).issues referring = [] := by
    rw [issues, attempt]
    rfl
  rw [translate_of_inputs (congrArg Attempt.outcome attempt), nothing]
  rfl

theorem doubles_translationWith (default : Json) (name token : String)
    : ((translationWith default).toJson name token).doubles = default.doubles := by
  rw [Translation.toJson, Component.doubles_toJson, Translation.component, translationWith,
    Component.ofNode_toJson]
  simp [Schema.entriesToJson, doublesOfMembers, doubles_listsFrom]

/-- The default has two brackets more around it than in the document. -/
theorem depth_translationWith (default : Json) (name token : String)
    : ((translationWith default).toJson name token).depth = max default.depth 1 + 5 := by
  rw [Translation.toJson, Component.depth_toJson, Translation.component, translationWith,
    Component.ofNode_toJson]
  simp [Schema.entriesToJson, depthOfMembers, depth_listsFrom]

/-- One half. -/
def half : Binary64 := ⟨false, (Magnitude.round? 1 2).getD .zero⟩

theorem readsBack_half : (Number.float half).ReadsBack := by
  let text : NumberText := {
    negative := false
    whole := [48]
    fraction := [46, 53]
    exponent := []
    whole_digits := .inl rfl
    fraction_digits := .inr ⟨53, [], rfl, List.forall_mem_singleton.mpr (by decide)⟩
    exponent_digits := .inl rfl }
  exact ⟨text, by decide +kernel, by decide +kernel⟩

/-- A schema with a half and a two in a default comes back. -/
theorem halves_reload
    : let default := Json.array [.number (.float half), .number (.integer 2)]
      let written := (translationWith default).toJson "p" "p:i:B"
      ofText (Text.toUtf8 (textWithDefault default)) = .ok (withDefault default)
      ∧ (withDefault default).select "" = .ok referring
      ∧ (withDefault default).translate referring = .ok (translationWith default)
      ∧ (∀ x ∈ written.doubles, (Number.float x).ReadsBack)
      ∧ ofText (Text.toUtf8 written.compact)
        = .ok ((translationWith default).document "p" "" "p:i:B") := by
  intro default written
  have regular : default.Regular := by
    refine .array (List.forall_mem_cons.mpr ⟨.number trivial, List.forall_mem_singleton.mpr ?_⟩)
    exact .number ⟨by decide, by decide⟩
  have doubles : ∀ x ∈ default.doubles, (Number.float x).ReadsBack :=
    List.forall_mem_singleton.mpr readsBack_half
  have loads := ofText_textWithDefault regular doubles (by decide)
  have own : ∀ x ∈ written.doubles, (Number.float x).ReadsBack := by
    rwa [doubles_translationWith default "p" "p:i:B"]
  have room : written.depth ≤ deepest := by
    rw [depth_translationWith default "p" "p:i:B"]
    decide
  have translates := translate_withDefault default
  have selects : (withDefault default).select "" = .ok referring := rfl
  have reloads := reloads_of_translate loads selects translates "p" "p:i:B" own
  exact ⟨loads, selects, translates, own, reloads.1 room⟩

/-- A list in a list, and so on, as many as there are brackets. -/
def lists : Nat → Json
  | 0 => .array []
  | n + 1 => .array [lists n]

theorem regular_lists (n : Nat) : (lists n).Regular := by
  induction n with
  | zero => exact .array (by simp)
  | succ n ih => exact .array (List.forall_mem_singleton.mpr ih)

theorem doubles_lists (n : Nat) : (lists n).doubles = [] := by
  induction n with
  | zero => rfl
  | succ n ih => simp [lists, Json.doubles, doublesOfItems, ih]

theorem depth_lists (n : Nat) : (lists n).depth = n + 1 := by
  induction n with
  | zero => rfl
  | succ n ih => simp [lists, depth, depthOfItems, ih]

/-- A default with room in the type, and not in the place of the reference to the type. -/
theorem lists_not_reloaded
    : ∃ fault,
        ofText (Text.toUtf8 (textWithDefault (lists 122))) = .ok (withDefault (lists 122))
        ∧ (withDefault (lists 122)).select "" = .ok referring
        ∧ (withDefault (lists 122)).translate referring = .ok (translationWith (lists 122))
        ∧ ofText
            (Text.toUtf8
              ((translationWith (lists 122)).toJson "roundtrip" "pkg:index:Thing").compact)
          = .error fault := by
  have regular := regular_lists 122
  have loads := ofText_textWithDefault regular (by simp [doubles_lists]) (by simp [depth_lists])
  have schema : (translationWith (lists 122)).schema.Regular := by
    refine .object (List.pairwise_singleton _ _) ?_ nofun Annotations.regular_empty
    exact List.forall_mem_singleton.mpr (regular_listsFrom regular)
  have reads :=
    toOption_ofText_translation schema "roundtrip" "pkg:index:Thing"
      (by simp [doubles_translationWith, doubles_lists])
  have deep
      : ¬((translationWith (lists 122)).toJson "roundtrip" "pkg:index:Thing").depth ≤ deepest := by
    rw [depth_translationWith, depth_lists]
    decide
  obtain ⟨fault, fails⟩ := Except.toOption_eq_none.mp (reads.trans (if_neg deep))
  exact ⟨fault, loads, rfl, translate_withDefault _, fails⟩

end Document

end ComponentCrd
