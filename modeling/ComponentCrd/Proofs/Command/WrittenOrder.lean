import ComponentCrd.Proofs.Command.Stages
import ComponentCrd.Proofs.Json.MemberOrder
import ComponentCrd.Proofs.Json.ReadTrees
import ComponentCrd.Proofs.Json.WrittenTrees

/-! What a run makes of a document does not show in which order its text gives the members of
objects. The texts decode to the same document, and all that follows is made of it.
-/

namespace ComponentCrd.Command

open Json

/-- Two texts differ in nothing but blanks and the order in which members are written in objects, at
any depth, and no object has a name twice.
-/
def SameButOrder (text other : List UInt8) : Prop :=
  ∃ tree tree' : Tree,
    tree.SpellsWhole text ∧ tree'.SpellsWhole other ∧ tree.Reordered tree' ∧ tree.Distinct

/-- All that is made of the one text is made of the other one. -/
structure SameOutput (text other : List UInt8) (first second : Document) : Prop where
  selection : ∀ requested, first.select requested = second.select requested
  preflight : ∀ component, first.preflight component = second.preflight component
  preflightAll : first.preflightAll = second.preflightAll
  translation : ∀ component, first.translate component = second.translate component
  identity : ∀ token overrides, first.identify token overrides = second.identify token overrides
  definition : ∀ config, stages config first = stages config second
  report
    : ∀ world world' settings config,
        Source.loadBytes world settings config.input = .ok text
        → Source.loadBytes world' settings config.input = .ok other
        → render world settings config = render world' settings config

/-- Texts that differ in the order of members only hold the same document, if any. -/
theorem toOption_ofText_of_sameButOrder {text other : List UInt8} (same : SameButOrder text other)
    : (Document.ofText text).toOption = (Document.ofText other).toOption := by
  obtain ⟨tree, tree', spelled, spelled', reordered, distinct⟩ := same
  rw [Document.toOption_ofText spelled, Document.toOption_ofText spelled']
  exact Document.orderBlind_ofTree? tree tree' ⟨reordered, distinct⟩

/-- The order in which the members of a text are written is nowhere to be seen. A tree spells the
text, so that every other order can be written: if no name stands twice, each of these texts holds
the same document. So does each text that differs in order only, and the same is made of it.
-/
structure OrderUnseen (text : List UInt8) (first : Document) : Prop where
  spelled
    : ∃ tree : Tree,
        tree.SpellsWhole text
        ∧ Document.ofTree? tree = some first
        ∧ (tree.Distinct
          → ∀ turned other,
            tree.Reordered turned → turned.SpellsWhole other → Document.ofText other = .ok first)
  decoded : ∀ other, SameButOrder text other → Document.ofText other = .ok first
  output
    : ∀ other second, SameButOrder text other → Document.ofText other = .ok second
        → SameOutput text other first second

/-- A text that differs in order only from one that is decoded is decoded to the same document. -/
theorem ofText_of_sameButOrder {text other : List UInt8} {doc : Document}
    (same : SameButOrder text other) (decodes : Document.ofText text = .ok doc)
    : Document.ofText other = .ok doc := by
  have holds := toOption_ofText_of_sameButOrder same
  rw [decodes] at holds
  cases read : Document.ofText other with
  | error fault =>
      rw [read] at holds
      cases holds
  | ok found =>
      rw [read] at holds
      exact congrArg Except.ok (Option.some.inj holds).symm

theorem load_of_ofText {world : Source.World} {settings : Source.Settings} {input : String}
    {bytes : List UInt8} {doc : Document}
    (loads : Source.loadBytes world settings input = .ok bytes)
    (decodes : Document.ofText bytes = .ok doc)
    : Source.load world settings input = .ok doc := by
  simp only [Source.load, loads, bind, Except.bind, decodes]
  rfl

/-- Two texts of one document are the same to all that is made of them. -/
theorem sameOutput_of_ofText {text other : List UInt8} {doc : Document}
    (decodes : Document.ofText text = .ok doc) (decodes' : Document.ofText other = .ok doc)
    : SameOutput text other doc doc := by
  refine ⟨fun _ => rfl, fun _ => rfl, rfl, fun _ => rfl, fun _ _ => rfl, fun _ => rfl, ?_⟩
  intro world world' settings config loads loads'
  unfold render
  rw [load_of_ofText loads decodes, load_of_ofText loads' decodes']

/-- The order in which members are written does not show in what is made of a text. -/
theorem orderUnseen {text : List UInt8} {first : Document}
    (decodes : Document.ofText text = .ok first)
    : OrderUnseen text first := by
  have decoded (other : List UInt8) (same : SameButOrder text other)
      : Document.ofText other = .ok first :=
    ofText_of_sameButOrder same decodes
  refine ⟨?spelled, decoded, ?output⟩
  case spelled =>
    obtain ⟨tree, spelled, meaning⟩ := Document.exists_tree_of_ofText decodes
    refine ⟨tree, spelled, meaning, fun distinct turned other reordered spelled' => ?_⟩
    exact decoded other ⟨tree, turned, spelled, spelled', reordered, distinct⟩
  case output =>
    intro other second same decodes'
    obtain rfl : second = first := Except.ok.inj (decodes'.symm.trans (decoded other same))
    exact sameOutput_of_ofText decodes decodes'

/-- A box whose fit is an object with members of its own. -/
def boxText : String :=
  "\x7b\"resources\":\x7b\"p:i:Box\":\x7b\"isComponent\":true,\"inputProperties\":"
    ++ "\x7b\"fit\":\x7b\"type\":\"object\",\"enum\":[\x7b\"h\":null,\"w\":true\x7d]\x7d\x7d"
    ++ "\x7d\x7d,\"types\":\x7b\x7d\x7d"

/-- The same box with the members of all its objects in another order. -/
def turnedBoxText : String :=
  "\x7b\"types\":\x7b\x7d,\"resources\":\x7b\"p:i:Box\":\x7b\"inputProperties\":"
    ++ "\x7b\"fit\":\x7b\"enum\":[\x7b\"w\":true,\"h\":null\x7d],\"type\":\"object\"\x7d\x7d,"
    ++ "\"isComponent\":true\x7d\x7d\x7d"

theorem sameButOrder_box : SameButOrder (Text.toUtf8 boxText) (Text.toUtf8 turnedBoxText) := by
  obtain ⟨resources, resources_eq, resources_is⟩ := exists_parts "resources"
  obtain ⟨types, types_eq, types_is⟩ := exists_parts "types"
  obtain ⟨box, box_eq, box_is⟩ := exists_parts "p:i:Box"
  obtain ⟨component, component_eq, component_is⟩ := exists_parts "isComponent"
  obtain ⟨inputs, inputs_eq, inputs_is⟩ := exists_parts "inputProperties"
  obtain ⟨fit, fit_eq, fit_is⟩ := exists_parts "fit"
  obtain ⟨kind, kind_eq, kind_is⟩ := exists_parts "type"
  obtain ⟨enum, enum_eq, enum_is⟩ := exists_parts "enum"
  obtain ⟨object, object_eq, object_is⟩ := exists_parts "object"
  obtain ⟨h, h_eq, h_is⟩ := exists_parts "h"
  obtain ⟨w, w_eq, w_is⟩ := exists_parts "w"
  let sizes := Tree.object [(h, .null), (w, .bool true)]
  let turnedSizes := Tree.object [(w, .bool true), (h, .null)]
  let tree := Tree.object [
    (resources, .object [(box, .object [
      (component, .bool true),
      (inputs, .object [(fit, .object [(kind, .string object), (enum, .array [sizes])])])])]),
    (types, .object [])]
  let turned := Tree.object [
    (types, .object []),
    (resources, .object [(box, .object [
      (inputs, .object [(fit, .object [(enum, .array [turnedSizes]), (kind, .string object)])]),
      (component, .bool true)])])]
  have text : tree.text = Text.toUtf8 boxText := by
    simp only [tree, sizes, Tree.text, Tree.itemsText, Tree.membersText, resources_eq, types_eq,
      box_eq, component_eq, inputs_eq, fit_eq, kind_eq, enum_eq, object_eq, h_eq, w_eq]
    decide +kernel
  have turnedText : turned.text = Text.toUtf8 turnedBoxText := by
    simp only [turned, turnedSizes, Tree.text, Tree.itemsText, Tree.membersText, resources_eq,
      types_eq, box_eq, component_eq, inputs_eq, fit_eq, kind_eq, enum_eq, object_eq, h_eq, w_eq]
    decide +kernel
  refine ⟨tree, turned, text ▸ tree.spellsWhole_text, turnedText ▸ turned.spellsWhole_text, ?_, ?_⟩
  · have fits : (Tree.object [(kind, .string object), (enum, .array [sizes])]).Reordered
        (.object [(enum, .array [turnedSizes]), (kind, .string object)]) :=
      .swap (.refl _) ⟨.swap (.refl _) (.refl _), trivial⟩
    exact .swap (.single (.swap (.refl _) (.single fits))) (.refl _)
  · simp [tree, sizes, Tree.Distinct, Tree.DistinctItems, Tree.DistinctMembers, Tree.DistinctNames,
      resources_is, types_is, component_is, inputs_is, kind_is, enum_is, h_is, w_is]

/-- The members of the document, of the resource, of the property, and of an object that the
property may be are written in two orders.
-/
theorem orderUnseen_box
    : ∃ first second,
        Document.ofText (Text.toUtf8 boxText) = .ok first
        ∧ Document.ofText (Text.toUtf8 turnedBoxText) = .ok second
        ∧ OrderUnseen (Text.toUtf8 boxText) first
        ∧ SameOutput (Text.toUtf8 boxText) (Text.toUtf8 turnedBoxText) first second := by
  have decodes : (Document.ofText (Text.toUtf8 boxText)).isOk := by decide +kernel
  obtain ⟨first, read⟩ := Except.exists_of_isOk decodes
  have unseen := orderUnseen read
  have read' := unseen.decoded _ sameButOrder_box
  exact ⟨first, first, read, read', unseen, unseen.output _ _ sameButOrder_box read'⟩

end ComponentCrd.Command
