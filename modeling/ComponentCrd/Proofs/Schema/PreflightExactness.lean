import ComponentCrd.Proofs.Schema.Descent
import ComponentCrd.Proofs.Schema.PreflightClosure

/-! The check of shapes passes exactly where no flaw can be reached. The graph of a document is
stated without bounds and without memory: a node leads on to its members and to what its reference
stands for, as often as one likes. The check visits every target once only, yet it fails for a flaw
that some way through the graph leads to, and passes only if no way leads to one.
-/

namespace ComponentCrd.Document

open Preflight Relation

-----------------------------------------------------------------------------------------
-- The graph of a document, and the flaws in it
-----------------------------------------------------------------------------------------

/-- One step through the graph of a document: from a node to a node below it, to the node of the
type it refers to, or to an input property of the resource it refers to. The step from a node to the
type adds nothing to the path.
-/
inductive Leads (doc : Document) : Place → Place → Prop
  | property {source members name node path}
    (found : source.lookup "properties" = some (.object members)) (member : (name, node) ∈ members)
    : doc.Leads ⟨.object source, path⟩ ⟨node, .property path name⟩
  | items {source node path} (found : source.lookup "items" = some node)
    : doc.Leads ⟨.object source, path⟩ ⟨node, .items path⟩
  | values {source node path} (found : source.lookup "additionalProperties" = some node)
    : doc.Leads ⟨.object source, path⟩ ⟨node, .values path⟩
  | type {source text token node path} (found : source.lookup "$ref" = some (.string text))
    (refers : Reference.ofText text = .type token) (target : doc.type? token = some node)
    : doc.Leads ⟨.object source, path⟩ ⟨node, path⟩
  | resource {source text token resource name node path}
    (found : source.lookup "$ref" = some (.string text))
    (refers : Reference.ofText text = .resource token)
    (target : doc.resource? token = some resource)
    (member : (name, node) ∈ resource.inputProperties)
    : doc.Leads ⟨.object source, path⟩ ⟨node, .property path name⟩

/-- The input properties of a component lead to the place. -/
def Reaches (doc : Document) (component : Component) (place : Place) : Prop :=
  ∃ entry ∈ component.resource.inputProperties,
    ReflTransGen doc.Leads ⟨entry.2, .property .spec entry.1⟩ place

/-- The flaws of a node, each with the place it is reported at: a member that has to be an object is
reported at its own path, a reference at the path of the node.
-/
inductive Flaw (doc : Document) (mode : Mode) : Place → Breach → Prop
  | node {node path} (scalar : node.isObject = false)
    : doc.Flaw mode ⟨node, path⟩ ⟨path, .notObject⟩
  | reference {source value path} (found : source.lookup "$ref" = some value)
    (unreadable : value.string? = none)
    : doc.Flaw mode ⟨.object source, path⟩ ⟨path, .referenceNotString⟩
  | unresolvedType {source text token path} (found : source.lookup "$ref" = some (.string text))
    (refers : Reference.ofText text = .type token) (missing : doc.type? token = none)
    : doc.Flaw mode ⟨.object source, path⟩ ⟨path, .unresolvedType (.type token)⟩
  | typeNotObject {source text token value path}
    (found : source.lookup "$ref" = some (.string text))
    (refers : Reference.ofText text = .type token) (target : doc.type? token = some value)
    (scalar : value.isObject = false)
    : doc.Flaw mode ⟨.object source, path⟩ ⟨path, .typeNotObject (.type token)⟩
  | unresolvedResource {source text token path}
    (found : source.lookup "$ref" = some (.string text))
    (refers : Reference.ofText text = .resource token) (missing : doc.resource? token = none)
    : doc.Flaw mode ⟨.object source, path⟩ ⟨path, .unresolvedResource (.resource token)⟩
  | outside {source text outer path} (strict : mode = .document)
    (found : source.lookup "$ref" = some (.string text))
    (refers : Reference.ofText text = .external outer)
    : doc.Flaw mode ⟨.object source, path⟩ ⟨path, .outsideReference (.external outer)⟩
  | properties {source value path} (found : source.lookup "properties" = some value)
    (scalar : value.isObject = false)
    : doc.Flaw mode ⟨.object source, path⟩ ⟨path, .propertiesNotObject⟩
  | property {source members name value path}
    (found : source.lookup "properties" = some (.object members))
    (member : (name, value) ∈ members) (scalar : value.isObject = false)
    : doc.Flaw mode ⟨.object source, path⟩ ⟨.property path name, .propertyNotObject⟩
  | items {source value path} (found : source.lookup "items" = some value)
    (scalar : value.isObject = false)
    : doc.Flaw mode ⟨.object source, path⟩ ⟨.items path, .itemsNotObject⟩
  | values {source value path} (found : source.lookup "additionalProperties" = some value)
    (scalar : value.isObject = false)
    : doc.Flaw mode ⟨.object source, path⟩ ⟨.values path, .valuesNotObject⟩

-----------------------------------------------------------------------------------------
-- A check that fails has found a flaw
-----------------------------------------------------------------------------------------

/-- The places are closed under the steps through the graph. -/
def ClosedUnderLeads (doc : Document) (reached : Place → Prop) : Prop :=
  ∀ place next, reached place → doc.Leads place next → reached next

/-- Whenever the check fails, it reports a flaw of one of the places. -/
def Blames (doc : Document) (mode : Mode) (reached : Place → Prop) (check : Check) : Prop :=
  ∀ before breach, check before = .error breach
    → ∃ place, reached place ∧ doc.Flaw mode place breach

variable {doc : Document} {mode : Mode} {reached : Place → Prop}

theorem Blames.pass : doc.Blames mode reached Preflight.pass := nofun

theorem Blames.breach {place : Place} {path : Path} {violation : Violation}
    (here : reached place) (flaw : doc.Flaw mode place ⟨path, violation⟩)
    : doc.Blames mode reached (Preflight.breach path violation) := by
  rintro _ _ ⟨⟩
  exact ⟨place, here, flaw⟩

theorem Blames.both {first second : Check} (blamesFirst : doc.Blames mode reached first)
    (blamesSecond : doc.Blames mode reached second)
    : doc.Blames mode reached (Preflight.both first second) := by
  intro before breach fails
  cases passes : first before with
  | error other =>
      obtain rfl : other = breach := by
        simpa only [Preflight.both, passes, bind, Except.bind, Except.error.injEq] using fails
      exact blamesFirst before other passes
  | ok middle =>
      have fails : second middle = .error breach := by
        simpa only [Preflight.both, passes, bind, Except.bind] using fails
      exact blamesSecond middle breach fails

variable {follow : Reference → Path → Check}

/-- Properties blame a place where each of them does, by induction over their list. -/
theorem blames_properties {members : Entries Json} {path : Path}
    (each
      : ∀ entry ∈ members,
          doc.Blames mode reached
            (if entry.2.isObject then node follow entry.2 (.property path entry.1)
              else breach (.property path entry.1) .propertyNotObject))
    : doc.Blames mode reached (properties follow members path) := by
  induction members with
  | nil => rw [properties]; exact .pass
  | cons entry rest ih =>
      rw [properties_cons]
      exact .both (each entry (.head _)) (ih fun other member => each other (.tail _ member))

/-- Input properties blame a place where each of them does, by induction over their list. -/
theorem blames_inputs {entries : Entries Json} {path : Path}
    (each
      : ∀ entry ∈ entries, doc.Blames mode reached (node follow entry.2 (.property path entry.1)))
    : doc.Blames mode reached (inputs follow entries path) := by
  induction entries with
  | nil => exact .pass
  | cons entry rest ih =>
      exact .both (each entry (.head _)) (ih fun other member => each other (.tail _ member))

/-- Following the reference of a node that is reached blames a place that is reached. -/
def BlamesReferences (doc : Document) (mode : Mode) (reached : Place → Prop)
    (follow : Reference → Path → Check)
    : Prop :=
  ∀ source text path, reached ⟨.object source, path⟩ → source.lookup "$ref" = some (.string text)
    → doc.Blames mode reached (follow (.ofText text) path)

theorem blames_referencePart (references : doc.BlamesReferences mode reached follow)
    {source : Entries Json} {path : Path} (here : reached ⟨.object source, path⟩)
    : doc.Blames mode reached (referencePart follow source path) := by
  unfold referencePart
  split
  · exact .pass
  · next text found => exact references source text path here found
  · next value notString found =>
      refine .breach here (.reference found ?_)
      cases value with
      | string text => exact (notString text rfl).elim
      | null | bool _ | number _ | array _ | object _ => rfl

/-- The check of a node that is reached blames a place that is reached, by recursion over the nodes
below it.
-/
theorem blames_node (closed : doc.ClosedUnderLeads reached)
    (references : doc.BlamesReferences mode reached follow) (value : Json)
    : ∀ path, reached ⟨value, path⟩ → doc.Blames mode reached (node follow value path) := by
  intro path
  cases value with
  | object source =>
      intro here
      have properties : doc.Blames mode reached (propertiesPart follow source path) := by
        unfold propertiesPart
        split
        · exact .pass
        · next members found =>
            refine blames_properties fun entry member => ?_
            obtain ⟨name, value⟩ := entry
            split
            · have := Entries.sizeOf_members_lt found
              have := List.sizeOf_lt_of_mem member
              exact blames_node closed references value _ (closed _ _ here (.property found member))
            · next scalar => exact .breach here (.property found member (by simpa using scalar))
        · next value scalar found =>
            exact .breach here (.properties found (Json.isObject_eq_false scalar))
      have child (name : String) (below : Path) (violation : Violation)
          (step
            : ∀ value, source.lookup name = some value
                → doc.Leads ⟨.object source, path⟩ ⟨value, below⟩)
          (flaw
            : ∀ value, source.lookup name = some value → value.isObject = false
                → doc.Flaw mode ⟨.object source, path⟩ ⟨below, violation⟩)
          : doc.Blames mode reached (childPart follow source name below violation) := by
        unfold childPart
        split
        · exact .pass
        · next members found =>
            have := Entries.sizeOf_members_lt found
            exact blames_node closed references (.object members) below
              (closed _ _ here (step _ found))
        · next value scalar found =>
            exact .breach here (flaw value found (Json.isObject_eq_false scalar))
      rw [node_object]
      refine .both (blames_referencePart references here) (.both properties (.both ?_ ?_))
      · exact child "items" _ _ (fun _ found => .items found) fun _ => .items
      · exact child "additionalProperties" _ _ (fun _ found => .values found) fun _ => .values
  | null | bool _ | number _ | string _ | array _ =>
      intro here
      rw [node_of_not_object follow path rfl]
      exact .breach here (.node rfl)
termination_by sizeOf value
decreasing_by
  all_goals simp only [Json.object.sizeOf_spec, Prod.mk.sizeOf_spec] at *
  all_goals omega

/-- Checking what the reference of a node leads to blames a place that is reached. The nodes behind
the reference matter only if there are any, and then the reference is one of the document's.
-/
theorem blames_targetPart (closed : doc.ClosedUnderLeads reached) {source : Entries Json}
    {text : String} {path : Path} (here : reached ⟨.object source, path⟩)
    (found : source.lookup "$ref" = some (.string text))
    (inside : (Reference.ofText text).isLocal)
    (references
      : Reference.ofText text ∈ doc.references → doc.BlamesReferences mode reached follow)
    : doc.Blames mode reached (doc.targetPart follow (.ofText text) path) := by
  unfold targetPart
  cases target : doc.target? (.ofText text) with
  | none =>
      cases refers : Reference.ofText text with
      | type token =>
          rw [refers] at target
          exact .breach here (.unresolvedType found refers (Option.map_eq_none_iff.mp target))
      | resource token =>
          rw [refers] at target
          exact .breach here (.unresolvedResource found refers (Option.map_eq_none_iff.mp target))
      | external outer => simp [refers, Reference.isLocal] at inside
  | some _ =>
      have references := references (mem_references_of_target? target)
      cases refers : Reference.ofText text with
      | type token =>
          rw [refers] at target
          obtain ⟨value, entry, rfl⟩ := Option.map_eq_some_iff.mp target
          dsimp only
          split
          · exact blames_node closed references value path
              (closed _ _ here (.type found refers entry))
          · next scalar =>
              exact .breach here (.typeNotObject found refers entry (by simpa using scalar))
      | resource token =>
          rw [refers] at target
          obtain ⟨resource, entry, rfl⟩ := Option.map_eq_some_iff.mp target
          refine blames_inputs fun input member => ?_
          exact blames_node closed references input.2 _
            (closed _ _ here (.resource found refers entry member))
      | external outer => simp [refers, Reference.isLocal] at inside

/-- Following references blames places that are reached, by recursion over the references that are
not being visited yet.
-/
theorem blames_follow (closed : doc.ClosedUnderLeads reached) (mode : Mode)
    (visiting : List Reference)
    : doc.BlamesReferences mode reached (doc.follow mode visiting) := by
  intro source text path here found
  cases inside : (Reference.ofText text).isLocal with
  | false =>
      obtain ⟨outer, refers⟩ := Reference.eq_external_of_not_isLocal inside
      rw [refers, follow_external]
      cases mode with
      | component => exact .pass
      | document => exact .breach here (.outside rfl found refers)
  | true =>
      intro before breach fails
      rw [follow_local doc mode visiting path before inside] at fails
      split at fails
      · cases fails
      · next fresh =>
          have blames
              : doc.Blames mode reached
                  (doc.targetPart (doc.follow mode (.ofText text :: visiting)) (.ofText text)
                    path) := by
            refine blames_targetPart closed here found inside fun known => ?_
            have := unvisited_cons_lt known (fresh ∘ .inr)
            exact blames_follow closed mode (.ofText text :: visiting)
          cases checked : doc.targetPart (doc.follow mode (.ofText text :: visiting))
              (.ofText text) path before with
          | ok passed => simp [checked, Except.map] at fails
          | error other =>
              obtain rfl : other = breach := by
                simpa only [checked, Except.map, Except.error.injEq] using fails
              exact blames before other checked
termination_by doc.unvisited visiting

/-- What a component reaches is closed under further steps. -/
theorem closedUnderLeads_reaches (doc : Document) (component : Component)
    : doc.ClosedUnderLeads (doc.Reaches component) := by
  rintro place next ⟨entry, member, way⟩ step
  exact ⟨entry, member, way.tail step⟩

/-- A check of a component that fails reports a flaw of a place that the component reaches. -/
theorem flaw_of_preflight_error {component : Component} {error : PreflightError}
    (fails : doc.preflight component = .error error)
    : error.component = component.token
      ∧ ∃ place, doc.Reaches component place ∧ doc.Flaw .component place error.breach := by
  have closed := closedUnderLeads_reaches doc component
  unfold preflight at fails
  split at fails
  · cases fails
  · next breach checked =>
      obtain rfl := Except.error.inj fails
      refine ⟨rfl, blames_inputs (fun entry member => ?_) [] breach checked⟩
      exact blames_node closed (blames_follow closed .component []) entry.2 _
        ⟨entry, member, .refl⟩

-----------------------------------------------------------------------------------------
-- A check that passes leaves no flaw
-----------------------------------------------------------------------------------------

/-- What covered nodes lead to is covered, if known references lead to covered nodes. -/
theorem Covered.leads {known : Reference → Prop} {place next : Place} (closed : doc.Closed known)
    (covered : doc.Covered known place.node) (step : doc.Leads place next)
    : doc.Covered known next.node := by
  cases step with
  | property found member => cases covered with
    | object _ _ properties => exact properties _ found _ member
  | items found => cases covered with
    | object _ _ _ items => exact items _ found
  | values found => cases covered with
    | object _ _ _ _ values => exact values _ found
  | @type _ text token _ _ found refers target => cases covered with
    | object _ reference =>
        have behind := closed _ (reference text found (by rw [refers]; rfl))
        simpa only [TargetCovered, refers, target?, target, Option.map_some] using behind
  | @resource _ text token resource name _ _ found refers target member => cases covered with
    | object _ reference =>
        have behind := closed _ (reference text found (by rw [refers]; rfl))
        simp only [TargetCovered, refers, target?, target, Option.map_some] at behind
        exact behind _ member

/-- Whatever a component reaches is a well-formed object where its input properties are covered. -/
theorem Reaches.wellFormed {known : Reference → Prop} {component : Component} {place : Place}
    (reached : doc.Reaches component place) (closed : doc.Closed known)
    (covered : ∀ entry ∈ component.resource.inputProperties, doc.Covered known entry.2)
    : ∃ source, place.node = .object source ∧ doc.WellFormed source := by
  obtain ⟨entry, member, way⟩ := reached
  have covered : doc.Covered known place.node := by
    induction way with
    | refl => exact covered entry member
    | tail _ step ih => exact ih.leads closed step
  obtain ⟨source, object⟩ := Json.isObject_iff.mp covered.isObject
  rw [object] at covered
  exact ⟨source, object, covered.wellFormed⟩

/-- A flaw that counts for a component is one of a node that is no object or not well-formed. -/
theorem Flaw.not_wellFormed {place : Place} {breach : Breach} {source : Entries Json}
    (flaw : doc.Flaw .component place breach) (object : place.node = .object source)
    : ¬ doc.WellFormed source := by
  intro wellFormed
  cases flaw with
  | node scalar =>
      cases object
      cases scalar
  | reference found unreadable =>
      cases object
      obtain ⟨text, rfl, _⟩ := wellFormed.reference _ found
      cases unreadable
  | unresolvedType found refers missing =>
      cases object
      have resolves := wellFormed.resolves found
      rw [refers] at resolves
      obtain ⟨source, target⟩ := resolves
      exact nomatch missing.symm.trans target
  | typeNotObject found refers target scalar =>
      cases object
      have resolves := wellFormed.resolves found
      rw [refers] at resolves
      obtain ⟨source, other⟩ := resolves
      obtain rfl := Option.some.inj (target.symm.trans other)
      cases scalar
  | unresolvedResource found refers missing =>
      cases object
      have resolves := wellFormed.resolves found
      rw [refers] at resolves
      obtain ⟨resource, target⟩ := resolves
      exact nomatch missing.symm.trans target
  | outside strict => cases strict
  | properties found scalar =>
      cases object
      obtain ⟨members, rfl, _⟩ := wellFormed.properties _ found
      cases scalar
  | property found member scalar =>
      cases object
      obtain ⟨members, same, objects⟩ := wellFormed.properties _ found
      cases same
      exact nomatch (objects _ member).symm.trans scalar
  | items found scalar =>
      cases object
      exact nomatch (wellFormed.items _ found).symm.trans scalar
  | values found scalar =>
      cases object
      exact nomatch (wellFormed.values _ found).symm.trans scalar

/-- A component passes if every node that it reaches is a well-formed object: a breach would be a
flaw of one of them.
-/
theorem preflight_of_wellFormed {component : Component}
    (sound
      : ∀ place, doc.Reaches component place
          → ∃ source, place.node = .object source ∧ doc.WellFormed source)
    : doc.preflight component = .ok () := by
  cases checked : doc.preflight component with
  | ok => rfl
  | error error =>
      obtain ⟨_, place, reached, flaw⟩ := flaw_of_preflight_error checked
      obtain ⟨source, object, wellFormed⟩ := sound place reached
      exact (flaw.not_wellFormed object wellFormed).elim

-----------------------------------------------------------------------------------------
-- The check is exact
-----------------------------------------------------------------------------------------

/-- A component passes exactly if every node that it reaches is a well-formed object. If it does not
pass, the error names the component and a flaw that one of these nodes has, with the path of some
way there.
-/
structure PreflightExact (doc : Document) (component : Component) : Prop where
  accepts
    : doc.preflight component = .ok ()
      ↔ ∀ place, doc.Reaches component place
          → ∃ source, place.node = .object source ∧ doc.WellFormed source
  rejects
    : ∀ error, doc.preflight component = .error error
        → error.component = component.token
          ∧ ∃ place, doc.Reaches component place ∧ doc.Flaw .component place error.breach

/-- The check of shapes is exact. Witness: references that have passed are closed under what they
lead to, so they cover whatever the component reaches; and every breach is a flaw that was reached.
-/
theorem preflightExact (doc : Document) (component : Component) : doc.PreflightExact component where
  accepts := by
    constructor
    · intro passes place reached
      obtain ⟨known, closed, covered⟩ := preflight_closed passes
      exact reached.wellFormed closed covered
    · exact preflight_of_wellFormed
  rejects _ fails := flaw_of_preflight_error fails

end ComponentCrd.Document
