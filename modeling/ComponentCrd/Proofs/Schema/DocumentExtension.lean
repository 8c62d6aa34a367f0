import ComponentCrd.Proofs.Schema.Agreement
import ComponentCrd.Proofs.Schema.PreflightExactness
import ComponentCrd.Proofs.Schema.PreflightSafety

/-! What a component does not refer to makes no difference to it. A component that passes the check
of shapes meets only references that lead to something, so a document with more types and
resources, whatever they are, answers every one of them in the same way.
-/

namespace ComponentCrd.Document

open Preflight Relation Schema

/-- Every type and every resource of the document is one of the larger document. -/
structure Extends (doc larger : Document) : Prop where
  types : ∀ token node, doc.type? token = some node → larger.type? token = some node
  resources
    : ∀ token resource, doc.resource? token = some resource
        → larger.resource? token = some resource

/-- A document is extended by further entries behind its own. -/
theorem extends_append (doc : Document) (resources : Entries Resource) (types : Entries Json)
    : doc.Extends
        { doc with resources := doc.resources ++ resources, types := doc.types ++ types } := by
  constructor
  · intro token node found
    unfold type? at found ⊢
    rw [List.lookup_append, found, Option.some_or]
  · intro token resource found
    unfold resource? at found ⊢
    rw [List.lookup_append, found, Option.some_or]

variable {doc larger : Document} {known : Reference → Prop} {component : Component}

-----------------------------------------------------------------------------------------
-- What is covered stays covered
-----------------------------------------------------------------------------------------

/-- A reference that leads somewhere leads to the same in a larger document. -/
theorem Extends.target? (extended : doc.Extends larger) {reference : Reference} {target : Target}
    (found : doc.target? reference = some target)
    : larger.target? reference = some target := by
  cases reference with
  | type token =>
      obtain ⟨node, entry, rfl⟩ := Option.map_eq_some_iff.mp found
      exact Option.map_eq_some_iff.mpr ⟨node, extended.types token node entry, rfl⟩
  | resource token =>
      obtain ⟨resource, entry, rfl⟩ := Option.map_eq_some_iff.mp found
      exact Option.map_eq_some_iff.mpr ⟨resource, extended.resources token resource entry, rfl⟩
  | external text => cases found

/-- The node behind a reference stays the same in a larger document. -/
theorem Extends.standIn? (extended : doc.Extends larger) {reference : Reference} {node : Json}
    (found : doc.standIn? reference = some node)
    : larger.standIn? reference = some node := by
  unfold Document.standIn? at found ⊢
  split at found
  · next target => simpa only [extended.target? target] using found
  · next target => simpa only [extended.target? target] using found
  · cases found

theorem Resolves.extend {reference : Reference} (resolves : doc.Resolves reference)
    (extended : doc.Extends larger)
    : larger.Resolves reference := by
  cases reference with
  | type token =>
      obtain ⟨source, found⟩ := resolves
      exact ⟨source, extended.types token _ found⟩
  | resource token =>
      obtain ⟨resource, found⟩ := resolves
      exact ⟨resource, extended.resources token _ found⟩
  | external text => trivial

/-- A covered node is covered in a larger document, by induction over the nodes below it. -/
theorem Covered.extend {node : Json} (covered : doc.Covered known node)
    (extended : doc.Extends larger)
    : larger.Covered known node := by
  induction covered with
  | object wellFormed reference _ _ _ properties items values =>
      refine .object ⟨?_, wellFormed.properties, wellFormed.items, wellFormed.values⟩ reference
        properties items values
      intro value found
      obtain ⟨text, rfl, resolves⟩ := wellFormed.reference value found
      exact ⟨text, rfl, resolves.extend extended⟩

/-- References that are closed under what they lead to are so in a larger document. -/
theorem Closed.extend (closed : doc.Closed known) (extended : doc.Extends larger)
    : larger.Closed known := by
  intro reference isKnown
  have covered := closed reference isKnown
  unfold TargetCovered at covered ⊢
  cases found : doc.target? reference with
  | none => simp only [found] at covered
  | some target =>
      rw [extended.target? found]
      rw [found] at covered
      cases target with
      | type node => exact Covered.extend covered extended
      | resource resource =>
          intro entry member
          exact (covered entry member).extend extended

-----------------------------------------------------------------------------------------
-- Covered nodes are translated alike
-----------------------------------------------------------------------------------------

/-- A covered node is translated alike in a larger document. By recursion over the references that
are not on the trail: those that a covered node meets are known, so the node behind them is the same
and covered.
-/
theorem ofNode_extend (extended : doc.Extends larger) (closed : doc.Closed known)
    (trail : List Reference) (place : Place) (covered : doc.Covered known place.node)
    : ofNode (larger.resolve trail) place.node place.path
      = ofNode (doc.resolve trail) place.node place.path := by
  have agrees
      : AgreesAt (fun _ => False) (larger.resolve trail) (doc.resolve trail) place.path place.node
          place.node := by
    apply agreesAt_of_references (fun _ impossible => impossible.elim) place
    intro source origin reference way refers
    refine .inr ?_
    cases inside : reference.isLocal with
    | false =>
        obtain ⟨text, rfl⟩ := Reference.eq_external_of_not_isLocal inside
        rw [resolve_external, resolve_external]
    | true =>
        have met : doc.Covered known (.object source) :=
          covered.proceeds closed (way.lift id fun _ _ => .below)
        have isKnown := met.knows refers inside
        obtain ⟨node, found⟩ := closed.exists_standIn isKnown
        rw [resolve_local doc trail origin inside, resolve_local larger trail origin inside]
        split
        · rfl
        · next fresh =>
            simp only [found, extended.standIn? found]
            have := unvisited_cons_lt (mem_references_of_standIn? found) fresh
            exact ofNode_extend extended closed (reference :: trail) ⟨node, origin⟩
              (closed.covered_standIn isKnown found)
  exact agrees.eq fun _ _ impossible => impossible
termination_by doc.unvisited trail

/-- Covered properties are translated alike in a larger document, by induction over their list. -/
theorem ofProperties_extend (extended : doc.Extends larger) (closed : doc.Closed known)
    (properties : Entries Json) (path : Path)
    (covered : ∀ entry ∈ properties, doc.Covered known entry.2)
    : ofProperties (larger.resolve []) properties path
      = ofProperties (doc.resolve []) properties path := by
  induction properties with
  | nil => rw [ofProperties, ofProperties]
  | cons entry rest ih =>
      have first := ofNode_extend extended closed [] ⟨entry.2, .property path entry.1⟩
        (covered entry (.head _))
      have others := ih fun other member => covered other (.tail _ member)
      rw [ofProperties_cons, ofProperties_cons, others]
      simp only [first]

/-- A component that passes the check of shapes passes it in every larger document, where it is
translated to the same schema with the same issues, or refused with the same error.
-/
theorem unchanged_of_extends (extended : doc.Extends larger)
    (passes : doc.preflight component = .ok ())
    : larger.preflight component = .ok ()
      ∧ larger.translate component = doc.translate component := by
  obtain ⟨known, closed, covered⟩ := preflight_closed passes
  constructor
  · refine preflight_of_wellFormed fun place reached => ?_
    exact reached.wellFormed (closed.extend extended) fun entry member =>
      (covered entry member).extend extended
  · simp only [translate, ofProperties_extend extended closed _ .spec covered]

/-- The linked document with types that are malformed, cyclic or lead nowhere, and with a resource
that refers to one of them.
-/
def crowdedDocument : Document :=
  { linkedDocument with
    resources := linkedDocument.resources ++ [("p:i:Vault", {
      inputProperties := [("loop", .object [("$ref", .string "#/types/p:i:Loop")])] })]
    types := linkedDocument.types ++ [
      ("p:i:Loop", .object [
        ("properties", .object [("self", .object [("$ref", .string "#/types/p:i:Loop")])]),
        ("type", .string "object")]),
      ("p:i:Lost", .object [("$ref", .string "#/types/p:i:Nowhere")]),
      ("p:i:Wrong", .string "object")] }

/-- A component of the linked document is the same in the crowded one. -/
theorem linkedComponent_unchanged
    : linkedDocument.Extends crowdedDocument
      ∧ linkedDocument.preflight linkedComponent = .ok ()
      ∧ crowdedDocument.preflight linkedComponent = .ok ()
      ∧ crowdedDocument.translate linkedComponent = linkedDocument.translate linkedComponent := by
  have extended : linkedDocument.Extends crowdedDocument := extends_append linkedDocument _ _
  exact ⟨extended, linkedComponent_passes, unchanged_of_extends extended linkedComponent_passes⟩

end ComponentCrd.Document
