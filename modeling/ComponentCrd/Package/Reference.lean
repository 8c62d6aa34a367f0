import ComponentCrd.Package.Document

/-! References from a schema node to a type or a resource of the package, or to somewhere else,
and what they lead to in a document.
-/

namespace ComponentCrd

/-- Where a reference leads: to a type or a resource of the package, or outside it. -/
inductive Reference where
  | type (token : String)
  | resource (token : String)
  | external (text : String)
deriving DecidableEq, Repr

namespace Reference

/-- What every reference to a type of the package begins with. -/
def typesMark : String := "#/types/"

/-- What every reference to a resource of the package begins with. -/
def resourcesMark : String := "#/resources/"

/-- What follows the mark in a text that begins with it. -/
def after? (mark text : String) : Option String :=
  if mark.toList.isPrefixOf text.toList then
    some (String.ofList (text.toList.drop mark.toList.length))
  else
    none

/-- Where the text of a reference leads. -/
def ofText (text : String) : Reference :=
  match after? typesMark text with
  | some token => .type token
  | none =>
      match after? resourcesMark text with
      | some token => .resource token
      | none => .external text

/-- The text of a reference. -/
def text : Reference → String
  | .type token => typesMark ++ token
  | .resource token => resourcesMark ++ token
  | .external text => text

/-- What follows the mark in a text made of the mark and something more. -/
theorem after?_append (mark rest : String) : after? mark (mark ++ rest) = some rest := by
  simp [after?, String.toList_append, String.ofList_toList]

/-- Whether a reference stays inside the package. -/
def isLocal : Reference → Bool
  | .external _ => false
  | _ => true

/-- A reference that does not stay inside the package is an external one. -/
theorem eq_external_of_not_isLocal {reference : Reference} (outside : reference.isLocal = false)
    : ∃ text, reference = .external text := by
  cases reference with
  | type token => cases outside
  | resource token => cases outside
  | external text => exact ⟨text, rfl⟩

/-- The token a reference names inside the package. -/
def token? : Reference → Option String
  | .type token => some token
  | .resource token => some token
  | .external _ => none

/-- The text of a reference inside the package leads where the reference does. -/
theorem ofText_text {reference : Reference} (inside : reference.isLocal)
    : ofText reference.text = reference := by
  cases reference with
  | type token => simp only [ofText, text, after?_append]
  | resource token =>
      have other : after? typesMark (resourcesMark ++ token) = none := by
        rw [after?, String.toList_append]
        rfl
      simp only [ofText, text, other, after?_append]
  | external text => cases inside

end Reference

/-- What a reference leads to: the node of a type, or a resource. -/
inductive Target where
  | type (node : Json)
  | resource (resource : Resource)
deriving Repr

namespace Document

/-- What a reference leads to in a document. -/
def target? (doc : Document) : Reference → Option Target
  | .type token => (doc.type? token).map .type
  | .resource token => (doc.resource? token).map .resource
  | .external _ => none

/-- The references that lead to something in a document. -/
def references (doc : Document) : List Reference :=
  doc.types.names.map .type ++ doc.resources.names.map .resource

/-- A reference that leads to something is one of the document's references. -/
theorem mem_references_of_target? {doc : Document} {reference : Reference} {target : Target}
    (h : doc.target? reference = some target)
    : reference ∈ doc.references := by
  cases reference with
  | type token =>
      obtain ⟨node, hn, _⟩ := Option.map_eq_some_iff.mp h
      have hm := List.mem_map_of_mem (f := Prod.fst) (Entries.mem_of_lookup hn)
      exact List.mem_append_left _ (List.mem_map_of_mem hm)
  | resource token =>
      obtain ⟨resource, hr, _⟩ := Option.map_eq_some_iff.mp h
      have hm := List.mem_map_of_mem (f := Prod.fst) (Entries.mem_of_lookup hr)
      exact List.mem_append_right _ (List.mem_map_of_mem hm)
  | external text => simp [target?] at h

/-- How many of the document's references are not among the given ones. -/
def unvisited (doc : Document) (visited : List Reference) : Nat :=
  doc.references.countP (fun reference => !visited.contains reference)

/-- Visiting one more of the document's references leaves fewer of them. -/
theorem unvisited_cons_lt {doc : Document} {reference : Reference} {visited : List Reference}
    (mem : reference ∈ doc.references) (fresh : reference ∉ visited)
    : doc.unvisited (reference :: visited) < doc.unvisited visited := by
  have kept (r : Reference)
      : (!(reference :: visited).contains r) = true → (!visited.contains r) = true := by
    simp only [List.contains_cons, Bool.not_or, Bool.and_eq_true]
    exact And.right
  unfold unvisited
  generalize doc.references = all at mem
  induction all with
  | nil => cases mem
  | cons head tail ih =>
      have hle := List.countP_mono_left (l := tail) fun r _ => kept r
      rcases List.mem_cons.mp mem with rfl | later
      · simp only [List.countP_cons, List.contains_cons, beq_self_eq_true, Bool.true_or,
          Bool.not_true, Bool.false_eq_true, if_false]
        simp only [List.contains_eq_mem, fresh, decide_false, Bool.not_false, if_true]
        simp only [List.contains_cons] at hle
        simp only [List.contains_eq_mem] at hle
        omega
      · simp only [List.countP_cons]
        refine Nat.add_lt_add_of_lt_of_le (ih later) ?_
        split
        · next counted => exact Nat.le_of_eq (if_pos (kept head counted)).symm
        · exact Nat.zero_le _

end Document

end ComponentCrd
