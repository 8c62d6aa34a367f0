import ComponentCrd.Package.Document

/-! The component of a package to work on: the one asked for, or the only one there is. -/

namespace ComponentCrd

/-- A component resource and its token. -/
structure Component where
  token : String
  resource : Resource
deriving Repr, Inhabited

/-- Why there is no component to work on. -/
inductive SelectionError where
  | noComponents
  | notFound (requested : String) (available : List String)
  | ambiguous (available : List String)
deriving DecidableEq, Repr

/-- The wording of a selection error. -/
def SelectionError.message : SelectionError → String
  | .noComponents => "no component resources found in schema"
  | .notFound requested available =>
      "component \"" ++ requested ++ "\" not found; available components: "
        ++ ", ".intercalate available
  | .ambiguous available =>
      "multiple components found; provide --component from: " ++ ", ".intercalate available

namespace Document

/-- The components of a document, in the order of their tokens. -/
def components (doc : Document) : List Component :=
  (doc.resources.filter (·.2.isComponent)).map fun (token, resource) => ⟨token, resource⟩

/-- The tokens of the components, in order. -/
def componentTokens (doc : Document) : List String := doc.components.map (·.token)

/-- The component of the requested token, or the only component if none is requested. -/
def select (doc : Document) (requested : String) : Except SelectionError Component :=
  match doc.components with
  | [] => .error .noComponents
  | first :: others =>
      if requested ≠ "" then
        match doc.resource? requested with
        | some resource =>
            if resource.isComponent then .ok ⟨requested, resource⟩
            else .error (.notFound requested doc.componentTokens)
        | none => .error (.notFound requested doc.componentTokens)
      else if others.isEmpty then
        .ok first
      else
        .error (.ambiguous doc.componentTokens)

/-- The selected component is one of the components. -/
theorem mem_components_of_select {doc : Document} {requested : String} {component : Component}
    (selects : doc.select requested = .ok component)
    : component ∈ doc.components := by
  unfold select at selects
  split at selects
  · cases selects
  · next first others components =>
      split at selects
      · split at selects
        · next resource found =>
            split at selects
            · next isComponent =>
                obtain rfl := Except.ok.inj selects
                have member : (requested, resource) ∈ doc.resources :=
                  Entries.mem_of_lookup found
                exact List.mem_map_of_mem (List.mem_filter.mpr ⟨member, isComponent⟩)
            · cases selects
        · cases selects
      · split at selects
        · obtain rfl := Except.ok.inj selects
          rw [components]
          exact .head _
        · cases selects

end Document

end ComponentCrd
