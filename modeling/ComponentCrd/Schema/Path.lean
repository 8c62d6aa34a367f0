/-! Paths of schema nodes below the specification of a component. References add nothing to a
path.
-/

namespace ComponentCrd

/-- The place of a schema node: the specification itself, a property, the items of a list, or the
values of a map.
-/
inductive Path where
  | spec
  | property (parent : Path) (name : String)
  | items (parent : Path)
  | values (parent : Path)
deriving DecidableEq, Repr

/-- The text of a path. -/
def Path.text : Path → String
  | .spec => "spec"
  | .property parent name => parent.text ++ "." ++ name
  | .items parent => parent.text ++ "[]"
  | .values parent => parent.text ++ ".*"

end ComponentCrd
