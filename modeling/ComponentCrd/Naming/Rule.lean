import ComponentCrd.Text.Basic

/-! The rules for the names of a custom resource: labels and subdomains of the domain name system,
and kinds. All three admit ASCII characters only.
-/

namespace ComponentCrd.Naming

/-- The most characters of a label. -/
def longestLabel : Nat := 63

/-- The most characters of a subdomain. -/
def longestSubdomain : Nat := 253

/-- Letters in lower case and digits. -/
def isLabelEnd (c : Char) : Bool := c.isLower || c.isDigit

/-- What a label may hold between its ends: also dashes. -/
def isLabelInner (c : Char) : Bool := isLabelEnd c || c == '-'

/-- Whether a text has the form of a label: lower case letters, digits and dashes, with a letter
or digit at both ends.
-/
def hasLabelForm (name : List Char) : Bool :=
  name.all isLabelInner && name.head?.any isLabelEnd && name.getLast?.any isLabelEnd

/-- Whether a text is a label. -/
def isLabel (name : List Char) : Bool := name.length ≤ longestLabel && hasLabelForm name

/-- Whether a text is a subdomain: labels between dots. -/
def isSubdomain (name : List Char) : Bool :=
  name.length ≤ longestSubdomain && (Text.segments '.' name).all isLabel

/-- Whether a text is a kind: a letter, then letters and digits. -/
def isKind (name : List Char) : Bool := name.head?.any Char.isAlpha && name.all Char.isAlphanum

end ComponentCrd.Naming
