import ComponentCrd.Domain.Label
import ComponentCrd.Text.Basic

/-! Names of domains in ASCII characters, and those of all scripts that stand for them. -/

namespace ComponentCrd.Domain

/-- The text with its characters spelled as a domain has them, composed; none if one is refused.
-/
def spelled? (text : List Char) : Option (List Char) :=
  if text.any isRefused then none
  else some (Text.composed ((text.filter (!isIgnored ·)).flatMap spelling))

/-- The ASCII form of a domain. If a label is written from right to left, the directions of every
label have to go together.
-/
def ascii? (text : List Char) : Option (List Char) := do
  let spelled ← spelled? text
  let labels ← (Text.segments '.' spelled).mapM decodedLabel?
  guard (!(labels.any hasRightToLeft) || labels.all directionsFit)
  let labels ← labels.mapM asciiLabel?
  return ['.'].intercalate labels

end ComponentCrd.Domain
