import ComponentCrd.Source.Url

/-! Where an input comes from: a web address, or else a file. -/

namespace ComponentCrd.Source

/-- The location of an input. -/
inductive Location where
  | url (address : Url)
  | path (name : String)
deriving DecidableEq, Repr

namespace Location

/-- Whether a text begins with a drive letter, a colon and a slash, and so is a path. -/
def isDrivePath : List Char → Bool
  | letter :: ':' :: slash :: _ => letter.isAlpha && Url.isSlash slash
  | _ => false

/-- The location that a text stands for. -/
def ofText (text : String) : Location :=
  if isDrivePath text.toList then
    .path text
  else
    match Url.ofText? text with
    | some address => .url address
    | none => .path text

/-- The location as people may see it. -/
def display : Location → String
  | .url address => address.sanitized
  | .path name => name

end Location

end ComponentCrd.Source
