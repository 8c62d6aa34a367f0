import ComponentCrd.Json.Binary64

/-! JSON values. An object is the list of its members in increasing order of their names, so that
equal objects are equal lists and every traversal has one order.
-/

namespace ComponentCrd

/-- A JSON number keeps apart the whole numbers that were written as such and the doubles. -/
inductive Number where
  | integer (value : Int)
  | float (value : Binary64)
deriving DecidableEq, Repr

/-- A JSON value. -/
inductive Json where
  | null
  | bool (value : Bool)
  | number (value : Number)
  | string (value : String)
  | array (items : List Json)
  | object (members : List (String × Json))
deriving Repr, Inhabited

/-- Named entries, such as the members of an object or the types of a package. -/
abbrev Entries (α : Type) := List (String × α)

namespace Entries

variable {α : Type}

/-- Whether a name has an entry. -/
def has (entries : Entries α) (name : String) : Bool := (entries.lookup name).isSome

/-- The names, in order. -/
def names (entries : Entries α) : List String := entries.map Prod.fst

/-- Adds an entry at its place in the order of names, in place of an earlier one of the name. -/
def put (name : String) (value : α) : Entries α → Entries α
  | [] => [(name, value)]
  | (key, other) :: rest =>
      if name < key then (name, value) :: (key, other) :: rest
      else if name = key then (name, value) :: rest
      else (key, other) :: put name value rest

/-- The entries in increasing order of their names; the last one of each name counts. -/
def ofList (entries : List (String × α)) : Entries α :=
  entries.foldl (fun sorted (name, value) => put name value sorted) []

/-- The names increase strictly, so no name has two entries. -/
def Increasing (entries : Entries α) : Prop := entries.Pairwise (fun a b => a.1 < b.1)

/-- A value that is found is the value of one of the entries. -/
theorem mem_of_lookup {name : String} {value : α} {entries : Entries α}
    (h : entries.lookup name = some value)
    : (name, value) ∈ entries := by
  obtain ⟨before, after, rfl, _⟩ := List.lookup_eq_some_iff.mp h
  simp

/-- A name has an entry exactly if it is one of the names. -/
theorem has_iff_mem_names {name : String} {entries : Entries α}
    : entries.has name ↔ name ∈ entries.names := by
  unfold has names
  induction entries with
  | nil => simp
  | cons entry rest ih =>
      rw [List.lookup_cons, List.map_cons, List.mem_cons, ← ih]
      by_cases same : name = entry.1
      · simp [same]
      · have differs : (name == entry.1) = false := by simp [same]
        simp only [differs, same, false_or]

/-- A value that is found is smaller than the list it is found in. -/
theorem sizeOf_lt_of_lookup [SizeOf α] {name : String} {value : α} {entries : Entries α}
    (h : entries.lookup name = some value)
    : sizeOf value < sizeOf entries := by
  have hm := List.sizeOf_lt_of_mem (mem_of_lookup h)
  simp only [Prod.mk.sizeOf_spec] at hm
  omega

/-- The members of an object that is found are fewer, counted with the object around them. -/
theorem sizeOf_members_lt {name : String} {members : List (String × Json)} {entries : Entries Json}
    (h : entries.lookup name = some (.object members))
    : 1 + sizeOf members < sizeOf entries := by
  simpa only [Json.object.sizeOf_spec] using sizeOf_lt_of_lookup h

end Entries

namespace Json

/-- The members of an object; a value of another kind has none to speak of. -/
def members? : Json → Option (Entries Json)
  | .object members => some members
  | _ => none

/-- The text of a string. -/
def string? : Json → Option String
  | .string text => some text
  | _ => none

/-- Whether the value is an object. -/
def isObject (value : Json) : Bool := value.members?.isSome

/-- An object is what has members. -/
theorem isObject_iff {value : Json} : value.isObject ↔ ∃ members, value = .object members := by
  cases value <;> simp [isObject, members?]

/-- What has no members is no object. -/
theorem isObject_eq_false {value : Json} (scalar : ∀ members, value ≠ .object members)
    : value.isObject = false := by
  rw [Bool.eq_false_iff]
  exact fun object => (isObject_iff.mp object).elim scalar

/-- The texts of a list that holds strings only. -/
def strings? : Json → Option (List String)
  | .array items => items.mapM string?
  | _ => none

/-- A list of strings. -/
def ofStrings (texts : List String) : Json := .array (texts.map .string)

/-- The texts of a list of strings are read back. -/
theorem strings?_ofStrings (texts : List String) : (ofStrings texts).strings? = some texts := by
  unfold ofStrings strings?
  induction texts with
  | nil => rfl
  | cons text rest ih =>
      simp only [List.map_cons, List.mapM_cons, ih]
      rfl

/-- A list of strings is read back also where an empty one is left out. -/
theorem strings?_leftOut (texts : List String)
    : ((if texts.isEmpty then none else some (ofStrings texts)).bind strings?).getD [] = texts := by
  cases texts with
  | nil => rfl
  | cons text rest =>
      rw [if_neg (by simp), Option.bind_some, strings?_ofStrings, Option.getD_some]

end Json

end ComponentCrd
