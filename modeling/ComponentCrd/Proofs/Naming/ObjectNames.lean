import ComponentCrd.Manifest.Definition
import ComponentCrd.Proofs.Manifest.QuotedBodies
import ComponentCrd.Proofs.Naming.DerivedIdentities
import ComponentCrd.Text.Basic

/-! The name of a definition as an object joins two fields of the identity, each of which keeps its
own rule. Its parts between dots are therefore labels, but the name may be too long for a subdomain:
each of the fields has its limit, and the name has none. A derived group leaves room for every
plural. Quotes change nothing in such a name, and so definitions hold it as it is.
-/

namespace ComponentCrd

-----------------------------------------------------------------------------------------
-- Segments and bytes of texts
-----------------------------------------------------------------------------------------

namespace Text

theorem segments_ne_nil (separator : Char) (text : List Char)
    : segments separator text ≠ [] := by
  cases text with
  | nil => simp [segments]
  | cons c rest =>
      rw [segments]
      split
      · simp
      · split <;> simp

variable {separator : Char}

/-- The segments around a separator are those before it and those behind it. -/
theorem segments_append (before behind : List Char)
    : segments separator (before ++ separator :: behind)
      = segments separator before ++ segments separator behind := by
  induction before with
  | nil => simp [segments]
  | cons c rest ih =>
      obtain ⟨first, others, cut⟩ := List.exists_cons_of_ne_nil (segments_ne_nil separator rest)
      rw [List.cons_append, segments, segments, ih, cut]
      split <;> rfl

/-- A text without separators is its only segment. -/
theorem segments_of_not_mem {text : List Char} (absent : separator ∉ text)
    : segments separator text = [text] := by
  induction text with
  | nil => rfl
  | cons c rest ih =>
      simp only [List.mem_cons, not_or] at absent
      rw [segments, if_neg (Ne.symm absent.1), ih absent.2]

/-- The segments hold all characters but the separators. -/
theorem mem_segments (separator : Char) {c : Char} {text : List Char} (member : c ∈ text)
    : c = separator ∨ ∃ segment ∈ segments separator text, c ∈ segment := by
  induction text with
  | nil => cases member
  | cons first rest ih =>
      obtain ⟨start, others, cut⟩ := List.exists_cons_of_ne_nil (segments_ne_nil separator rest)
      rw [cut] at ih
      rw [segments, cut]
      split
      · next separates =>
          obtain rfl | later := List.mem_cons.mp member
          · exact .inl separates
          · exact (ih later).imp_right fun ⟨segment, among, inside⟩ =>
              ⟨segment, List.mem_cons_of_mem _ among, inside⟩
      · obtain rfl | later := List.mem_cons.mp member
        · exact .inr ⟨_, List.mem_cons_self, List.mem_cons_self⟩
        · refine (ih later).imp_right fun ⟨segment, among, inside⟩ => ?_
          obtain rfl | behind := List.mem_cons.mp among
          · exact ⟨_, List.mem_cons_self, List.mem_cons_of_mem _ inside⟩
          · exact ⟨segment, List.mem_cons_of_mem _ behind, inside⟩

/-- Characters of one byte each take as many bytes as they are. -/
theorem length_toUtf8 {text : String} (single : ∀ c ∈ text.toList, c.utf8Size = 1)
    : (toUtf8 text).length = text.toList.length := by
  have sizes : text.toList.map (fun c => (String.utf8EncodeChar c).length)
      = text.toList.map fun _ => 1 :=
    List.map_congr_left fun c member => (String.length_utf8EncodeChar c).trans (single c member)
  rw [toUtf8, List.length_flatMap, sizes, List.map_const', List.sum_replicate_nat, Nat.mul_one]

theorem utf8Size_of_isAscii {c : Char} (ascii : Yaml.Reader.IsAscii c) : c.utf8Size = 1 := by
  rw [Char.utf8Size_eq_one_iff, UInt32.le_iff_toNat_le]
  exact Nat.le_of_lt_succ (Nat.lt_succ_of_lt ascii.2)

end Text

-----------------------------------------------------------------------------------------
-- Labels
-----------------------------------------------------------------------------------------

namespace Naming

variable {name : List Char}

theorem inner_of_isLabel (label : isLabel name) : ∀ c ∈ name, isLabelInner c := by
  simp only [isLabel, hasLabelForm, Bool.and_eq_true, List.all_eq_true] at label
  exact label.2.1.1

theorem length_of_isLabel (label : isLabel name) : name.length ≤ longestLabel := by
  simp only [isLabel, Bool.and_eq_true, decide_eq_true_eq] at label
  exact label.1

/-- What a label may hold is one segment of a name. -/
theorem segments_of_inner (inner : ∀ c ∈ name, isLabelInner c) : Text.segments '.' name = [name] :=
  Text.segments_of_not_mem fun point => absurd (inner '.' point) (by decide)

/-- A letter, a digit or a dash has no meaning between quotes. -/
theorem ascii_of_inner {c : Char} (inner : isLabelInner c)
    : Yaml.Reader.IsAscii c ∧ c ≠ '"' ∧ c ≠ '\\' := by
  simp only [isLabelInner, isLabelEnd, Bool.or_eq_true, beq_iff_eq] at inner
  obtain (lower | digit) | rfl := inner
  · have alpha : c.isAlpha := (Bool.or_eq_true _ _).mpr (.inr lower)
    exact Yaml.Reader.isAscii_of_isAlphanum ((Bool.or_eq_true _ _).mpr (.inl alpha))
  · exact Yaml.Reader.isAscii_of_isAlphanum ((Bool.or_eq_true _ _).mpr (.inr digit))
  · exact ⟨⟨by decide, by decide⟩, by decide, by decide⟩

/-- A key holds nothing but what a label may hold. -/
theorem inner_groupKeyFrom {begun due : Bool} {text : List Char}
    : ∀ c ∈ groupKeyFrom begun due text, isLabelInner c := by
  induction text generalizing begun due with
  | nil => simp [groupKeyFrom]
  | cons first rest ih =>
      rw [groupKeyFrom]
      split
      · next letter =>
          simp only [List.mem_append, List.mem_cons]
          rintro c (dash | rfl | later)
          · obtain rfl : c = '-' := by
              split at dash
              · exact List.mem_singleton.mp dash
              · cases dash
            decide
          · simp [isLabelInner, letter]
          · exact ih c later
      · exact ih

/-- Labels and the dots between them have no meaning between quotes. -/
theorem ascii_of_labels (labels : ∀ segment ∈ Text.segments '.' name, isLabel segment)
    : ∀ c ∈ name, Yaml.Reader.IsAscii c ∧ c ≠ '"' ∧ c ≠ '\\' := by
  intro c member
  obtain rfl | ⟨segment, among, inside⟩ := Text.mem_segments '.' member
  · exact ⟨⟨by decide, by decide⟩, by decide, by decide⟩
  · exact ascii_of_inner (inner_of_isLabel (labels segment among) c inside)

theorem length_toUtf8_of_labels {text : String}
    (labels : ∀ segment ∈ Text.segments '.' text.toList, isLabel segment)
    : (Text.toUtf8 text).length = text.toList.length := by
  exact Text.length_toUtf8 fun c member =>
    Text.utf8Size_of_isAscii (ascii_of_labels labels c member).1

/-- A subdomain is labels between dots that take few bytes in all. -/
theorem isSubdomain_iff {text : String}
    : isSubdomain text.toList
      ↔ (Text.toUtf8 text).length ≤ longestSubdomain
        ∧ ∀ segment ∈ Text.segments '.' text.toList, isLabel segment := by
  simp only [isSubdomain, Bool.and_eq_true, decide_eq_true_eq, List.all_eq_true]
  refine and_congr_left fun labels => ?_
  rw [length_toUtf8_of_labels labels]

end Naming

-----------------------------------------------------------------------------------------
-- Names in definitions
-----------------------------------------------------------------------------------------

namespace Definition

open Yaml

/-- What stands before the name of a definition. -/
def beforeName : String :=
  "apiVersion: apiextensions.k8s.io/v1\nkind: CustomResourceDefinition\nmetadata:\n  name: \""

/-- What stands behind the name of a definition, before the lines of its specification. -/
def behindName : String := "\"\nspec:\n"

/-- A document with a quoted name and a specification, up to the lines of the specification. -/
theorem document_named (name : List Char) (entry : String × Node) (rest : List (String × Node))
    : (Node.ofEntries [
          ("apiVersion", .ofString "apiextensions.k8s.io/v1"),
          ("kind", .ofString "CustomResourceDefinition"),
          ("metadata", .ofEntries [("name", .scalar ('"' :: (name ++ ['"'])))]),
          ("spec", .ofEntries (entry :: rest))]).document.toList
      = beforeName.toList ++ name ++ behindName.toList
          ++ ((Node.ofEntries (entry :: rest)).lines.map Node.indented).flatMap (· ++ ['\n']) := by
  have version : scalarOf "apiextensions.k8s.io/v1" = "apiextensions.k8s.io/v1".toList := by decide
  have kind : scalarOf "CustomResourceDefinition" = "CustomResourceDefinition".toList := by decide
  simp [Node.document, Node.ofEntries, Node.ofString, Node.inline?, Node.lines, Node.entryLines,
    Node.indented, version, kind, beforeName, behindName]

/-- Where quotes change nothing in a name, every schema but null has a definition that begins with
the name as it is.
-/
theorem exists_render_named {identity : Identity} {spec : Json}
    (verbatim : doubleQuoted identity.objectName = '"' :: (identity.objectName.toList ++ ['"']))
    (schema : spec ≠ .null)
    : ∃ yaml,
        render identity spec = .ok yaml
        ∧ (beforeName ++ identity.objectName ++ behindName).toList <+: yaml.toList := by
  refine ⟨(node identity spec).document, render_of_ne_null schema, ?_⟩
  rw [String.toList_append, String.toList_append, node, Node.ofQuoted, verbatim, document_named]
  exact List.prefix_append _ _

end Definition

namespace Identity

-----------------------------------------------------------------------------------------
-- Names of objects
-----------------------------------------------------------------------------------------

theorem toList_objectName (identity : Identity)
    : identity.objectName.toList = identity.plural.toList ++ '.' :: identity.group.toList := by
  simp [objectName, String.toList_append]

/-- The labels of an object's name are the plural and the labels of the group. -/
theorem segments_objectName {identity : Identity} (label : Naming.isLabel identity.plural.toList)
    : Text.segments '.' identity.objectName.toList
      = identity.plural.toList :: Text.segments '.' identity.group.toList := by
  rw [toList_objectName, Text.segments_append,
    Naming.segments_of_inner (Naming.inner_of_isLabel label)]
  rfl

theorem length_default_group : default.group.toList.length ≤ Naming.longestLabel + 20 := by decide

/-- A key that is not too long for a group is a label, and the suffix is short. -/
theorem length_admitted_group {key : List Char} (inner : ∀ c ∈ key, Naming.isLabelInner c)
    : (admitted .group (String.ofList key ++ groupSuffix)).toList.length
      ≤ Naming.longestLabel + 20 := by
  unfold admitted
  split
  · next admits =>
      have labels := (Naming.isSubdomain_iff.mp admits).2
      rw [toList_append_groupSuffix, Text.segments_append, Naming.segments_of_inner inner] at labels
      have short := Naming.length_of_isLabel (labels key List.mem_cons_self)
      rw [toList_append_groupSuffix, List.length_append]
      exact Nat.add_le_add_right short _
  · exact length_default_group

/-- A derived group is at most as long as a label and the suffix. -/
theorem length_groupOf (packageName token : String)
    : (groupOf packageName token).toList.length ≤ Naming.longestLabel + 20 := by
  have either {key : List Char} (inner : ∀ c ∈ key, Naming.isLabelInner c)
      : (if key.isEmpty then default.group
          else admitted .group (String.ofList key ++ groupSuffix)).toList.length
        ≤ Naming.longestLabel + 20 := by
    split
    · exact length_default_group
    · exact length_admitted_group inner
  refine either ?_
  split
  · exact Naming.inner_groupKeyFrom
  · exact Naming.inner_groupKeyFrom

/-- The name of an object as its parts allow it: labels between dots, which are a subdomain exactly
if they take few bytes in all, and always if the group is a derived one. Definitions begin with the
name as it is.
-/
structure NamesObject (identity : Identity) : Prop where
  labels : ∀ segment ∈ Text.segments '.' identity.objectName.toList, Naming.isLabel segment
  subdomain_iff
    : Naming.isSubdomain identity.objectName.toList
      ↔ (Text.toUtf8 identity.objectName).length ≤ Naming.longestSubdomain
  derived
    : ∀ packageName token, identity.group = groupOf packageName token
        → Naming.isSubdomain identity.objectName.toList
  written
    : ∀ spec, spec ≠ .null
        → ∃ yaml,
            Definition.render identity spec = .ok yaml
            ∧ (Definition.beforeName ++ identity.objectName ++ Definition.behindName).toList
              <+: yaml.toList

/-- Valid identities name their objects with labels, which may be too many in all only where the
group is an overridden one.
-/
theorem namesObject_of_validate {identity : Identity} (valid : identity.validate = .ok ())
    : NamesObject identity := by
  have admits := validate_eq_ok.mp valid
  have plural : Naming.isLabel identity.plural.toList := admits .plural
  have group := (Naming.isSubdomain_iff.mp (admits .group)).2
  have labels
      : ∀ segment ∈ Text.segments '.' identity.objectName.toList, Naming.isLabel segment := by
    rw [segments_objectName plural]
    exact List.forall_mem_cons.mpr ⟨plural, group⟩
  have subdomain_iff := Naming.isSubdomain_iff.trans (and_iff_left labels)
  refine ⟨labels, subdomain_iff, ?derived, ?written⟩
  case derived =>
    intro packageName token same
    have short := Naming.length_of_isLabel plural
    have room := length_groupOf packageName token
    rw [← same] at room
    rw [subdomain_iff, Naming.length_toUtf8_of_labels labels, toList_objectName,
      List.length_append, List.length_cons]
    simp only [Naming.longestLabel, Naming.longestSubdomain] at short room ⊢
    omega
  case written =>
    intro spec schema
    refine Definition.exists_render_named ?_ schema
    refine Yaml.Reader.doubleQuoted_of_visible fun c member => ?_
    obtain ⟨ascii, apart⟩ := Naming.ascii_of_labels labels c member
    exact ⟨ascii.visible, apart⟩

/-- A derived identity with a group and a plural of one's own choice. -/
def chosenNames : Identity :=
  (derive "acme" "2.1.0" "acme:web:StaticPage").override
    { group? := some "pages.acme.example", plural? := some "landing-pages" }

/-- The chosen names stand, and name their objects. -/
theorem chosenNames_namesObject
    : chosenNames.objectName = "landing-pages.pages.acme.example"
      ∧ chosenNames.validate = .ok ()
      ∧ NamesObject chosenNames := by
  have valid : chosenNames.validate = .ok () := by decide +kernel
  exact ⟨by decide +kernel, valid, namesObject_of_validate valid⟩

/-- Four labels that together are as long as a subdomain may be. -/
def longLabels : List Char :=
  ['.'].intercalate
    [List.replicate 63 'a', List.replicate 63 'b', List.replicate 63 'c', List.replicate 61 'd']

/-- An identity with a long group, and the default in every other field. -/
def longGroup : Identity := { group := String.ofList longLabels }

/-- The long group keeps its rule, and with a plural before it the name is no subdomain. -/
theorem longGroup_notSubdomain
    : longGroup.validate = .ok ()
      ∧ ¬ Naming.isSubdomain longGroup.objectName.toList
      ∧ ¬ ∀ identity : Identity,
            identity.validate = .ok () → Naming.isSubdomain identity.objectName.toList := by
  have group : longGroup.group.toList = longLabels := String.toList_ofList
  have valid : longGroup.validate = .ok () := by
    refine validate_eq_ok.mpr fun field => ?_
    cases field with
    | group =>
        change Naming.isSubdomain longGroup.group.toList
        rw [group]
        decide +kernel
    | version | kind | plural | singular => decide
  have broken : ¬ Naming.isSubdomain longGroup.objectName.toList := by
    rw [toList_objectName, group]
    decide +kernel
  exact ⟨valid, broken, fun always => broken (always _ valid)⟩

end Identity

end ComponentCrd
