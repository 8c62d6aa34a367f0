import ComponentCrd.Schema.Failure

/-! The wordings of rejections tell the kinds of rejection apart that somebody looks for by their
wording.
-/

namespace ComponentCrd.Rejection

/-- The letter that the wording of a rejection begins with. -/
def initial : Rejection → Char
  | .keyword _ => 'k'
  | .typeNotString | .unknownType _ => 't'
  | .enumWithoutType | .enumNotList | .enumEntryWithoutValue | .enumEntryIsList
  | .enumMismatch _ _ => 'e'
  | .noShape => 'm'
  | .itemsNotObject | .valuesNotObject => 'a'
  | .requiredNotNames => 'r'
  | .descriptionNotString => 'd'
  | .cyclic _ => 'c'

private theorem head?_append {text : String} {c : Char} (head : text.toList.head? = some c)
    (rest : String)
    : (text ++ rest).toList.head? = some c := by
  rw [String.toList_append, List.head?_append, head, Option.some_or]

/-- The wording of a rejection begins with its letter. -/
theorem head?_summary (cause : Rejection) : cause.summary.toList.head? = some cause.initial := by
  cases cause with
  | keyword word => exact head?_append (head?_append (show _ = some 'k' by decide) _) _
  | unknownType name => exact head?_append (head?_append (show _ = some 't' by decide) _) _
  | enumMismatch value type =>
      have head : ("enum value ").toList.head? = some 'e' := by decide
      exact head?_append (head?_append (head?_append (head?_append head _) _) _) _
  | cyclic reference => exact head?_append (head?_append (show _ = some 'c' by decide) _) _
  | typeNotString => decide
  | enumWithoutType => decide
  | noShape => decide
  | itemsNotObject => decide
  | requiredNotNames => decide
  | valuesNotObject => decide
  | descriptionNotString => decide
  | enumNotList => decide
  | enumEntryWithoutValue => decide
  | enumEntryIsList => decide

/-- A rejection whose wording begins with the letter of the two nodes below a node is one of them.
-/
theorem eq_of_initial_a {cause : Rejection} (initial : cause.initial = 'a')
    : cause = .itemsNotObject ∨ cause = .valuesNotObject := by
  cases cause <;> simp [Rejection.initial] at initial ⊢

/-- Only the rejection of other values is worded like it. -/
theorem summary_eq_valuesNotObject {cause : Rejection}
    (same : cause.summary = summary .valuesNotObject)
    : cause = .valuesNotObject := by
  have head := cause.head?_summary
  rw [same, head?_summary, Option.some.injEq] at head
  rcases eq_of_initial_a head.symm with rfl | rfl
  · exact absurd same (by decide)
  · rfl

/-- Only the rejection of items is worded like it. -/
theorem summary_eq_itemsNotObject {cause : Rejection}
    (same : cause.summary = summary .itemsNotObject)
    : cause = .itemsNotObject := by
  have head := cause.head?_summary
  rw [same, head?_summary, Option.some.injEq] at head
  rcases eq_of_initial_a head.symm with rfl | rfl
  · rfl
  · exact absurd same (by decide)

/-- Only a cycle is worded like a cycle, and the wording names the reference. -/
theorem summary_eq_cyclic {cause : Rejection} {text : String}
    (same : cause.summary = "cyclic local ref \"" ++ text ++ "\"")
    : ∃ reference, cause = .cyclic reference ∧ reference.text = text := by
  have head := cause.head?_summary
  rw [same, head?_append (head?_append (show _ = some 'c' by decide) _) _,
    Option.some.injEq] at head
  cases cause with
  | cyclic reference =>
      have same : "cyclic local ref \"" ++ reference.text ++ "\""
          = "cyclic local ref \"" ++ text ++ "\"" := same
      rw [String.append_left_inj, String.append_right_inj] at same
      exact ⟨reference, rfl, same⟩
  | keyword _ | typeNotString | unknownType _ | enumWithoutType | noShape | itemsNotObject
  | requiredNotNames | valuesNotObject | descriptionNotString | enumNotList
  | enumEntryWithoutValue | enumEntryIsList | enumMismatch _ _ => simp [initial] at head

end ComponentCrd.Rejection
