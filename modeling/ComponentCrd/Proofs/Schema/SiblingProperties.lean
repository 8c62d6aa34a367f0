import ComponentCrd.Proofs.Json.EntryUnion
import ComponentCrd.Proofs.Schema.Provenance

/-! Properties beside each other are translated independently. What is kept of a property and what
is passed over in it are the same alone and among others, so two sets of properties without a
common name can be translated apart and put together; and what stops the translation of several
properties is what stops the first of them alone.
-/

namespace ComponentCrd

namespace Schema

variable {resolve : Reference → Path → Attempt Schema} {path : Path} {properties : Entries Json}
  {entry : String × Json} {rest : Entries Json} {failure : Failure}

/-- The translation of a property alone. -/
def ofProperty (resolve : Reference → Path → Attempt Schema) (path : Path) (entry : String × Json)
    : Attempt (Entries Schema) :=
  ofProperties resolve [entry] path

/-- What is kept of a property that is translated alone. -/
def keptOf (resolve : Reference → Path → Attempt Schema) (path : Path) (entry : String × Json)
    : Entries Schema :=
  (ofProperty resolve path entry).outcome.toOption.getD []

/-- A property alone is kept under its name, or left out, or it stops the translation. -/
theorem ofProperty_eq (entry : String × Json)
    : ofProperty resolve path entry
      = (ofNode resolve entry.2 (.property path entry.1)).orSkip >>= fun kept? =>
          pure (kept?.toList.map fun schema => (entry.1, schema)) := by
  rw [ofProperty, ofProperties_cons, ofProperties]
  cases outcome : (ofNode resolve entry.2 (.property path entry.1)).orSkip.outcome with
  | ok kept? =>
      rw [Attempt.bind_of_ok outcome, Attempt.bind_of_ok outcome]
      simp [pure, bind, Attempt.andThen]
  | error other => rw [Attempt.bind_of_error outcome, Attempt.bind_of_error outcome]

/-- A property that does not stop the translation adds what it adds alone. -/
theorem ofProperties_cons_of_ok {kept : Entries Schema}
    (alone : (ofProperty resolve path entry).outcome = .ok kept)
    : ofProperties resolve (entry :: rest) path
      = ⟨(ofProperty resolve path entry).skipped ++ (ofProperties resolve rest path).skipped,
          (ofProperties resolve rest path).outcome.map (kept ++ ·)⟩ := by
  rw [ofProperty_eq] at alone ⊢
  rw [ofProperties_cons]
  obtain ⟨kept?, translated, same⟩ := Attempt.outcome_bind_eq_ok.mp alone
  obtain rfl : _ = kept := Except.ok.inj same
  rw [Attempt.bind_of_ok translated, Attempt.bind_of_ok translated]
  cases others : (ofProperties resolve rest path).outcome with
  | ok later => simp [Attempt.bind_of_ok others, pure, Except.map]
  | error other => simp [Attempt.bind_of_error others, pure, Except.map]

/-- A property that stops the translation alone stops it before the later ones. -/
theorem ofProperties_cons_of_error
    (alone : (ofProperty resolve path entry).outcome = .error failure)
    : (ofProperties resolve (entry :: rest) path).outcome = .error failure := by
  rw [ofProperty_eq] at alone
  rw [ofProperties_cons]
  cases outcome : (ofNode resolve entry.2 (.property path entry.1)).orSkip.outcome with
  | ok kept? =>
      rw [Attempt.bind_of_ok outcome] at alone
      cases alone
  | error other =>
      rw [Attempt.bind_of_error outcome] at alone ⊢
      exact alone

-----------------------------------------------------------------------------------------
-- Properties in a row
-----------------------------------------------------------------------------------------

/-- No property among them stops the translation alone. -/
def Unstopped (resolve : Reference → Path → Attempt Schema) (path : Path)
    (properties : Entries Json)
    : Prop :=
  ∀ entry ∈ properties, ∃ kept, (ofProperty resolve path entry).outcome = .ok kept

theorem keptOf_eq {kept : Entries Schema}
    (alone : (ofProperty resolve path entry).outcome = .ok kept)
    : keptOf resolve path entry = kept := by
  rw [keptOf, alone]
  rfl

/-- Properties that do not stop the translation alone give, one after the other, what each gives
alone.
-/
theorem ofProperties_of_unstopped (unstopped : Unstopped resolve path properties)
    : ofProperties resolve properties path
      = ⟨properties.flatMap fun entry => (ofProperty resolve path entry).skipped,
          .ok (properties.flatMap (keptOf resolve path))⟩ := by
  induction properties with
  | nil => rw [ofProperties]; rfl
  | cons entry rest ih =>
      obtain ⟨kept, alone⟩ := unstopped entry (.head _)
      rw [ofProperties_cons_of_ok alone, ih fun other member => unstopped other (.tail _ member),
        List.flatMap_cons, List.flatMap_cons, keptOf_eq alone]
      rfl

/-- The first property that stops the translation alone stops that of them all. -/
theorem ofProperties_of_first {before after : Entries Json}
    (unstopped : Unstopped resolve path before)
    (alone : (ofProperty resolve path entry).outcome = .error failure)
    : (ofProperties resolve (before ++ entry :: after) path).outcome = .error failure := by
  induction before with
  | nil => exact ofProperties_cons_of_error alone
  | cons head rest ih =>
      obtain ⟨kept, passes⟩ := unstopped head (.head _)
      rw [List.cons_append, ofProperties_cons_of_ok passes,
        ih fun other member => unstopped other (.tail _ member)]
      rfl

/-- If some property stops the translation alone, there is a first one. -/
theorem exists_first (stopped : ¬ Unstopped resolve path properties)
    : ∃ before entry after failure,
        properties = before ++ entry :: after
        ∧ Unstopped resolve path before
        ∧ (ofProperty resolve path entry).outcome = .error failure := by
  induction properties with
  | nil => exact (stopped fun _ member => by cases member).elim
  | cons head rest ih =>
      cases alone : (ofProperty resolve path head).outcome with
      | error failure =>
          refine ⟨[], head, rest, failure, rfl, fun _ member => ?_, alone⟩
          cases member
      | ok kept =>
          have later : ¬ Unstopped resolve path rest := by
            intro unstopped
            apply stopped
            intro entry member
            rcases List.mem_cons.mp member with rfl | member
            · exact ⟨kept, alone⟩
            · exact unstopped entry member
          obtain ⟨before, entry, after, failure, rfl, unstopped, fails⟩ := ih later
          refine ⟨head :: before, entry, after, failure, rfl, ?_, fails⟩
          intro other member
          rcases List.mem_cons.mp member with rfl | member
          · exact ⟨kept, alone⟩
          · exact unstopped other member

/-- Properties have a result exactly if none of them stops the translation alone. -/
theorem unstopped_iff
    : Unstopped resolve path properties
      ↔ ∃ kept, (ofProperties resolve properties path).outcome = .ok kept := by
  constructor
  · intro unstopped
    exact ⟨_, by rw [ofProperties_of_unstopped unstopped]⟩
  · rintro ⟨kept, translated⟩
    apply Classical.byContradiction
    intro stopped
    obtain ⟨before, entry, after, failure, rfl, unstopped, fails⟩ := exists_first stopped
    cases translated.symm.trans (ofProperties_of_first unstopped fails)

/-- What is kept of a property alone has the name of the property, if anything is kept. -/
theorem names_keptOf (entry : String × Json)
    : (keptOf resolve path entry).names.Sublist [entry.1] := by
  rw [keptOf, ofProperty_eq]
  cases outcome : (ofNode resolve entry.2 (.property path entry.1)).orSkip.outcome with
  | error other =>
      rw [Attempt.bind_of_error outcome]
      exact List.nil_sublist _
  | ok kept? =>
      rw [Attempt.bind_of_ok outcome]
      cases kept? with
      | none => exact List.nil_sublist _
      | some schema => exact .refl _

/-- The names of what is kept are names of properties, in their order. -/
theorem names_flatMap_keptOf (properties : Entries Json)
    : (Entries.names (properties.flatMap (keptOf resolve path))).Sublist properties.names := by
  induction properties with
  | nil => exact .refl _
  | cons entry rest ih =>
      rw [List.flatMap_cons, Entries.names, List.map_append]
      exact (names_keptOf entry).append ih

/-- What is kept of properties in increasing order increases. -/
theorem increasing_flatMap_keptOf (increasing : properties.Increasing)
    : Entries.Increasing (properties.flatMap (keptOf resolve path)) :=
  Entries.increasing_iff.mpr
    ((Entries.increasing_iff.mp increasing).sublist (names_flatMap_keptOf properties))

/-- If some of the increasing properties stops the translation alone, the least of these stops that
of them all.
-/
theorem exists_least (increasing : properties.Increasing)
    (stopped : ¬ Unstopped resolve path properties)
    : ∃ entry ∈ properties, ∃ failure,
        (ofProperty resolve path entry).outcome = .error failure
        ∧ (∀ other ∈ properties, other.1 < entry.1
            → ∃ kept, (ofProperty resolve path other).outcome = .ok kept)
        ∧ (ofProperties resolve properties path).outcome = .error failure := by
  obtain ⟨before, least, after, failure, rfl, unstopped, fails⟩ := exists_first stopped
  refine ⟨least, by simp, failure, fails, ?_, ofProperties_of_first unstopped fails⟩
  intro other member less
  have above : ∀ entry ∈ after, least.1 < entry.1 :=
    (List.pairwise_cons.mp (List.pairwise_append.mp increasing).2.1).1
  rcases List.mem_append.mp member with earlier | later
  · exact unstopped other earlier
  · rcases List.mem_cons.mp later with rfl | later
    · exact (String.lt_irrefl _ less).elim
    · exact (String.lt_irrefl _ (String.lt_trans less (above other later))).elim

/-- Properties without a common name that do not stop the translation give, as a union, the union of
what is kept of them, and pass over what the two pass over.
-/
theorem ofProperties_union {second : Entries Json} {keptFirst keptSecond : Entries Schema}
    (increasing : properties.Increasing) (other : second.Increasing)
    (disjoint : ∀ name ∈ properties.names, name ∉ second.names)
    (translated : (ofProperties resolve properties path).outcome = .ok keptFirst)
    (translatedOther : (ofProperties resolve second path).outcome = .ok keptSecond)
    : (ofProperties resolve (properties.union second) path).outcome
        = .ok (keptFirst.union keptSecond)
      ∧ (ofProperties resolve (properties.union second) path).skipped.Perm
          ((ofProperties resolve properties path).skipped
            ++ (ofProperties resolve second path).skipped) := by
  have perm := Entries.perm_union increasing other disjoint
  have unstopped : Unstopped resolve path properties := unstopped_iff.mpr ⟨_, translated⟩
  have unstoppedOther : Unstopped resolve path second := unstopped_iff.mpr ⟨_, translatedOther⟩
  have together : Unstopped resolve path (properties.union second) := by
    intro entry member
    rcases List.mem_append.mp (perm.mem_iff.mp member) with inFirst | inSecond
    · exact unstopped entry inFirst
    · exact unstoppedOther entry inSecond
  rw [ofProperties_of_unstopped unstopped] at translated ⊢
  rw [ofProperties_of_unstopped unstoppedOther] at translatedOther ⊢
  rw [ofProperties_of_unstopped together]
  obtain rfl := Except.ok.inj translated
  obtain rfl := Except.ok.inj translatedOther
  constructor
  · have keptDisjoint
        : ∀ name ∈ Entries.names (properties.flatMap (keptOf resolve path)),
            name ∉ Entries.names (second.flatMap (keptOf resolve path)) := by
      intro name inFirst inSecond
      exact disjoint name ((names_flatMap_keptOf properties).subset inFirst)
        ((names_flatMap_keptOf second).subset inSecond)
    have keptPerm := Entries.perm_union (increasing_flatMap_keptOf increasing)
      (increasing_flatMap_keptOf other) keptDisjoint
    have sorted
        : Entries.Increasing ((properties.union second).flatMap (keptOf resolve path)) :=
      increasing_flatMap_keptOf (Entries.increasing_union properties second)
    -- Both increase, so it is enough that each is the other in some order.
    refine congrArg Except.ok (sorted.eq_of_perm (Entries.increasing_union _ _) ?_)
    rw [← List.flatMap_append] at keptPerm
    exact (perm.flatMap_right _).trans keptPerm.symm
  · rw [← List.flatMap_append]
    exact perm.flatMap_right _

end Schema

namespace Document

open Schema

-----------------------------------------------------------------------------------------
-- Input properties apart and together
-----------------------------------------------------------------------------------------

/-- A component of the given input properties. -/
def componentOf (token : String) (inputs : Entries Json) : Component where
  token
  resource := { isComponent := true, inputProperties := inputs }

/-- The issues of what the attempt at a component passed over, in the order in which it was met. -/
def recorded (doc : Document) (component : Component) : List SkipIssue :=
  (doc.attemptInputs component).skipped.map (·.issue component.token)

/-- Two sets of input properties are translated independently. If each has a result, the union of
both has the union of the results, and reports what the two record. If some property of the union
stops the translation alone, the union is stopped by the least of these properties, with the very
error of that property.
-/
structure Independent (doc : Document) (token : String) (first second : Entries Json) : Prop where
  together
    : ∀ keptFirst keptSecond,
        (doc.attemptInputs (componentOf token first)).outcome = .ok keptFirst
        → (doc.attemptInputs (componentOf token second)).outcome = .ok keptSecond
        → (doc.attemptInputs (componentOf token (first.union second))).outcome
            = .ok (keptFirst.union keptSecond)
          ∧ SkipIssue.sorted (doc.recorded (componentOf token (first.union second)))
            = SkipIssue.sorted
                (doc.recorded (componentOf token first) ++ doc.recorded (componentOf token second))
  stopped
    : (∃ entry ∈ first.union second, ∃ failure,
        (doc.attemptInputs (componentOf token [entry])).outcome = .error failure)
      → ∃ entry ∈ first.union second, ∃ failure,
          (doc.attemptInputs (componentOf token [entry])).outcome = .error failure
          ∧ (∀ other ∈ first.union second, other.1 < entry.1
              → ∃ kept, (doc.attemptInputs (componentOf token [other])).outcome = .ok kept)
          ∧ (doc.attemptInputs (componentOf token (first.union second))).outcome = .error failure
          ∧ doc.translate (componentOf token (first.union second))
            = doc.translate (componentOf token [entry])

/-- Components whose attempts fail alike are refused alike. -/
theorem translate_eq_of_error {doc : Document} {component other : Component} {failure : Failure}
    (fails : (doc.attemptInputs component).outcome = .error failure)
    (otherFails : (doc.attemptInputs other).outcome = .error failure)
    (token : component.token = other.token)
    : doc.translate component = doc.translate other := by
  unfold attemptInputs at fails otherFails
  cases failure with
  | unsupported refusal => simp only [translate, fails, otherFails, token]
  | malformed path cause => simp only [translate, fails, otherFails, token]

/-- Sorted issues depend only on which issues there are. -/
theorem sorted_eq_of_mem_iff {first second : List SkipIssue}
    (same : ∀ issue, issue ∈ first ↔ issue ∈ second)
    : SkipIssue.sorted first = SkipIssue.sorted second := by
  refine eq_of_ascending (ascending_sortedDistinct _) (ascending_sortedDistinct _) fun issue => ?_
  rw [SkipIssue.sorted, SkipIssue.sorted, mem_sortedDistinct, mem_sortedDistinct, same]

/-- Sets of input properties without a common name are translated independently. Witness: the union
holds the same properties in another order, and each gives what it gives alone.
-/
theorem independent_of_disjoint (doc : Document) (token : String) {first second : Entries Json}
    (increasing : first.Increasing) (other : second.Increasing)
    (disjoint : ∀ name ∈ first.names, name ∉ second.names)
    : doc.Independent token first second := by
  constructor
  · intro keptFirst keptSecond translatedFirst translatedSecond
    obtain ⟨kept, skipped⟩ :=
      ofProperties_union increasing other disjoint translatedFirst translatedSecond
    refine ⟨kept, sorted_eq_of_mem_iff fun issue => ?_⟩
    simp only [recorded, componentOf, ← List.map_append]
    exact (skipped.map _).mem_iff
  · rintro ⟨entry, member, failure, fails⟩
    have stopped : ¬ Unstopped (doc.resolve []) .spec (first.union second) := by
      intro unstopped
      obtain ⟨kept, translated⟩ := unstopped entry member
      cases translated.symm.trans fails
    obtain ⟨least, member, failure, fails, before, all⟩ :=
      exists_least (Entries.increasing_union first second) stopped
    exact ⟨least, member, failure, fails, before, all, translate_eq_of_error all fails rfl⟩

/-- A document with a type of which one property cannot be translated. -/
def pairDocument : Document where
  types := [("p:i:Pair", .object [
    ("properties", .object [
      ("left", .object [("type", .string "string")]),
      ("right", .object [("type", .string "tuple")])]),
    ("type", .string "object")])]

/-- Input properties of which one refers to the pair, and one is passed over. -/
def outerInputs : Entries Json :=
  [("a", .object [("$ref", .string "#/types/p:i:Pair")]), ("c", .object [])]

/-- An input property between the others that refers to the pair again. -/
def innerInputs : Entries Json :=
  [("b", .object [
    ("items", .object [("$ref", .string "#/types/p:i:Pair")]), ("type", .string "array")])]

/-- Input properties that share a reference and alternate in the union are independent. -/
theorem outerInputs_independent_innerInputs
    : outerInputs.Increasing ∧ innerInputs.Increasing
      ∧ (∀ name ∈ outerInputs.names, name ∉ innerInputs.names)
      ∧ (pairDocument.attemptInputs (componentOf "p:i:Thing" outerInputs)).outcome.isOk
      ∧ (pairDocument.attemptInputs (componentOf "p:i:Thing" innerInputs)).outcome.isOk
      ∧ pairDocument.Independent "p:i:Thing" outerInputs innerInputs := by
  have increasing : outerInputs.Increasing := Entries.increasing_iff.mpr (by decide)
  have other : innerInputs.Increasing := Entries.increasing_iff.mpr (by decide)
  have disjoint : ∀ name ∈ outerInputs.names, name ∉ innerInputs.names := by
    simp [Entries.names, outerInputs, innerInputs]
  refine ⟨increasing, other, disjoint, by decide +kernel, by decide +kernel, ?_⟩
  exact independent_of_disjoint pairDocument "p:i:Thing" increasing other disjoint

end Document

end ComponentCrd
