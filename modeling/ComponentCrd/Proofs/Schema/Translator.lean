import ComponentCrd.Proofs.Schema.Attempts
import ComponentCrd.Proofs.Schema.TranslationParts
import Mathlib.Data.Finset.Basic

/-! The translation as the work of one translator, which keeps the references that it is resolving
on a stack and puts down issues as it meets them. The text of a reference is put on the stack before
the node behind it is translated, and taken off whatever comes of that. Since the stack is part of
what changes, nothing that is passed on gets smaller along a reference; a depth says how many can be
resolved one inside the other. How the work of a translator compares with an attempt, which has no
stack to look after, is said for each way to put work together.
-/

namespace ComponentCrd

-----------------------------------------------------------------------------------------
-- Translators
-----------------------------------------------------------------------------------------

/-- What a translator changes: the set of the texts of the references that it is resolving, and the
issues in the order in which they were met.
-/
structure Progress where
  stack : Finset String := ∅
  skipped : List SkipIssue := []

namespace Progress

/-- Puts the text of a reference on the stack. -/
def push (text : String) (progress : Progress) : Progress :=
  { progress with stack := insert text progress.stack }

/-- Takes the text of a reference off the stack, also where it is not on it. -/
def pop (text : String) (progress : Progress) : Progress :=
  { progress with stack := progress.stack.erase text }

/-- Puts an issue at the end of the list. -/
def skip (issue : SkipIssue) (progress : Progress) : Progress :=
  { progress with skipped := progress.skipped ++ [issue] }

end Progress

/-- Work that goes from some progress to a result and the progress then, if it ends. -/
abbrev Working := StateT Progress Option

/-- Work that may fail. What was changed before a failure stays changed. -/
abbrev Translator := ExceptT TranslationError Working

namespace Translator

variable {α β : Type}

/-- Fails at an unsupported construct of the component. -/
def reject (token : String) (path : Path) (cause : Rejection) : Translator α :=
  throw (.unsupported (Refusal.unsupported ⟨path, cause⟩ token))

/-- Fails at a malformed node of the component. -/
def malformed (token : String) (path : Path) (cause : Malformation) : Translator α :=
  throw (.malformed token path cause)

/-- The result of a check, or a failure at the path. -/
def check (token : String) (path : Path) : Except Rejection α → Translator α
  | .ok result => pure result
  | .error cause => reject token path cause

/-- Goes on without a result after a failure that can be skipped, and puts it down as an issue. -/
def orSkip (translator : Translator α) : Translator (Option α) :=
  (do
    match ← translator.run with
    | .ok result => return .ok (some result)
    | .error (.unsupported construct) =>
        if construct.isSkippable then
          modify (·.skip construct.issue)
          return .ok none
        else
          return .error (.unsupported construct)
    | .error error => return .error error : Working (Except TranslationError (Option α)))

/-- The names that an object requires, in increasing order. -/
def requiredNames (token : String) (source : Entries Json) (path : Path) :
    Translator (List String) :=
  match source.lookup "required" with
  | none => pure []
  | some raw =>
      match raw.strings? with
      | some names => pure (sortedNames names)
      | none => reject token path .requiredNotNames

section

variable (refer : String → Path → Translator Schema) (token : String)

mutual

/-- Translates a schema node: no rejected keyword, then the shape, then the annotations. -/
def node (value : Json) (path : Path) : Translator Schema :=
  match value with
  | .object source =>
      match Keyword.firstIn? source with
      | some keyword => reject token path (.keyword keyword)
      | none => do
          let shape ←
            (match source.lookup "$ref" with
            | some (.string text) => refer text path
            | some _ => malformed token path .referenceNotString
            | none =>
                match source.lookup "type" with
                | some type => typed source type path
                | none =>
                    if Entries.has source "enum" then reject token path .enumWithoutType
                    else reject token path .noShape)
          check token path (shape.annotated source)
  | _ => malformed token path .notObject
termination_by 3 * sizeOf value

/-- Translates the shape that a type says. -/
def typed (source : Entries Json) (type : Json) (path : Path) : Translator Schema :=
  match type with
  | .string "array" =>
      match h : source.lookup "items" with
      | some (.object items) => do
          have := Entries.sizeOf_members_lt h
          let items ← node (.object items) (.items path)
          return .array items {}
      | _ => reject token path .itemsNotObject
  | .string "object" => object source path
  | .string name =>
      match ScalarType.ofName? name with
      | some type => pure (.scalar type {})
      | none => reject token path (.unknownType name)
  | _ => reject token path .typeNotString
termination_by 3 * sizeOf source + 2

/-- Translates an object: its properties, then the schema of its other values. -/
def object (source : Entries Json) (path : Path) : Translator Schema := do
  let required ← requiredNames token source path
  let properties? ←
    (match h : source.lookup "properties" with
    | none => pure none
    | some (.object entries) =>
        have := Entries.sizeOf_members_lt h
        some <$> properties entries path
    | some _ => malformed token path .propertiesNotObject)
  let values? ←
    (match h : source.lookup "additionalProperties" with
    | none => pure none
    | some (.object values) =>
        have := Entries.sizeOf_members_lt h
        some <$> node (.object values) (.values path)
    | some _ => reject token path .valuesNotObject)
  return Schema.assemble required properties? values?
termination_by 3 * sizeOf source + 1

/-- Translates properties one by one and leaves out those that are skipped. -/
def properties (entries : Entries Json) (path : Path) : Translator (Entries Schema) :=
  match entries with
  | [] => pure []
  | (name, value) :: rest => do
      let kept? ← (node value (.property path name)).orSkip
      let others ← properties rest path
      return kept?.toList.map (fun schema => (name, schema)) ++ others
termination_by 3 * sizeOf entries

end

variable (source : Entries Json) (path : Path)

theorem typed_array
    : typed refer token source (.string "array") path
      = match source.lookup "items" with
        | some (.object items) => do
            let items ← node refer token (.object items) (.items path)
            return .array items {}
        | _ => reject token path .itemsNotObject := by
  rw [typed]
  split <;> simp only [*]

/-- An object is translated by what its properties and the schema of its other values are. -/
theorem object_eq
    : object refer token source path
      = (do
          let required ← requiredNames token source path
          let properties? ←
            (match source.lookup "properties" with
            | none => pure none
            | some (.object entries) => some <$> properties refer token entries path
            | some _ => malformed token path .propertiesNotObject)
          let values? ←
            (match source.lookup "additionalProperties" with
            | none => pure none
            | some (.object values) => some <$> node refer token (.object values) (.values path)
            | some _ => reject token path .valuesNotObject)
          return Schema.assemble required properties? values?) := by
  rw [object]
  congr 1
  funext required
  congr 1
  · split <;> simp only [*]
  · funext properties?
    congr 1
    split <;> simp only [*]

end

/-- Translates what a reference leads to by a translator for the node behind it, with the reference
on the stack while that is at work.
-/
def referenceBy (doc : Document) (token : String) (behind : Json → Path → Translator Schema)
    (text : String) (path : Path) : Translator Schema := do
  let reference := Reference.ofText text
  if reference.isLocal then
    if text ∈ (← get).stack then
      reject token path (.cyclic reference)
    else
      match doc.standIn? reference with
      | none => malformed token path (doc.deadEnd reference)
      | some target =>
          (do
            modify (·.push text)
            let translated ← (behind target path).run
            modify (·.pop text)
            return translated : Working (Except TranslationError Schema))
  else
    return .fallback

/-- Translates what a reference leads to. As many references as the depth says can be resolved one
inside the other; work that gets to one more does not end.
-/
def reference (doc : Document) (token : String) : Nat → String → Path → Translator Schema
  | 0 => referenceBy doc token fun _ _ => (failure : Working (Except TranslationError Schema))
  | depth + 1 => referenceBy doc token (node (reference doc token depth) token)

end Translator

-----------------------------------------------------------------------------------------
-- What attempts come to for a component
-----------------------------------------------------------------------------------------

/-- The error that a failure is for a component. -/
def Failure.error (token : String) : Failure → TranslationError
  | .unsupported refusal => .unsupported (refusal.unsupported token)
  | .malformed path cause => .malformed token path cause

/-- What a refusal is for a component can be skipped exactly if its cause can. -/
theorem Refusal.isSkippable_unsupported {refusal : Refusal} {token : String}
    : (refusal.unsupported token).isSkippable ↔ refusal.cause.severity = .skippable :=
  beq_iff_eq

namespace Attempt

variable {α : Type}

/-- The outcome of an attempt for a component. -/
def ending (token : String) (attempt : Attempt α) : Except TranslationError α :=
  attempt.outcome.mapError (·.error token)

/-- The issues of a component that an attempt passed over. -/
def issues (token : String) (attempt : Attempt α) : List SkipIssue :=
  attempt.skipped.map (·.issue token)

variable {attempt : Attempt α}

theorem orSkip_of_ok {result : α} (ok : attempt.outcome = .ok result)
    : attempt.orSkip = ⟨attempt.skipped, .ok (some result)⟩ := by
  rw [orSkip, ok]

theorem orSkip_of_skippable {refusal : Refusal}
    (error : attempt.outcome = .error (.unsupported refusal))
    (skippable : refusal.cause.severity = .skippable)
    : attempt.orSkip = ⟨attempt.skipped ++ [refusal], .ok none⟩ := by
  simp only [orSkip, error, skippable]

theorem orSkip_of_stops {failure : Failure} (error : attempt.outcome = .error failure)
    (stops : failure.Stops)
    : attempt.orSkip = ⟨attempt.skipped, .error failure⟩ := by
  cases failure with
  | malformed path cause => rw [orSkip, error]
  | unsupported refusal =>
      have hard : refusal.cause.severity = .hard := stops
      simp only [orSkip, error, hard]

end Attempt

-----------------------------------------------------------------------------------------
-- Work that does what an attempt does
-----------------------------------------------------------------------------------------

namespace Translator

variable {α β : Type} {token : String} {stack : Finset String} {path : Path}

/-- With the stack and any list of issues the translator ends as the attempt does. The stack is what
it was, and the list has the issues of the attempt at its end.
-/
def Performs (token : String) (stack : Finset String) (translator : Translator α)
    (attempt : Attempt α)
    : Prop :=
  ∀ skipped,
    translator.run.run ⟨stack, skipped⟩
    = some (attempt.ending token, ⟨stack, skipped ++ attempt.issues token⟩)

variable {translator : Translator α} {attempt : Attempt α} {next : α → Translator β}
  {later : α → Attempt β}

theorem performs_pure (result : α) : Performs token stack (pure result) (pure result) := by
  intro skipped
  change _ = some (Except.ok result, (⟨stack, skipped ++ []⟩ : Progress))
  rw [List.append_nil]
  rfl

theorem performs_fail (failure : Failure)
    : Performs token stack (throw (failure.error token) : Translator α) (.fail failure) := by
  intro skipped
  change _ = some (Except.error (failure.error token), (⟨stack, skipped ++ []⟩ : Progress))
  rw [List.append_nil]
  rfl

theorem performs_reject (cause : Rejection)
    : Performs token stack (reject token path cause : Translator α) (.refuse path cause) :=
  performs_fail (.unsupported ⟨path, cause⟩)

theorem performs_malformed (cause : Malformation)
    : Performs token stack (malformed token path cause : Translator α) (.malformed path cause) :=
  performs_fail (.malformed path cause)

theorem performs_check (result : Except Rejection α)
    : Performs token stack (check token path result) (.ofCheck path result) := by
  cases result with
  | ok result => exact performs_pure result
  | error cause => exact performs_reject cause

/-- Behind the issues of earlier refusals the translator puts those of the attempt, as if the
attempt had passed over all of them.
-/
theorem Performs.after (performs : Performs token stack translator attempt)
    (earlier : List Refusal) (skipped : List SkipIssue)
    : translator.run.run ⟨stack, skipped ++ earlier.map (·.issue token)⟩
      = some
          (attempt.ending token,
            ⟨stack,
              skipped
              ++ (Attempt.mk (earlier ++ attempt.skipped) attempt.outcome).issues token⟩) := by
  rw [performs, List.append_assoc, Attempt.issues, Attempt.issues, List.map_append]

/-- One after the other, translators do what the attempts do one after the other. -/
theorem Performs.bind (first : Performs token stack translator attempt)
    (second : ∀ result, Performs token stack (next result) (later result))
    : Performs token stack (translator >>= next) (attempt >>= later) := by
  intro skipped
  rw [ExceptT.run_bind, StateT.run_bind, first skipped, Attempt.ending]
  cases outcome : attempt.outcome with
  | ok result =>
      -- The second begins with the issues of the first already put down.
      rw [Attempt.bind_of_ok outcome]
      exact (second result).after attempt.skipped skipped
  | error failure =>
      rw [Attempt.bind_of_error outcome]
      rfl

theorem Performs.map (performs : Performs token stack translator attempt) (f : α → β)
    : Performs token stack (f <$> translator) (f <$> attempt) := by
  rw [map_eq_pure_bind, Attempt.map_eq_bind]
  exact performs.bind fun result => performs_pure (f result)

/-- Where the attempt passes over a refusal, the translator puts down the issue. -/
theorem Performs.orSkip (performs : Performs token stack translator attempt)
    : Performs token stack translator.orSkip attempt.orSkip := by
  intro skipped
  change (translator.run.run _ >>= _) = _
  rw [performs, Attempt.ending]
  cases outcome : attempt.outcome with
  | ok result =>
      rw [Attempt.orSkip_of_ok outcome]
      rfl
  | error failure =>
      cases failure with
      | malformed place cause =>
          rw [Attempt.orSkip_of_stops outcome trivial]
          rfl
      | unsupported refusal =>
          change (if (refusal.unsupported token).isSkippable then _ else _ : Working _) _ = _
          cases severity : refusal.cause.severity with
          | hard =>
              have stays : ¬ (refusal.unsupported token).isSkippable := by
                rw [Refusal.isSkippable_unsupported, severity]
                decide
              rw [Attempt.orSkip_of_stops outcome severity, if_neg stays]
              rfl
          | skippable =>
              rw [Attempt.orSkip_of_skippable outcome severity,
                if_pos (Refusal.isSkippable_unsupported.mpr severity), Attempt.issues,
                Attempt.issues, List.map_append, ← List.append_assoc]
              rfl

/-- Work that looks at the stack does what it would do with that stack. -/
theorem Performs.look {work : Progress → Translator α}
    (performs : ∀ skipped, Performs token stack (work ⟨stack, skipped⟩) attempt)
    : Performs token stack (get >>= work) attempt :=
  fun skipped => performs skipped skipped

/-- Work with the text of a reference on the stack leaves the stack as it was, if the text was not
on it before.
-/
theorem Performs.resolving {text : String}
    (performs : Performs token (insert text stack) translator attempt) (fresh : text ∉ stack)
    : Performs token stack
        (do
          modify (·.push text)
          let result ← translator.run
          modify (·.pop text)
          return result : Working (Except TranslationError α))
        attempt := by
  intro skipped
  change (translator.run.run ⟨insert text stack, skipped⟩ >>= _) = _
  rw [performs]
  change some (attempt.ending token, Progress.mk ((insert text stack).erase text) _) = _
  rw [Finset.erase_insert fresh]

/-- A text that was on the stack before would be taken off it too. -/
example : (((⟨{"#/types/a"}, []⟩ : Progress).push "#/types/a").pop "#/types/a").stack = ∅ := by
  decide

end Translator

end ComponentCrd
