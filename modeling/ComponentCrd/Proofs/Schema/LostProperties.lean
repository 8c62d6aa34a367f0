import ComponentCrd.Proofs.Schema.Provenance

/-! Failures that cost a property, and nothing else. Such a failure comes up from the items and the
values below the property or from what the references there lead to, so its path is the one of the
property, gone on with through items and values only: a failure further down costs a property there.
-/

namespace ComponentCrd

/-- The second path goes on from the first through items and values only. -/
inductive Path.Within (path : Path) : Path → Prop
  | here : path.Within path
  | items {inner} (within : path.Within inner) : path.Within (.items inner)
  | values {inner} (within : path.Within inner) : path.Within (.values inner)

namespace Path.Within

theorem trans {path middle inner : Path} (first : path.Within middle)
    (second : middle.Within inner)
    : path.Within inner := by
  induction second with
  | here => exact first
  | items _ ih => exact .items ih
  | values _ ih => exact .values ih

end Path.Within

namespace Attempt

variable {α β : Type} {attempt : Attempt α} {next : α → Attempt β} {path : Path}

/-- If the attempt fails in a way that costs the property it stands in, it does so at the path or
within it.
-/
def LosesWithin (attempt : Attempt α) (path : Path) : Prop :=
  ∀ refusal, attempt.outcome = .error (.unsupported refusal)
    → refusal.cause.severity = .skippable
    → path.Within refusal.path

theorem losesWithin_pure (result : α) : (pure result : Attempt α).LosesWithin path := nofun

theorem losesWithin_refuse (cause : Rejection)
    : (refuse path cause : Attempt α).LosesWithin path := by
  rintro _ ⟨⟩ _
  exact .here

theorem losesWithin_malformed (place : Path) (cause : Malformation)
    : (malformed place cause : Attempt α).LosesWithin path := nofun

theorem losesWithin_ofCheck (check : Except Rejection α)
    : (ofCheck path check).LosesWithin path := by
  cases check with
  | ok result => exact losesWithin_pure result
  | error cause => exact losesWithin_refuse cause

theorem LosesWithin.bind (first : attempt.LosesWithin path)
    (second : ∀ middle, (next middle).LosesWithin path)
    : (attempt >>= next).LosesWithin path := by
  intro refusal fails skippable
  cases outcome : attempt.outcome with
  | ok middle =>
      rw [bind_of_ok outcome] at fails
      exact second middle refusal fails skippable
  | error failure =>
      rw [bind_of_error outcome] at fails
      obtain rfl := Except.error.inj fails
      exact first refusal outcome skippable

theorem LosesWithin.map {f : α → β} (loses : attempt.LosesWithin path)
    : (f <$> attempt).LosesWithin path := by
  rw [map_eq_bind]
  exact loses.bind fun _ => losesWithin_pure _

/-- What is lost at a path within another is lost within the other. -/
theorem LosesWithin.outward {outer : Path} (loses : attempt.LosesWithin path)
    (within : outer.Within path)
    : attempt.LosesWithin outer :=
  fun refusal fails skippable => within.trans (loses refusal fails skippable)

end Attempt

namespace Schema

-----------------------------------------------------------------------------------------
-- Where the failure of a node lies
-----------------------------------------------------------------------------------------

variable {resolve : Reference → Path → Attempt Schema}

/-- Properties are never lost as a whole: what stops them stops the translation. -/
theorem losesWithin_ofProperties (properties : Entries Json) (path : Path)
    : (ofProperties resolve properties path).LosesWithin path :=
  fun _ fails skippable => nomatch skippable.symm.trans (stops_of_ofProperties fails)

/-- An object is lost within its path where its other values are. -/
theorem losesWithin_ofObject {source : Entries Json} {path : Path}
    (below
      : ∀ node path, sizeOf node < sizeOf source → (ofNode resolve node path).LosesWithin path)
    : (ofObject resolve source path).LosesWithin path := by
  have required : (requiredNames source path).LosesWithin path := by
    unfold requiredNames
    split
    · exact Attempt.losesWithin_pure _
    · split
      · exact Attempt.losesWithin_pure _
      · exact Attempt.losesWithin_refuse _
  have properties : (propertiesOf resolve source path).LosesWithin path := by
    rw [propertiesOf_eq]
    split
    · exact Attempt.losesWithin_pure _
    · exact (losesWithin_ofProperties _ path).map
    · exact Attempt.losesWithin_malformed _ _
  have values : (valuesOf resolve source path).LosesWithin path := by
    rw [valuesOf_eq]
    split
    · exact Attempt.losesWithin_pure _
    · next values found =>
        have inside := below _ (.values path) (Entries.sizeOf_lt_of_lookup found)
        exact (inside.outward (.values .here)).map
    · exact Attempt.losesWithin_refuse _
  rw [ofObject]
  refine required.bind fun required => properties.bind fun properties? => ?_
  exact values.bind fun values? => Attempt.losesWithin_pure _

theorem losesWithin_ofShape
    (resolves : ∀ reference path, (resolve reference path).LosesWithin path)
    {source : Entries Json} {path : Path}
    (below
      : ∀ node path, sizeOf node < sizeOf source → (ofNode resolve node path).LosesWithin path)
    : (ofShape resolve source path).LosesWithin path := by
  refine ofShape_cases resolve path ?reference ?unreadable ?list ?noItems ?object ?scalar
    ?unknownType ?typeNotString ?enumWithoutType ?noShape
  case reference => exact fun _ _ => resolves _ path
  case list =>
    intro items _ _ found
    have inside := below _ (.items path) (Entries.sizeOf_lt_of_lookup found)
    exact (inside.outward (.items .here)).bind fun _ => Attempt.losesWithin_pure _
  case object => exact fun _ _ => losesWithin_ofObject below
  case scalar => exact fun _ _ _ => Attempt.losesWithin_pure _
  case unreadable => exact fun _ _ _ => Attempt.losesWithin_malformed _ _
  case noItems | unknownType | typeNotString | enumWithoutType | noShape =>
    intros
    exact Attempt.losesWithin_refuse _

/-- Nodes are lost within their paths where references are, by recursion on the node. -/
theorem losesWithin_ofNode
    (resolves : ∀ reference path, (resolve reference path).LosesWithin path)
    (node : Json) (path : Path)
    : (ofNode resolve node path).LosesWithin path := by
  cases node with
  | object source =>
      cases keyword : Keyword.firstIn? source with
      | some found =>
          rw [ofNode_of_keyword resolve path keyword]
          exact Attempt.losesWithin_refuse _
      | none =>
          rw [ofNode_of_no_keyword resolve path keyword]
          have shape : (ofShape resolve source path).LosesWithin path := by
            refine losesWithin_ofShape resolves fun next path smaller => ?_
            exact losesWithin_ofNode resolves next path
          exact shape.bind fun _ => Attempt.losesWithin_ofCheck _
  | null | bool _ | number _ | string _ | array _ =>
      rw [ofNode_of_not_object resolve path rfl]
      exact Attempt.losesWithin_malformed _ _
termination_by sizeOf node
decreasing_by
  simp only [Json.object.sizeOf_spec]
  omega

/-- A failure that lies in a place itself has the path of the place. -/
theorem Fault.path_eq {place : Place} {refusal : Refusal}
    (fault : Fault place (.unsupported refusal))
    : refusal.path = place.path := by
  cases fault <;> rfl

end Schema

namespace Document

/-- What a reference leads to is lost within the path of the reference, by recursion over the
references that are not on the trail yet.
-/
theorem losesWithin_resolve (doc : Document) (trail : List Reference) (reference : Reference)
    (path : Path)
    : (doc.resolve trail reference path).LosesWithin path := by
  refine doc.resolve_cases trail reference path ?outside ?cyclic ?behind ?deadEnd
  case outside => exact fun _ => Attempt.losesWithin_pure _
  case cyclic => exact fun _ _ => Attempt.losesWithin_refuse _
  case behind =>
    intro node fresh found
    have := unvisited_cons_lt (mem_references_of_standIn? found) fresh
    exact Schema.losesWithin_ofNode (losesWithin_resolve doc (reference :: trail)) node path
  case deadEnd => exact fun _ _ => Attempt.losesWithin_malformed _ _
termination_by doc.unvisited trail

-----------------------------------------------------------------------------------------
-- Every failure lies below an input property
-----------------------------------------------------------------------------------------

/-- The text of the path begins with the text of the path of an input property. -/
def StartsAt (name : String) (path : Path) : Prop := ∃ rest, path.text = "spec." ++ name ++ rest

/-- A failure that a place is to blame for has the path of the place. -/
theorem Fault.path_eq {doc : Document} {place : Place} {refusal : Refusal}
    (fault : doc.Fault place (.unsupported refusal))
    : refusal.path = place.path := by
  cases fault with
  | own lies => exact lies.path_eq
  | cyclic => rfl

/-- The translation goes on to places with longer paths only, or with the same path. -/
theorem Proceeds.startsAt {doc : Document} {place next : Place} {name : String}
    (step : doc.Proceeds place next) (starts : StartsAt name place.path)
    : StartsAt name next.path := by
  obtain ⟨rest, text⟩ := starts
  cases step with
  | below step => cases step with
    | items | property | values =>
        simp only [StartsAt, Path.text, text, String.append_assoc, String.append_right_inj]
        exact ⟨_, rfl⟩
  | behind => exact ⟨rest, text⟩

/-- The path of every visited place begins with an input property. -/
theorem Visits.startsAt {doc : Document} {component : Component} {place : Place}
    (visits : doc.Visits component place)
    : ∃ name ∈ component.resource.inputProperties.names, StartsAt name place.path := by
  obtain ⟨entry, member, way⟩ := visits
  refine ⟨entry.1, List.mem_map_of_mem member, ?_⟩
  induction way with
  | refl => exact ⟨"", by simp [Path.text]⟩
  | tail _ step ih => exact step.startsAt ih

/-- The path of everything that is reported begins with an input property. -/
theorem startsAt_of_reported {doc : Document} {component : Component} {issue : SkipIssue}
    (member : issue ∈ reported (doc.translate component))
    : ∃ name ∈ component.resource.inputProperties.names,
        ∃ rest, issue.path = "spec." ++ name ++ rest := by
  obtain ⟨refusal, passedOver, rfl⟩ := refusal_of_reported member
  obtain ⟨origin, visits, fault⟩ := visits_of_meets (.inr ⟨refusal, passedOver, rfl⟩)
  obtain ⟨name, input, starts⟩ := visits.startsAt
  rw [← fault.path_eq] at starts
  exact ⟨name, input, starts⟩

end Document

end ComponentCrd
