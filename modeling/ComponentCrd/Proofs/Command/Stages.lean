import ComponentCrd.Command.Session
import ComponentCrd.Proofs.Outcomes

/-! The stages of a run, one after the other: what a run comes to, apart from the lines that it
reports on the way, and what holds of each of these lines.
-/

namespace ComponentCrd.Command

namespace Reported

variable {α β : Type}

-----------------------------------------------------------------------------------------
-- Work that goes on with a result
-----------------------------------------------------------------------------------------

/-- The results of work follow each other as they would without its lines. -/
theorem result_bind (work : Reported α) (next : α → Reported β)
    : (work >>= next).result = work.result >>= fun result => (next result).result := by
  change (work.andThen next).result = _
  unfold andThen
  cases work.result <;> rfl

/-- Every line of the work is of the kind. -/
def Each (kind : Line → Prop) (work : Reported α) : Prop := ∀ line ∈ work.report, kind line

variable {kind : Line → Prop}

/-- The lines of work that goes on are those of both parts; the second part is only there if the
first one has a result.
-/
theorem Each.bind {work : Reported α} {next : α → Reported β} (first : work.Each kind)
    (second : ∀ result, work.result = .ok result → (next result).Each kind)
    : (work >>= next).Each kind := by
  change (work.andThen next).Each kind
  unfold andThen
  cases ended : work.result with
  | error error => exact first
  | ok result =>
      intro line member
      rcases List.mem_append.mp member with earlier | later
      · exact first line earlier
      · exact second result ended line later

theorem each_info {text : String} (holds : kind (.info text)) : (info text).Each kind := by
  intro line member
  obtain rfl := List.mem_singleton.mp member
  exact holds

theorem each_step {ε : Type} {wrap : ε → RunError} {result : Except ε α}
    : (step wrap result).Each kind := by
  intro line member
  cases member

end Reported

open Reported

-----------------------------------------------------------------------------------------
-- What a run comes to
-----------------------------------------------------------------------------------------

/-- The stages behind the loading of the document. -/
def stages (config : Config) (doc : Document) : Except RunError String := do
  let component ← (doc.select config.component).mapError .select
  (doc.preflight component).mapError .preflight
  let identity ← (doc.identify component.token config.overrides).mapError .identity
  let translation ← (doc.translate component).mapError .translate
  (Definition.render identity translation.schema.toJson).mapError .emit

theorem result_translated (doc : Document) (component : Component)
    : (translated doc component).result = (doc.translate component).mapError .translate := by
  unfold translated
  cases doc.translate component <;> rfl

/-- A run comes to what its stages come to: its lines make no difference. -/
theorem result_render (world : Source.World) (settings : Source.Settings) (config : Config)
    : (render world settings config).result
      = (Source.load world settings config.input).mapError .input >>= stages config := by
  simp only [render, result_bind, result_translated, info, step]
  rfl

/-- The lines of a run, stage by stage. Each stage can rely on what the stages before it gave. -/
theorem each_render {world : Source.World} {settings : Source.Settings} {config : Config}
    {kind : Line → Prop}
    (loading
      : kind
          (.info
            ("loading input schema "
              ++ Text.quoted (Source.Location.ofText config.input).display)))
    (found
      : ∀ doc, Source.load world settings config.input = .ok doc
          → kind
              (.info
                ("found " ++ toString doc.componentTokens.length ++ " component(s): "
                  ++ ", ".intercalate doc.componentTokens)))
    (selected
      : ∀ doc component, Document.select doc config.component = .ok component
          → kind (.info ("selected component " ++ Text.quoted component.token)))
    (passed : kind (.info "preflight passed"))
    (identified
      : ∀ doc token identity, Document.identify doc token config.overrides = .ok identity
          → kind
              (.info
                ("identity " ++ identity.objectName ++ " version " ++ identity.version ++ " kind "
                  ++ identity.kind)))
    (skipped : ∀ issue, kind (.skip issue))
    (translated
      : ∀ count : Nat,
          kind (.info ("translated spec schema (" ++ toString count ++ " path(s) skipped)")))
    : (render world settings config).Each kind := by
  refine (each_info loading).bind fun _ _ => each_step.bind fun doc loads => ?_
  refine (each_info (found doc (Except.mapError_eq_ok.mp loads))).bind fun _ _ => ?_
  refine each_step.bind fun component selects => ?_
  refine (each_info (selected doc component (Except.mapError_eq_ok.mp selects))).bind fun _ _ => ?_
  refine each_step.bind fun _ _ => (each_info passed).bind fun _ _ => ?_
  refine each_step.bind fun identity identifies => ?_
  have named := identified doc component.token identity (Except.mapError_eq_ok.mp identifies)
  refine (each_info named).bind fun _ _ => ?_
  refine Each.bind ?_ fun translation _ => (each_info (translated _)).bind fun _ _ => each_step
  unfold Command.translated
  cases doc.translate component with
  | ok translation =>
      intro line member
      obtain ⟨issue, _, rfl⟩ := List.mem_map.mp member
      exact skipped issue
  | error error =>
      intro line member
      obtain ⟨issue, _, rfl⟩ := List.mem_map.mp member
      exact skipped issue

end ComponentCrd.Command
