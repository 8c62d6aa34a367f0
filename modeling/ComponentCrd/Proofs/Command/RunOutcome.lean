import ComponentCrd.Proofs.Command.Stages
import ComponentCrd.Proofs.Schema.CyclicReferences
import ComponentCrd.Proofs.Source.FileWriting

/-! What a run leaves behind for its caller: the exit code, what it prints, and the file that it
writes, for every input that can be read. Which of them it is depends on the document and the
configuration only, never on the lines that are reported on the way.
-/

namespace ComponentCrd

namespace Document

-----------------------------------------------------------------------------------------
-- What a translation cannot pass over
-----------------------------------------------------------------------------------------

/-- A construct that the translation of a component cannot go on without: a reference inside the
package that leads back to itself, or a value that is allowed at a node although it does not fit
the type.
-/
inductive Insurmountable (doc : Document) (component : Component) : Unsupported → Prop
  | cyclic {path : Path} {reference : Reference} (inside : reference.isLocal)
    (reached : doc.InputsReach component reference) (onCycle : doc.OnCycle reference)
    : doc.Insurmountable component (Refusal.unsupported ⟨path, .cyclic reference⟩ component.token)
  | mismatch {source : Entries Json} {path : Path} {raw value : Json} {values : List Json}
    {type : SchemaType} (visits : doc.Visits component ⟨.object source, path⟩)
    (found : source.lookup "enum" = some raw) (reads : Annotations.enumValues raw = .ok values)
    (member : value ∈ values) (misfit : ¬ value.Fits type)
    : doc.Insurmountable component
        (Refusal.unsupported ⟨path, .enumMismatch value type⟩ component.token)

/-- A translation that is refused for a construct met one that it cannot go on without: the other
constructs only cost the property that holds them.
-/
theorem insurmountable_of_unsupported {doc : Document} {component : Component}
    {construct : Unsupported} (fails : doc.translate component = .error (.unsupported construct))
    : doc.Insurmountable component construct := by
  rcases translate_error fails with ⟨⟨path, cause⟩, outcome, eq⟩ | ⟨_, _, _, eq⟩ | ⟨_, eq⟩
  case inr.inl => cases eq
  case inr.inr => cases eq
  obtain rfl := TranslationError.unsupported.inj eq
  have stops : cause.severity = .hard := Schema.stops_of_ofProperties outcome
  obtain ⟨place, visits, fault⟩ := visits_of_meets (.inl outcome)
  cases cause with
  | cyclic reference =>
      cases fault with
      | own lies => exact (not_cyclic_of_fault lies).elim
      | cyclic refers inside =>
          obtain ⟨reached, onCycle⟩ := reached_of_cyclic fails rfl
          rw [Reference.ofText_text inside] at reached onCycle
          exact .cyclic inside reached onCycle
  | enumMismatch value type =>
      cases fault with
      | own lies =>
          cases lies with
          | annotations _ refused =>
              obtain ⟨_, raw, values, found, reads, member, against⟩ :=
                Schema.annotated_mismatch refused
              exact .mismatch visits found reads member against
  | keyword _ | typeNotString | unknownType _ | enumWithoutType | noShape | itemsNotObject
  | requiredNotNames | valuesNotObject | descriptionNotString | enumNotList
  | enumEntryWithoutValue | enumEntryIsList => cases stops

end Document

/-- The JSON form of a schema is an object, so that it can always be rendered. -/
theorem Definition.render_toJson (identity : Identity) (schema : Schema)
    : Definition.render identity schema.toJson
      = .ok (Definition.node identity schema.toJson).document := by
  refine render_of_ne_null ?_
  cases schema <;> simp [Schema.toJson]

namespace Command

-----------------------------------------------------------------------------------------
-- How far a run comes
-----------------------------------------------------------------------------------------

/-- The stages ahead of the translation go through: the input is a document, it has the component
that is asked for, the component passes its check, and it has an identity.
-/
structure Ready (config : Config) (bytes : List UInt8) (doc : Document) (component : Component)
    (identity : Identity) : Prop where
  decodes : Document.ofText bytes = .ok doc
  selects : doc.select config.component = .ok component
  passes : doc.preflight component = .ok ()
  names : doc.identify component.token config.overrides = .ok identity

/-- The run comes to the text of a definition: the one with the identity of the component, and with
the schema that the component is translated to.
-/
inductive Renders (config : Config) (bytes : List UInt8) : String → Prop
  | text {doc component identity translation} (ready : Ready config bytes doc component identity)
    (translates : doc.translate component = .ok translation)
    : Renders config bytes (Definition.node identity translation.schema.toJson).document

/-- The run comes to the translation, which stops at a construct that it cannot go on without. -/
inductive Stuck (config : Config) (bytes : List UInt8) : Prop
  | halt {doc component identity construct} (ready : Ready config bytes doc component identity)
    (fails : doc.translate component = .error (.unsupported construct))
    (insurmountable : doc.Insurmountable component construct)

/-- What a run comes to for a document, by its stages. -/
inductive Ends (config : Config) (bytes : List UInt8) : Except RunError String → Prop
  | rendered {yaml} (renders : Renders config bytes yaml) : Ends config bytes (.ok yaml)
  | stuck {construct} (stuck : Stuck config bytes)
    : Ends config bytes (.error (.translate (.unsupported construct)))
  | refused {error} (mendable : error.exitCode = 2)
    (unrendered : ∀ yaml, ¬ Renders config bytes yaml) (unstuck : ¬ Stuck config bytes)
    : Ends config bytes (.error error)

variable {config : Config} {bytes : List UInt8} {doc : Document} {component : Component}
  {identity : Identity}

/-- There is one way for the stages ahead of the translation to go through. -/
theorem Ready.unique (ready : Ready config bytes doc component identity) {otherDoc : Document}
    {otherComponent : Component} {otherIdentity : Identity}
    (other : Ready config bytes otherDoc otherComponent otherIdentity)
    : otherDoc = doc ∧ otherComponent = component ∧ otherIdentity = identity := by
  obtain rfl := Except.ok.inj (other.decodes.symm.trans ready.decodes)
  obtain rfl := Except.ok.inj (other.selects.symm.trans ready.selects)
  obtain rfl := Except.ok.inj (other.names.symm.trans ready.names)
  exact ⟨rfl, rfl, rfl⟩

/-- A run that is over before the translation is refused. -/
theorem Ends.unready {error : RunError} (mendable : error.exitCode = 2)
    (unready : ∀ doc component identity, ¬ Ready config bytes doc component identity)
    : Ends config bytes (.error error) := by
  refine .refused mendable ?_ ?_
  · intro yaml renders
    cases renders with
    | text ready translates => exact unready _ _ _ ready
  · intro stuck
    cases stuck with
    | halt ready fails insurmountable => exact unready _ _ _ ready

/-- A run that comes to the translation ends with what the translation gives. -/
theorem Ready.ends (ready : Ready config bytes doc component identity)
    : Ends config bytes
        ((doc.translate component).mapError .translate >>= fun translation =>
          (Definition.render identity translation.schema.toJson).mapError .emit) := by
  cases translated : doc.translate component with
  | ok translation =>
      simp only [Except.mapError, bind, Except.bind, Definition.render_toJson]
      exact .rendered (.text ready translated)
  | error error =>
      have unrendered (yaml : String) : ¬ Renders config bytes yaml := by
        intro renders
        cases renders with
        | text other translates =>
            obtain ⟨rfl, rfl, rfl⟩ := ready.unique other
            cases translated.symm.trans translates
      have unstuck (other : ∀ construct, error ≠ .unsupported construct)
          : ¬ Stuck config bytes := by
        intro stuck
        cases stuck with
        | halt again fails _ =>
            obtain ⟨rfl, rfl, rfl⟩ := ready.unique again
            exact other _ (Except.error.inj (translated.symm.trans fails))
      cases error with
      | unsupported construct =>
          have insurmountable := Document.insurmountable_of_unsupported translated
          exact .stuck (.halt ready translated insurmountable)
      | malformed token path cause => exact .refused rfl unrendered (unstuck fun _ => by simp)
      | nothingTranslatable token skipped =>
          exact .refused rfl unrendered (unstuck fun _ => by simp)

/-- A document ends the run at one of the stages behind the loading. -/
theorem ends_stages (decodes : Document.ofText bytes = .ok doc)
    : Ends config bytes (stages config doc) := by
  unfold stages
  cases selects : doc.select config.component with
  | error cause =>
      refine .unready rfl fun _ _ _ ready => ?_
      obtain rfl := Except.ok.inj (decodes.symm.trans ready.decodes)
      cases selects.symm.trans ready.selects
  | ok component =>
      cases passes : doc.preflight component with
      | error cause =>
          simp only [Except.mapError, bind, Except.bind, passes]
          refine .unready rfl fun _ _ _ ready => ?_
          obtain rfl := Except.ok.inj (decodes.symm.trans ready.decodes)
          obtain rfl := Except.ok.inj (selects.symm.trans ready.selects)
          cases passes.symm.trans ready.passes
      | ok =>
          cases names : doc.identify component.token config.overrides with
          | error cause =>
              simp only [Except.mapError, bind, Except.bind, passes, names]
              refine .unready rfl fun _ _ _ ready => ?_
              obtain rfl := Except.ok.inj (decodes.symm.trans ready.decodes)
              obtain rfl := Except.ok.inj (selects.symm.trans ready.selects)
              cases names.symm.trans ready.names
          | ok identity =>
              have ends := Ready.ends ⟨decodes, selects, passes, names⟩
              simpa only [Except.mapError, bind, Except.bind, passes, names] using ends

/-- A run with an input that is read ends at one of its stages. -/
theorem ends_render {world : Source.World} {settings : Source.Settings}
    (loads : Source.loadBytes world settings config.input = .ok bytes)
    : Ends config bytes (render world settings config).result := by
  rw [result_render]
  simp only [Source.load, loads, bind, Except.bind]
  cases decodes : Document.ofText bytes with
  | error fault =>
      refine .unready rfl fun _ _ _ ready => ?_
      cases decodes.symm.trans ready.decodes
  | ok doc => exact ends_stages decodes

/-- A run renders one text at most. -/
theorem Renders.unique {yaml other : String} (renders : Renders config bytes yaml)
    (again : Renders config bytes other)
    : yaml = other := by
  cases renders with
  | text ready translates =>
      cases again with
      | text readyAgain translatesAgain =>
          obtain ⟨rfl, rfl, rfl⟩ := ready.unique readyAgain
          obtain rfl := Except.ok.inj (translates.symm.trans translatesAgain)
          rfl

theorem Stuck.not_renders {yaml : String} (stuck : Stuck config bytes)
    : ¬ Renders config bytes yaml := by
  intro renders
  cases stuck with
  | halt ready fails _ =>
      cases renders with
      | text again translates =>
          obtain ⟨rfl, rfl, rfl⟩ := ready.unique again
          cases fails.symm.trans translates

/-- A run that renders a text ends with it. -/
theorem Renders.eq_ok {yaml : String} {result : Except RunError String}
    (renders : Renders config bytes yaml) (ends : Ends config bytes result)
    : result = .ok yaml := by
  cases ends with
  | rendered again => rw [renders.unique again]
  | stuck stuck => exact (stuck.not_renders renders).elim
  | refused _ unrendered _ => exact (unrendered _ renders).elim

/-- A run that does not render has one of two exit codes. -/
theorem Ends.exitCode {error : RunError} (ends : Ends config bytes (.error error))
    : error.exitCode = 2 ∨ error.exitCode = 3 := by
  cases ends with
  | stuck stuck => exact .inr rfl
  | refused mendable _ _ => exact .inl mendable

/-- Its exit code tells whether it was stuck. -/
theorem Ends.stuck_iff {error : RunError} (ends : Ends config bytes (.error error))
    : Stuck config bytes ↔ error.exitCode = 3 := by
  cases ends with
  | stuck stuck => exact ⟨fun _ => rfl, fun _ => stuck⟩
  | refused mendable _ unstuck =>
      refine ⟨fun stuck => (unstuck stuck).elim, fun three => ?_⟩
      cases mendable.symm.trans three

-----------------------------------------------------------------------------------------
-- What a run leaves behind
-----------------------------------------------------------------------------------------

namespace Reported

variable {α : Type} {work : Reported α}

/-- Work that comes to a result writes nothing for a user who did not ask for progress, if none of
its lines reports an error.
-/
theorem transcript_eq_empty {result : α} (ended : work.result = .ok result)
    (quiet : work.Each fun line => line.isError = false)
    : work.transcript false = "" := by
  have silent : List.filter (fun line => false || Line.isError line) work.report = [] := by
    rw [List.filter_eq_nil_iff]
    intro line member
    simp [quiet line member]
  simp only [transcript, ended, List.append_nil, Report.text, silent]
  rfl

end Reported

open Reported

/-- None of the lines that a run reports on its way is an error. -/
theorem quiet_render (world : Source.World) (settings : Source.Settings) (config : Config)
    : (render world settings config).Each fun line => line.isError = false :=
  each_render rfl (fun _ _ => rfl) (fun _ _ _ => rfl) rfl (fun _ _ _ _ => rfl) (fun _ => rfl)
    fun _ => rfl

namespace Surroundings

/-- How a run loads its input: nobody calls it off. -/
def settings (found : Surroundings) : Source.Settings :=
  { workingDirectory? := found.shellDirectory? }

/-- The work of a run up to the text of the definition. -/
def work (found : Surroundings) (config : Config) : Reported String :=
  Command.render found.world found.settings config

/-- The run reads the bytes as its input, and nothing keeps it from writing the text that it comes
to into the file that is asked for.
-/
structure Serves (found : Surroundings) (config : Config) (bytes : List UInt8) : Prop where
  reads : Source.loadBytes found.world found.settings config.input = .ok bytes
  writes
    : ∀ target yaml, config.output? = some target → Renders config bytes yaml
        → ∃ tree, found.tree.write found.current target (Text.toUtf8 yaml) = .ok tree

/-- What a run has to leave behind that reads the bytes as its input. -/
structure Honours (found : Surroundings) (config : Config) (bytes : List UInt8)
    (outcome : Outcome) : Prop where
  codes : outcome.exitCode = 0 ∨ outcome.exitCode = 2 ∨ outcome.exitCode = 3
  renders : outcome.exitCode = 0 ↔ ∃ yaml, Renders config bytes yaml
  stuck : outcome.exitCode = 3 ↔ Stuck config bytes
  printed
    : ∀ yaml, Renders config bytes yaml → config.output? = none
        → outcome.stdout = yaml ∧ outcome.tree = found.tree
  filed
    : ∀ yaml target, Renders config bytes yaml → config.output? = some target
        → outcome.stdout = ""
          ∧ outcome.tree.read found.current target = .ok (Text.toUtf8 yaml)
  untouched : outcome.exitCode ≠ 0 → outcome.stdout = "" ∧ outcome.tree = found.tree

/-- What a run has to be for every command line that asks for it: it honours what was said, writes
nothing for a user who did not ask for progress unless it fails, and does the same whether the user
asked or not.
-/
structure Dependable (found : Surroundings) (config : Config) (bytes : List UInt8) : Prop where
  honours
    : ∀ arguments verbose, Request.ofArguments arguments = .ok (.run config verbose)
        → found.Honours config bytes (found.run arguments)
  quiet
    : ∀ arguments, Request.ofArguments arguments = .ok (.run config false)
        → (found.run arguments).exitCode = 0 → (found.run arguments).stderr = ""
  indifferent
    : ∀ arguments others verbose other,
        Request.ofArguments arguments = .ok (.run config verbose)
        → Request.ofArguments others = .ok (.run config other)
        → (found.run arguments).exitCode = (found.run others).exitCode
          ∧ (found.run arguments).stdout = (found.run others).stdout
          ∧ (found.run arguments).tree = (found.run others).tree

variable {found : Surroundings} {arguments : List String} {verbose : Bool}

-----------------------------------------------------------------------------------------
-- Work, and what is left behind
-----------------------------------------------------------------------------------------

/-- What a run leaves behind is what its work and the writing of the text left. -/
theorem run_eq (request : Request.ofArguments arguments = .ok (.run config verbose))
    : found.run arguments
      = { exitCode := (found.render found.settings config).1.exitCode
          stdout :=
            if config.output?.isSome then ""
            else (found.render found.settings config).1.result.toOption.getD ""
          stderr := (found.render found.settings config).1.transcript verbose
          tree := (found.render found.settings config).2 } := by
  unfold run
  simp only [request]
  rfl

/-- Work that fails, or comes to a text that is to be printed, writes nothing. -/
theorem render_eq_work
    (unwritten : ∀ yaml, (found.work config).result = .ok yaml → config.output? = none)
    : found.render found.settings config = (found.work config, found.tree) := by
  have same : Command.render found.world found.settings config = found.work config := rfl
  unfold render
  dsimp only
  rw [same]
  cases ended : (found.work config).result with
  | error error => rfl
  | ok yaml => rw [unwritten yaml ended]

/-- Work that comes to a text for a file goes on with writing it. -/
theorem render_eq_written {yaml target : String} {tree : Source.FileTree}
    (ended : (found.work config).result = .ok yaml) (named : config.output? = some target)
    (wrote : found.tree.write found.current target (Text.toUtf8 yaml) = .ok tree)
    : found.render found.settings config
      = (found.work config >>= fun yaml => written target (.ok ()) >>= fun _ => pure yaml,
          tree) := by
  have writing : found.write target yaml = (tree, written target (.ok ())) := by
    simp only [write, wrote]
  have same : Command.render found.world found.settings config = found.work config := rfl
  unfold render
  dsimp only
  rw [same, ended, named]
  simp only [writing]
  rfl

/-- What a run leaves behind that fails. -/
theorem run_of_error (request : Request.ofArguments arguments = .ok (.run config verbose))
    {error : RunError} (fails : (found.work config).result = .error error)
    : found.run arguments
      = ⟨error.exitCode, "", (found.work config).transcript verbose, found.tree⟩ := by
  have unwritten : ∀ yaml, (found.work config).result = .ok yaml → config.output? = none := by
    intro yaml ended
    cases fails.symm.trans ended
  rw [run_eq request, render_eq_work unwritten]
  simp only [exitCode, fails]
  cases config.output? <;> rfl

/-- What a run leaves behind that prints its text. -/
theorem run_of_printed (request : Request.ofArguments arguments = .ok (.run config verbose))
    {yaml : String} (ended : (found.work config).result = .ok yaml)
    (unnamed : config.output? = none)
    : found.run arguments = ⟨0, yaml, (found.work config).transcript verbose, found.tree⟩ := by
  rw [run_eq request, render_eq_work fun _ _ => unnamed]
  simp only [exitCode, ended, unnamed]
  rfl

/-- What a run leaves behind that writes its text to a file. -/
theorem run_of_filed (request : Request.ofArguments arguments = .ok (.run config verbose))
    {yaml target : String} {tree : Source.FileTree}
    (ended : (found.work config).result = .ok yaml) (named : config.output? = some target)
    (wrote : found.tree.write found.current target (Text.toUtf8 yaml) = .ok tree)
    : ∃ stderr, found.run arguments = ⟨0, "", stderr, tree⟩
        ∧ (verbose = false → stderr = "") := by
  have work
      : (found.work config >>= fun yaml => written target (.ok ()) >>= fun _ => pure yaml).result
        = .ok yaml := by
    rw [result_bind, ended]
    rfl
  refine ⟨(found.render found.settings config).1.transcript verbose, ?_, ?_⟩
  · rw [run_eq request, render_eq_written ended named wrote]
    simp only [exitCode, work, named]
    rfl
  · rintro rfl
    rw [render_eq_written ended named wrote]
    refine transcript_eq_empty work ?_
    refine (quiet_render _ _ _).bind fun yaml _ => ?_
    refine Each.bind (each_step.bind fun _ _ => each_info rfl) fun _ _ => ?_
    intro line member
    cases member

-----------------------------------------------------------------------------------------
-- Every run
-----------------------------------------------------------------------------------------

variable {bytes : List UInt8}

/-- What is left behind by a run, apart from what it writes for its user: the exit code, what is
printed, and the files.
-/
inductive Leaves (found : Surroundings) (config : Config) (bytes : List UInt8)
    : Nat → String → Source.FileTree → Prop
  | failed {error} (ends : Ends config bytes (.error error))
    : Leaves found config bytes error.exitCode "" found.tree
  | printed {yaml} (renders : Renders config bytes yaml) (unnamed : config.output? = none)
    : Leaves found config bytes 0 yaml found.tree
  | filed {yaml target tree} (renders : Renders config bytes yaml)
    (named : config.output? = some target)
    (wrote : found.tree.write found.current target (Text.toUtf8 yaml) = .ok tree)
    : Leaves found config bytes 0 "" tree

/-- What a run leaves behind does not depend on the command line that asks for it, apart from what
it writes for its user.
-/
theorem run_leaves (serves : found.Serves config bytes)
    : ∃ code stdout tree,
        Leaves found config bytes code stdout tree
        ∧ ∀ arguments verbose, Request.ofArguments arguments = .ok (.run config verbose)
          → ∃ stderr, found.run arguments = ⟨code, stdout, stderr, tree⟩
              ∧ (code = 0 → verbose = false → stderr = "") := by
  have ends : Ends config bytes (found.work config).result := ends_render serves.reads
  cases ended : (found.work config).result with
  | error error =>
      rw [ended] at ends
      refine ⟨_, _, _, .failed ends, fun arguments verbose request => ?_⟩
      refine ⟨_, run_of_error request ended, fun zero => ?_⟩
      cases ends with
      | stuck stuck => cases zero
      | refused mendable _ _ => cases mendable.symm.trans zero
  | ok yaml =>
      rw [ended] at ends
      cases ends with
      | rendered renders =>
          cases named : config.output? with
          | none =>
              refine ⟨_, _, _, .printed renders named, fun arguments verbose request => ?_⟩
              refine ⟨_, run_of_printed request ended named, ?_⟩
              rintro _ rfl
              exact transcript_eq_empty ended (quiet_render _ _ _)
          | some target =>
              obtain ⟨tree, wrote⟩ := serves.writes target yaml named renders
              refine ⟨_, _, _, .filed renders named wrote, fun arguments verbose request => ?_⟩
              obtain ⟨stderr, left, quiet⟩ := run_of_filed request ended named wrote
              exact ⟨stderr, left, fun _ => quiet⟩

/-- What is left behind is what was promised. -/
theorem Leaves.honours {code : Nat} {stdout stderr : String} {tree : Source.FileTree}
    (leaves : Leaves found config bytes code stdout tree)
    : found.Honours config bytes ⟨code, stdout, stderr, tree⟩ := by
  have success {yaml : String} (renders : Renders config bytes yaml)
      : ((0 : Nat) = 0 ↔ ∃ yaml, Renders config bytes yaml)
        ∧ ((0 : Nat) = 3 ↔ Stuck config bytes) := by
    refine ⟨⟨fun _ => ⟨yaml, renders⟩, fun _ => rfl⟩, ⟨fun three => ?_, fun stuck => ?_⟩⟩
    · cases three
    · exact (stuck.not_renders renders).elim
  cases leaves with
  | printed renders unnamed =>
      obtain ⟨zero, three⟩ := success renders
      refine ⟨.inl rfl, zero, three, fun yaml again _ => ⟨renders.unique again, rfl⟩, ?_, ?_⟩
      · intro yaml target _ named
        cases unnamed.symm.trans named
      · exact fun failed => (failed rfl).elim
  | filed renders named wrote =>
      obtain ⟨zero, three⟩ := success renders
      refine ⟨.inl rfl, zero, three, ?_, ?_, fun failed => (failed rfl).elim⟩
      · intro yaml _ unnamed
        cases named.symm.trans unnamed
      · intro yaml target again other
        obtain rfl := Option.some.inj (named.symm.trans other)
        obtain rfl := renders.unique again
        exact ⟨rfl, Source.FileTree.read_of_write wrote⟩
  | failed ends =>
      refine ⟨?_, ⟨?_, ?_⟩, ends.stuck_iff.symm, ?_, ?_, fun _ => ⟨rfl, rfl⟩⟩
      · exact .inr ends.exitCode
      · intro zero
        rcases ends.exitCode with two | three
        · cases two.symm.trans zero
        · cases three.symm.trans zero
      · rintro ⟨yaml, renders⟩
        cases renders.eq_ok ends
      · intro yaml renders
        cases renders.eq_ok ends
      · intro yaml target renders
        cases renders.eq_ok ends

/-- Every run with an input that can be read is dependable, and no translation is ever refused for a
construct that it could have passed over.
-/
theorem dependable_of_serves (serves : found.Serves config bytes)
    : found.Dependable config bytes
      ∧ ∀ doc component construct,
          Document.translate doc component = .error (.unsupported construct)
          → construct.isSkippable = false := by
  obtain ⟨code, stdout, tree, leaves, runs⟩ := run_leaves serves
  refine ⟨⟨?_, ?_, ?_⟩, ?_⟩
  · intro arguments verbose request
    obtain ⟨stderr, left, _⟩ := runs arguments verbose request
    exact left ▸ leaves.honours
  · intro arguments request zero
    obtain ⟨stderr, left, quiet⟩ := runs arguments false request
    rw [left] at zero ⊢
    exact quiet zero rfl
  · intro arguments others verbose other request again
    obtain ⟨_, left, _⟩ := runs arguments verbose request
    obtain ⟨_, leftAgain, _⟩ := runs others other again
    rw [left, leftAgain]
    exact ⟨rfl, rfl, rfl⟩
  · intro doc component construct fails
    cases Document.insurmountable_of_unsupported fails with
    | cyclic | mismatch => rfl

/-- A package with one component, as JSON. -/
def noteText : String :=
  "\x7b\"resources\":\x7b\"p:i:Note\":\x7b\"isComponent\":true,"
    ++ "\"inputProperties\":\x7b\"text\":\x7b\"type\":\"string\"\x7d\x7d\x7d\x7d\x7d"

/-- A home directory with the package as its only file, and no servers. -/
def noteDirectory : Surroundings where
  tree := .directory [("home", .directory [("note.json", .file (Text.toUtf8 noteText))])]
  current := ["home"]
  shellDirectory? := none
  fetch _ := .error .sending

/-- A definition of the only component is asked for, in a file beside the package. -/
def noteConfig : Config := { input := "note.json", output? := some "note.yaml" }

/-- The package is read, and its definition can be written. -/
theorem noteDirectory_dependable
    : noteDirectory.Serves noteConfig (Text.toUtf8 noteText)
      ∧ noteDirectory.Dependable noteConfig (Text.toUtf8 noteText) := by
  have serves : noteDirectory.Serves noteConfig (Text.toUtf8 noteText) := by
    refine ⟨by decide +kernel, ?_⟩
    rintro _ yaml ⟨⟩ _
    exact ⟨_, rfl⟩
  exact ⟨serves, (dependable_of_serves serves).1⟩

/-- The definition is written. -/
example
    : (noteDirectory.run ["--in", "note.json", "--out=note.yaml", "--verbose"]).exitCode = 0 := by
  decide +kernel

end Surroundings

end Command

end ComponentCrd
