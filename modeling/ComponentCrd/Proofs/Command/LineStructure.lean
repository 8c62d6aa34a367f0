import ComponentCrd.Proofs.Command.RunOutcome
import ComponentCrd.Proofs.Manifest.DocumentReading
import ComponentCrd.Proofs.Naming.DerivedIdentities
import ComponentCrd.Proofs.Schema.ErrorWording
import ComponentCrd.Proofs.Source.LoadWording

/-! What a run writes for its user is made of lines with a mark, with one error among them exactly
if the run fails. That takes texts without line breaks wherever a line shows a text as it is: the
tokens of the components, the name of the input, and the paths and references that an error names. A
line that shows a text in quotes stays on one line whatever the text holds.
-/

namespace ComponentCrd

open Yaml.Reader (linesOf linesOf_flatMap)

-----------------------------------------------------------------------------------------
-- Identities
-----------------------------------------------------------------------------------------

/-- A character of a text is in one of its segments, or separates them; by induction over the text.
-/
theorem Text.mem_segment_of_mem {separator c : Char} (other : c ≠ separator) {text : List Char}
    (member : c ∈ text)
    : ∃ segment ∈ segments separator text, c ∈ segment := by
  induction text with
  | nil => cases member
  | cons first rest ih =>
      rw [segments]
      split
      · next separates =>
          rcases List.mem_cons.mp member with rfl | later
          · exact (other separates).elim
          · obtain ⟨segment, inside, found⟩ := ih later
            exact ⟨segment, .tail _ inside, found⟩
      · split
        · next none =>
            rcases List.mem_cons.mp member with rfl | later
            · exact ⟨_, .head _, .head _⟩
            · obtain ⟨segment, inside, _⟩ := ih later
              rw [none] at inside
              cases inside
        · next head others eq =>
            rcases List.mem_cons.mp member with rfl | later
            · exact ⟨_, .head _, .head _⟩
            · obtain ⟨segment, inside, found⟩ := ih later
              rw [eq] at inside
              rcases List.mem_cons.mp inside with rfl | inside
              · exact ⟨_, .head _, .tail _ found⟩
              · exact ⟨segment, .tail _ inside, found⟩

theorem not_mem_label {name : List Char} (label : Naming.isLabel name) : '\n' ∉ name := by
  intro member
  simp only [Naming.isLabel, Naming.hasLabelForm, Bool.and_eq_true, List.all_eq_true] at label
  have inner := label.2.1.1 '\n' member
  revert inner
  decide

/-- The rules for the fields of an identity admit no line feed. -/
theorem IdentityField.unbroken_of_admits {field : IdentityField} {text : String}
    (admits : field.admits text)
    : Unbroken text := by
  intro member
  cases field with
  | group =>
      simp only [IdentityField.admits, Naming.isSubdomain, Bool.and_eq_true, List.all_eq_true]
        at admits
      have other : '\n' ≠ '.' := by decide
      obtain ⟨segment, inside, found⟩ := Text.mem_segment_of_mem other member
      exact not_mem_label (admits.2 segment inside) found
  | kind =>
      simp only [IdentityField.admits, Naming.isKind, Bool.and_eq_true, List.all_eq_true] at admits
      exact absurd (admits.2 '\n' member) (by decide)
  | version | plural | singular => exact not_mem_label admits member

theorem IdentityError.unbroken_message (error : IdentityError) : Unbroken error.message := by
  obtain ⟨field⟩ := error
  cases field <;> decide +kernel

/-- The fields of the identity of a component keep their rules. -/
theorem Document.admits_of_identify {doc : Document} {token : String}
    {overrides : IdentityOverrides} {identity : Identity}
    (identifies : doc.identify token overrides = .ok identity) (field : IdentityField)
    : field.admits (identity.get field) := by
  obtain ⟨_, valid, same⟩ := Except.bind_eq_ok.mp identifies
  obtain rfl := Except.ok.inj same
  exact Identity.validate_eq_ok.mp valid field

-----------------------------------------------------------------------------------------
-- Selected components
-----------------------------------------------------------------------------------------

namespace Document

variable {doc : Document} {requested : String}

/-- A selection fails on one line if the component asked for and the tokens are worded on one. -/
theorem unbroken_selectionError {error : SelectionError} (asked : Unbroken requested)
    (tokens : ∀ token ∈ doc.componentTokens, Unbroken token)
    (fails : doc.select requested = .error error)
    : Unbroken error.message := by
  have listed := unbroken_intercalate tokens
  have missing : Unbroken (SelectionError.notFound requested doc.componentTokens).message := by
    have asked : Unbroken ("component \"" ++ requested) := .append (by decide) asked
    exact (asked.append (by decide +kernel)).append listed
  unfold select at fails
  split at fails
  · obtain rfl := Except.error.inj fails
    decide +kernel
  · split at fails
    · split at fails
      · split at fails
        · cases fails
        · exact Except.error.inj fails ▸ missing
      · exact Except.error.inj fails ▸ missing
    · split at fails
      · cases fails
      · obtain rfl := Except.error.inj fails
        exact .append (by decide +kernel) listed

end Document

namespace Command

-----------------------------------------------------------------------------------------
-- Lines and marks
-----------------------------------------------------------------------------------------

/-- The mark that a line begins with. -/
def Line.mark : Line → String
  | .info _ => "info: "
  | .skip _ => "warn: "
  | .error _ => "error: "

/-- What a line shows behind its mark. -/
def Line.shown : Line → String
  | .info text => text
  | .skip issue =>
      "component=" ++ Text.quoted issue.component ++ " path=" ++ Text.quoted issue.path
        ++ " reason=" ++ Text.quoted issue.reason
  | .error text => text

/-- Whether a line begins with a mark. -/
def begins (mark : String) (line : List Char) : Bool := mark.toList.isPrefixOf line

/-- The error that work ends with, if it fails. -/
def Reported.error? {α : Type} (work : Reported α) : Option RunError :=
  match work.result with
  | .ok _ => none
  | .error error => some error

/-- The line of an error. -/
def errorLine (error : RunError) : List Char := ("error: " ++ error.message).toList

/-- The text is made of lines with a mark. The only one that is marked as an error is that of the
given error, and nothing else is written if no progress is asked for.
-/
structure LineStructured (text : String) (verbose : Bool) (error? : Option RunError) : Prop where
  ended : (linesOf text.toList).flatMap (· ++ ['\n']) = text.toList
  marked
    : ∀ line ∈ linesOf text.toList,
        begins "info: " line ∨ begins "warn: " line ∨ begins "error: " line
  errors
    : (linesOf text.toList).filter (begins "error: ") = (error?.map errorLine).toList
  silent : verbose = false → linesOf text.toList = (error?.map errorLine).toList

theorem begins_append (mark rest : String) : begins mark (mark ++ rest).toList := by
  rw [begins, String.toList_append, List.isPrefixOf_iff_prefix]
  exact List.prefix_append _ _

/-- Texts that begin with another letter do not begin with the mark. -/
theorem begins_eq_false {mark first rest : String} {c other : Char}
    (head : mark.toList.head? = some c) (otherHead : first.toList.head? = some other)
    (differ : c ≠ other)
    : begins mark (first ++ rest).toList = false := by
  obtain ⟨marked, head⟩ := List.head?_eq_some_iff.mp head
  obtain ⟨behind, otherHead⟩ := List.head?_eq_some_iff.mp otherHead
  rw [begins, String.toList_append, head, otherHead, List.cons_append, List.isPrefixOf_cons_cons]
  simp [differ]

namespace Line

theorem unbroken_mark (line : Line) : Unbroken line.mark := by
  cases line with
  | info => exact (by decide : Unbroken "info: ")
  | skip => exact (by decide : Unbroken "warn: ")
  | error => exact (by decide : Unbroken "error: ")

/-- The characters of a line, without its line end. -/
def chars (line : Line) : List Char := (line.mark ++ line.shown).toList

theorem text_eq (line : Line) : line.text = line.mark ++ line.shown ++ "\n" := by
  cases line with
  | info text =>
      change "info: " ++ text ++ "\n" = "info: " ++ text ++ "\n"
      rfl
  | skip issue =>
      have split : "warn: component=" = "warn: " ++ "component=" := by decide
      change "warn: component=" ++ _ ++ _ ++ _ ++ _ ++ _ ++ "\n"
        = "warn: " ++ ("component=" ++ _ ++ _ ++ _ ++ _ ++ _) ++ "\n"
      rw [split]
      simp only [String.append_assoc]
  | error text =>
      change "error: " ++ text ++ "\n" = "error: " ++ text ++ "\n"
      rfl

theorem toList_text (line : Line) : line.text.toList = line.chars ++ ['\n'] := by
  have lineEnd : "\n".toList = ['\n'] := by decide
  rw [text_eq, String.toList_append, lineEnd, chars]

theorem begins_mark (line : Line)
    : begins "info: " line.chars ∨ begins "warn: " line.chars ∨ begins "error: " line.chars := by
  cases line with
  | info text => exact .inl (begins_append _ _)
  | skip issue => exact .inr (.inl (begins_append _ _))
  | error text => exact .inr (.inr (begins_append _ _))

theorem begins_error (line : Line) : begins "error: " line.chars = line.isError := by
  have error : "error: ".toList.head? = some 'e' := by decide
  have info : "info: ".toList.head? = some 'i' := by decide
  have warn : "warn: ".toList.head? = some 'w' := by decide
  cases line with
  | info text => exact begins_eq_false error info (by decide)
  | skip issue => exact begins_eq_false error warn (by decide)
  | error text => exact begins_append _ _

end Line

-----------------------------------------------------------------------------------------
-- Written reports
-----------------------------------------------------------------------------------------

/-- The lines of a report that are written. -/
def Report.kept (report : Report) (verbose : Bool) : Report :=
  List.filter (fun line => verbose || line.isError) report

theorem Report.toList_text (report : Report) (verbose : Bool)
    : (report.text verbose).toList
      = ((report.kept verbose).map Line.chars).flatMap (· ++ ['\n']) := by
  simp only [Report.text, kept, String.toList_join, List.flatMap_map, Line.toList_text]

/-- A written report falls into the lines that are kept, if none of them shows a line break. -/
theorem Report.linesOf_text {report : Report} (unbroken : ∀ line ∈ report, Unbroken line.shown)
    (verbose : Bool)
    : linesOf (report.text verbose).toList = (report.kept verbose).map Line.chars := by
  rw [Report.toList_text, linesOf_flatMap]
  intro chars member
  obtain ⟨line, kept, rfl⟩ := List.mem_map.mp member
  exact line.unbroken_mark.append (unbroken line (List.mem_filter.mp kept).1)

/-- Errors are always kept. -/
theorem Report.errors_kept (report : Report) (verbose : Bool)
    : (report.kept verbose).filter Line.isError = List.filter Line.isError report := by
  rw [kept, List.filter_filter]
  congr 1
  funext line
  cases verbose <;> cases line.isError <;> rfl

/-- A report is written as it should be if none of its lines shows a line break, and there is one
error in it exactly if something failed.
-/
theorem Report.lineStructured {report : Report} {error? : Option RunError}
    (unbroken : ∀ line ∈ report, Unbroken line.shown)
    (errors
      : List.filter Line.isError report
        = (error?.map fun error => Line.error error.message).toList)
    (verbose : Bool)
    : LineStructured (report.text verbose) verbose error? := by
  have lines := Report.linesOf_text unbroken verbose
  have shown
      : (List.filter Line.isError report).map Line.chars = (error?.map errorLine).toList := by
    rw [errors]
    cases error? <;> rfl
  refine ⟨?_, ?_, ?_, ?_⟩
  · rw [lines, Report.toList_text]
  · intro chars member
    rw [lines] at member
    obtain ⟨line, _, rfl⟩ := List.mem_map.mp member
    exact line.begins_mark
  · have same : begins "error: " ∘ Line.chars = Line.isError := funext Line.begins_error
    rw [lines, List.filter_map, same, Report.errors_kept, shown]
  · rintro rfl
    rw [lines, ← shown]
    simp only [Report.kept, Bool.false_or]

namespace RunError

/-- The report of an error holds one error, and may hold a hint before it. -/
theorem errors_report (error : RunError)
    : List.filter Line.isError error.report = [.error error.message] := by
  unfold report
  cases error.help? <;> rfl

/-- Hints are fixed texts. -/
theorem unbroken_report {error : RunError} (unbroken : Unbroken error.message)
    : ∀ line ∈ error.report, Unbroken line.shown := by
  intro line member
  rcases List.mem_append.mp member with hint | last
  · obtain ⟨help, given, rfl⟩ := Option.map_eq_some_iff.mp (Option.mem_toList.mp hint)
    have fixed : Unbroken help := by
      cases error with
      | usage | select | identity =>
          obtain rfl := Option.some.inj given
          decide +kernel
      | input | preflight | translate | emit | output => cases given
    exact Unbroken.append (by decide) fixed
  · obtain rfl := List.mem_singleton.mp last
    exact unbroken

end RunError

namespace Reported

variable {α : Type} {work : Reported α}

/-- Every line of work, with those that report the error that ends it. -/
def lines (work : Reported α) : Report :=
  work.report ++ (work.error?.map RunError.report).getD []

theorem transcript_eq (work : Reported α) (verbose : Bool)
    : work.transcript verbose = work.lines.text verbose := by
  unfold transcript lines error?
  cases work.result <;> rfl

/-- What is written of work that reports its error at its end only. -/
theorem lineStructured (quiet : work.Each fun line => line.isError = false)
    (unbroken : work.Each fun line => Unbroken line.shown)
    (ending : ∀ error, work.result = .error error → Unbroken error.message) (verbose : Bool)
    : LineStructured (work.transcript verbose) verbose work.error? := by
  rw [transcript_eq]
  have progress : List.filter Line.isError work.report = [] :=
    List.filter_eq_nil_iff.mpr fun line member => by simp [quiet line member]
  apply Report.lineStructured
  · intro line member
    rcases List.mem_append.mp member with earlier | last
    · exact unbroken line earlier
    · cases ended : work.result with
      | ok result => simp [error?, ended] at last
      | error error =>
          simp only [error?, ended, Option.map_some, Option.getD_some] at last
          exact RunError.unbroken_report (ending error ended) line last
  · rw [lines, List.filter_append, progress, List.nil_append]
    cases work.error? with
    | none => rfl
    | some error => exact error.errors_report

end Reported

-----------------------------------------------------------------------------------------
-- Runs
-----------------------------------------------------------------------------------------

/-- No text that a run may show as it is has a line break: the name of the input, the component that
is asked for, the wordings of the operating system, the tokens of the components, and the paths and
references that the selected component reaches.
-/
structure Plain (world : Source.World) (settings : Source.Settings) (config : Config) : Prop where
  input : Unbroken config.input
  requested : Unbroken config.component
  faults : ∀ path fault, world.read path = .error fault → Unbroken fault.message
  tokens
    : ∀ doc, Source.load world settings config.input = .ok doc
        → ∀ token ∈ doc.componentTokens, Unbroken token
  places
    : ∀ doc component, Source.load world settings config.input = .ok doc
        → doc.select config.component = .ok component
          → ∀ place, doc.Reaches component place → place.OnOneLine

variable {world : Source.World} {settings : Source.Settings} {config : Config}

/-- Whatever the stage at which a run fails, the error is worded on one line. -/
theorem Plain.unbroken_error (plain : Plain world settings config) {error : RunError}
    (fails : (render world settings config).result = .error error)
    : Unbroken error.message := by
  rw [result_render] at fails
  rcases Except.bind_eq_error.mp fails with unloaded | ⟨doc, loads, fails⟩
  · obtain ⟨cause, refused, rfl⟩ := Except.mapError_eq_error.mp unloaded
    exact Source.unbroken_load plain.input plain.faults refused
  have loads := Except.mapError_eq_ok.mp loads
  rcases Except.bind_eq_error.mp fails with unselected | ⟨component, selects, fails⟩
  · obtain ⟨cause, refused, rfl⟩ := Except.mapError_eq_error.mp unselected
    exact Document.unbroken_selectionError plain.requested (plain.tokens doc loads) refused
  have selects := Except.mapError_eq_ok.mp selects
  have member := Document.mem_components_of_select selects
  have token := plain.tokens doc loads component.token (List.mem_map_of_mem member)
  have places := plain.places doc component loads selects
  rcases Except.bind_eq_error.mp fails with unchecked | ⟨_, _, fails⟩
  · obtain ⟨cause, refused, rfl⟩ := Except.mapError_eq_error.mp unchecked
    exact Document.unbroken_preflightError places token refused
  rcases Except.bind_eq_error.mp fails with unnamed | ⟨identity, _, fails⟩
  · obtain ⟨cause, _, rfl⟩ := Except.mapError_eq_error.mp unnamed
    exact cause.unbroken_message
  rcases Except.bind_eq_error.mp fails with untranslated | ⟨translation, _, fails⟩
  · obtain ⟨cause, refused, rfl⟩ := Except.mapError_eq_error.mp untranslated
    exact Document.unbroken_translationError places token refused
  · rw [Definition.render_toJson] at fails
    cases fails

/-- The lines of progress show the tokens of the components, and besides these quoted texts, numbers
and the names of a valid identity.
-/
theorem Plain.unbroken_progress (plain : Plain world settings config)
    : (render world settings config).Each fun line => Unbroken line.shown := by
  refine each_render ?_ ?_ ?_ (by decide +kernel) ?_ ?_ ?_
  · exact .append (by decide +kernel) (unbroken_quoted _)
  · intro doc loads
    have counted : Unbroken ("found " ++ toString doc.componentTokens.length) :=
      .append (by decide) (unbroken_toString _)
    have listed := unbroken_intercalate (plain.tokens doc loads)
    exact (counted.append (by decide +kernel)).append listed
  · intro doc component _
    exact .append (by decide +kernel) (unbroken_quoted _)
  · intro doc token identity identifies
    have field (field : IdentityField) : Unbroken (identity.get field) :=
      IdentityField.unbroken_of_admits (Document.admits_of_identify identifies field)
    have name : Unbroken identity.objectName :=
      ((field .plural).append (by decide : Unbroken ".")).append (field .group)
    have named : Unbroken ("identity " ++ identity.objectName) := .append (by decide) name
    have version := (named.append (by decide : Unbroken " version ")).append (field .version)
    exact (version.append (by decide)).append (field .kind)
  · intro issue
    have component : Unbroken ("component=" ++ Text.quoted issue.component) :=
      .append (by decide) (unbroken_quoted _)
    have between : Unbroken " path=" := by decide
    have path := (component.append between).append (unbroken_quoted issue.path)
    exact (path.append (by decide)).append (unbroken_quoted _)
  · intro count
    have counted : Unbroken ("translated spec schema (" ++ toString count) :=
      .append (by decide +kernel) (unbroken_toString _)
    exact counted.append (by decide +kernel)

/-- A document without line breaks in its schema nodes and its components brings none into a run. -/
theorem plain_of_isUnbroken (input : Unbroken config.input) (requested : Unbroken config.component)
    (faults : ∀ path fault, world.read path = .error fault → Unbroken fault.message)
    (loaded
      : ∀ doc, Source.load world settings config.input = .ok doc
          → doc.isUnbroken ∧ ∀ token ∈ doc.componentTokens, Unbroken token)
    : Plain world settings config where
  input
  requested
  faults
  tokens doc loads := (loaded doc loads).2
  places doc _ loads selects _ reaches :=
    Document.unbroken_of_reaches (loaded doc loads).1 (Document.mem_components_of_select selects)
      reaches

/-- What a run writes is made of lines, for every document and every configuration that bring no
line breaks into what is written, if anything is.
-/
theorem lineStructured_of_plain (verbose : Bool)
    (plain
      : verbose ∨ (render world settings config).error?.isSome → Plain world settings config)
    : LineStructured ((render world settings config).transcript verbose) verbose
        (render world settings config).error? := by
  by_cases written : verbose ∨ (render world settings config).error?.isSome
  · have plain := plain written
    exact Reported.lineStructured (quiet_render _ _ _) plain.unbroken_progress
      (fun _ fails => plain.unbroken_error fails) verbose
  · obtain ⟨silent, succeeds⟩ := not_or.mp written
    obtain rfl := Bool.eq_false_of_not_eq_true silent
    rw [Option.not_isSome_iff_eq_none] at succeeds
    cases ended : (render world settings config).result with
    | error error => simp [Reported.error?, ended] at succeeds
    | ok yaml =>
        rw [Reported.transcript_eq_empty ended (quiet_render _ _ _), succeeds]
        exact ⟨rfl, by decide, rfl, fun _ => rfl⟩

/-- A disk with one file, and no servers. -/
def oneFile (text : String) : Source.World where
  read path := if path = "schema.json" then .ok (Text.toUtf8 text) else .error .notFound
  fetch _ := .error .sending

/-- The definition of the only component of the file is asked for. -/
def oneFileConfig : Config := { input := "schema.json" }

/-- A package whose only component has an input of a type that is missing, as JSON. -/
def lostText : String :=
  "\x7b\"resources\":\x7b\"p:i:Note\":\x7b\"isComponent\":true,"
    ++ "\"inputProperties\":\x7b\"link\":\x7b\"$ref\":\"#/types/p:i:Lost\"\x7d\x7d\x7d\x7d\x7d"

/-- The missing type is reported on one line. -/
theorem lostText_lineStructured
    : Plain (oneFile lostText) {} oneFileConfig
      ∧ (render (oneFile lostText) {} oneFileConfig).error?.isSome
      ∧ LineStructured ((render (oneFile lostText) {} oneFileConfig).transcript false) false
          (render (oneFile lostText) {} oneFileConfig).error? := by
  have plain : Plain (oneFile lostText) {} oneFileConfig := by
    refine plain_of_isUnbroken (by decide) (by decide) ?_ ?_
    · intro path fault fails
      simp only [oneFile] at fails
      split at fails
      · cases fails
      · obtain rfl := Except.error.inj fails
        decide +kernel
    · intro doc loads
      have checked
          : (Source.load (oneFile lostText) {} oneFileConfig.input).toOption.all fun doc =>
              doc.isUnbroken && doc.componentTokens.all fun token => decide (Unbroken token) := by
        decide +kernel
      rw [loads] at checked
      simpa [Except.toOption] using checked
  exact ⟨plain, by decide +kernel, lineStructured_of_plain false fun _ => plain⟩

/-- A package with two components, one of which has a token with a line break, as JSON. -/
def forgedText : String :=
  "\x7b\"resources\":\x7b\"p:i:A\\nerror: forged\":\x7b\"isComponent\":true\x7d,"
    ++ "\"p:i:B\":\x7b\"isComponent\":true\x7d\x7d\x7d"

/-- The run fails as no component is asked for. The error lists the tokens as they are, so that its
line is broken, and what is behind the break looks like an error of its own.
-/
theorem forgedText_not_lineStructured
    : ((linesOf ((render (oneFile forgedText) {} oneFileConfig).transcript false).toList).filter
          (begins "error: ")).length = 2
      ∧ ¬ LineStructured ((render (oneFile forgedText) {} oneFileConfig).transcript false) false
            (render (oneFile forgedText) {} oneFileConfig).error? := by
  have two
      : ((linesOf ((render (oneFile forgedText) {} oneFileConfig).transcript false).toList).filter
          (begins "error: ")).length = 2 := by
    decide +kernel
  refine ⟨two, fun structured => ?_⟩
  rw [structured.errors] at two
  cases failed : (render (oneFile forgedText) {} oneFileConfig).error? <;> simp [failed] at two

end Command

end ComponentCrd
