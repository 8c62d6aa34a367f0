import ComponentCrd.Proofs.Json.FaultWording
import ComponentCrd.Source.Loading

/-! Every load error is worded on one line, as long as the name of the input is and the operating
system words its own faults so: web addresses and the faults of a document always are.
-/

namespace ComponentCrd.Document

open Json.Decode

theorem worded_resourceFields : ∀ field ∈ resourceFields, WordedField field := by
  simp only [resourceFields, List.forall_mem_cons]
  refine ⟨?_, ?_, ?_, by simp⟩
  · exact worded_field (by decide) fun _ => worded_bool
  · exact worded_field (by decide) (worded_map worded_value)
  · exact worded_field (by decide) (worded_list fun _ => worded_string)

theorem worded_documentFields : ∀ field ∈ documentFields, WordedField field := by
  simp only [documentFields, List.forall_mem_cons]
  refine ⟨?_, ?_, ?_, ?_, by simp⟩
  · exact worded_field (by decide) fun _ => worded_string
  · exact worded_field (by decide) fun _ => worded_string
  · exact worded_field (by decide)
      (worded_map (worded_record (by decide) worded_resourceFields {}))
  · exact worded_field (by decide) (worded_map worded_value)

/-- What is wrong with the text of a document is said on one line. -/
theorem unbroken_faultMessage {text : List UInt8} {fault : Json.Fault}
    (fails : Document.ofText text = .error fault)
    : Unbroken (faultMessage fault text) := by
  have worded : Json.Worded (Document.ofText text) :=
    worded_whole (worded_record (by decide) worded_documentFields {} deepest) text
  exact unbroken_append.mpr ⟨by decide, Json.unbroken_message (worded fault fails) text⟩

end ComponentCrd.Document

namespace ComponentCrd.Source

-----------------------------------------------------------------------------------------
-- Web addresses
-----------------------------------------------------------------------------------------

theorem not_mem_ipv4Text (address : Nat) : '\n' ∉ ipv4Text address := by
  simp [ipv4Text, not_mem_toDigits]

theorem not_mem_piecesText (pieces : List Nat) : '\n' ∉ piecesText pieces := by
  refine not_mem_intercalate (by decide) fun part member => ?_
  obtain ⟨piece, _, rfl⟩ := List.mem_map.mp member
  exact not_mem_toDigits 16 piece

theorem not_mem_ipv6Text (pieces : List Nat) : '\n' ∉ ipv6Text pieces := by
  unfold ipv6Text
  cases longestGap? pieces <;> simp [not_mem_piecesText]

/-- A host is written without controls: a domain that has one is refused. -/
theorem not_mem_host {text host : List Char} (reads : host? text = some host) : '\n' ∉ host := by
  unfold host? at reads
  split at reads
  · split at reads
    · obtain ⟨pieces, _, rfl⟩ := Option.map_eq_some_iff.mp reads
      exact not_mem_ipv6Text pieces
    · cases reads
  · simp only [bind, Option.bind_eq_some_iff] at reads
    obtain ⟨name, _, domain, named, reads⟩ := reads
    split at reads
    · obtain ⟨address, _, rfl⟩ := Option.map_eq_some_iff.mp reads
      exact not_mem_ipv4Text address
    · obtain rfl := Option.some.inj reads
      have admitted := (Option.filter_eq_some_iff.mp named).2
      intro member
      simp only [Bool.and_eq_true, Bool.not_eq_true', List.any_eq_false] at admitted
      exact admitted.2 _ member rfl

namespace Url

theorem upperHex_ne_lineFeed (n : Nat) : Text.upperHex n ≠ '\n' := by
  have all : (List.range 16).all fun digit => (Nat.digitChar digit).toUpper != '\n' := by decide
  have small := List.mem_range.mpr (Nat.mod_lt n (by decide : 0 < 16))
  simpa [Text.upperHex, Text.lowerHex] using List.all_eq_true.mp all _ small

/-- A control stands in a path as the percent signs of its bytes. -/
theorem not_mem_pathChar (c : Char) : '\n' ∉ pathChar c := by
  unfold pathChar
  split
  · simp [percentEncoded, (upperHex_ne_lineFeed _).symm]
  · next plain =>
      rintro member
      obtain rfl := List.mem_singleton.mp member
      exact plain rfl

/-- Segments without line feeds are resolved to such segments, by induction over the segments. -/
theorem not_mem_resolvedSegments {before after : List (List Char)}
    (free : ∀ segment ∈ before, '\n' ∉ segment)
    : ∀ segment ∈ resolvedSegments before after, '\n' ∉ segment := by
  induction after generalizing before with
  | nil => simpa [resolvedSegments] using free
  | cons segment rest ih =>
      have empty {segments : List (List Char)} (free : ∀ segment ∈ segments, '\n' ∉ segment)
          : ∀ segment ∈ (if rest.isEmpty then [] :: segments else segments), '\n' ∉ segment := by
        split
        · simpa using free
        · exact free
      rw [resolvedSegments]
      split
      · exact ih (empty free)
      · exact ih (empty fun other member => free other (List.mem_of_mem_tail member))
      · refine ih (List.forall_mem_cons.mpr ⟨?_, free⟩)
        simp [not_mem_pathChar]

theorem not_mem_pathOf (text : List Char) : '\n' ∉ pathOf text := by
  unfold pathOf
  simp only [List.mem_flatMap, List.mem_cons, not_exists, not_and, not_or]
  exact fun segment member => ⟨by decide, not_mem_resolvedSegments (by simp) segment member⟩

/-- What is shown of a web address stays on one line. -/
theorem unbroken_sanitized {text : String} {url : Url} (reads : ofText? text = some url)
    : Unbroken url.sanitized := by
  simp only [ofText?, bind, Option.bind_eq_some_iff] at reads
  obtain ⟨⟨scheme, rest⟩, _, host, hosted, port?, _, same⟩ := reads
  obtain rfl := Option.some.inj same
  simp only [sanitized, unbroken_append, unbroken_ofList]
  refine ⟨⟨⟨⟨?_, by decide⟩, not_mem_host hosted⟩, ?_⟩, not_mem_pathOf _⟩
  · cases scheme <;> decide
  · cases port? with
    | none => decide
    | some port => exact unbroken_append.mpr ⟨by decide, unbroken_toString port⟩

end Url

-----------------------------------------------------------------------------------------
-- Load errors
-----------------------------------------------------------------------------------------

theorem unbroken_durationText (milliseconds : Nat) : Unbroken (durationText milliseconds) := by
  have fraction (digits : List Char) (free : '\n' ∉ digits)
      : '\n' ∉ ((digits.drop 1).reverse.dropWhile (· == '0')).reverse := by
    intro member
    have member := (List.dropWhile_sublist _).subset (List.mem_reverse.mp member)
    exact free (List.mem_of_mem_drop (List.mem_reverse.mp member))
  have number (n : Nat) := unbroken_toString n
  unfold durationText
  dsimp only
  split
  · decide +kernel
  · split
    · exact (number _).append (by decide)
    · split
      · exact (number _).append (by decide)
      · have fraction := unbroken_ofList.mpr (fraction _ (number (1000 + milliseconds % 1000)))
        exact (((number _).append (by decide)).append fraction).append (by decide)

/-- What goes wrong with a web address is said with what is shown of it. -/
theorem unbroken_fetch {world : World} {settings : Settings} {text : String} {url : Url}
    {error : LoadError} (reads : Url.ofText? text = some url)
    (fails : fetch world settings url = .error error)
    : Unbroken error.message := by
  have address := Url.unbroken_sanitized reads
  have fetching : Unbroken ("fetch input schema \"" ++ url.sanitized) :=
    .append (by decide +kernel) address
  unfold fetch at fails
  split at fails
  · obtain rfl := Except.error.inj fails
    exact .append (.append (by decide +kernel) address) (by decide +kernel)
  · split at fails
    · next fault _ =>
        obtain rfl := Except.error.inj fails
        cases fault with
        | timedOut =>
            exact (fetching.append (by decide +kernel)).append (unbroken_durationText _)
        | sending | redirecting | decodingBody =>
            exact (fetching.append (by decide)).append (by decide +kernel)
    · split at fails
      · cases fails
      · obtain rfl := Except.error.inj fails
        exact (fetching.append (by decide)).append (unbroken_toString _)

/-- What goes wrong with files is said with the name of the input and a fault of the operating
system, by induction over the paths that are tried.
-/
theorem unbroken_readFirst {world : World} {location : String} {paths : List String}
    {error : LoadError} (named : Unbroken location)
    (faults : ∀ path fault, world.read path = .error fault → Unbroken fault.message)
    (fails : readFirst world location paths = .error error)
    : Unbroken error.message := by
  have read {fault : FileFault} (worded : Unbroken fault.message)
      : Unbroken (LoadError.read location fault).message := by
    exact .append (.append (.append (by decide +kernel) named) (by decide)) worded
  induction paths with
  | nil =>
      obtain rfl := Except.error.inj fails
      exact read (by decide +kernel)
  | cons path others ih =>
      cases others with
      | nil =>
          obtain ⟨fault, unread, rfl⟩ := Except.mapError_eq_error.mp fails
          exact read (faults path fault unread)
      | cons =>
          rw [readFirst] at fails
          split at fails
          · cases fails
          · exact ih fails
          · simp

/-- A text that leads to a web address is read as one. -/
theorem Location.ofText?_of_url {text : String} {url : Url} (located : ofText text = .url url)
    : Url.ofText? text = some url := by
  unfold ofText at located
  split at located
  · cases located
  · split at located
    · next address reads =>
        obtain rfl := Location.url.inj located
        exact reads
    · cases located

/-- A load error is worded on one line, if the name of the input is, and the faults of the operating
system are.
-/
theorem unbroken_load {world : World} {settings : Settings} {input : String} {error : LoadError}
    (named : Unbroken input)
    (faults : ∀ path fault, world.read path = .error fault → Unbroken fault.message)
    (fails : load world settings input = .error error)
    : Unbroken error.message := by
  rcases Except.bind_eq_error.mp fails with unread | ⟨bytes, _, undecoded⟩
  · unfold loadBytes at unread
    split at unread
    · next url located =>
        exact unbroken_fetch (Location.ofText?_of_url located) unread
    · exact unbroken_readFirst named faults unread
  · split at undecoded
    · cases undecoded
    · next fault faulty =>
        obtain rfl := Except.error.inj undecoded
        exact Document.unbroken_faultMessage faulty

end ComponentCrd.Source
