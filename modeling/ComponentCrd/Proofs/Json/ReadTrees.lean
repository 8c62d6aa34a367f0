import ComponentCrd.Package.Document
import ComponentCrd.Proofs.Json.ReadTokens
import ComponentCrd.Proofs.Json.TreeReading

/-! Every text that is read is spelled by a tree, so that nothing is lost where texts are compared
by their trees. A reader of values has gone past blanks and a text that a tree spells, whether it
keeps the value or passes over it.
-/

namespace ComponentCrd.Json

open Decode StringPart

variable {α σ : Type} {c after : Cursor} {first : Bool}
  {before name own rest text more : List UInt8}

-----------------------------------------------------------------------------------------
-- Texts of values, items, and members
-----------------------------------------------------------------------------------------

theorem Blank.append (blank : Blank text) (blank' : Blank more) : Blank (text ++ more) :=
  fun byte member => (List.mem_append.mp member).elim (blank byte) (blank' byte)

theorem Around.behind {byte : UInt8} (around : Around byte text) (blank : Blank more)
    : Around byte (text ++ more) := by
  obtain ⟨before, after, blankBefore, blankAfter, rfl⟩ := around
  exact ⟨before, after ++ more, blankBefore, blankAfter.append blank, by simp⟩

theorem Separator.behind (separates : Separator first text) (blank : Blank more)
    : Separator first (text ++ more) := by
  cases first with
  | true => exact Blank.append separates blank
  | false => exact Around.behind separates blank

/-- A value with blanks before it. -/
def ValueText (text : List UInt8) : Prop :=
  ∃ (tree : Tree) (before own : List UInt8), Blank before ∧ tree.Spells own ∧ text = before ++ own

/-- What follows the name of a member. -/
def MemberRest (text : List UInt8) : Prop :=
  ∃ (tree : Tree) (colon own : List UInt8), Around 58 colon ∧ tree.Spells own ∧ text = colon ++ own

/-- The items of a list and its closing bracket. -/
def ItemsText (first : Bool) (text : List UInt8) : Prop :=
  ∃ items inner, Tree.SpellItems first items inner ∧ text = inner ++ [93]

/-- The members of an object and its closing bracket. -/
def MembersText (first : Bool) (text : List UInt8) : Prop :=
  ∃ members inner, Tree.SpellMembers first members inner ∧ text = inner ++ [125]

theorem MemberRest.of_colon (colon : Around 58 text) (value : ValueText own)
    : MemberRest (text ++ own) := by
  obtain ⟨tree, before, own, blank, spelled, rfl⟩ := value
  exact ⟨tree, _, own, colon.behind blank, spelled, by simp⟩

theorem ItemsText.nil (blank : Blank text) : ItemsText first (text ++ [93]) :=
  ⟨[], text, blank, rfl⟩

theorem ItemsText.cons (separates : Separator first before) (value : ValueText own)
    (others : ItemsText false rest)
    : ItemsText first (before ++ (own ++ rest)) := by
  obtain ⟨tree, blanks, own, blank, spelled, rfl⟩ := value
  obtain ⟨items, inner, spelledOthers, rfl⟩ := others
  refine ⟨tree :: items, _,
    ⟨_, own, inner, separates.behind blank, spelled, spelledOthers, rfl⟩, ?_⟩
  simp

theorem MembersText.nil (blank : Blank text) : MembersText first (text ++ [125]) :=
  ⟨[], text, blank, rfl⟩

theorem MembersText.cons (separates : Separator first before) (string : StringRest name)
    (member : MemberRest own) (others : MembersText false rest)
    : MembersText first (before ++ 34 :: (name ++ (own ++ rest))) := by
  obtain ⟨parts, rfl⟩ := string
  obtain ⟨tree, colon, own, around, spelled, rfl⟩ := member
  obtain ⟨members, inner, spelledOthers, rfl⟩ := others
  refine ⟨(parts, tree) :: members, _,
    ⟨before, colon, own, inner, separates, around, spelled, spelledOthers, rfl⟩, ?_⟩
  simp [quoted]

section

variable {place : Cursor}

/-- Blanks and a value behind them. -/
theorem exists_value (tree : Tree) (spelled : tree.Spells own)
    (rest : c.blanks.rest = own ++ after.rest)
    : ∃ text, ValueText text ∧ c.rest = text ++ after.rest := by
  obtain ⟨blanks, blank, first⟩ := exists_blanks c
  exact ⟨_, ⟨tree, blanks, own, blank, spelled, rfl⟩, by rw [first, rest, List.append_assoc]⟩

theorem exists_string (quote : c.blanks.rest = 34 :: place.rest)
    (string : ∃ text, StringRest text ∧ place.rest = text ++ after.rest)
    : ∃ text, ValueText text ∧ c.rest = text ++ after.rest := by
  obtain ⟨_, ⟨parts, rfl⟩, rest⟩ := string
  exact exists_value (.string parts) rfl (by rw [quote, rest]; rfl)

theorem exists_negative (minus : c.blanks.rest = 45 :: place.rest)
    (number : ∃ text, NumberRest true text ∧ place.rest = text ++ after.rest)
    : ∃ text, ValueText text ∧ c.rest = text ++ after.rest := by
  obtain ⟨_, ⟨digits, negative, rfl⟩, rest⟩ := number
  refine exists_value (.number digits) rfl ?_
  rw [minus, rest, NumberText.bytes, if_pos negative, List.cons_append]

theorem exists_nonnegative
    (number : ∃ text, NumberRest false text ∧ c.blanks.rest = text ++ after.rest)
    : ∃ text, ValueText text ∧ c.rest = text ++ after.rest := by
  obtain ⟨_, ⟨digits, nonnegative, rfl⟩, rest⟩ := number
  refine exists_value (.number digits) rfl ?_
  rw [rest, NumberText.bytes, if_neg (by simp [nonnegative])]

theorem exists_list (bracket : c.blanks.rest = 91 :: place.rest)
    (items : ∃ text, ItemsText true text ∧ place.rest = text ++ after.rest)
    : ∃ text, ValueText text ∧ c.rest = text ++ after.rest := by
  obtain ⟨_, ⟨items, inner, spelled, rfl⟩, rest⟩ := items
  exact exists_value (.array items) ⟨inner, spelled, rfl⟩ (by rw [bracket, rest]; rfl)

theorem exists_object (bracket : c.blanks.rest = 123 :: place.rest)
    (members : ∃ text, MembersText true text ∧ place.rest = text ++ after.rest)
    : ∃ text, ValueText text ∧ c.rest = text ++ after.rest := by
  obtain ⟨_, ⟨members, inner, spelled, rfl⟩, rest⟩ := members
  exact exists_value (.object members) ⟨inner, spelled, rfl⟩ (by rw [bracket, rest]; rfl)

/-- A word that a tree spells behind its first letter. -/
theorem exists_word (tree : Tree) {letter : UInt8} {letters : List UInt8} {word : List Char}
    (spelled : tree.Spells (letter :: letters)) (first : c.blanks.rest = letter :: place.rest)
    (is : letters.map (fun byte => Char.ofNat byte.toNat) = word)
    (goesOn : place.word word = .ok after)
    : ∃ text, ValueText text ∧ c.rest = text ++ after.rest := by
  obtain ⟨_, rfl, rest⟩ := passes_word letters is _ _ goesOn
  exact exists_value tree spelled (by rw [first, rest]; rfl)

end

-----------------------------------------------------------------------------------------
-- Lists and objects
-----------------------------------------------------------------------------------------

theorem separator_of_comma {blanks more : List UInt8} (later : ¬ first) (before : Blank blanks)
    (behind : Blank more)
    : Separator first (blanks ++ 44 :: more) := by
  rw [Separator, if_neg later]
  exact ⟨blanks, more, before, behind, rfl⟩

theorem nextItem_more (read : nextItem first c = .ok (true, after))
    : ∃ text, Separator first text ∧ c.rest = text ++ after.rest := by
  obtain ⟨blanks, blank, rest⟩ := exists_blanks c
  unfold nextItem at read
  dsimp only at read
  split at read
  · cases read
  · cases read
  · next char _ next =>
      split at read
      · next isFirst =>
          cases read
          exact ⟨blanks, by simpa [Separator, isFirst] using blank, rest⟩
      · next isFirst =>
          split at read
          · next comma =>
              subst comma
              obtain ⟨more, blankMore, behind⟩ := exists_blanks (c.blanks.advance 1)
              have separates := separator_of_comma isFirst blank blankMore
              split at read <;> cases read
              exact ⟨_, separates, by rw [rest, rest_of_peek? 44 next rfl, behind]; simp⟩
          · cases read

theorem nextItem_end (read : nextItem first c = .ok (false, after))
    : ∃ text, Blank text ∧ c.rest = text ++ after.rest := by
  obtain ⟨blanks, blank, rest⟩ := exists_blanks c
  unfold nextItem at read
  dsimp only at read
  split at read
  · cases read
  · cases read
    exact ⟨blanks, blank, rest⟩
  · split at read
    · cases read
    · split at read
      · split at read <;> cases read
      · cases read

theorem passes_closeList
    : Passes (fun text => ∃ blanks, Blank blanks ∧ text = blanks ++ [93]) closeList := by
  intro c after pass
  obtain ⟨blanks, blank, rest⟩ := exists_blanks c
  unfold closeList at pass
  dsimp only at pass
  split at pass
  · next bracket =>
      cases pass
      exact ⟨_, ⟨blanks, blank, rfl⟩, by rw [rest, rest_of_peek? 93 bracket rfl]; simp⟩
  · cases pass
  · cases pass
  · cases pass

/-- The end of a list, where no other item follows. -/
theorem exists_listEnd {place : Cursor} (next : nextItem first c = .ok (false, place))
    (close : closeList place = .ok after)
    : ∃ text, ItemsText first text ∧ c.rest = text ++ after.rest := by
  obtain ⟨blanks, blank, rest⟩ := nextItem_end next
  obtain ⟨_, ⟨more, blankMore, rfl⟩, behind⟩ := passes_closeList _ _ close
  exact ⟨_, .nil (blank.append blankMore), by rw [rest, behind]; simp⟩

/-- An item of a list, and the others. -/
theorem exists_item {place behind : Cursor} (next : nextItem first c = .ok (true, place))
    (value : ∃ text, ValueText text ∧ place.rest = text ++ behind.rest)
    (others : ∃ text, ItemsText false text ∧ behind.rest = text ++ after.rest)
    : ∃ text, ItemsText first text ∧ c.rest = text ++ after.rest := by
  obtain ⟨before, separates, rest⟩ := nextItem_more next
  obtain ⟨own, value, restOwn⟩ := value
  obtain ⟨_, others, restOthers⟩ := others
  exact ⟨_, .cons separates value others, by rw [rest, restOwn, restOthers]; simp⟩

theorem takes_items {item : Decoder α} (takes : Takes ValueText item) (first : Bool) (budget : Nat)
    : Takes (ItemsText first) (items item first budget) := by
  induction budget generalizing first with
  | zero => exact fun _ _ _ read => by cases read
  | succ budget ih =>
      intro c found after read
      rw [items] at read
      obtain ⟨⟨more, place⟩, next, read⟩ := Except.bind_eq_ok.mp read
      cases more with
      | true =>
          obtain ⟨⟨value, behind⟩, own, read⟩ := Except.bind_eq_ok.mp read
          obtain ⟨⟨others, last⟩, others, read⟩ := Except.bind_eq_ok.mp read
          cases read
          exact exists_item next (takes _ _ _ own) (ih false _ _ _ others)
      | false =>
          obtain ⟨last, close, read⟩ := Except.bind_eq_ok.mp read
          cases read
          exact exists_listEnd next close

theorem nextMember_more (read : nextMember first c = .ok (true, after))
    : ∃ text, Separator first text ∧ c.rest = text ++ 34 :: (after.advance 1).rest := by
  obtain ⟨blanks, blank, rest⟩ := exists_blanks c
  unfold nextMember at read
  dsimp only at read
  split at read
  · cases read
  · cases read
  · next char _ next =>
      split at read
      · next isFirst =>
          split at read
          · next quote =>
              subst quote
              cases read
              refine ⟨blanks, by simpa [Separator, isFirst] using blank, ?_⟩
              rw [rest, ← rest_of_peek? 34 next rfl]
          · cases read
      · next isFirst =>
          split at read
          · next comma =>
              subst comma
              obtain ⟨more, blankMore, behind⟩ := exists_blanks (c.blanks.advance 1)
              have separates := separator_of_comma isFirst blank blankMore
              split at read
              · next quote =>
                  cases read
                  refine ⟨_, separates, ?_⟩
                  rw [rest, rest_of_peek? 44 next rfl, behind, ← rest_of_peek? 34 quote rfl]
                  simp
              · cases read
              · cases read
              · cases read
          · cases read

theorem nextMember_end (read : nextMember first c = .ok (false, after))
    : ∃ text, Blank text ∧ c.rest = text ++ 125 :: (after.advance 1).rest := by
  obtain ⟨blanks, blank, rest⟩ := exists_blanks c
  unfold nextMember at read
  dsimp only at read
  split at read
  · cases read
  · next bracket =>
      cases read
      exact ⟨blanks, blank, by rw [rest, ← rest_of_peek? 125 bracket rfl]⟩
  · split at read
    · split at read <;> cases read
    · split at read
      · split at read <;> cases read
      · cases read

/-- Members are read by steps that go past what follows a name, by induction on the budget. -/
theorem takes_members {step : String → σ → Decoder σ}
    (takes : ∀ name result, Takes MemberRest (step name result)) (first : Bool) (result : σ)
    (budget : Nat)
    : Takes (MembersText first) (members step first result budget) := by
  induction budget generalizing first result with
  | zero => exact fun _ _ _ read => by cases read
  | succ budget ih =>
      intro c found after read
      rw [members] at read
      obtain ⟨⟨more, place⟩, next, read⟩ := Except.bind_eq_ok.mp read
      cases more with
      | true =>
          obtain ⟨⟨name, behind⟩, string, read⟩ := Except.bind_eq_ok.mp read
          obtain ⟨⟨result, last⟩, own, read⟩ := Except.bind_eq_ok.mp read
          obtain ⟨before, separates, rest⟩ := nextMember_more next
          obtain ⟨name, string, restName⟩ := takes_stringTail _ _ _ string
          obtain ⟨own, member, restOwn⟩ := takes _ _ _ _ _ own
          obtain ⟨_, others, restOthers⟩ := ih false _ _ _ _ read
          refine ⟨_, .cons separates string member others, ?_⟩
          rw [rest, restName, restOwn, restOthers]
          simp
      | false =>
          cases read
          obtain ⟨blanks, blank, rest⟩ := nextMember_end next
          exact ⟨_, .nil blank, by rw [rest]; simp⟩

/-- What follows a name: the colon, and a value. -/
theorem exists_member {place : Cursor} (colon : c.colon = .ok place)
    (value : ∃ text, ValueText text ∧ place.rest = text ++ after.rest)
    : ∃ text, MemberRest text ∧ c.rest = text ++ after.rest := by
  obtain ⟨text, around, rest⟩ := passes_colon _ _ colon
  obtain ⟨own, value, restOwn⟩ := value
  exact ⟨_, .of_colon around value, by rw [rest, restOwn, List.append_assoc]⟩

theorem takes_entry {value : Decoder α} (takes : Takes ValueText value) (name : String)
    (entries : Entries α)
    : Takes MemberRest (entry value name entries) := by
  intro c found after read
  obtain ⟨place, colon, read⟩ := Except.bind_eq_ok.mp read
  obtain ⟨⟨value, last⟩, own, read⟩ := Except.bind_eq_ok.mp read
  cases read
  exact exists_member colon (takes _ _ _ own)

-----------------------------------------------------------------------------------------
-- Values that are kept
-----------------------------------------------------------------------------------------

/-- A reader that turns what another one gives ends at the same place. -/
theorem exists_of_map {β : Type} {reads : Except Fault (α × Cursor)} {turn : α → β} {found : β}
    (turned : (reads.map fun (value, c) => (turn value, c)) = .ok (found, after))
    : ∃ value, reads = .ok (value, after) := by
  cases reads with
  | error fault => cases turned
  | ok pair =>
      cases turned
      exact ⟨pair.1, rfl⟩

/-- A word that stands for a value ends at the same place. -/
theorem word_of_map {pass : Except Fault Cursor} {value found : α}
    (turned : (pass.map fun after => (value, after)) = .ok (found, after))
    : pass = .ok after := by
  cases pass with
  | error fault => cases turned
  | ok place =>
      cases turned
      rfl

theorem takes_valueAround {nested? : Option (Decoder Json)}
    (takes : ∀ nested, nested? = some nested → Takes ValueText nested)
    : Takes ValueText (valueAround nested?) := by
  intro c found after read
  unfold valueAround at read
  dsimp only at read
  split at read
  case h_1 => cases read
  case h_2 first =>
    exact exists_word .null rfl (rest_of_peek? 110 first rfl) rfl (word_of_map read)
  case h_3 first =>
    exact exists_word (.bool true) rfl (rest_of_peek? 116 first rfl) rfl (word_of_map read)
  case h_4 first =>
    exact exists_word (.bool false) rfl (rest_of_peek? 102 first rfl) rfl
      (word_of_map read)
  case h_5 first =>
    obtain ⟨_, read⟩ := exists_of_map read
    exact exists_string (rest_of_peek? 34 first rfl) (takes_stringTail _ _ _ read)
  case h_6 first =>
    obtain ⟨_, read⟩ := exists_of_map read
    exact exists_negative (rest_of_peek? 45 first rfl) (takes_number true _ _ _ read)
  case h_7 first =>
    split at read
    · cases read
    · next nested =>
        obtain ⟨_, read⟩ := exists_of_map read
        exact exists_list (rest_of_peek? 91 first rfl)
          (takes_items (takes nested rfl) true _ _ _ _ read)
  case h_8 first =>
    split at read
    · cases read
    · next nested =>
        obtain ⟨_, read⟩ := exists_of_map read
        exact exists_object (rest_of_peek? 123 first rfl)
          (takes_members (takes_entry (takes nested rfl)) true _ _ _ _ _ read)
  case h_9 =>
    split at read
    · obtain ⟨_, read⟩ := exists_of_map read
      exact exists_nonnegative (takes_number false _ _ _ read)
    · cases read

/-- Values are read past texts of values, by induction over the room. -/
theorem takes_value (room : Nat) : Takes ValueText (value room) := by
  induction room with
  | zero =>
      refine takes_valueAround fun nested none => ?_
      cases none
  | succ room ih =>
      refine takes_valueAround fun nested same => ?_
      obtain rfl := Option.some.inj same
      exact ih

theorem takes_string : Takes ValueText Decode.string := by
  intro c found after read
  unfold Decode.string at read
  dsimp only at read
  split at read
  · next quote => exact exists_string (rest_of_peek? 34 quote rfl) (takes_stringTail _ _ _ read)
  · cases read

theorem takes_bool : Takes ValueText Decode.bool := by
  intro c found after read
  unfold Decode.bool at read
  dsimp only at read
  split at read
  case h_1 first =>
    exact exists_word (.bool true) rfl (rest_of_peek? 116 first rfl) rfl (word_of_map read)
  case h_2 first =>
    exact exists_word (.bool false) rfl (rest_of_peek? 102 first rfl) rfl
      (word_of_map read)
  case h_3 => cases read

theorem takes_list {item : Nat → Decoder α} (takes : ∀ room, Takes ValueText (item room))
    (room : Nat)
    : Takes ValueText (Decode.list item room) := by
  intro c found after read
  unfold Decode.list at read
  dsimp only at read
  split at read
  · next bracket =>
      split at read
      · cases read
      · next room =>
          exact exists_list (rest_of_peek? 91 bracket rfl)
            (takes_items (takes room) true _ _ _ _ read)
  · cases read

theorem takes_map {value : Nat → Decoder α} (takes : ∀ room, Takes ValueText (value room))
    (room : Nat)
    : Takes ValueText (Decode.map value room) := by
  intro c found after read
  unfold Decode.map at read
  dsimp only at read
  split at read
  · next bracket =>
      split at read
      · cases read
      · next room =>
          exact exists_object (rest_of_peek? 123 bracket rfl)
            (takes_members (takes_entry (takes room)) true _ _ _ _ _ read)
  · cases read

-----------------------------------------------------------------------------------------
-- Values that are passed over
-----------------------------------------------------------------------------------------

/-- What stands in a bracket up to its end, and the closing bracket. -/
def Contents (first : Bool) : Frame → List UInt8 → Prop
  | .list => ItemsText first
  | .object => MembersText first

/-- What the open brackets want: the contents of the innermost one, and so on outwards. -/
def Closes (first : Bool) : List Frame → List UInt8 → Prop
  | [], text => text = []
  | frame :: outer, text =>
      ∃ inner behind,
        Contents first frame inner ∧ Closes false outer behind ∧ text = inner ++ behind

/-- What is left to skip at a stage. -/
def Demands (stage : Stage) (frames : List Frame) (text : List UInt8) : Prop :=
  match stage with
  | .value => ∃ own behind, ValueText own ∧ Closes false frames behind ∧ text = own ++ behind
  | .afterItem => Closes false frames text
  | .fresh => Closes true frames text

/-- What stands before the value of an item: in an object its name and the colon. -/
def NameText (frame : Frame) (text : List UInt8) : Prop :=
  match frame with
  | .list => text = []
  | .object =>
      ∃ blanks name colon,
        Blank blanks ∧ StringRest name ∧ Around 58 colon ∧ text = blanks ++ 34 :: (name ++ colon)

theorem passes_skipName (frame : Frame) : Passes (NameText frame) frame.skipName := by
  intro c after pass
  cases frame with
  | list =>
      cases pass
      exact ⟨[], rfl, rfl⟩
  | object =>
      obtain ⟨blanks, blank, rest⟩ := exists_blanks c
      unfold Frame.skipName at pass
      dsimp only at pass
      split at pass
      · next quote =>
          obtain ⟨place, string, pass⟩ := Except.bind_eq_ok.mp pass
          obtain ⟨name, isString, restName⟩ := passes_skipString _ _ _ string
          obtain ⟨colon, around, restColon⟩ := passes_colon _ _ pass
          refine ⟨_, ⟨blanks, name, colon, blank, isString, around, rfl⟩, ?_⟩
          rw [rest, rest_of_peek? 34 quote rfl, restName, restColon]
          simp
      · cases pass
      · cases pass

theorem contents_nil (frame : Frame) (blank : Blank text) {byte : UInt8}
    (close : Char.ofNat byte.toNat = frame.close)
    : Contents first frame (text ++ [byte]) := by
  cases frame with
  | list =>
      obtain rfl : byte = 93 := char_injective close
      exact .nil blank
  | object =>
      obtain rfl : byte = 125 := char_injective close
      exact .nil blank

theorem contents_cons {frame : Frame} (separates : Separator first before)
    (named : NameText frame name) (value : ValueText own) (others : Contents false frame rest)
    : Contents first frame (before ++ (name ++ (own ++ rest))) := by
  cases frame with
  | list =>
      obtain rfl : name = [] := named
      change ItemsText first (before ++ (own ++ rest))
      exact .cons separates value others
  | object =>
      obtain ⟨blanks, name, colon, blank, string, around, rfl⟩ := named
      have valued := MemberRest.of_colon around value
      have member := MembersText.cons (separates.behind blank) string valued others
      simpa [Contents] using member

/-- A value without brackets is passed over like one that is kept. -/
theorem exists_scalar {char : Char} (next : c.blanks.peek? = some char)
    (skipped : skipScalar char c.blanks = .ok after)
    : ∃ text, ValueText text ∧ c.rest = text ++ after.rest := by
  unfold skipScalar at skipped
  split at skipped
  · next is =>
      exact exists_word .null rfl (rest_of_peek? 110 (is ▸ next) rfl) rfl skipped
  · split at skipped
    · next is =>
        exact exists_word (.bool true) rfl (rest_of_peek? 116 (is ▸ next) rfl) rfl skipped
    · split at skipped
      · next is =>
          exact exists_word (.bool false) rfl (rest_of_peek? 102 (is ▸ next) rfl) rfl skipped
      · split at skipped
        · next is =>
            exact exists_string (rest_of_peek? 34 (is ▸ next) rfl) (passes_skipString _ _ _ skipped)
        · split at skipped
          · next is =>
              exact exists_negative (rest_of_peek? 45 (is ▸ next) rfl)
                (passes_skipNumber true _ _ skipped)
          · split at skipped
            · exact exists_nonnegative (passes_skipNumber false _ _ skipped)
            · cases skipped

/-- What stands before an item, up to blanks. -/
theorem exists_separator {char : Char} (next : c.blanks.peek? = some char)
    (goesOn : ¬(itemStage first = .afterItem ∧ char ≠ ','))
    : ∃ text, Separator first text
        ∧ c.rest
          = text
            ++ (if itemStage first = .afterItem then c.blanks.advance 1 else c.blanks).rest := by
  obtain ⟨blanks, blank, rest⟩ := exists_blanks c
  cases first with
  | true => exact ⟨blanks, blank, rest⟩
  | false =>
      obtain rfl : char = ',' := Classical.byContradiction fun other => goesOn ⟨rfl, other⟩
      refine ⟨blanks ++ [44], ⟨blanks, [], blank, blank_nil, rfl⟩, ?_⟩
      rw [rest, rest_of_peek? 44 next rfl, List.append_assoc]
      rfl

section

variable {budget : Nat}
  (ih : ∀ stage frames, Passes (Demands stage frames) (skipRest stage frames budget))
include ih

/-- A bracket that is opened at once wants its contents, closed, before the others. -/
theorem exists_bracket (frame : Frame) {frames : List Frame} {place : Cursor}
    (open' : ∀ after : Cursor,
      (∃ text, Contents true frame text ∧ place.rest = text ++ after.rest)
        → ∃ text, ValueText text ∧ c.rest = text ++ after.rest)
    (pass : skipRest .fresh (frame :: frames) budget place = .ok after)
    : ∃ text, Demands .value frames text ∧ c.rest = text ++ after.rest := by
  obtain ⟨_, ⟨inner, behind, contents, closes, rfl⟩, rest⟩ := ih .fresh (frame :: frames) _ _ pass
  obtain ⟨own, value, restOwn⟩ := open' ⟨behind ++ after.rest, 0⟩ ⟨inner, contents, by simp [rest]⟩
  exact ⟨_, ⟨own, behind, value, closes, rfl⟩, by rw [restOwn, List.append_assoc]⟩

theorem exists_skipped_value {frames : List Frame}
    (pass : skipRest .value frames (budget + 1) c = .ok after)
    : ∃ text, Demands .value frames text ∧ c.rest = text ++ after.rest := by
  rw [skipRest] at pass
  dsimp only at pass
  split at pass
  · cases pass
  · next bracket =>
      exact exists_bracket ih .list (fun _ => exists_list (rest_of_peek? 91 bracket rfl)) pass
  · next bracket =>
      exact exists_bracket ih .object (fun _ => exists_object (rest_of_peek? 123 bracket rfl)) pass
  · next char _ _ next =>
      cases scalar : skipScalar char c.blanks with
      | error fault =>
          unfold skipScalar at scalar
          rw [scalar] at pass
          cases pass
      | ok place =>
          obtain ⟨own, value, rest⟩ := exists_scalar next scalar
          unfold skipScalar at scalar
          rw [scalar] at pass
          obtain ⟨behind, closes, restBehind⟩ := ih .afterItem frames _ _ pass
          exact ⟨_, ⟨own, behind, value, closes, rfl⟩, by rw [rest, restBehind]; simp⟩

theorem exists_skipped_item (first : Bool) {frame : Frame} {outer : List Frame}
    (pass : skipRest (itemStage first) (frame :: outer) (budget + 1) c = .ok after)
    : ∃ text, Closes first (frame :: outer) text ∧ c.rest = text ++ after.rest := by
  rw [skipRest] at pass
  · split at pass
    · cases pass
    · next char next =>
        split at pass
        · next close =>
            obtain ⟨blanks, blank, rest⟩ := exists_blanks c
            obtain ⟨byte, is, restByte⟩ := exists_of_peek? next
            obtain ⟨behind, closes, restBehind⟩ := ih .afterItem outer _ _ pass
            refine ⟨_, ⟨_, behind, contents_nil frame blank (is.trans close), closes, rfl⟩, ?_⟩
            rw [rest, restByte, restBehind]
            simp
        · split at pass
          · cases pass
          · next goesOn =>
              obtain ⟨before, separates, rest⟩ := exists_separator next goesOn
              split at pass
              · next place named =>
                  obtain ⟨name, named, restName⟩ := passes_skipName frame _ _ named
                  obtain ⟨_, ⟨own, _, value, unread, rfl⟩, restOwn⟩ :=
                    ih .value (frame :: outer) _ _ pass
                  obtain ⟨others, behind, contents, closes, rfl⟩ := unread
                  refine ⟨_, ⟨_, behind, contents_cons separates named value contents, closes, rfl⟩,
                    ?_⟩
                  rw [rest, restName, restOwn]
                  simp
              · cases pass
  · cases first <;> simp [itemStage]

end

/-- A value is passed over with all that the open brackets want behind it, by induction on the
budget.
-/
theorem passes_skipRest (stage : Stage) (frames : List Frame) (budget : Nat)
    : Passes (Demands stage frames) (skipRest stage frames budget) := by
  induction budget generalizing stage frames with
  | zero => exact fun _ _ pass => by cases pass
  | succ budget ih =>
      intro c after pass
      cases stage with
      | value => exact exists_skipped_value ih pass
      | afterItem =>
          cases frames with
          | nil =>
              cases pass
              exact ⟨[], rfl, rfl⟩
          | cons frame outer => exact exists_skipped_item ih false pass
      | fresh =>
          cases frames with
          | nil =>
              cases pass
              exact ⟨[], rfl, rfl⟩
          | cons frame outer => exact exists_skipped_item ih true pass

theorem passes_skipValue : Passes ValueText skipValue := by
  intro c after pass
  obtain ⟨_, ⟨own, _, value, rfl, rfl⟩, rest⟩ := passes_skipRest _ _ _ _ _ pass
  exact ⟨own, value, by rw [rest, List.append_nil]⟩

-----------------------------------------------------------------------------------------
-- Records and whole texts
-----------------------------------------------------------------------------------------

/-- The fields go past texts of values. -/
def TakesFields (fields : List (RecordField σ)) : Prop :=
  ∀ field ∈ fields, ∀ room, Takes ValueText (field.read room)

theorem takes_field {read : Nat → Decoder α} (takes : ∀ room, Takes ValueText (read room))
    (name : String) (put : α → σ → σ) (room : Nat)
    : Takes ValueText ((Decode.field name read put).read room) := by
  intro c found after read
  obtain ⟨_, read⟩ := exists_of_map read
  exact takes room _ _ _ read

variable {fields : List (RecordField σ)}

theorem takes_recordStep (takes : TakesFields fields) (room : Nat) (name : String)
    (result : List String × σ)
    : Takes MemberRest (recordStep fields room name result) := by
  intro c found after read
  unfold recordStep at read
  split at read
  · next field search =>
      split at read
      · cases read
      · obtain ⟨place, colon, read⟩ := Except.bind_eq_ok.mp read
        obtain ⟨⟨put, last⟩, own, read⟩ := Except.bind_eq_ok.mp read
        cases read
        exact exists_member colon
          (takes field (List.mem_of_find?_eq_some search) room _ _ _ own)
  · obtain ⟨place, colon, read⟩ := Except.bind_eq_ok.mp read
    obtain ⟨last, skipped, read⟩ := Except.bind_eq_ok.mp read
    cases read
    exact exists_member colon (passes_skipValue _ _ skipped)

theorem takes_recordItems (takes : TakesFields fields) (room : Nat) (first : Bool) (result : σ)
    : Takes (ItemsText first) (recordItems room first result fields) := by
  induction fields generalizing first result with
  | nil =>
      intro c found after read
      obtain ⟨last, close, read⟩ := Except.bind_eq_ok.mp read
      cases read
      obtain ⟨_, ⟨blanks, blank, rfl⟩, rest⟩ := passes_closeList _ _ close
      exact ⟨_, .nil blank, rest⟩
  | cons field others ih =>
      intro c found after read
      rw [recordItems] at read
      obtain ⟨⟨more, place⟩, next, read⟩ := Except.bind_eq_ok.mp read
      cases more with
      | true =>
          obtain ⟨⟨put, behind⟩, own, read⟩ := Except.bind_eq_ok.mp read
          exact exists_item next (takes field (.head _) room _ _ _ own)
            (ih (fun other member => takes other (.tail _ member)) false _ _ _ _ read)
      | false =>
          obtain ⟨last, close, read⟩ := Except.bind_eq_ok.mp read
          cases read
          exact exists_listEnd next close

theorem takes_record (takes : TakesFields fields) (expected : String) (initial : σ) (room : Nat)
    : Takes ValueText (record expected fields initial room) := by
  intro c found after read
  unfold record at read
  dsimp only at read
  split at read
  · cases read
  · cases read
  · cases read
  · next room bracket =>
      exact exists_list (rest_of_peek? 91 bracket rfl) (takes_recordItems takes _ true _ _ _ _ read)
  · next room bracket =>
      obtain ⟨_, read⟩ := exists_of_map read
      exact exists_object (rest_of_peek? 123 bracket rfl)
        (takes_members (takes_recordStep takes room) true _ _ _ _ _ read)
  · cases read

/-- A whole text is a value with blanks around it. -/
theorem exists_tree {read : Decoder α} (takes : Takes ValueText read) {found : α}
    (decodes : whole read text = .ok found)
    : ∃ tree : Tree, tree.SpellsWhole text := by
  obtain ⟨⟨result, c⟩, own, decodes⟩ := Except.bind_eq_ok.mp decodes
  dsimp only at decodes
  split at decodes
  · next nothing =>
      obtain ⟨_, ⟨tree, before, own, blank, spelled, rfl⟩, rest⟩ := takes _ _ _ own
      obtain ⟨blanks, blank', behind⟩ := exists_blanks c
      refine ⟨tree, before, own, blanks, blank, spelled, blank', ?_⟩
      rw [List.isEmpty_iff.mp nothing, List.append_nil] at behind
      rw [← behind, ← List.append_assoc]
      exact rest
  · cases decodes

end ComponentCrd.Json

namespace ComponentCrd.Document

open Json

theorem takes_resourceFields : TakesFields resourceFields := by
  unfold resourceFields TakesFields
  simp only [List.forall_mem_cons, List.not_mem_nil, false_imp_iff, forall_true_iff, and_true]
  exact ⟨takes_field (fun _ => takes_bool) _ _, takes_field (takes_map takes_value) _ _,
    takes_field (takes_list fun _ => takes_string) _ _⟩

theorem takes_documentFields : TakesFields documentFields := by
  unfold documentFields TakesFields
  simp only [List.forall_mem_cons, List.not_mem_nil, false_imp_iff, forall_true_iff, and_true]
  exact ⟨takes_field (fun _ => takes_string) _ _, takes_field (fun _ => takes_string) _ _,
    takes_field (takes_map (takes_record takes_resourceFields _ _)) _ _,
    takes_field (takes_map takes_value) _ _⟩

/-- Every text that holds a document is spelled by a tree, of which it is the document. -/
theorem exists_tree_of_ofText {text : List UInt8} {doc : Document} (decodes : ofText text = .ok doc)
    : ∃ tree : Tree, tree.SpellsWhole text ∧ ofTree? tree = some doc := by
  obtain ⟨tree, spelled⟩ := exists_tree (takes_record takes_documentFields _ _ _) decodes
  refine ⟨tree, spelled, ?_⟩
  rw [← toOption_ofText spelled, decodes]
  rfl

end ComponentCrd.Document
