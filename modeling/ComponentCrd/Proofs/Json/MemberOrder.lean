import ComponentCrd.Proofs.Json.EntryUnion
import ComponentCrd.Proofs.Json.TreeReading
import Mathlib.Data.List.Forall2
import Mathlib.Data.List.Pairwise

/-! The order in which the members of objects are written. No name may stand twice in an object;
then what readers make of a tree does not depend on the order of members at any depth. Entries are
put in the order of their names anyway, and the fields of a record are put into different places.
-/

namespace ComponentCrd.Json

open StringPart

variable {α σ : Type}

namespace Tree

mutual

/-- The trees differ in nothing but the order of the members of objects, at any depth. -/
def Reordered : Tree → Tree → Prop
  | .array items, .array others => ReorderedItems items others
  | .object members, .object others =>
      ∃ middle, ReorderedMembers members middle ∧ middle.Perm others
  | tree, other => tree = other

/-- The items are the same one by one, but for the order of members inside of them. -/
def ReorderedItems : List Tree → List Tree → Prop
  | [], [] => True
  | item :: items, other :: others => Reordered item other ∧ ReorderedItems items others
  | _, _ => False

/-- The members are the same one by one, but for the order of members inside of them. -/
def ReorderedMembers : List (List StringPart × Tree) → List (List StringPart × Tree) → Prop
  | [], [] => True
  | (name, value) :: members, (name', other) :: others =>
      name = name' ∧ Reordered value other ∧ ReorderedMembers members others
  | _, _ => False

end

/-- No name is among the others, whatever escapes they are written with. -/
def DistinctNames (names : List (List StringPart)) : Prop :=
  names.Pairwise fun name other => ∀ text, text? name = some text → text? other ≠ some text

mutual

/-- No object has a name twice, at any depth. -/
def Distinct : Tree → Prop
  | .array items => DistinctItems items
  | .object members => DistinctNames (members.map Prod.fst) ∧ DistinctMembers members
  | _ => True

/-- No object inside of the items has a name twice. -/
def DistinctItems : List Tree → Prop
  | [] => True
  | item :: items => Distinct item ∧ DistinctItems items

/-- No object inside of the members has a name twice. -/
def DistinctMembers : List (List StringPart × Tree) → Prop
  | [] => True
  | (_, value) :: members => Distinct value ∧ DistinctMembers members

end

/-- A tree may be written as it is. -/
theorem Reordered.refl (tree : Tree) : tree.Reordered tree := by
  induction tree using inductionOn with
  | null | bool _ | number _ | string _ => rfl
  | array items ih =>
      change ReorderedItems items items
      induction items with
      | nil => trivial
      | cons item items later =>
          exact ⟨ih item (.head _), later fun item member => ih item (.tail _ member)⟩
  | object members ih =>
      refine ⟨members, ?_, .refl _⟩
      induction members with
      | nil => trivial
      | cons member members later =>
          exact ⟨rfl, ih member (.head _), later fun member inside => ih member (.tail _ inside)⟩

theorem Reordered.single {name : List StringPart} {value other : Tree}
    (reordered : value.Reordered other)
    : (Tree.object [(name, value)]).Reordered (.object [(name, other)]) :=
  ⟨[(name, other)], ⟨rfl, reordered, trivial⟩, .refl _⟩

/-- Two members may be written in the other order. -/
theorem Reordered.swap {name name' : List StringPart} {value value' other other' : Tree}
    (first : value.Reordered other) (second : value'.Reordered other')
    : (Tree.object [(name, value), (name', value')]).Reordered
        (.object [(name', other'), (name, other)]) :=
  ⟨[(name, other), (name', other')], ⟨rfl, first, rfl, second, trivial⟩, .swap ..⟩

/-- Two values are reordered, and the first one has no name twice. -/
def Twins (tree other : Tree) : Prop := tree.Reordered other ∧ tree.Distinct

theorem twins_items {items others : List Tree} (reordered : ReorderedItems items others)
    (distinct : DistinctItems items)
    : List.Forall₂ Twins items others := by
  induction items generalizing others with
  | nil =>
      cases others with
      | nil => exact .nil
      | cons _ _ => cases reordered
  | cons item items ih =>
      cases others with
      | nil => cases reordered
      | cons other others => exact .cons ⟨reordered.1, distinct.1⟩ (ih reordered.2 distinct.2)

theorem twins_members {members others : List (List StringPart × Tree)}
    (reordered : ReorderedMembers members others) (distinct : DistinctMembers members)
    : List.Forall₂ (fun member other => member.1 = other.1 ∧ Twins member.2 other.2) members
        others := by
  induction members generalizing others with
  | nil =>
      cases others with
      | nil => exact .nil
      | cons _ _ => cases reordered
  | cons member members ih =>
      cases others with
      | nil => cases reordered
      | cons other others =>
          obtain ⟨name, value, later⟩ := reordered
          exact .cons ⟨name, value, distinct.1⟩ (ih later distinct.2)

theorem names_of_twins {members others : List (List StringPart × Tree)}
    (twins
      : List.Forall₂ (fun member other => member.1 = other.1 ∧ Twins member.2 other.2) members
          others)
    : members.map Prod.fst = others.map Prod.fst := by
  induction twins with
  | nil => rfl
  | cons twin _ ih => rw [List.map_cons, List.map_cons, twin.1, ih]

/-- The order of members does not matter to what is made of a tree. -/
def OrderBlind (meaning : Tree → Option α) : Prop :=
  ∀ tree other, Twins tree other → meaning tree = meaning other

-----------------------------------------------------------------------------------------
-- Lists of equals
-----------------------------------------------------------------------------------------

/-- Steps that make the same of twins make the same of lists of them. -/
theorem mapM_twins {β γ : Type} {step : β → Option γ} {first second : List β}
    (same : List.Forall₂ (fun a b => step a = step b) first second)
    : first.mapM step = second.mapM step := by
  induction same with
  | nil => rfl
  | cons head _ ih => rw [List.mapM_cons, List.mapM_cons, head, ih]

theorem foldlM_twins {β γ : Type} {step : γ → β → Option γ} {first second : List β}
    (same : List.Forall₂ (fun a b => ∀ result, step result a = step result b) first second)
    (result : γ)
    : first.foldlM step result = second.foldlM step result := by
  induction same generalizing result with
  | nil => rfl
  | cons head _ ih =>
      rw [List.foldlM_cons, List.foldlM_cons, head]
      exact congrArg (Option.bind _) (funext ih)

/-- A relation between results is transitive if it is between values. -/
theorem rel_trans {β : Type} {related : β → β → Prop} {first second third : Option β}
    (trans : ∀ {a b c}, related a b → related b c → related a c)
    (left : Option.Rel related first second) (right : Option.Rel related second third)
    : Option.Rel related first third := by
  cases left with
  | none => exact right
  | some left =>
      cases right with
      | some right => exact .some (trans left right)

theorem rel_bind {β γ : Type} {related : β → β → Prop} {related' : γ → γ → Prop}
    {first second : Option β} {next next' : β → Option γ} (steps : Option.Rel related first second)
    (later : ∀ a b, related a b → Option.Rel related' (next a) (next' b))
    : Option.Rel related' (first.bind next) (second.bind next') := by
  cases steps with
  | none => exact .none
  | some related => exact later _ _ related

theorem rel_map {β γ : Type} {related : β → β → Prop} {first second : Option β} {turn : β → γ}
    (results : Option.Rel related first second)
    (same : ∀ a b, first = some a → second = some b → related a b → turn a = turn b)
    : first.map turn = second.map turn := by
  cases results with
  | none => rfl
  | some related => exact congrArg some (same _ _ rfl rfl related)

/-- A step for each element fails in every order, or gives the results in the order of the elements.
-/
theorem mapM_perm {β γ : Type} {step : β → Option γ} {first second : List β}
    (order : first.Perm second)
    : Option.Rel List.Perm (first.mapM step) (second.mapM step) := by
  induction order with
  | nil => exact .some .nil
  | @cons element first second _ ih =>
      rw [List.mapM_cons, List.mapM_cons]
      cases step element with
      | none => exact .none
      | some result =>
          change Option.Rel _ ((first.mapM step).bind _) ((second.mapM step).bind _)
          exact rel_bind ih fun _ _ order => .some (.cons result order)
  | swap a b rest =>
      simp only [List.mapM_cons]
      cases step a <;> cases step b <;> cases rest.mapM step
      all_goals first | exact .none | exact .some (.swap ..)
  | trans _ _ ih ih' => exact rel_trans (fun left right => left.trans right) ih ih'

-----------------------------------------------------------------------------------------
-- Values
-----------------------------------------------------------------------------------------

theorem DistinctNames.perm {names others : List (List StringPart)} (distinct : DistinctNames names)
    (order : names.Perm others)
    : DistinctNames others := by
  refine (order.pairwise_iff ?_).mp distinct
  intro name other differs text named
  exact fun same => differs text same named

/-- The names of entries that are read are distinct if the written ones are. -/
theorem nodup_of_mapM {value : Tree → Option α} {members : List (List StringPart × Tree)}
    {entries : Entries α} (distinct : DistinctNames (members.map Prod.fst))
    (read : members.mapM (entry value) = some entries)
    : entries.names.Nodup := by
  have names : entries.names.map some = (members.map Prod.fst).map text? := by
    clear distinct
    induction members generalizing entries with
    | nil =>
        obtain rfl := Option.some.inj read
        rfl
    | cons member members ih =>
        rw [List.mapM_cons] at read
        obtain ⟨found, own, read⟩ := Option.bind_eq_some_iff.mp read
        obtain ⟨later, others, read⟩ := Option.bind_eq_some_iff.mp read
        obtain ⟨name, named, own⟩ := Option.bind_eq_some_iff.mp own
        obtain ⟨_, _, own⟩ := Option.bind_eq_some_iff.mp own
        obtain rfl := Option.some.inj own
        obtain rfl := Option.some.inj read
        have others := ih others
        simp only [Entries.names, List.map_cons, named] at others ⊢
        rw [others]
  have distinct : ((members.map Prod.fst).map text?).Pairwise
      fun name other => ∀ text, name = some text → other ≠ some text :=
    List.pairwise_map.mpr distinct
  rw [← names, List.pairwise_map] at distinct
  exact distinct.imp fun differs same => differs _ rfl (congrArg some same.symm)

/-- The order of members with distinct names does not matter to their entries. -/
theorem entries_perm (value : Tree → Option α) {members others : List (List StringPart × Tree)}
    (distinct : DistinctNames (members.map Prod.fst)) (order : members.Perm others)
    : (members.mapM (entry value)).map Entries.ofList
      = (others.mapM (entry value)).map Entries.ofList := by
  refine rel_map (mapM_perm order) fun entries entries' read read' same => ?_
  have distinct' : DistinctNames (others.map Prod.fst) := distinct.perm (order.map _)
  refine (Entries.increasing_ofList _).eq_of_perm (Entries.increasing_ofList _) ?_
  exact (Entries.perm_ofList (nodup_of_mapM distinct read)).trans
    (same.trans (Entries.perm_ofList (nodup_of_mapM distinct' read')).symm)

section

variable {meaning : Tree → Option α} (blind : OrderBlind meaning)
include blind

theorem OrderBlind.items {items others : List Tree} (reordered : ReorderedItems items others)
    (distinct : DistinctItems items)
    : items.mapM meaning = others.mapM meaning :=
  mapM_twins ((twins_items reordered distinct).imp blind)

theorem OrderBlind.entries {members middle others : List (List StringPart × Tree)}
    (reordered : ReorderedMembers members middle) (order : middle.Perm others)
    (distinct : DistinctNames (members.map Prod.fst)) (distinct' : DistinctMembers members)
    : (members.mapM (entry meaning)).map Entries.ofList
      = (others.mapM (entry meaning)).map Entries.ofList := by
  have twins := twins_members reordered distinct'
  have same : members.mapM (entry meaning) = middle.mapM (entry meaning) := by
    refine mapM_twins (twins.imp fun member other => ?_)
    rintro ⟨name, twins⟩
    rw [entry, entry, name, blind _ _ twins]
  have names : members.map Prod.fst = middle.map Prod.fst := names_of_twins twins
  rw [same]
  exact entries_perm meaning (names ▸ distinct) order

end

/-- Only lists and objects are written in several ways. -/
theorem Reordered.cases {tree other : Tree} (reordered : tree.Reordered other)
    : tree = other
      ∨ (∃ items others, tree = .array items ∧ other = .array others ∧ ReorderedItems items others)
      ∨ ∃ members middle others,
          tree = .object members
          ∧ other = .object others
          ∧ ReorderedMembers members middle
          ∧ middle.Perm others := by
  cases tree with
  | array items =>
      cases other with
      | array others => exact .inr (.inl ⟨_, _, rfl, rfl, reordered⟩)
      | _ => exact .inl reordered
  | object members =>
      cases other with
      | object others =>
          obtain ⟨middle, reordered, order⟩ := reordered
          exact .inr (.inr ⟨_, _, _, rfl, rfl, reordered, order⟩)
      | _ => exact .inl reordered
  | _ => exact .inl reordered

/-- The order of members does not matter to a value, by induction on the room for brackets. -/
theorem orderBlind_value (room : Nat) : OrderBlind (value room) := by
  have around {nested? : Option (Tree → Option Json)}
      (nested : ∀ nested ∈ nested?, OrderBlind nested)
      : OrderBlind (valueAround nested?) := by
    rintro tree other ⟨reordered, distinct⟩
    rcases reordered.cases with rfl | ⟨items, others, rfl, rfl, reordered⟩
      | ⟨members, middle, others, rfl, rfl, reordered, order⟩
    · rfl
    · cases nested? with
      | none => rfl
      | some meaning =>
          exact congrArg (Option.map Json.array) ((nested meaning rfl).items reordered distinct)
    · cases nested? with
      | none => rfl
      | some meaning =>
          have entries := (nested meaning rfl).entries reordered order distinct.1 distinct.2
          have entries := congrArg (Option.map Json.object) entries
          rw [Option.map_map, Option.map_map] at entries
          exact entries
  induction room with
  | zero => exact around (by simp)
  | succ room ih => exact around (by simpa using ih)

theorem orderBlind_string : OrderBlind string? := by
  rintro tree other ⟨reordered, _⟩
  rcases reordered.cases with rfl | ⟨_, _, rfl, rfl, _⟩ | ⟨_, _, _, rfl, rfl, _, _⟩ <;> rfl

theorem orderBlind_bool : OrderBlind bool? := by
  rintro tree other ⟨reordered, _⟩
  rcases reordered.cases with rfl | ⟨_, _, rfl, rfl, _⟩ | ⟨_, _, _, rfl, rfl, _, _⟩ <;> rfl

section

variable {meaning : Nat → Tree → Option α} (blind : ∀ room, OrderBlind (meaning room))
include blind

theorem orderBlind_list (room : Nat) : OrderBlind (list? meaning room) := by
  rintro tree other ⟨reordered, distinct⟩
  rcases reordered.cases with rfl | ⟨items, others, rfl, rfl, reordered⟩ | ⟨_, _, _, rfl, rfl, _, _⟩
  · rfl
  · cases room with
    | zero => rfl
    | succ room => exact (blind room).items reordered distinct
  · cases room <;> rfl

theorem orderBlind_map (room : Nat) : OrderBlind (map? meaning room) := by
  rintro tree other ⟨reordered, distinct⟩
  rcases reordered.cases with rfl | ⟨_, _, rfl, rfl, _⟩
    | ⟨members, middle, others, rfl, rfl, reordered, order⟩
  · rfl
  · cases room <;> rfl
  · cases room with
    | zero => rfl
    | succ room => exact (blind room).entries reordered order distinct.1 distinct.2

end

-----------------------------------------------------------------------------------------
-- Records
-----------------------------------------------------------------------------------------

/-- What is put into a record by one field and by another one can be put in either order. -/
def Apart (field other : Field σ) : Prop :=
  ∀ room tree tree' put put', field.put? room tree = some put → other.put? room tree' = some put' →
    ∀ result, put (put' result) = put' (put result)

instance : Std.Symm (Apart (σ := σ)) where
  symm _ _ apart room tree tree' put put' added added' result :=
    (apart room tree' tree put' put added' added result).symm

/-- The fields of a record can be put into it in any order, and none depends on the order of
members.
-/
structure Fields (fields : List (Field σ)) : Prop where
  apart : fields.Pairwise Apart
  blind : ∀ field ∈ fields, ∀ room, OrderBlind (field.put? room)

/-- The same fields have been read, in any order, and make the same record. -/
def Alike (result other : List String × σ) : Prop := result.1.Perm other.1 ∧ result.2 = other.2

theorem Alike.contains {result other : List String × σ} (alike : Alike result other) (name : String)
    : result.1.contains name = other.1.contains name := by
  rw [Bool.eq_iff_iff, List.contains_iff_mem, List.contains_iff_mem, alike.1.mem_iff]

section

variable {fields : List (Field σ)} {room : Nat} {result other : List String × σ}

theorem alike_step (alike : Alike result other) (name : String) (tree : Tree)
    : Option.Rel Alike (recordStep fields room name result tree)
        (recordStep fields room name other tree) := by
  unfold recordStep
  cases fields.find? (·.name == name) with
  | none => exact .some alike
  | some field =>
      simp only [alike.contains name]
      split
      · exact .none
      · cases field.put? room tree with
        | none => exact .none
        | some put => exact .some ⟨alike.1.cons name, congrArg put alike.2⟩

theorem recordStep_twins (blind : ∀ field ∈ fields, ∀ room, OrderBlind (field.put? room))
    {name : String} {tree tree' : Tree} (twins : Twins tree tree')
    : recordStep fields room name result tree = recordStep fields room name result tree' := by
  unfold recordStep
  cases found : fields.find? (·.name == name) with
  | none => rfl
  | some field =>
      simp only [blind field (List.mem_of_find?_eq_some found) room _ _ twins]

/-- Two known fields are both put into a record unless one of them stands there. -/
theorem recordStep_twice {field field' : Field σ} {first second : String}
    (found : fields.find? (·.name == first) = some field)
    (found' : fields.find? (·.name == second) = some field') (differ : second ≠ first)
    (tree tree' : Tree)
    : ((recordStep fields room first result tree).bind fun result =>
        recordStep fields room second result tree')
      = if result.1.contains first || result.1.contains second then none
        else
          (field.put? room tree).bind fun put =>
            (field'.put? room tree').map fun put' =>
              (second :: first :: result.1, put' (put result.2)) := by
  have later (seen : List String) : (first :: seen).contains second = seen.contains second := by
    simp [differ]
  unfold recordStep
  simp only [found, found']
  cases result.1.contains first with
  | true => rfl
  | false =>
      cases field.put? room tree with
      | none => cases result.1.contains second <;> rfl
      | some put =>
          simp only [Bool.false_or, Bool.false_eq_true, if_false, Option.map_some, Option.bind_some,
            later]

/-- Members of different names can be read in either order. -/
theorem alike_swap (of : Fields fields) (alike : Alike result other) {first second : String}
    (differ : first ≠ second) (tree tree' : Tree)
    : Option.Rel Alike
        ((recordStep fields room first result tree).bind fun result =>
          recordStep fields room second result tree')
        ((recordStep fields room second other tree').bind fun other =>
          recordStep fields room first other tree) := by
  cases found : fields.find? (·.name == first) with
  | none =>
      have skipped (result : List String × σ)
          : recordStep fields room first result tree = some result := by
        rw [recordStep, found]
      simp only [skipped, Option.bind_some, Option.bind_fun_some]
      exact alike_step alike second tree'
  | some field =>
      cases found' : fields.find? (·.name == second) with
      | none =>
          have skipped (result : List String × σ)
              : recordStep fields room second result tree' = some result := by
            rw [recordStep, found']
          simp only [skipped, Option.bind_some, Option.bind_fun_some]
          exact alike_step alike first tree
      | some field' =>
          have name : field.name = first := by simpa using List.find?_some found
          have name' : field'.name = second := by simpa using List.find?_some found'
          have others : field ≠ field' := by
            rintro rfl
            exact differ (name.symm.trans name')
          have apart := of.apart.forall (List.mem_of_find?_eq_some found)
            (List.mem_of_find?_eq_some found') others
          -- In either order the same names are repeated, and the fields are put apart.
          rw [recordStep_twice found found' differ.symm, recordStep_twice found' found differ,
            alike.contains, alike.contains, Bool.or_comm]
          split
          · exact .none
          · cases added : field.put? room tree with
            | none => cases field'.put? room tree' <;> exact .none
            | some put =>
                cases added' : field'.put? room tree' with
                | none => exact .none
                | some put' =>
                    refine .some ⟨(List.Perm.swap ..).trans ((alike.1.cons _).cons _), ?_⟩
                    rw [alike.2]
                    exact (apart room tree tree' put put' added added' other.2).symm

theorem alike_memberStep (alike : Alike result other) (member : List StringPart × Tree)
    : Option.Rel Alike (memberStep (recordStep fields room) result member)
        (memberStep (recordStep fields room) other member) := by
  unfold memberStep
  cases text? member.1 with
  | none => exact .none
  | some name => exact alike_step alike name member.2

theorem alike_foldlM (members : List (List StringPart × Tree)) (alike : Alike result other)
    : Option.Rel Alike (members.foldlM (memberStep (recordStep fields room)) result)
        (members.foldlM (memberStep (recordStep fields room)) other) := by
  induction members generalizing result other with
  | nil => exact .some alike
  | cons member members ih =>
      rw [List.foldlM_cons, List.foldlM_cons]
      exact rel_bind (alike_memberStep alike member) fun _ _ alike => ih alike

/-- Members with distinct names make the same record in every order, by induction on the order. -/
theorem alike_perm (of : Fields fields) {members others : List (List StringPart × Tree)}
    (distinct : DistinctNames (members.map Prod.fst)) (order : members.Perm others)
    (alike : Alike result other)
    : Option.Rel Alike (members.foldlM (memberStep (recordStep fields room)) result)
        (others.foldlM (memberStep (recordStep fields room)) other) := by
  induction order generalizing result other with
  | nil => exact .some alike
  | cons member _ ih =>
      rw [List.foldlM_cons, List.foldlM_cons]
      refine rel_bind (alike_memberStep alike member) fun _ _ alike => ?_
      exact ih (List.pairwise_cons.mp distinct).2 alike
  | swap first second rest =>
      have differ := (List.pairwise_cons.mp distinct).1 first.1 (.head _)
      simp only [List.foldlM_cons, Option.bind_eq_bind, ← Option.bind_assoc]
      refine rel_bind ?_ fun _ _ alike => alike_foldlM rest alike
      unfold memberStep
      cases named : text? second.1 with
      | none =>
          simp only [Option.bind_none, Option.bind_fun_none]
          exact .none
      | some name =>
          cases named' : text? first.1 with
          | none =>
              simp only [Option.bind_none, Option.bind_fun_none]
              exact .none
          | some name' =>
              have differ : name ≠ name' := by
                rintro rfl
                exact differ name named named'
              exact alike_swap of alike differ second.2 first.2
  | trans order _ ih ih' =>
      exact rel_trans (fun left right => ⟨left.1.trans right.1, left.2.trans right.2⟩)
        (ih distinct alike) (ih' (distinct.perm (order.map _)) ⟨.refl _, rfl⟩)

/-- The fields of a record are the same for twins when a list gives them. -/
theorem recordItems_twins (blind : ∀ field ∈ fields, ∀ room, OrderBlind (field.put? room))
    {items others : List Tree} (twins : List.Forall₂ Twins items others) (initial : σ)
    : recordItems room fields items initial = recordItems room fields others initial := by
  induction twins generalizing fields initial with
  | nil => rfl
  | cons twin _ ih =>
      cases fields with
      | nil => rfl
      | cons field fields =>
          rw [recordItems, recordItems, blind field (.head _) room _ _ twin]
          have later := ih fun field member => blind field (.tail _ member)
          exact congrArg (Option.bind _) (funext fun put => later (put initial))

theorem orderBlind_record (of : Fields fields) (initial : σ) (room : Nat)
    : OrderBlind (record? fields initial room) := by
  rintro tree other ⟨reordered, distinct⟩
  rcases reordered.cases with rfl | ⟨items, others, rfl, rfl, reordered⟩
    | ⟨members, middle, others, rfl, rfl, reordered, order⟩
  · rfl
  · cases room with
    | zero => rfl
    | succ room => exact recordItems_twins of.blind (twins_items reordered distinct) initial
  · cases room with
    | zero => rfl
    | succ room =>
        have twins := twins_members reordered distinct.2
        have same : members.foldlM (memberStep (recordStep fields room)) ([], initial)
            = middle.foldlM (memberStep (recordStep fields room)) ([], initial) := by
          refine foldlM_twins (twins.imp fun member other => ?_) _
          rintro ⟨name, twin⟩ result
          rw [memberStep, memberStep, name]
          exact congrArg (Option.bind _) (funext fun name => recordStep_twins of.blind twin)
        have names := names_of_twins twins
        have order
            : Option.Rel Alike
                (middle.foldlM (memberStep (recordStep fields room)) ([], initial)) _ :=
          alike_perm of (names ▸ distinct.1) order ⟨.refl _, rfl⟩
        change Option.map _ _ = Option.map _ _
        rw [same]
        exact rel_map order fun _ _ _ _ alike => alike.2

end

end Tree

end ComponentCrd.Json

namespace ComponentCrd.Document

open Json Tree

variable {α β σ : Type}

theorem apart_field {name name' : String} {value : Nat → Tree → Option α}
    {value' : Nat → Tree → Option β} {put : α → σ → σ} {put' : β → σ → σ}
    (commute
      : ∀ value value' result, put value (put' value' result) = put' value' (put value result))
    : Apart (field name value put) (field name' value' put') := by
  intro room tree tree' put put' added added' result
  obtain ⟨value, _, rfl⟩ := Option.map_eq_some_iff.mp added
  obtain ⟨value', _, rfl⟩ := Option.map_eq_some_iff.mp added'
  exact commute value value' result

theorem orderBlind_field {value : Nat → Tree → Option α} (name : String) (put : α → σ → σ)
    (blind : ∀ room, OrderBlind (value room)) (room : Nat)
    : OrderBlind ((field name value put).put? room) :=
  fun tree other twins => congrArg (Option.map put) (blind room tree other twins)

theorem fields_resource : Fields resourceTreeFields where
  apart := by
    unfold resourceTreeFields
    simp only [List.pairwise_cons, List.forall_mem_cons]
    exact ⟨⟨apart_field fun _ _ _ => rfl, apart_field fun _ _ _ => rfl, by simp⟩,
      ⟨apart_field fun _ _ _ => rfl, by simp⟩, by simp, .nil⟩
  blind := by
    unfold resourceTreeFields
    simp only [List.forall_mem_cons]
    exact ⟨orderBlind_field _ _ fun _ => orderBlind_bool,
      orderBlind_field _ _ (orderBlind_map orderBlind_value),
      orderBlind_field _ _ (orderBlind_list fun _ => orderBlind_string), by simp⟩

theorem fields_document : Fields documentTreeFields where
  apart := by
    unfold documentTreeFields
    simp only [List.pairwise_cons, List.forall_mem_cons]
    exact ⟨⟨apart_field fun _ _ _ => rfl, apart_field fun _ _ _ => rfl,
        apart_field fun _ _ _ => rfl, by simp⟩,
      ⟨apart_field fun _ _ _ => rfl, apart_field fun _ _ _ => rfl, by simp⟩,
      ⟨apart_field fun _ _ _ => rfl, by simp⟩, by simp, .nil⟩
  blind := by
    unfold documentTreeFields
    simp only [List.forall_mem_cons]
    exact ⟨orderBlind_field _ _ fun _ => orderBlind_string,
      orderBlind_field _ _ fun _ => orderBlind_string,
      orderBlind_field _ _ (orderBlind_map (orderBlind_record fields_resource {})),
      orderBlind_field _ _ (orderBlind_map orderBlind_value), by simp⟩

/-- The order of members does not matter to the document of a tree. -/
theorem orderBlind_ofTree? : OrderBlind ofTree? :=
  orderBlind_record fields_document {} Decode.deepest

end ComponentCrd.Document
