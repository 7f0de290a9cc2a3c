import Offspring.Proofs.Json.Literal

/-!
# Lists and records in any written form

`Separated` are the items of a list or the members of an object, with commas between them and any blanks around
each. A list is read item by item (`readList_enclosed`). For a record, `Record.Schema` says how the values of its
fields are written and what each fills in. Its fields are then read by position (`Schema.read_positions`) or from
an object, whose members may come in any order, under names that are spelled in any way, and with others between
them (`Schema.readMembers_separated`). A member whose name came before stops the reader at once
(`Schema.readMembers_repeated`).
-/

namespace Offspring.Json

/-! ### Forms -/

section Forms

variable {α : Type}

/-- Something written, with the blanks around it. -/
def Spaced (form : List Char → Prop) (text : List Char) : Prop :=
  ∃ lead core close, Blank lead ∧ form core ∧ Blank close ∧ text = lead ++ (core ++ close)

/-- One thing or more, each in one of its forms, with commas between them. -/
inductive Separated (form : α → List Char → Prop) : List α → List Char → Prop
  | last {x : α} {text : List Char} : Spaced (form x) text → Separated form [x] text
  | more {x : α} {xs : List α} {text rest : List Char} : Spaced (form x) text → Separated form xs rest →
      Separated form (x :: xs) (text ++ ',' :: rest)

/-- Any number of things between two brackets. -/
inductive Enclosed (opening closing : Char) (form : α → List Char → Prop) : List α → List Char → Prop
  | none {gap : List Char} : Blank gap → Enclosed opening closing form [] (opening :: (gap ++ [closing]))
  | some {xs : List α} {text : List Char} : Separated form xs text →
      Enclosed opening closing form xs (opening :: (text ++ [closing]))

/-- A value under a name that is spelled in any way. -/
def Named (name : String) (form : List Char → Prop) (text : List Char) : Prop :=
  ∃ literal gap lead value, Literal name literal ∧ Blank gap ∧ Blank lead ∧ form value ∧
    text = literal ++ (gap ++ ':' :: (lead ++ value))

/-- Things that are written with at least one character each are no more than the characters. -/
theorem Separated.length_le {form : α → List Char → Prop} (hsome : ∀ x core, form x core → core ≠ [])
    {xs : List α} {text : List Char} (h : Separated form xs text) : xs.length ≤ text.length := by
  have hspaced : ∀ x text, Spaced (form x) text → 1 ≤ text.length := by
    intro x text ⟨lead, core, close, _, hcore, _, htext⟩
    have hcore := List.length_pos_iff.mpr (hsome x core hcore)
    rw [htext, List.length_append, List.length_append]
    omega
  induction h with
  | last hlast => exact hspaced _ _ hlast
  | more hfirst _ ih =>
    have hfirst := hspaced _ _ hfirst
    rw [List.length_cons, List.length_append, List.length_cons]
    omega

/-- Things that can be written can be written with commas between them. -/
theorem exists_separated {form : α → List Char → Prop} {xs : List α} (hsome : xs ≠ [])
    (h : ∀ x ∈ xs, ∃ core, form x core) : ∃ text, Separated form xs text := by
  have hspaced : ∀ x core, form x core → Spaced (form x) core := fun x core hcore =>
    ⟨[], core, [], blank_nil, hcore, blank_nil, by simp⟩
  induction xs with
  | nil => exact absurd rfl hsome
  | cons x xs ih =>
    obtain ⟨core, hcore⟩ := h x List.mem_cons_self
    by_cases hlast : xs = []
    · rw [hlast]
      exact ⟨core, .last (hspaced x core hcore)⟩
    · obtain ⟨rest, hrest⟩ := ih hlast fun y hy => h y (List.mem_cons_of_mem x hy)
      exact ⟨_, .more (hspaced x core hcore) hrest⟩

/-- Things that can be written can be written between brackets. -/
theorem exists_enclosed (opening closing : Char) {form : α → List Char → Prop} {xs : List α}
    (h : ∀ x ∈ xs, ∃ core, form x core) : ∃ text, Enclosed opening closing form xs text := by
  by_cases hnone : xs = []
  · rw [hnone]
    exact ⟨_, .none blank_nil⟩
  · obtain ⟨text, htext⟩ := exists_separated hnone h
    exact ⟨_, .some htext⟩

/-- What stands in front of an item or a member: nothing at the first one, else a comma. -/
inductive Front : Bool → List Char → Prop
  | first : Front true []
  | later {gap : List Char} : Blank gap → Front false (gap ++ [','])

end Forms

/-! ### Lists -/

/-- The reader of a list moves to the next item. -/
theorem nextItem_front {atFirst : Bool} {front lead core : List Char} (h : Front atFirst front)
    (hlead : Blank lead) (hcore : Begins core) (rest : List Char) :
    nextItem atFirst (front ++ (lead ++ (core ++ rest))) = .ok (true, core ++ rest) := by
  obtain ⟨c, tail, rfl, hblank, hend⟩ := hcore
  cases h with
  | first =>
    rw [List.nil_append, List.cons_append, nextItem, skipBlanks_append hlead hblank]
    simp
  | later hgap =>
    rw [List.append_assoc, List.cons_append, List.cons_append, List.nil_append, nextItem, skipBlanks_append hgap rfl]
    simp [skipBlanks_append hlead hblank, hend]

/-- The end of a list is passed, behind blanks. -/
theorem endItems_close {gap : List Char} (hgap : Blank gap) (rest : List Char) :
    endItems (gap ++ ']' :: rest) = .ok rest := by
  rw [endItems, skipBlanks_append hgap rfl]
  rfl

section Items

variable {α : Type} {form : α → List Char → Prop} {read : Scan α} {xs : List α} {text : List Char}
  (hbegins : ∀ x core, form x core → Begins core)
  (hread : ∀ x core, form x core → ∀ rest, read (core ++ rest) = .ok (x, rest))
include hbegins hread

/-- One item is read up to the blanks behind it. -/
theorem exists_item {x : α} (h : Spaced (form x) text) : ∃ close, Blank close ∧ ∀ {atFirst front},
    Front atFirst front → ∀ rest, ∃ item, nextItem atFirst (front ++ (text ++ rest)) = .ok (true, item) ∧
      read item = .ok (x, close ++ rest) := by
  obtain ⟨lead, core, close, hlead, hcore, hclose, rfl⟩ := h
  apply Exists.intro close
  apply And.intro hclose
  intro atFirst front hfront rest
  have hnext := nextItem_front hfront hlead (hbegins x core hcore) (close ++ rest)
  have hform : lead ++ (core ++ close) ++ rest = lead ++ (core ++ (close ++ rest)) := by simp
  rw [hform]
  exact ⟨_, hnext, hread x core hcore _⟩

/-- The items of a list are read up to the list's end. -/
theorem readItems_separated (h : Separated form xs text) {atFirst : Bool} {front : List Char}
    (hfront : Front atFirst front) (rest : List Char) (fuel : Nat) (hfuel : xs.length < fuel) :
    readItems read fuel atFirst (front ++ (text ++ ']' :: rest)) = .ok (xs, ']' :: rest) := by
  induction h generalizing atFirst front fuel with
  | last hlast =>
    obtain ⟨close, hclose, hitem⟩ := exists_item hbegins hread hlast
    obtain ⟨item, hnext, hx⟩ := hitem hfront (']' :: rest)
    rw [List.length_singleton] at hfuel
    obtain ⟨fuel, rfl⟩ := Nat.exists_eq_add_of_le' (show 2 ≤ fuel from hfuel)
    apply readItems_item hnext hx
    simp only [readItems, nextItem_end hclose]
    rfl
  | @more x xs text more hfirst _ ih =>
    obtain ⟨close, hclose, hitem⟩ := exists_item hbegins hread hfirst
    obtain ⟨item, hnext, hx⟩ := hitem hfront (',' :: (more ++ ']' :: rest))
    rw [List.length_cons] at hfuel
    obtain ⟨fuel, rfl⟩ := Nat.exists_eq_add_of_le' (show 1 ≤ fuel by omega)
    have hrest := ih (.later hclose) fuel (by omega)
    rw [List.append_assoc, List.cons_append, List.nil_append] at hrest
    rw [List.append_assoc, List.cons_append]
    exact readItems_item hnext hx hrest

/-- A list is read, however it is written. -/
theorem readList_enclosed (h : Enclosed '[' ']' form xs text) {lead : List Char} (hlead : Blank lead)
    (rest : List Char) : readList read (lead ++ (text ++ rest)) = .ok (xs, rest) := by
  cases h with
  | none hgap =>
    rw [List.cons_append, List.append_assoc, readList, skipBlanks_append hlead rfl]
    simp only [readItems, List.cons_append, List.nil_append, nextItem_end hgap, bind, Except.bind]
    rfl
  | @some _ text hitems =>
    have hsome : ∀ x core, form x core → core ≠ [] := by
      intro x core hcore
      obtain ⟨c, tail, htext, -⟩ := hbegins x core hcore
      rw [htext]
      exact List.cons_ne_nil c tail
    have hlength := hitems.length_le hsome
    have hfuel : xs.length < (text ++ ']' :: rest).length + 1 := by
      rw [List.length_append]
      omega
    have hread := readItems_separated hbegins hread hitems .first rest _ hfuel
    rw [List.nil_append] at hread
    rw [List.cons_append, List.append_assoc, readList, skipBlanks_append hlead rfl]
    simp only [List.cons_append, List.nil_append, hread, bind, Except.bind]
    rfl

end Items

/-! ### Records -/

/-- How the values of a record's fields are written, and what each fills in. -/
structure Record.Schema {σ : Type} (r : Record σ) (α : Type) where
  field : α → Field σ
  fill : α → σ → σ
  form : α → List Char → Prop
  find_field : ∀ x, r.fields.find? (·.name = (field x).name) = some (field x)
  begins : ∀ x core, form x core → Begins core
  read_form : ∀ x core, form x core → ∀ lead, Blank lead → ∀ filled rest,
    (field x).read filled (lead ++ (core ++ rest)) = .ok (fill x filled, rest)

/-- A member of an object: one of the fields, or one of another name. -/
inductive Member (α : Type)
  | known (x : α)
  | other (name : String)

/-- The field that a member fills. -/
def Member.known? {α : Type} : Member α → Option α
  | known x => some x
  | other _ => none

namespace Record.Schema

variable {σ α : Type} {r : Record σ} (s : r.Schema α)

/-- The name of a field. -/
def name (x : α) : String :=
  (s.field x).name

/-- What the fields make of the record, one after the other. -/
def filled (xs : List α) (start : σ) : σ :=
  xs.foldl (fun filled x => s.fill x filled) start

/-- A member in one of its forms. Under another name any value may stand. -/
def member : Member α → List Char → Prop
  | .known x => Named (s.name x) (s.form x)
  | .other name => fun text => (∀ field ∈ r.fields, field.name ≠ name) ∧ Named name (Phrase .value) text

/-- The fields among members, in their order. -/
def fields (members : List (Member α)) : List α :=
  members.filterMap Member.known?

/-- The names seen behind the members. -/
def seen (xs : List α) (before : List String) : List String :=
  (xs.map s.name).reverse ++ before

theorem filled_append (xs ys : List α) (start : σ) : s.filled (xs ++ ys) start = s.filled ys (s.filled xs start) :=
  List.foldl_append

theorem seen_append (xs ys : List α) (before : List String) :
    s.seen (xs ++ ys) before = s.seen ys (s.seen xs before) := by
  simp [seen]

theorem mem_seen {xs : List α} {before : List String} {name : String} :
    name ∈ s.seen xs before ↔ name ∈ xs.map s.name ∨ name ∈ before := by
  rw [seen, List.mem_append, List.mem_reverse]

theorem fields_cons (m : Member α) (ms : List (Member α)) : fields (m :: ms) = fields [m] ++ fields ms :=
  List.filterMap_append (l := [m])

/-! #### By position -/

/-- One field is read up to the blanks behind it. -/
theorem readPositions_item {x : α} {text : List Char} (h : Spaced (s.form x) text) :
    ∃ close, Blank close ∧ ∀ {position front}, Front (position = 0) front → ∀ fields start rest,
      r.readPositions position (s.field x :: fields) start (front ++ (text ++ rest)) =
        r.readPositions (position + 1) fields (s.fill x start) (close ++ rest) := by
  obtain ⟨lead, core, close, hlead, hcore, hclose, rfl⟩ := h
  apply Exists.intro close
  apply And.intro hclose
  intro position front hfront fields start rest
  have hnext := nextItem_front hfront hlead (s.begins x core hcore) (close ++ rest)
  have hread := s.read_form x core hcore [] blank_nil start (close ++ rest)
  rw [List.nil_append] at hread
  have hform : lead ++ (core ++ close) ++ rest = lead ++ (core ++ (close ++ rest)) := by simp
  simp only [hform, Record.readPositions, hnext, hread, bind, Except.bind, if_true]

/-- The fields behind the last item keep what they have, if they may be left out. -/
theorem readPositions_end {gap : List Char} (hgap : Blank gap) (position : Nat) {later : List (Field σ)}
    (hlater : ∀ field ∈ later, field.required = false) (start : σ) (rest : List Char) :
    ∃ left, r.readPositions position later start (gap ++ ']' :: rest) = .ok (start, left) ∧
      endItems left = .ok rest := by
  cases later with
  | nil => exact ⟨gap ++ ']' :: rest, rfl, endItems_close hgap rest⟩
  | cons field later =>
    have hoptional := hlater field List.mem_cons_self
    apply Exists.intro (']' :: rest)
    simp only [Record.readPositions, nextItem_end hgap, hoptional, bind, Except.bind]
    exact ⟨rfl, rfl⟩

/-- The fields are read in their order, as many as there are, if those behind them may be left out. -/
theorem readPositions_separated {xs : List α} {text : List Char} (h : Separated s.form xs text)
    {position : Nat} {front : List Char} (hfront : Front (position = 0) front) {later : List (Field σ)}
    (hlater : ∀ field ∈ later, field.required = false) (start : σ) (rest : List Char) :
    ∃ left, r.readPositions position (xs.map s.field ++ later) start (front ++ (text ++ ']' :: rest)) =
      .ok (s.filled xs start, left) ∧ endItems left = .ok rest := by
  induction h generalizing position front start with
  | last hlast =>
    obtain ⟨close, hclose, hitem⟩ := s.readPositions_item hlast
    rw [List.map_singleton, List.singleton_append, hitem hfront]
    exact readPositions_end hclose _ hlater _ rest
  | @more x xs text more hfirst _ ih =>
    obtain ⟨close, hclose, hitem⟩ := s.readPositions_item hfirst
    rw [List.map_cons, List.cons_append, List.append_assoc, List.cons_append, hitem hfront]
    have hlater : Front (position + 1 = 0) (close ++ [',']) := by
      rw [decide_eq_false (Nat.succ_ne_zero position)]
      exact .later hclose
    have hrest := ih hlater (s.fill x start)
    rwa [List.append_assoc, List.cons_append, List.nil_append] at hrest

/-- A record is read from an array of its first fields, if the others may be left out. -/
theorem read_positions {xs : List α} {later : List (Field σ)} (hfields : r.fields = xs.map s.field ++ later)
    (hlater : ∀ field ∈ later, field.required = false) {text lead : List Char} (h : Separated s.form xs text)
    (hlead : Blank lead) (rest : List Char) :
    r.read (lead ++ ('[' :: (text ++ [']']) ++ rest)) = .ok (s.filled xs r.empty, rest) := by
  have hfirst : Front ((0 : Nat) = 0) [] := .first
  obtain ⟨left, hread, hend⟩ := s.readPositions_separated h hfirst hlater r.empty rest
  rw [List.nil_append, ← hfields] at hread
  rw [List.cons_append, List.append_assoc, Record.read, skipBlanks_append hlead rfl]
  simp only [List.cons_append, List.nil_append, hread, hend, bind, Except.bind]

/-! #### By name -/

/-- The reader of an object moves to the next member. -/
theorem nextMember_front {atFirst : Bool} {front lead : List Char} (h : Front atFirst front) (hlead : Blank lead)
    (rest : List Char) : nextMember atFirst (front ++ (lead ++ '"' :: rest)) = .ok (true, rest) := by
  have hquote : isBlank '"' = false := rfl
  cases h with
  | first =>
    rw [List.nil_append, nextMember, skipBlanks_append hlead hquote]
    rfl
  | later hgap =>
    rw [List.append_assoc, List.cons_append, List.nil_append, nextMember, skipBlanks_append hgap rfl]
    simp [skipBlanks_append hlead hquote]

/-- The colon behind a name is passed, behind blanks. -/
theorem passColon_gap {gap : List Char} (hgap : Blank gap) (rest : List Char) :
    passColon (gap ++ ':' :: rest) = .ok rest := by
  rw [passColon, skipBlanks_append hgap rfl]
  rfl

/-- The end of an object is passed. -/
theorem readMembers_end {gap : List Char} (hgap : Blank gap) (fuel : Nat) (atFirst : Bool) (before : List String)
    (start : σ) (rest : List Char) :
    r.readMembers (fuel + 1) atFirst before start (gap ++ '\x7d' :: rest) = .ok (before, start, '\x7d' :: rest) := by
  simp only [Record.readMembers, nextMember_end hgap, bind, Except.bind]
  rfl

/-- A member fills its field, if none of the name came before. -/
theorem readMembers_known {x : α} {core : List Char} (h : Named (s.name x) (s.form x) core) {atFirst : Bool}
    {front lead : List Char} (hfront : Front atFirst front) (hlead : Blank lead) (fuel : Nat)
    {before : List String} (hbefore : s.name x ∉ before) (start : σ) (rest : List Char) :
    r.readMembers (fuel + 1) atFirst before start (front ++ (lead ++ (core ++ rest))) =
      r.readMembers fuel false (s.name x :: before) (s.fill x start) rest := by
  obtain ⟨_, gap, after, value, ⟨body, hspells, rfl⟩, hgap, hafter, hvalue, rfl⟩ := h
  have hfind : r.fields.find? (·.name = s.name x) = some (s.field x) := s.find_field x
  have hread := s.read_form x value hvalue after hafter start rest
  simp [Record.readMembers, nextMember_front hfront hlead, scanString_spells hspells, hfind, hbefore,
    passColon_gap hgap, hread, bind, Except.bind]

/-- A member of another name is passed over. -/
theorem readMembers_other {name : String} (hother : ∀ field ∈ r.fields, field.name ≠ name) {core : List Char}
    (h : Named name (Phrase .value) core) {atFirst : Bool} {front lead : List Char} (hfront : Front atFirst front)
    (hlead : Blank lead) (fuel : Nat) (before : List String) (start : σ) {rest : List Char} (hrest : Stops rest) :
    r.readMembers (fuel + 1) atFirst before start (front ++ (lead ++ (core ++ rest))) =
      r.readMembers fuel false before start rest := by
  obtain ⟨_, gap, after, value, ⟨body, hspells, rfl⟩, hgap, hafter, hvalue, rfl⟩ := h
  have hfind : r.fields.find? (·.name = name) = none := List.find?_eq_none.mpr (by simpa using hother)
  simp [Record.readMembers, nextMember_front hfront hlead, scanString_spells hspells, hfind, passColon_gap hgap,
    skipValue_phrase hvalue hafter hrest, bind, Except.bind]

/-- A member whose name came before is refused, whatever follows its name. -/
theorem readMembers_repeated {x : α} {literal : List Char} (h : Literal (s.name x) literal) {atFirst : Bool}
    {front lead : List Char} (hfront : Front atFirst front) (hlead : Blank lead) (fuel : Nat)
    {before : List String} (hbefore : s.name x ∈ before) (start : σ) (rest : List Char) :
    r.readMembers (fuel + 1) atFirst before start (front ++ (lead ++ (literal ++ rest))) =
      .error (.duplicateField (s.name x)) := by
  obtain ⟨body, hspells, rfl⟩ := h
  have hfind : r.fields.find? (·.name = s.name x) = some (s.field x) := s.find_field x
  simp [Record.readMembers, nextMember_front hfront hlead, scanString_spells hspells, hfind, hbefore, bind,
    Except.bind]

/-- A member, whatever its name, is read up to the blanks behind it. -/
theorem readMembers_member {m : Member α} {text : List Char} (h : Spaced (s.member m) text) :
    ∃ close, Blank close ∧ ∀ {atFirst front}, Front atFirst front → ∀ {before},
      (∀ x ∈ fields [m], s.name x ∉ before) → ∀ fuel start rest, Stops rest →
      r.readMembers (fuel + 1) atFirst before start (front ++ (text ++ rest)) =
        r.readMembers fuel false (s.seen (fields [m]) before) (s.filled (fields [m]) start) (close ++ rest) := by
  obtain ⟨lead, core, close, hlead, hcore, hclose, rfl⟩ := h
  apply Exists.intro close
  apply And.intro hclose
  intro atFirst front hfront before hbefore fuel start rest hrest
  have hform : lead ++ (core ++ close) ++ rest = lead ++ (core ++ (close ++ rest)) := by simp
  rw [hform]
  cases m with
  | known x => exact s.readMembers_known hcore hfront hlead fuel (hbefore x List.mem_cons_self) start _
  | other name => exact readMembers_other hcore.1 hcore.2 hfront hlead fuel before start (hrest.behind hclose)

/-- Members are read in any order, if no field comes twice, up to the blanks behind them. -/
theorem readMembers_separated {ms : List (Member α)} {text : List Char} (h : Separated s.member ms text) :
    ∃ close, Blank close ∧ ∀ {atFirst front}, Front atFirst front → ∀ {before},
      ((fields ms).map s.name).Nodup → (∀ x ∈ fields ms, s.name x ∉ before) → ∀ fuel start rest, Stops rest →
      r.readMembers (fuel + ms.length) atFirst before start (front ++ (text ++ rest)) =
        r.readMembers fuel false (s.seen (fields ms) before) (s.filled (fields ms) start) (close ++ rest) := by
  induction h with
  | last hlast =>
    obtain ⟨close, hclose, hmember⟩ := s.readMembers_member hlast
    exact ⟨close, hclose, fun hfront _ _ hbefore => hmember hfront hbefore⟩
  | @more m ms text more hfirst _ ih =>
    obtain ⟨gap, hgap, hmember⟩ := s.readMembers_member hfirst
    obtain ⟨close, hclose, hmembers⟩ := ih
    apply Exists.intro close
    apply And.intro hclose
    intro atFirst front hfront before hnodup hbefore fuel start rest hrest
    rw [fields_cons, List.map_append, List.nodup_append] at hnodup
    obtain ⟨-, hnodup, hapart⟩ := hnodup
    have hfirst : ∀ x ∈ fields [m], s.name x ∉ before := fun x hx => hbefore x (by
      rw [fields_cons]
      exact List.mem_append_left _ hx)
    have hothers : ∀ x ∈ fields ms, s.name x ∉ s.seen (fields [m]) before := by
      intro x hx hseen
      obtain hsame | hseen := s.mem_seen.mp hseen
      · exact hapart _ hsame _ (List.mem_map_of_mem hx) rfl
      · refine hbefore x ?_ hseen
        rw [fields_cons]
        exact List.mem_append_right _ hx
    have hcomma : Stops (',' :: (more ++ rest)) := Or.inr (by decide)
    have hform : front ++ (text ++ ',' :: more ++ rest) = front ++ (text ++ ',' :: (more ++ rest)) := by simp
    have hrest' := hmembers (.later hgap) hnodup hothers fuel (s.filled (fields [m]) start) rest hrest
    rw [List.append_assoc, List.cons_append, List.nil_append] at hrest'
    rw [hform, List.length_cons, ← Nat.add_assoc, hmember hfront hfirst _ _ _ hcomma, hrest',
      fields_cons m ms, s.seen_append, s.filled_append]

/-- There are no more members than characters. -/
theorem length_le_members {ms : List (Member α)} {text : List Char} (h : Separated s.member ms text) :
    ms.length ≤ text.length := by
  have hnamed : ∀ name form core, Named name form core → core ≠ [] := by
    intro name form core ⟨_, gap, lead, value, ⟨body, _, rfl⟩, _, _, _, hcore⟩
    rw [hcore]
    exact List.cons_ne_nil _ _
  apply h.length_le
  intro m core hcore
  cases m with
  | known x => exact hnamed _ _ core hcore
  | other name => exact hnamed _ _ core hcore.2

/-- Behind an object's opening all its members are read, with the fuel that the reader of a record gives. -/
theorem readMembers_all {ms : List (Member α)} {text rest : List Char} (h : Separated s.member ms text)
    (hnodup : ((fields ms).map s.name).Nodup) (hrest : Stops rest) :
    ∃ close, Blank close ∧ ∃ fuel, r.readMembers ((text ++ rest).length + 1) true [] r.empty (text ++ rest) =
      r.readMembers (fuel + 1) false (s.seen (fields ms) []) (s.filled (fields ms) r.empty) (close ++ rest) := by
  obtain ⟨close, hclose, hread⟩ := s.readMembers_separated h
  have hlength : ms.length + 1 ≤ (text ++ rest).length + 1 := by
    have hless := s.length_le_members h
    rw [List.length_append]
    omega
  obtain ⟨fuel, hfuel⟩ := Nat.exists_eq_add_of_le' hlength
  have hall := hread .first hnodup (fun _ _ => List.not_mem_nil) (fuel + 1) r.empty rest hrest
  rw [List.nil_append, Nat.add_right_comm, Nat.add_assoc] at hall
  exact ⟨close, hclose, fuel, by rw [hfuel, hall]⟩

/-- The members of an object are read up to the object's end, with the fuel that the reader of a record gives. -/
theorem readMembers_enclosed {ms : List (Member α)} {text : List Char}
    (h : Enclosed '\x7b' '\x7d' s.member ms text) (hnodup : ((fields ms).map s.name).Nodup) (rest : List Char) :
    ∃ inner, text ++ rest = '\x7b' :: inner ∧ r.readMembers (inner.length + 1) true [] r.empty inner =
      .ok (s.seen (fields ms) [], s.filled (fields ms) r.empty, '\x7d' :: rest) := by
  cases h with
  | @none gap hgap =>
    apply Exists.intro (gap ++ '\x7d' :: rest)
    exact ⟨by simp, readMembers_end hgap _ true [] r.empty rest⟩
  | @some _ text hmembers =>
    have hbrace : Stops ('\x7d' :: rest) := Or.inr (by decide)
    obtain ⟨close, hclose, fuel, hread⟩ := s.readMembers_all hmembers hnodup hbrace
    apply Exists.intro (text ++ '\x7d' :: rest)
    apply And.intro (by simp)
    rw [hread]
    exact readMembers_end hclose fuel false _ _ rest

/-- A record is read from an object, unless a required field is missing. -/
theorem read_members {ms : List (Member α)} {text lead : List Char}
    (h : Enclosed '\x7b' '\x7d' s.member ms text) (hnodup : ((fields ms).map s.name).Nodup) (hlead : Blank lead)
    (rest : List Char) :
    r.read (lead ++ (text ++ rest)) = match r.missing? (s.seen (fields ms) []) with
      | some name => .error (.missingField name)
      | none => .ok (s.filled (fields ms) r.empty, rest) := by
  obtain ⟨inner, htext, hread⟩ := s.readMembers_enclosed h hnodup rest
  have hend : endMembers ('\x7d' :: rest) = .ok rest := rfl
  rw [htext, Record.read, skipBlanks_append hlead rfl]
  cases hmissing : r.missing? (s.seen (fields ms) []) with
  | none => simp only [hread, hmissing, hend, bind, Except.bind]
  | some name => simp only [hread, hmissing, bind, Except.bind]

/-- An object is refused at the first field that comes again, whatever follows its name. -/
theorem read_repeated {ms : List (Member α)} {text lead gap literal : List Char} (h : Separated s.member ms text)
    (hnodup : ((fields ms).map s.name).Nodup) {x : α} (hx : x ∈ fields ms) (hlead : Blank lead) (hgap : Blank gap)
    (hliteral : Literal (s.name x) literal) (rest : List Char) :
    r.read (lead ++ '\x7b' :: (text ++ ',' :: (gap ++ (literal ++ rest)))) = .error (.duplicateField (s.name x)) := by
  have hcomma : Stops (',' :: (gap ++ (literal ++ rest))) := Or.inr (by decide)
  obtain ⟨close, hclose, fuel, hread⟩ := s.readMembers_all h hnodup hcomma
  have hseen : s.name x ∈ s.seen (fields ms) [] := s.mem_seen.mpr (.inl (List.mem_map_of_mem hx))
  have hrefused := s.readMembers_repeated hliteral (.later hclose) hgap fuel hseen
    (s.filled (fields ms) r.empty) rest
  rw [List.append_assoc, List.cons_append, List.nil_append, ← hread] at hrefused
  rw [Record.read, skipBlanks_append hlead rfl]
  simp only [hrefused, bind, Except.bind]

end Record.Schema

end Offspring.Json
