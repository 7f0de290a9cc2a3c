import Mathlib.Data.List.Nodup
import Offspring.LaunchSpec.Json
import Offspring.Proofs.Json.Enclosed
import Offspring.Proofs.LaunchSpec.RoundTrip

/-!
# All written forms of a launch spec

`schema` says how the four fields of a spec may be written. `ofJson_forms` is the main result: an object of the
fields in any order, with others between them and empty ones left out, and an array of them in their order are
read as the spec; a field that comes again and an absent program are refused.
-/

namespace Offspring.LaunchSpec

open Json

/-- The fields of a spec. -/
inductive Key
  | program
  | args
  | env
  | cwd
  deriving DecidableEq

namespace Key

/-- The fields in the order of an array. -/
def all : List Key :=
  [program, args, env, cwd]

/-- The field in the record. -/
def field : Key → Json.Field LaunchSpec
  | program => record.fields[0]
  | args => record.fields[1]
  | env => record.fields[2]
  | cwd => record.fields[3]

/-- The name of a field. -/
abbrev name (key : Key) : String :=
  key.field.name

/-- The field has nothing in a spec. -/
def IsEmpty (spec : LaunchSpec) : Key → Prop
  | program => spec.program = .empty
  | args => spec.args = []
  | env => spec.env = []
  | cwd => spec.cwd = .empty

/-- Two specs have the same in a field. -/
def Agrees (a b : LaunchSpec) : Key → Prop
  | program => a.program = b.program
  | args => a.args = b.args
  | env => a.env = b.env
  | cwd => a.cwd = b.cwd

/-- The field is taken from a spec. -/
def fill (spec : LaunchSpec) (key : Key) (filled : LaunchSpec) : LaunchSpec :=
  match key with
  | program => { filled with program := spec.program }
  | args => { filled with args := spec.args }
  | env => { filled with env := spec.env }
  | cwd => { filled with cwd := spec.cwd }

/-- Specs that have the same in every field are the same. -/
theorem eq_of_agrees {a b : LaunchSpec} (h : ∀ key : Key, key.Agrees a b) : a = b := by
  obtain ⟨_, _, _, _⟩ := a
  obtain rfl : _ = b.program := h program
  obtain rfl : _ = b.args := h args
  obtain rfl : _ = b.env := h env
  obtain rfl : _ = b.cwd := h cwd
  rfl

/-- A path is written as a text of its octets. -/
def Path (path : OsString) (text : List Char) : Prop :=
  ∃ s, OsString.ofString s = path ∧ Literal s text

/-- How the field of a spec is written. -/
def form (spec : LaunchSpec) : Key → List Char → Prop
  | program => Path spec.program
  | args => Enclosed '[' ']' Literal spec.args
  | env => Enclosed '[' ']' Literal spec.env
  | cwd => Path spec.cwd

end Key

/-- A path is read, however it is written. -/
theorem readPath_path {path : OsString} {text lead : List Char} (h : Key.Path path text) (hlead : Blank lead)
    (rest : List Char) : readPath (lead ++ (text ++ rest)) = .ok (path, rest) := by
  obtain ⟨s, rfl, hliteral⟩ := h
  simp only [readPath, readText_literal hliteral hlead, bind, Except.bind]

/-- A literal begins with none of its surroundings. -/
theorem begins_literal {s : String} {text : List Char} (h : Literal s text) : Begins text := by
  obtain ⟨body, -, rfl⟩ := h
  exact ⟨_, _, rfl, rfl, by decide⟩

/-- Texts are read, however they are written. -/
theorem readTexts_enclosed {texts : List String} {text lead : List Char} (h : Enclosed '[' ']' Literal texts text)
    (hlead : Blank lead) (rest : List Char) : readTexts (lead ++ (text ++ rest)) = .ok (texts, rest) := by
  apply readList_enclosed (fun _ _ hliteral => begins_literal hliteral) _ h hlead rest
  intro s core hliteral rest
  exact readText_literal hliteral blank_nil "a string" rest

/-- The fields of a spec, as a record reads them. -/
def schema (spec : LaunchSpec) : record.Schema Key where
  field := Key.field
  fill := Key.fill spec
  form := Key.form spec
  find_field key := by cases key <;> rfl
  begins key core h := by
    have hlist : ∀ texts, Enclosed '[' ']' Literal texts core → Begins core := by
      intro texts hform
      cases hform with
      | none | some => exact ⟨_, _, rfl, rfl, by decide⟩
    cases key with
    | program | cwd =>
      obtain ⟨_, _, hliteral⟩ := h
      exact begins_literal hliteral
    | args | env => exact hlist _ h
  read_form key core h lead hlead filled rest := by
    cases key with
    | program | cwd =>
      have hread := readPath_path h hlead rest
      simp only [Key.field, record, List.getElem_cons_zero, List.getElem_cons_succ, hread, bind, Except.bind]
      rfl
    | args | env =>
      have hread := readTexts_enclosed h hlead rest
      simp only [Key.field, record, List.getElem_cons_zero, List.getElem_cons_succ, hread, bind, Except.bind]
      rfl

section Texts

variable (spec : LaunchSpec)

/-- A whole text that is an object of the given members. -/
def ObjectText (members : List (Member Key)) (text : String) : Prop :=
  Spaced (Enclosed '\x7b' '\x7d' (schema spec).member members) text.toList

/-- A whole text that is an array of the given fields. -/
def ArrayText (keys : List Key) (text : String) : Prop :=
  Spaced (fun array => ∃ items, Separated (schema spec).form keys items ∧ array = '[' :: (items ++ [']'])) text.toList

/-- A text of an object that has the given members and then the name of a field. Anything may follow the name. -/
def NamesAgain (members : List (Member Key)) (key : Key) (text : String) : Prop :=
  ∃ lead inner gap literal rest, Blank lead ∧ Separated (schema spec).member members inner ∧ Blank gap ∧
    Literal key.name literal ∧ text.toList = lead ++ '\x7b' :: (inner ++ ',' :: (gap ++ (literal ++ rest)))

/-- The fields of the members. -/
abbrev keys (members : List (Member Key)) : List Key :=
  Record.Schema.fields members

variable {spec}

/-- No two fields share a name. -/
theorem name_injective : Function.Injective Key.name := by
  intro a b h
  cases a <;> cases b <;> first | rfl | exact absurd h (by decide)

/-- A field that is filled, or had what the spec has, has it. -/
theorem Key.agrees_fill {key other : Key} {filled : LaunchSpec} (h : key = other ∨ key.Agrees filled spec) :
    key.Agrees (other.fill spec filled) spec := by
  obtain rfl | h := h
  · cases key <;> rfl
  · cases key <;> cases other <;> first | rfl | exact h

/-- Every field that is filled has what the spec has. -/
theorem agrees_filled (key : Key) (filled : List Key) (start : LaunchSpec)
    (h : key ∈ filled ∨ key.Agrees start spec) : key.Agrees ((schema spec).filled filled start) spec := by
  induction filled generalizing start with
  | nil => exact h.resolve_left List.not_mem_nil
  | cons other filled ih =>
    apply ih
    obtain hmem | hstart := h
    · obtain rfl | hmem := List.mem_cons.mp hmem
      · exact .inr (Key.agrees_fill (.inl rfl))
      · exact .inl hmem
    · exact .inr (Key.agrees_fill (.inr hstart))

/-- The spec is filled in whole, if the fields that are left out are empty. -/
theorem filled_eq {filled : List Key} (h : ∀ key ∉ filled, key.IsEmpty spec) :
    (schema spec).filled filled record.empty = spec := by
  apply Key.eq_of_agrees
  intro key
  apply agrees_filled
  by_cases hmem : key ∈ filled
  · exact .inl hmem
  · have hempty := h key hmem
    apply Or.inr
    cases key <;> exact hempty.symm

/-- Only an absent program is missed. -/
theorem missing?_seen (filled : List Key) :
    record.missing? ((schema spec).seen filled []) = if .program ∈ filled then none else some "program" := by
  have hseen : "program" ∈ (schema spec).seen filled [] ↔ .program ∈ filled := by
    rw [Record.Schema.mem_seen, List.mem_map]
    constructor
    · rintro (⟨key, hkey, hname⟩ | hnil)
      · have hsame : key.name = Key.program.name := hname
        exact name_injective hsame ▸ hkey
      · cases hnil
    · exact fun hmem => .inl ⟨_, hmem, rfl⟩
  generalize (schema spec).seen filled [] = names at hseen
  by_cases hprogram : .program ∈ filled
  · simp [Record.missing?, record, hseen, hprogram]
  · simp [Record.missing?, record, hseen, hprogram]

/-- What follows a value in a whole text is blank. -/
theorem ofJson_of_close {text : String} {close : List Char} (hclose : Blank close)
    (h : record.read text.toList = .ok (spec, close)) : ofJson text = .ok spec := by
  have hend : skipBlanks close = [] := List.dropWhile_eq_nil_iff.mpr hclose
  simp only [ofJson, readWhole, h, hend, bind, Except.bind]

/-- A refusal of the record is one of the text. -/
theorem ofJson_of_error {text : String} {e : Json.Error} (h : record.read text.toList = .error e) :
    ofJson text = .error e := by
  simp only [ofJson, readWhole, h, bind, Except.bind]

/-- A text whose names come once is read if it has a program, and misses it else. -/
theorem ofJson_object {members : List (Member Key)} {text : String} (h : ObjectText spec members text)
    (hnodup : (keys members).Nodup) :
    (.program ∈ keys members → (∀ key ∉ keys members, key.IsEmpty spec) → ofJson text = .ok spec) ∧
    (.program ∉ keys members → ofJson text = .error (.missingField "program")) := by
  obtain ⟨lead, object, close, hlead, hobject, hclose, htext⟩ := h
  have hnames : ((keys members).map (schema spec).name).Nodup := List.Nodup.map name_injective hnodup
  have hread := (schema spec).read_members hobject hnames hlead close
  rw [← htext, missing?_seen] at hread
  constructor
  · intro hprogram hempty
    rw [if_pos hprogram, filled_eq hempty] at hread
    exact ofJson_of_close hclose hread
  · intro hprogram
    rw [if_neg hprogram] at hread
    exact ofJson_of_error hread

/-- An array of the first fields is read, if the others are empty. -/
theorem ofJson_array {filled : List Key} {text : String} (h : ArrayText spec filled text)
    (hfirst : filled <+: Key.all) (hempty : ∀ key ∉ filled, key.IsEmpty spec) : ofJson text = .ok spec := by
  obtain ⟨lead, _, close, hlead, ⟨items, hitems, rfl⟩, hclose, htext⟩ := h
  obtain ⟨later, hlater⟩ := hfirst
  have hfields : record.fields = filled.map (schema spec).field ++ later.map Key.field := by
    have hall : record.fields = Key.all.map Key.field := rfl
    rw [hall, ← hlater, List.map_append]
    rfl
  have hoptional : ∀ field ∈ later.map Key.field, field.required = false := by
    cases filled with
    | nil => cases hitems
    | cons first filled =>
      have hbehind : filled ++ later = [.args, .env, .cwd] := (List.cons.inj hlater).2
      intro field hfield
      obtain ⟨key, hkey, rfl⟩ := List.mem_map.mp hfield
      have hall : ∀ key ∈ [Key.args, .env, .cwd], key.field.required = false := by decide
      exact hall key (hbehind ▸ List.mem_append_right filled hkey)
  have hread := (schema spec).read_positions hfields hoptional hitems hlead close
  rw [← htext, filled_eq hempty] at hread
  exact ofJson_of_close hclose hread

/-- A name that comes again is refused. -/
theorem ofJson_again {members : List (Member Key)} {key : Key} {text : String}
    (h : NamesAgain spec members key text) (hnodup : (keys members).Nodup) (hkey : key ∈ keys members) :
    ofJson text = .error (.duplicateField key.name) := by
  obtain ⟨lead, inner, gap, literal, rest, hlead, hinner, hgap, hliteral, htext⟩ := h
  have hnames : ((keys members).map (schema spec).name).Nodup := List.Nodup.map name_injective hnodup
  apply ofJson_of_error
  rw [htext]
  exact (schema spec).read_repeated hinner hnames hkey hlead hgap hliteral rest

/-- A path can be written if it is UTF-8. -/
theorem exists_path {path : OsString} (h : path.IsValidUTF8) : ∃ text, Key.Path path text := by
  obtain ⟨s, hs⟩ := Option.isSome_iff_exists.mp ((isSome_strict? path).mpr h)
  exact ⟨writeString s, s, ofString_of_strict? hs, literal_writeString s⟩

/-- Every field of a spec whose paths are UTF-8 can be written. -/
theorem exists_form (hprogram : spec.program.IsValidUTF8) (hcwd : spec.cwd.IsValidUTF8) (key : Key) :
    ∃ text, key.form spec text := by
  have htexts : ∀ texts, ∃ text, Enclosed '[' ']' Literal texts text := fun texts =>
    exists_enclosed '[' ']' fun s _ => ⟨_, literal_writeString s⟩
  cases key with
  | program => exact exists_path hprogram
  | cwd => exact exists_path hcwd
  | args => exact htexts spec.args
  | env => exact htexts spec.env

/-- Something under a name can be written if it can be written by itself. -/
theorem exists_named (name : String) {form : List Char → Prop} (h : ∃ value, form value) :
    ∃ text, Named name form text := by
  obtain ⟨value, hvalue⟩ := h
  exact ⟨_, _, [], [], value, literal_writeString name, blank_nil, blank_nil, hvalue, rfl⟩

/-- There is an object of any members, if other names are none of a field. -/
theorem exists_objectText (hprogram : spec.program.IsValidUTF8) (hcwd : spec.cwd.IsValidUTF8)
    {members : List (Member Key)}
    (hother : ∀ name, .other name ∈ members → ∀ field ∈ record.fields, field.name ≠ name) :
    ∃ text, ObjectText spec members text := by
  have hmember : ∀ m ∈ members, ∃ core, (schema spec).member m core := by
    intro m hm
    cases m with
    | known key => exact exists_named key.name (exists_form hprogram hcwd key)
    | other name =>
      have hnull : Phrase .value ['n', 'u', 'l', 'l'] := .word (by decide)
      obtain ⟨core, hcore⟩ := exists_named name ⟨_, hnull⟩
      exact ⟨core, hother name hm, hcore⟩
  obtain ⟨text, htext⟩ := exists_enclosed '\x7b' '\x7d' hmember
  exact ⟨String.ofList text, [], text, [], blank_nil, htext, blank_nil, by simp⟩

/-- There is an array of any fields. -/
theorem exists_arrayText (hprogram : spec.program.IsValidUTF8) (hcwd : spec.cwd.IsValidUTF8) {first : List Key}
    (hsome : first ≠ []) : ∃ text, ArrayText spec first text := by
  obtain ⟨items, hitems⟩ := exists_separated hsome fun key _ => exists_form hprogram hcwd key
  exact ⟨String.ofList ('[' :: (items ++ [']'])), [], _, [], blank_nil, ⟨items, hitems, rfl⟩, blank_nil, by simp⟩

end Texts

/-- A spec whose paths are UTF-8 is read from an object of its fields, in any order and with any other members
between them, and from an array of its first fields; what is left out must be empty, and the program is there. A
field that is named again is refused as such, whatever follows its name, and so is an object without a program.
Strings may be escaped in any way and blanks stand anywhere between tokens, and there are such texts for any choice
of members or fields. -/
theorem ofJson_forms (spec : LaunchSpec) :
    (spec.program.IsValidUTF8 → spec.cwd.IsValidUTF8 →
      (∀ members, (∀ name, .other name ∈ members → ∀ field ∈ record.fields, field.name ≠ name) →
        ∃ text, ObjectText spec members text) ∧
      ∀ first, first ≠ [] → ∃ text, ArrayText spec first text) ∧
    (∀ members text, ObjectText spec members text → (keys members).Nodup → .program ∈ keys members →
      (∀ key ∉ keys members, key.IsEmpty spec) → ofJson text = .ok spec) ∧
    (∀ first text, ArrayText spec first text → first <+: Key.all → (∀ key ∉ first, key.IsEmpty spec) →
      ofJson text = .ok spec) ∧
    (∀ members key text, NamesAgain spec members key text → (keys members).Nodup → key ∈ keys members →
      ofJson text = .error (.duplicateField key.name)) ∧
    (∀ members text, ObjectText spec members text → (keys members).Nodup → .program ∉ keys members →
      ofJson text = .error (.missingField "program")) := by
  refine ⟨?exist, ?object, fun _ _ => ofJson_array, fun _ _ _ => ofJson_again, ?absent⟩
  case exist =>
    intro hprogram hcwd
    exact ⟨fun _ => exists_objectText hprogram hcwd, fun _ => exists_arrayText hprogram hcwd⟩
  case object =>
    intro members text h hnodup
    exact (ofJson_object h hnodup).1
  case absent =>
    intro members text h hnodup
    exact (ofJson_object h hnodup).2

end Offspring.LaunchSpec
