import Offspring.Json.Number

/-!
# Readers of values with a wanted shape

A reader knows which shape it wants and names the thing found instead when there is another. Records
are read from an object, by name and in any order, or from an array, by position. Members with other
names are skipped, a member with a name that came before is refused, and so is a required one that is
absent.
-/

namespace Offspring.Json

/-- The refusal of whatever stands at the front of the text, blanks already passed. A thing that cannot
be read itself is refused for its own fault. -/
def refuse {α : Type} (expected : String) (text : List Char) : Except Error α :=
  match text with
  | [] => .error (.malformed .expectedValue)
  | 'n' :: rest => do
    let _ ← expectWord "ull".toList rest
    .error (.wrongType .null expected)
  | 't' :: rest => do
    let _ ← expectWord "rue".toList rest
    .error (.wrongType (.boolean true) expected)
  | 'f' :: rest => do
    let _ ← expectWord "alse".toList rest
    .error (.wrongType (.boolean false) expected)
  | '-' :: rest => do
    let (n, _) ← scanNumber false rest
    .error (.wrongType (.number n) expected)
  | '"' :: rest => do
    let (s, _) ← scanString rest
    .error (.wrongType (.string s) expected)
  | '[' :: _ => .error (.wrongType .sequence expected)
  | '\x7b' :: _ => .error (.wrongType .map expected)
  | c :: rest =>
    if c.isDigit then do
      let (n, _) ← scanNumber true (c :: rest)
      .error (.wrongType (.number n) expected)
    else .error (.malformed .expectedValue)

/-- A text; `expected` is what a refusal says was wanted. -/
def readText (expected : String) : Scan String := fun text =>
  match skipBlanks text with
  | [] => .error (.ends .value)
  | '"' :: rest => scanString rest
  | other => refuse expected other

/-- A truth value. -/
def readBool : Scan Bool := fun text =>
  match skipBlanks text with
  | [] => .error (.ends .value)
  | 't' :: rest => do .ok (true, ← expectWord "rue".toList rest)
  | 'f' :: rest => do .ok (false, ← expectWord "alse".toList rest)
  | other => refuse "a boolean" other

/-- An unsigned word; `expected` is what a refusal says was wanted. -/
def readWord (expected : String) : Scan Nat := fun text =>
  let check (positive : Bool) (text : List Char) : Except Error (Nat × List Char) := do
    let (n, rest) ← scanNumber positive text
    match n with
    | .unsigned n => .ok (n, rest)
    | .negative _ => .error (.wrongValue (.number n) expected)
    | .real _ => .error (.wrongType (.number n) expected)
  match skipBlanks text with
  | [] => .error (.ends .value)
  | '-' :: rest => check false rest
  | c :: rest => if c.isDigit then check true (c :: rest) else refuse expected (c :: rest)

/-- A value that may be absent, written `null` then. -/
def readOptional {α : Type} (read : Scan α) : Scan (Option α) := fun text =>
  match skipBlanks text with
  | 'n' :: rest => do .ok (none, ← expectWord "ull".toList rest)
  | other => do
    let (x, rest) ← read other
    .ok (some x, rest)

/-- Moves to the next item of a list: whether there is one, and the text at it or at the list's end. -/
def nextItem (atFirst : Bool) (text : List Char) : Except Error (Bool × List Char) :=
  match skipBlanks text with
  | [] => .error (.ends .list)
  | ']' :: rest => .ok (false, ']' :: rest)
  | c :: rest =>
    if atFirst then .ok (true, c :: rest)
    else if c = ',' then
      match skipBlanks rest with
      | [] => .error (.ends .value)
      | ']' :: _ => .error (.malformed .trailingComma)
      | other => .ok (true, other)
    else .error (.malformed .expectedListCommaOrEnd)

/-- The end of a list, after its items. -/
def endItems (text : List Char) : Except Error (List Char) :=
  match skipBlanks text with
  | [] => .error (.ends .list)
  | ']' :: rest => .ok rest
  | ',' :: rest =>
    match skipBlanks rest with
    | ']' :: _ => .error (.malformed .trailingComma)
    | _ => .error (.malformed .trailingCharacters)
  | _ => .error (.malformed .trailingCharacters)

/-- The items of a list up to its end. -/
def readItems {α : Type} (read : Scan α) : Nat → Bool → List Char → Except Error (List α × List Char)
  | 0, _, _ => .error (.ends .list)
  | fuel + 1, atFirst, text => do
    let (more, text) ← nextItem atFirst text
    if more then
      let (x, text) ← read text
      let (xs, text) ← readItems read fuel false text
      .ok (x :: xs, text)
    else .ok ([], text)

/-- A list. -/
def readList {α : Type} (read : Scan α) : Scan (List α) := fun text =>
  match skipBlanks text with
  | [] => .error (.ends .value)
  | '[' :: rest => do
    let (xs, rest) ← readItems read (rest.length + 1) true rest
    .ok (xs, ← endItems rest)
  | other => refuse "a sequence" other

/-- One field of a record that is being filled. -/
structure Field (σ : Type) where
  name : String
  required : Bool
  read : σ → Scan σ

/-- A record read field by field. -/
structure Record (σ : Type) where
  name : String
  fields : List (Field σ)
  empty : σ

/-- What a refusal says was wanted. -/
def Record.expected {σ : Type} (r : Record σ) : String :=
  "struct " ++ r.name

/-- The fields by position; the fields after the last item keep their defaults. -/
def Record.readPositions {σ : Type} (r : Record σ) :
    Nat → List (Field σ) → σ → List Char → Except Error (σ × List Char)
  | _, [], filled, text => .ok (filled, text)
  | position, field :: fields, filled, text => do
    let (more, text) ← nextItem (position = 0) text
    if more then
      let (filled, text) ← field.read filled text
      r.readPositions (position + 1) fields filled text
    else if field.required then
      .error (.wrongLength position
        (r.expected ++ " with " ++ toString r.fields.length ++ " elements"))
    else .ok (filled, text)

/-- Moves to the next member of an object: whether there is one, and the text after its name's opening
quote or at the object's end. -/
def nextMember (atFirst : Bool) (text : List Char) : Except Error (Bool × List Char) :=
  match skipBlanks text with
  | [] => .error (.ends .object)
  | '\x7d' :: rest => .ok (false, '\x7d' :: rest)
  | c :: rest =>
    if atFirst then
      if c = '"' then .ok (true, rest) else .error (.malformed .keyMustBeString)
    else if c = ',' then
      match skipBlanks rest with
      | '"' :: rest => .ok (true, rest)
      | '\x7d' :: _ => .error (.malformed .trailingComma)
      | [] => .error (.ends .value)
      | _ => .error (.malformed .keyMustBeString)
    else .error (.malformed .expectedObjectCommaOrEnd)

/-- Passes over the colon after a name. -/
def passColon (text : List Char) : Except Error (List Char) :=
  match skipBlanks text with
  | [] => .error (.ends .object)
  | ':' :: rest => .ok rest
  | _ => .error (.malformed .expectedColon)

/-- The end of an object, after its members. -/
def endMembers (text : List Char) : Except Error (List Char) :=
  match skipBlanks text with
  | [] => .error (.ends .object)
  | '\x7d' :: rest => .ok rest
  | ',' :: _ => .error (.malformed .trailingComma)
  | _ => .error (.malformed .trailingCharacters)

/-- The members of an object up to its end; `seen` are the names of the fields already filled. -/
def Record.readMembers {σ : Type} (r : Record σ) :
    Nat → Bool → List String → σ → List Char → Except Error (List String × σ × List Char)
  | 0, _, _, _, _ => .error (.ends .object)
  | fuel + 1, atFirst, seen, filled, text => do
    let (more, text) ← nextMember atFirst text
    if more then
      let (name, text) ← scanString text
      match r.fields.find? (·.name = name) with
      | some field =>
        if seen.contains name then .error (.duplicateField name)
        else
          let text ← passColon text
          let (filled, text) ← field.read filled text
          r.readMembers fuel false (name :: seen) filled text
      | none =>
        let text ← passColon text
        let text ← skipValue text
        r.readMembers fuel false seen filled text
    else .ok (seen, filled, text)

/-- The first required field whose name has not been seen. -/
def Record.missing? {σ : Type} (r : Record σ) (seen : List String) : Option String :=
  (r.fields.find? fun field => field.required && !seen.contains field.name).map (·.name)

/-- A record, from an object or an array. -/
def Record.read {σ : Type} (r : Record σ) : Scan σ := fun text =>
  match skipBlanks text with
  | [] => .error (.ends .value)
  | '[' :: rest => do
    let (filled, rest) ← r.readPositions 0 r.fields r.empty rest
    .ok (filled, ← endItems rest)
  | '\x7b' :: rest => do
    let (seen, filled, rest) ← r.readMembers (rest.length + 1) true [] r.empty rest
    match r.missing? seen with
    | some name => .error (.missingField name)
    | none => .ok (filled, ← endMembers rest)
  | other => refuse r.expected other

/-- A whole text that holds one value and nothing after it. -/
def readWhole {α : Type} (read : Scan α) (text : String) : Except Error α := do
  let (x, rest) ← read text.toList
  match skipBlanks rest with
  | [] => .ok x
  | _ => .error (.malformed .trailingCharacters)

end Offspring.Json
