import Offspring.Shell.Reader

/-!
# Arithmetic of the command language

An arithmetic text is read into an `Arith` and evaluated with the variables it names. Numbers are words of
64 bits with a sign.
-/

namespace Offspring.Shell

/-- What is wrong with an arithmetic text. -/
inductive ArithFault where
  | malformed
  /-- The text goes on after an expression. -/
  | goesOn
  | divisionByZero
  | notANumber (text : List Char)

/-- The wording of a fault in a text. -/
def ArithFault.message (text : List Char) : ArithFault → List Char
  | .malformed => about "expecting primary"
  | .goesOn => about "expecting EOF"
  | .divisionByZero => about "division by zero"
  | .notANumber value => "Illegal number: ".toList ++ value
where
  /-- What is wrong, and the text. -/
  about (what : String) : List Char :=
    "arithmetic expression: ".toList ++ what.toList ++ ": \"".toList ++ text ++ ['"']

/-- An arithmetic expression; operators are named as they are written. -/
inductive Arith where
  | number (n : Int)
  | variable (name : List Char)
  | unary (op : String) (operand : Arith)
  | binary (op : String) (left right : Arith)
  | choice (test yes no : Arith)
  /-- A variable gets a new value, or its own combined with one. -/
  | assign (name : List Char) (op : Option String) (value : Arith)

namespace Arith

/-- A piece of an arithmetic text. -/
inductive Piece where
  | number (n : Nat)
  | name (text : List Char)
  | op (text : String)
  deriving DecidableEq

/-- The operators, the longer ones first. -/
def operators : List String :=
  ["<<=", ">>=", "<<", ">>", "<=", ">=", "==", "!=", "&&", "||", "+=", "-=", "*=", "/=", "%=", "&=", "|=",
    "^=", "+", "-", "*", "/", "%", "<", ">", "!", "~", "&", "|", "^", "?", ":", "=", "(", ")"]

/-- A number at the front of a text, with the base that its first digits tell. -/
def readNumber : List Char → Nat × List Char
  | '0' :: 'x' :: rest | '0' :: 'X' :: rest => Text.leadingNumber 16 0 rest
  | '0' :: rest => Text.leadingNumber 8 0 rest
  | text => Text.leadingNumber 10 0 text

/-- The pieces of a text, in so many steps at most. A sign without a meaning ends them. -/
def pieces : Nat → List Char → List Piece
  | 0, _ | _, [] => []
  | fuel + 1, c :: rest =>
    if c.isWhitespace then pieces fuel rest
    else if c.isDigit then
      let (n, rest) := readNumber (c :: rest)
      .number n :: pieces fuel rest
    else if isNameChar c then
      .name ((c :: rest).takeWhile isNameChar) :: pieces fuel ((c :: rest).dropWhile isNameChar)
    else
      match operators.find? fun op => op.toList.isPrefixOf (c :: rest) with
      | some op => .op op :: pieces fuel ((c :: rest).drop op.length)
      | none => [.op (String.singleton c)]

/-- How tightly a binary operator binds. -/
def binding? (op : String) : Option Nat :=
  match op with
  | "||" => some 1
  | "&&" => some 2
  | "|" => some 3
  | "^" => some 4
  | "&" => some 5
  | "==" | "!=" => some 6
  | "<" | ">" | "<=" | ">=" => some 7
  | "<<" | ">>" => some 8
  | "+" | "-" => some 9
  | "*" | "/" | "%" => some 10
  | _ => none

/-- The operator that an assignment combines with. -/
def combining? (op : String) : Option (Option String) :=
  match op with
  | "=" => some none
  | "+=" | "-=" | "*=" | "/=" | "%=" | "&=" | "|=" | "^=" | "<<=" | ">>=" =>
    some (some (String.ofList op.toList.dropLast))
  | _ => none

mutual

/-- An assignment or a choice. -/
def expression : Nat → List Piece → Except ArithFault (Arith × List Piece)
  | 0, _ => .error .malformed
  | fuel + 1, ps =>
    let plain : Except ArithFault (Arith × List Piece) := do
      let (test, rest) ← operand fuel ps
      let (test, rest) ← joined fuel 1 test rest
      match rest with
      | .op "?" :: rest => do
        let (yes, rest) ← expression fuel rest
        match rest with
        | .op ":" :: rest => do
          let (no, rest) ← expression fuel rest
          .ok (.choice test yes no, rest)
        | _ => .error .malformed
      | rest => .ok (test, rest)
    match ps with
    | .name name :: .op op :: rest =>
      match combining? op with
      | some combined => do
        let (value, rest) ← expression fuel rest
        .ok (.assign name combined value, rest)
      | none => plain
    | _ => plain

/-- What binary operators that bind so tightly at least make of an operand on their left. -/
def joined : Nat → Nat → Arith → List Piece → Except ArithFault (Arith × List Piece)
  | 0, _, _, _ => .error .malformed
  | fuel + 1, least, left, ps =>
    match ps with
    | .op op :: rest =>
      match binding? op with
      | some binding =>
        if binding < least then .ok (left, ps)
        else do
          let (right, rest) ← operand fuel rest
          let (right, rest) ← joined fuel (binding + 1) right rest
          joined fuel least (.binary op left right) rest
      | none => .ok (left, ps)
    | _ => .ok (left, ps)

/-- A number, a variable, an expression in parentheses, or one of them under unary operators. -/
def operand : Nat → List Piece → Except ArithFault (Arith × List Piece)
  | 0, _ => .error .malformed
  | fuel + 1, ps =>
    match ps with
    | .number n :: rest => .ok (.number n, rest)
    | .name name :: rest => .ok (.variable name, rest)
    | .op "(" :: rest => do
      let (e, rest) ← expression fuel rest
      match rest with
      | .op ")" :: rest => .ok (e, rest)
      | _ => .error .malformed
    | .op op :: rest =>
      if ["+", "-", "!", "~"].contains op then do
        let (e, rest) ← operand fuel rest
        .ok (.unary op e, rest)
      else .error .malformed
    | [] => .error .malformed

end

/-- A number brought into 64 bits. -/
def wrap (n : Int) : Int :=
  n.bmod 0x10000000000000000

/-- The number of a truth value. -/
def ofBool (b : Bool) : Int :=
  if b then 1 else 0

/-- A bitwise operator on words of 64 bits. -/
def bitwise (f : Nat → Nat → Nat) (a b : Int) : Int :=
  wrap (f (a % 0x10000000000000000).toNat (b % 0x10000000000000000).toNat)

/-- What a binary operator makes of two numbers. -/
def combine (op : String) (a b : Int) : Except ArithFault Int :=
  match op with
  | "+" => .ok (wrap (a + b))
  | "-" => .ok (wrap (a - b))
  | "*" => .ok (wrap (a * b))
  | "/" => if b = 0 then .error .divisionByZero else .ok (wrap (a.tdiv b))
  | "%" => if b = 0 then .error .divisionByZero else .ok (a.tmod b)
  | "<" => .ok (ofBool (a < b))
  | ">" => .ok (ofBool (b < a))
  | "<=" => .ok (ofBool (a ≤ b))
  | ">=" => .ok (ofBool (b ≤ a))
  | "==" => .ok (ofBool (a = b))
  | "!=" => .ok (ofBool (a ≠ b))
  | "&" => .ok (bitwise (· &&& ·) a b)
  | "|" => .ok (bitwise (· ||| ·) a b)
  | "^" => .ok (bitwise (· ^^^ ·) a b)
  | "<<" => .ok (wrap (a * Int.pow 2 (b % 64).toNat))
  | ">>" => .ok (a / Int.pow 2 (b % 64).toNat)
  | _ => .error .malformed

/-- Variables with their values. -/
abbrev Values := List (List Char × Int)

/-- The value of an expression, and of the variables it has set, the latest first. -/
def eval (value : List Char → Except ArithFault Int) (set : Values) :
    Arith → Except ArithFault (Int × Values)
  | .number n => .ok (wrap n, set)
  | .variable name => do .ok (← (set.lookup name).elim (value name) .ok, set)
  | .unary op operand => do
    let (a, set) ← eval value set operand
    match op with
    | "-" => .ok (wrap (-a), set)
    | "!" => .ok (ofBool (a = 0), set)
    | "~" => .ok (wrap (-a - 1), set)
    | _ => .ok (a, set)
  | .binary op left right => do
    let (a, set) ← eval value set left
    if op = "&&" && a = 0 then .ok (0, set)
    else if op = "||" && a ≠ 0 then .ok (1, set)
    else
      let (b, set) ← eval value set right
      if op = "&&" || op = "||" then .ok (ofBool (b ≠ 0), set) else .ok (← combine op a b, set)
  | .choice test yes no => do
    let (a, set) ← eval value set test
    if a ≠ 0 then eval value set yes else eval value set no
  | .assign name op e => do
    let (b, set) ← eval value set e
    let result ←
      match op with
      | none => .ok b
      | some op => do combine op (← (set.lookup name).elim (value name) .ok) b
    .ok (result, (name, result) :: set)

/-- The number that a variable's text stands for; an empty one counts as zero. -/
def valueOf (text : List Char) : Except ArithFault Int :=
  let (negative, digits) : Bool × List Char :=
    match text.dropWhile Char.isWhitespace with
    | '-' :: rest => (true, rest)
    | '+' :: rest => (false, rest)
    | text => (false, text)
  match readNumber digits with
  | (n, []) => .ok (wrap (if negative then -(n : Int) else n))
  | _ => .error (.notANumber text)

/-- The value of an arithmetic text, and of the variables it sets. A text without anything is zero. -/
def run (value : List Char → Except ArithFault Int) (text : List Char) :
    Except ArithFault (Int × Values) := do
  let ps := pieces (text.length + 1) text
  if ps.isEmpty then .ok (0, [])
  else
    match ← expression (4 * ps.length + 4) ps with
    | (e, []) => eval value [] e
    | _ => .error .goesOn

end Arith

end Offspring.Shell
