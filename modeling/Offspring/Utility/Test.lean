import Offspring.Text.Octets

/-!
# Conditions

`Condition.holds` evaluates the words of a condition: texts and numbers are compared, and files are asked
for through `FileFacts`. A disjunction binds less than a conjunction, and that less than a negation.
-/

namespace Offspring.Condition

open Text

/-- What can be asked about a file: whether the test with a letter holds for a path. -/
abbrev FileFacts := Char → List Char → Bool

/-- What is wrong with a condition. -/
inductive Fault where
  | notANumber (word : List Char)
  | unexpected (word : List Char)
  | wordExpected
  | closingExpected

/-- How a fault is told. -/
def Fault.message : Fault → List Char
  | .notANumber word => "Illegal number: ".toList ++ word
  | .unexpected word => word ++ ": unexpected operator".toList
  | .wordExpected => "argument expected".toList
  | .closingExpected => "closing paren expected".toList

/-- The number that a word stands for, blanks around it passed over. -/
def number (word : List Char) : Except Fault Int :=
  let text := word.dropWhile Char.isWhitespace
  let text := (text.reverse.dropWhile Char.isWhitespace).reverse
  let (negative, digits) : Bool × List Char :=
    match text with
    | '-' :: rest => (true, rest)
    | '+' :: rest => (false, rest)
    | text => (false, text)
  if digits.isEmpty || !digits.all Char.isDigit then .error (.notANumber word)
  else .ok (if negative then -(decimal digits : Int) else decimal digits)

/-- Compares two words. -/
abbrev Comparison := List Char → List Char → Except Fault Bool

/-- Compares two words as numbers. -/
def onNumbers (holds : Int → Int → Bool) : Comparison := fun a b => do
  .ok (holds (← number a) (← number b))

/-- The comparison that a word stands for. -/
def comparison? (word : List Char) : Option Comparison :=
  match String.ofList word with
  | "=" | "==" => some fun a b => .ok (a == b)
  | "!=" => some fun a b => .ok (a != b)
  | "<" => some fun a b => .ok (decide (a < b))
  | ">" => some fun a b => .ok (decide (b < a))
  | "-eq" => some (onNumbers (· == ·))
  | "-ne" => some (onNumbers (· != ·))
  | "-lt" => some (onNumbers fun a b => decide (a < b))
  | "-le" => some (onNumbers fun a b => decide (a ≤ b))
  | "-gt" => some (onNumbers fun a b => decide (b < a))
  | "-ge" => some (onNumbers fun a b => decide (b ≤ a))
  | _ => none

/-- The question about one word that a word stands for. -/
def question? (facts : FileFacts) (word : List Char) : Option (List Char → Bool) :=
  match word with
  | ['-', 'n'] => some fun w => !w.isEmpty
  | ['-', 'z'] => some fun w => w.isEmpty
  | ['-', 't'] => some fun _ => false
  | ['-', c] => if "bcdefghkLOGprsSuwx".toList.contains c then some (facts c) else none
  | _ => none

mutual

/-- A disjunction at the front of the words, and the words after it. -/
def anyOf (facts : FileFacts) : Nat → List (List Char) → Except Fault (Bool × List (List Char))
  | 0, _ => .error .wordExpected
  | fuel + 1, words => do
    let (now, rest) ← allOf facts fuel words
    match rest with
    | ['-', 'o'] :: rest => do
      let (later, rest) ← anyOf facts fuel rest
      .ok (now || later, rest)
    | rest => .ok (now, rest)

/-- A conjunction at the front of the words. -/
def allOf (facts : FileFacts) : Nat → List (List Char) → Except Fault (Bool × List (List Char))
  | 0, _ => .error .wordExpected
  | fuel + 1, words => do
    let (now, rest) ← negated facts fuel words
    match rest with
    | ['-', 'a'] :: rest => do
      let (later, rest) ← allOf facts fuel rest
      .ok (now && later, rest)
    | rest => .ok (now, rest)

/-- A negation, a comparison, a question, a bracketed condition or a word. -/
def negated (facts : FileFacts) : Nat → List (List Char) → Except Fault (Bool × List (List Char))
  | 0, _ => .error .wordExpected
  | fuel + 1, words =>
    match words with
    | [] => .error .wordExpected
    | word :: rest =>
      let single : Except Fault (Bool × List (List Char)) :=
        if word = ['!'] && !rest.isEmpty then do
          let (now, rest) ← negated facts fuel rest
          .ok (!now, rest)
        else if word = ['('] && !rest.isEmpty then do
          let (now, rest) ← anyOf facts fuel rest
          match rest with
          | [')'] :: rest => .ok (now, rest)
          | _ => .error .closingExpected
        else
          match question? facts word, rest with
          | some holds, operand :: rest => .ok (holds operand, rest)
          | _, rest => .ok (!word.isEmpty, rest)
      match rest with
      | operator :: operand :: after =>
        match comparison? operator with
        | some holds => do .ok (← holds word operand, after)
        | none => single
      | _ => single

end

/-- Whether a condition holds. No words at all are a condition that does not. If words are left, the one in
front of them is said to be unexpected. -/
def holds (facts : FileFacts) (words : List (List Char)) : Except Fault Bool :=
  if words.isEmpty then .ok false
  else do
    let (now, rest) ← anyOf facts (4 * words.length + 4) words
    if rest.isEmpty then .ok now
    else .error (.unexpected (words.getD (words.length - rest.length - 1) []))

end Offspring.Condition
