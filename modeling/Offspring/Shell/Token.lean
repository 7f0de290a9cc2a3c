import Offspring.Text.Octets

/-!
# Tokens of the command language

A script is cut into words, operators and ends of lines. A word keeps its quotes and expansions as they
are written, since what they stand for is known only when the word is used; `span` finds where it ends.
-/

namespace Offspring.Shell

/-- A word as it is written. -/
abbrev Word := List Char

/-- An operator. -/
inductive Operator where
  | semicolon
  | doubleSemicolon
  | ampersand
  | and
  | or
  | bar
  | opening
  | closing
  | less
  | greater
  | doubleGreater
  | clobber
  | lessGreater
  | lessAnd
  | greaterAnd
  deriving DecidableEq

/-- How an operator is written. -/
def Operator.text : Operator → String
  | .semicolon => ";"
  | .doubleSemicolon => ";;"
  | .ampersand => "&"
  | .and => "&&"
  | .or => "||"
  | .bar => "|"
  | .opening => "("
  | .closing => ")"
  | .less => "<"
  | .greater => ">"
  | .doubleGreater => ">>"
  | .clobber => ">|"
  | .lessGreater => "<>"
  | .lessAnd => "<&"
  | .greaterAnd => ">&"

/-- What a token is. -/
inductive TokenKind where
  | word (text : Word)
  /-- The descriptor in front of a redirection. -/
  | descriptor (number : Nat)
  | operator (op : Operator)
  | newline
  /-- A quote is not closed. -/
  | unterminated
  deriving DecidableEq

/-- A token and the line it is on. -/
structure Token where
  kind : TokenKind
  line : Nat
  deriving DecidableEq

/-- What a word can be inside of. -/
inductive Nest where
  /-- Single quotes. -/
  | single
  /-- Double quotes. -/
  | double
  /-- The braces of a parameter. -/
  | brace
  /-- Parentheses of a command or a number. -/
  | paren
  /-- Backquotes. -/
  | back
  deriving DecidableEq

/-- Whether a character ends a word. -/
def endsWord (c : Char) : Bool :=
  " \t\n;&|<>()".toList.contains c

/-- Whether single quotes only stand for themselves, as in double quotes. -/
def isDoubleQuoted : List Nest → Bool
  | .double :: _ => true
  | .brace :: outer => isDoubleQuoted outer
  | _ => false

/-- What is inside of what after a character, and whether the next one goes with it. -/
def react (nests : List Nest) (c : Char) (next : Option Char) : List Nest × Bool :=
  let opened : List Nest × Bool :=
    if c = '$' && next = some '(' then (.paren :: nests, true)
    else if c = '$' && next = some '\x7b' then (.brace :: nests, true)
    else if c = '\x60' then (.back :: nests, false)
    else if c = '"' then (.double :: nests, false)
    else if c = '\'' && !isDoubleQuoted nests then (.single :: nests, false)
    else (nests, false)
  match nests with
  | .single :: outer => if c = '\'' then (outer, false) else (nests, false)
  | nest :: outer =>
    if c = '\\' then (nests, true)
    else
      match nest with
      | .double => if c = '"' then (outer, false) else opened
      | .brace => if c = '\x7d' then (outer, false) else opened
      | .back => if c = '\x60' then (outer, false) else (nests, false)
      | _ =>
        if c = ')' then (outer, false)
        else if c = '(' then (.paren :: nests, false)
        else opened
  | [] => if c = '\\' then (nests, true) else opened

/-- The text up to where everything that is open is closed and, for a word, up to a character that ends
it; and the rest. -/
def span (isWord : Bool) : List Nest → List Char → Option (List Char × List Char)
  | nests, [] => if nests.isEmpty then some ([], []) else none
  | nests, c :: rest =>
    if nests.isEmpty && (!isWord || endsWord c) then some ([], c :: rest)
    else
      match react nests c rest.head?, rest with
      | (nests, true), d :: rest => do
        let (text, rest) ← span isWord nests rest
        some (c :: d :: text, rest)
      | (nests, _), rest => do
        let (text, rest) ← span isWord nests rest
        some (c :: text, rest)

/-- The text inside of something that has just been opened, and the rest after its end. -/
def inside (nest : Nest) (text : List Char) : Option (List Char × List Char) := do
  let (text, rest) ← span false [nest] text
  some (text.dropLast, rest)

/-- The operator at the front of a text. -/
def operator? : List Char → Option (Operator × List Char)
  | ';' :: ';' :: rest => some (.doubleSemicolon, rest)
  | ';' :: rest => some (.semicolon, rest)
  | '&' :: '&' :: rest => some (.and, rest)
  | '&' :: rest => some (.ampersand, rest)
  | '|' :: '|' :: rest => some (.or, rest)
  | '|' :: rest => some (.bar, rest)
  | '(' :: rest => some (.opening, rest)
  | ')' :: rest => some (.closing, rest)
  | '<' :: '>' :: rest => some (.lessGreater, rest)
  | '<' :: '&' :: rest => some (.lessAnd, rest)
  | '<' :: rest => some (.less, rest)
  | '>' :: '>' :: rest => some (.doubleGreater, rest)
  | '>' :: '&' :: rest => some (.greaterAnd, rest)
  | '>' :: '|' :: rest => some (.clobber, rest)
  | '>' :: rest => some (.greater, rest)
  | _ => none

/-- How many lines end in a text. -/
def lineCount (text : List Char) : Nat :=
  text.count '\n'

/-- Whether a redirection starts at the front of a text. -/
def startsRedirection (text : List Char) : Bool :=
  text.head? = some '<' || text.head? = some '>'

/-- The tokens of a text, in so many steps at most. -/
def scan : Nat → Nat → List Char → List Token
  | 0, _, _ | _, _, [] => []
  | fuel + 1, line, c :: rest =>
    if c = '\n' then ⟨.newline, line⟩ :: scan fuel (line + 1) rest
    else if c = ' ' || c = '\t' then scan fuel line rest
    else if c = '#' then scan fuel line (rest.dropWhile (· ≠ '\n'))
    else if c = '\\' && rest.head? = some '\n' then scan fuel (line + 1) rest.tail
    else
      match operator? (c :: rest) with
      | some (op, rest) => ⟨.operator op, line⟩ :: scan fuel line rest
      | none =>
        match span true [] (c :: rest) with
        | none => [⟨.unterminated, line + lineCount (c :: rest)⟩]
        | some (text, rest) =>
          let kind : TokenKind :=
            if text.all Char.isDigit && startsRedirection rest then .descriptor (Text.decimal text)
            else .word text
          ⟨kind, line⟩ :: scan fuel (line + lineCount text) rest

/-- The tokens of a script. -/
def tokens (script : List Char) : List Token :=
  scan (script.length + 1) 1 script

end Offspring.Shell
