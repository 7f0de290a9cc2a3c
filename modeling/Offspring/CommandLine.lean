/-!
# Command lines of one text

Some systems start a program with one text that the program splits into arguments itself. `join` writes
such a text; `split` and `splitProgram` are the readers. An argument without blanks and quotes is written
as it stands. Any other goes between quotes, where a run of backslashes is doubled if a quote follows it,
the closing one included, and a quote inside takes a backslash of its own.

Readers differ in what a doubled quote inside a quoted part means: one literal quote, or the end of the
part and the beginning of the next. `split` takes that choice as a parameter. The first token of a whole
line is read by another rule, `splitProgram`, in which backslashes are always literal.
-/

namespace Offspring.CommandLine

/-- Whether an argument that holds the character must be quoted. -/
def forcesQuotes (c : Char) : Bool :=
  c = ' ' || c = '\t' || c = '\n' || c = '\x0b' || c = '"'

/-- Whether an argument must be quoted. -/
def needsQuotes (arg : List Char) : Bool :=
  arg.isEmpty || arg.any forcesQuotes

/-- A run of backslashes. -/
def backslashes (n : Nat) : List Char :=
  List.replicate n '\\'

/-- The inside of a quoted argument, with the closing quote; `pending` backslashes have been passed and
not been written. -/
def quotedRest : Nat → List Char → List Char
  | pending, [] => backslashes (pending * 2) ++ ['"']
  | pending, c :: rest =>
    if c = '\\' then quotedRest (pending + 1) rest
    else if c = '"' then backslashes (pending * 2 + 1) ++ '"' :: quotedRest 0 rest
    else backslashes pending ++ c :: quotedRest 0 rest

/-- An argument as it is written. -/
def writeArg (arg : List Char) : List Char :=
  if needsQuotes arg then '"' :: quotedRest 0 arg else arg

/-- The arguments as they are written, with one blank between them. -/
def writeArgs : List (List Char) → List Char
  | [] => []
  | [arg] => writeArg arg
  | arg :: rest => writeArg arg ++ ' ' :: writeArgs rest

/-- The line of a list of arguments. -/
def join (args : List String) : String :=
  String.ofList (writeArgs (args.map String.toList))

/-- What a doubled quote inside a quoted part means. -/
inductive DoubledQuote where
  /-- One literal quote; the part goes on. -/
  | literal
  /-- The part ends, and the next begins. -/
  | reopens
  deriving DecidableEq

/-- Whether a character stands between arguments. -/
def isSeparator (c : Char) : Bool :=
  c = ' ' || c = '\t'

/-- Where a reader stands: between arguments, or in one whose characters so far are given in reverse,
inside or outside a quoted part. -/
inductive Place where
  | between
  | inside (quoted : Bool) (read : List Char)

/-- The argument read so far, if any. -/
def Place.finished : Place → List (List Char)
  | .between => []
  | .inside _ read => [read.reverse]

/-- Whether the place is inside a quoted part. -/
def Place.isQuoted : Place → Bool
  | .between => false
  | .inside quoted _ => quoted

/-- The characters read so far, in reverse. -/
def Place.read : Place → List Char
  | .between => []
  | .inside _ read => read

/-- Reads arguments; `pending` backslashes have been passed and not been read. -/
def splitFrom (doubled : DoubledQuote) : Place → Nat → List Char → List (List Char)
  | place, 0, [] => place.finished
  | place, pending, [] => [(backslashes pending ++ place.read).reverse]
  | place, pending, c :: rest =>
    let read := backslashes pending ++ place.read
    if c = '\\' then splitFrom doubled place (pending + 1) rest
    else if c = '"' then
      let halved := backslashes (pending / 2) ++ place.read
      if pending % 2 = 1 then splitFrom doubled (.inside place.isQuoted ('"' :: halved)) 0 rest
      else
        match doubled, place.isQuoted, rest with
        | .literal, true, '"' :: rest => splitFrom doubled (.inside true ('"' :: halved)) 0 rest
        | _, quoted, rest => splitFrom doubled (.inside (!quoted) halved) 0 rest
    else if isSeparator c ∧ place.isQuoted = false then
      match place, pending with
      | .between, 0 => splitFrom doubled .between 0 rest
      | _, _ => read.reverse :: splitFrom doubled .between 0 rest
    else splitFrom doubled (.inside place.isQuoted (c :: read)) 0 rest

/-- The arguments of a line. -/
def split (doubled : DoubledQuote) (line : String) : List String :=
  (splitFrom doubled .between 0 line.toList).map String.ofList

/-- The first token by the rule for the program's name, and what follows it: every quote toggles
quoting and is dropped, and the first separator outside quotes ends the token. -/
def programToken : Bool → List Char → List Char × List Char
  | _, [] => ([], [])
  | quoted, c :: rest =>
    if c = '"' then programToken (!quoted) rest
    else if isSeparator c ∧ quoted = false then ([], rest)
    else
      let (token, rest) := programToken quoted rest
      (c :: token, rest)

/-- The program's name and the arguments of a whole line. -/
def splitProgram (doubled : DoubledQuote) (line : String) : List String :=
  let (token, rest) := programToken false line.toList
  String.ofList token :: (splitFrom doubled .between 0 rest).map String.ofList

end Offspring.CommandLine
