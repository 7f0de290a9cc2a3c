import Offspring.Text.Octets

/-!
# Formatted output

`Printf.run` writes arguments as a format tells. A format that takes arguments is used again for as long
as some are left, and an argument that is missing counts as empty. Escapes in the format stand for octets.
-/

namespace Offspring.Printf

open Text

/-- Something wrong with a format or an argument. -/
inductive Complaint where
  | notANumber (arg : List Char)
  /-- The argument goes on after a number. -/
  | goesOn (arg : List Char)
  /-- There is no such conversion. -/
  | unknown (directive : List Char)
  deriving DecidableEq

/-- How the builtin words a complaint. -/
def Complaint.message : Complaint → List Char
  | .notANumber arg => arg ++ ": expected numeric value".toList
  | .goesOn arg => arg ++ ": not completely converted".toList
  | .unknown directive => directive ++ ": invalid directive".toList

/-- How the tool words a complaint. -/
def Complaint.toolMessage : Complaint → List Char
  | .notANumber arg => '\'' :: arg ++ "': expected a numeric value".toList
  | .goesOn arg => '\'' :: arg ++ "': value not completely converted".toList
  | .unknown directive => directive ++ ": invalid conversion specification".toList

/-- What a run gives: its output, what it has to complain about, and whether a `\c` has ended it. -/
structure Result where
  output : List Char := []
  complaints : List Complaint := []
  halted : Bool := false

/-- One conversion of a format. -/
structure Directive where
  left : Bool := false
  zero : Bool := false
  plus : Bool := false
  blank : Bool := false
  alternate : Bool := false
  width : Nat := 0
  precision : Option Nat := none
  conversion : Char := 's'

/-- A piece of a format. -/
inductive Piece where
  | octet (c : Char)
  | directive (d : Directive)
  /-- A conversion that there is not. -/
  | unknown (text : List Char)

/-- So many octal digits at most: their value and the rest. -/
def octal : Nat → Nat → List Char → Nat × List Char
  | 0, n, text => (n, text)
  | fuel + 1, n, c :: rest =>
    if '0' ≤ c && c ≤ '7' then octal fuel (n * 8 + (c.toNat - '0'.toNat)) rest else (n, c :: rest)
  | _, n, [] => (n, [])

/-- What a letter after a backslash stands for. -/
def escaped? (c : Char) : Option Char :=
  match c with
  | '\\' => some '\\'
  | 'a' => some '\x07'
  | 'b' => some '\x08'
  | 'e' => some '\x1b'
  | 'f' => some '\x0c'
  | 'n' => some '\n'
  | 'r' => some '\r'
  | 't' => some '\t'
  | 'v' => some '\x0b'
  | _ => none

/-- The character with the number of an octet. -/
def octetNumbered (n : Nat) : Char :=
  Char.ofNat (n % 0x100)

/-- Sets the flags at the front of a conversion. -/
def flags (d : Directive) : List Char → Directive × List Char
  | '-' :: rest => flags { d with left := true } rest
  | '0' :: rest => flags { d with zero := true } rest
  | '+' :: rest => flags { d with plus := true } rest
  | ' ' :: rest => flags { d with blank := true } rest
  | '#' :: rest => flags { d with alternate := true } rest
  | text => (d, text)

/-- The conversion after a percent sign, and the rest. -/
def directive (text : List Char) : Piece × List Char :=
  let (d, rest) := flags {} text
  let (width, rest) := leadingNumber 10 0 rest
  let (precision, rest) : Option Nat × List Char :=
    match rest with
    | '.' :: rest =>
      let (n, rest) := leadingNumber 10 0 rest
      (some n, rest)
    | rest => (none, rest)
  match rest with
  | c :: rest =>
    if "diouxXcsb".toList.contains c then
      (.directive { d with width, precision, conversion := c }, rest)
    else (.unknown (text.take (text.length - rest.length)), [])
  | [] => (.unknown text, [])

/-- The pieces of a format, of which so many characters are left at most. -/
def pieces : Nat → List Char → List Piece
  | 0, _ | _, [] => []
  | fuel + 1, '%' :: '%' :: rest => .octet '%' :: pieces fuel rest
  | fuel + 1, '%' :: rest =>
    let (piece, rest) := directive rest
    piece :: pieces fuel rest
  | fuel + 1, '\\' :: c :: rest =>
    if '0' ≤ c && c ≤ '7' then
      let (n, rest) := octal 3 0 (c :: rest)
      .octet (octetNumbered n) :: pieces fuel rest
    else
      match escaped? c with
      | some c => .octet c :: pieces fuel rest
      | none => .octet '\\' :: .octet c :: pieces fuel rest
  | fuel + 1, c :: rest => .octet c :: pieces fuel rest

/-- The octets of an argument with escapes, and whether a `\c` ends all output. Octal numbers may have a
zero in front of their three digits. -/
def expandEscapes : Nat → List Char → List Char × Bool
  | 0, _ | _, [] => ([], false)
  | fuel + 1, '\\' :: c :: rest =>
    if c = 'c' then ([], true)
    else if '0' ≤ c && c ≤ '7' then
      let (n, rest) := if c = '0' then octal 3 0 rest else octal 3 0 (c :: rest)
      let (more, halted) := expandEscapes fuel rest
      (octetNumbered n :: more, halted)
    else
      let (more, halted) := expandEscapes fuel rest
      match escaped? c with
      | some c => (c :: more, halted)
      | none => ('\\' :: c :: more, halted)
  | fuel + 1, c :: rest =>
    let (more, halted) := expandEscapes fuel rest
    (c :: more, halted)

/-- Fills a text up to a width. -/
def pad (d : Directive) (text : List Char) : List Char :=
  let fill := List.replicate (d.width - text.length) ' '
  if d.left then text ++ fill else fill ++ text

/-- A number that an argument stands for, and what of the argument is no number. -/
def readNumber (arg : List Char) : Int × List Char :=
  match arg with
  | '\'' :: c :: _ | '"' :: c :: _ => (c.toNat, [])
  | arg =>
    let text := arg.dropWhile (· = ' ')
    let (negative, text) : Bool × List Char :=
      match text with
      | '-' :: rest => (true, rest)
      | '+' :: rest => (false, rest)
      | text => (false, text)
    let (n, rest) :=
      match text with
      | '0' :: 'x' :: rest | '0' :: 'X' :: rest => leadingNumber 16 0 rest
      | '0' :: rest => leadingNumber 8 0 rest
      | text => leadingNumber 10 0 text
    (if negative then -(n : Int) else n, if rest.length = text.length && !arg.isEmpty then arg else rest)

/-- The digits of a number with sign and base, as a conversion asks for them. -/
def number (d : Directive) (n : Int) : List Char :=
  let isSigned := d.conversion = 'd' || d.conversion = 'i'
  let magnitude := if isSigned then n.natAbs else (n % 0x10000000000000000).toNat
  let digits :=
    match d.conversion with
    | 'o' => Nat.toDigits 8 magnitude
    | 'x' => Nat.toDigits 16 magnitude
    | 'X' => (Nat.toDigits 16 magnitude).map Char.toUpper
    | _ => Nat.toDigits 10 magnitude
  let digits := if d.precision = some 0 && magnitude = 0 then [] else digits
  let digits := List.replicate (d.precision.getD 1 - digits.length) '0' ++ digits
  let sign : List Char :=
    if isSigned then
      if n < 0 then ['-'] else if d.plus then ['+'] else if d.blank then [' '] else []
    else if d.alternate && magnitude ≠ 0 then
      match d.conversion with
      | 'o' => ['0']
      | 'x' => ['0', 'x']
      | 'X' => ['0', 'X']
      | _ => []
    else []
  if d.zero && !d.left && d.precision.isNone then
    sign ++ List.replicate (d.width - sign.length - digits.length) '0' ++ digits
  else pad d (sign ++ digits)

/-- What one conversion makes of an argument. -/
def convert (d : Directive) (arg : List Char) : Result :=
  let shorten (text : List Char) : List Char :=
    match d.precision with
    | some n => text.take n
    | none => text
  match d.conversion with
  | 's' => { output := pad d (shorten arg) }
  | 'c' => { output := pad d (arg.take 1) }
  | 'b' =>
    let (text, halted) := expandEscapes arg.length arg
    { output := pad d (shorten text), halted }
  | _ =>
    let (n, rest) := readNumber arg
    let complaints :=
      if rest.isEmpty then []
      else if rest.length = arg.length then [.notANumber arg]
      else [.goesOn arg]
    { output := number d n, complaints }

/-- One pass over a format: what it gives, and the arguments that are left. -/
def pass : List Piece → List (List Char) → Result × List (List Char)
  | [], args => ({}, args)
  | .octet c :: rest, args =>
    let (r, args) := pass rest args
    ({ r with output := c :: r.output }, args)
  | .unknown text :: _, _ =>
    ({ complaints := [.unknown ('%' :: text)], halted := true }, [])
  | .directive d :: rest, args =>
    let now := convert d (args.headD [])
    if now.halted then (now, [])
    else
      let (later, args) := pass rest args.tail
      ({ output := now.output ++ later.output
         complaints := now.complaints ++ later.complaints
         halted := later.halted }, args)

/-- Passes over a format until no argument is left, so many at most. -/
def passes (format : List Piece) : Nat → List (List Char) → Result
  | 0, _ => {}
  | fuel + 1, args =>
    let (now, left) := pass format args
    if now.halted || left.isEmpty || left.length = args.length then now
    else
      let later := passes format fuel left
      { output := now.output ++ later.output
        complaints := now.complaints ++ later.complaints
        halted := later.halted }

/-- Writes arguments as a format tells. -/
def run (format : List Char) (args : List (List Char)) : Result :=
  passes (pieces format.length format) (args.length + 1) args

end Offspring.Printf
