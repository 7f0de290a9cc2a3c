import Offspring.Shell.Command

/-!
# Reading commands

`nextLine` reads one line of commands from tokens: everything up to an end of line that is not inside of a
command. A script is read line by line while it runs, so that a fault in a line does not keep those before
it from being run.
-/

namespace Offspring.Shell

/-- A fault in the form of a script. -/
inductive FormFault where
  | unexpected (token : Option TokenKind) (expected : Option String)
  | badForName
  | unterminated
  deriving DecidableEq

/-- A fault and the line where it was found. -/
structure Misformed where
  fault : FormFault
  line : Nat

/-- Words with a meaning of their own at the start of a command. -/
def reserved : List String :=
  ["if", "then", "else", "elif", "fi", "while", "until", "do", "done", "for", "case", "esac", "in",
    "\x7b", "\x7d", "!"]

/-- How a fault names a token. -/
def tokenName : Option TokenKind → String
  | none => "end of file"
  | some .newline => "newline"
  | some (.operator op) => "\"" ++ op.text ++ "\""
  | some (.word w) =>
    if reserved.contains (String.ofList w) then "\"" ++ String.ofList w ++ "\"" else "word"
  | some (.descriptor _) => "word"
  | some .unterminated => "end of file"

/-- The wording of a fault. -/
def FormFault.message : FormFault → String
  | .unexpected token expected =>
    "Syntax error: " ++ tokenName token ++ " unexpected" ++
      (match expected with
       | some word => " (expecting \"" ++ word ++ "\")"
       | none => "")
  | .badForName => "Syntax error: Bad for loop variable"
  | .unterminated => "Syntax error: Unterminated quoted string"

/-- The line of the first token. -/
def lineOf (tokens : List Token) : Nat :=
  match tokens with
  | t :: _ => t.line
  | [] => 1

/-- The first token does not belong where it is. -/
def unexpected {α : Type} (tokens : List Token) (expected : Option String) : Except Misformed α :=
  match tokens with
  | [] => .error ⟨.unexpected none expected, 1⟩
  | ⟨.unterminated, line⟩ :: _ => .error ⟨.unterminated, line⟩
  | t :: _ => .error ⟨.unexpected (some t.kind) expected, t.line⟩

/-- Whether the first token is a word that is written so. -/
def startsWith (text : String) (tokens : List Token) : Bool :=
  match tokens with
  | ⟨.word w, _⟩ :: _ => w = text.toList
  | _ => false

/-- Whether the first token is an operator. -/
def startsWithOp (op : Operator) (tokens : List Token) : Bool :=
  match tokens with
  | ⟨.operator o, _⟩ :: _ => o = op
  | _ => false

/-- Passes over a word that has to come. -/
def expect (text : String) (tokens : List Token) : Except Misformed (List Token) :=
  if startsWith text tokens then .ok tokens.tail else unexpected tokens (some text)

/-- Passes over ends of lines. -/
def skipNewlines (tokens : List Token) : List Token :=
  tokens.dropWhile (·.kind = .newline)

/-- Whether a list of commands ends here. -/
def endsList (tokens : List Token) : Bool :=
  match tokens with
  | [] => true
  | ⟨.operator .closing, _⟩ :: _ | ⟨.operator .doubleSemicolon, _⟩ :: _ => true
  | ⟨.word w, _⟩ :: _ =>
    ["then", "else", "elif", "fi", "do", "done", "esac", "\x7d"].contains (String.ofList w)
  | _ => false

/-- Whether a character can be in a name. -/
def isNameChar (c : Char) : Bool :=
  c.isAlphanum || c = '_'

/-- Whether a text is a name. -/
def isName (text : List Char) : Bool :=
  match text with
  | c :: _ => !c.isDigit && text.all isNameChar
  | [] => false

/-- The kind of redirection that an operator asks for, and the descriptor it is for by itself. -/
def redirectionOf? : Operator → Option (RedirectionKind × Nat)
  | .less => some (.read, 0)
  | .greater | .clobber => some (.write, 1)
  | .doubleGreater => some (.append, 1)
  | .lessGreater => some (.readWrite, 0)
  | .lessAnd => some (.duplicate, 0)
  | .greaterAnd => some (.duplicate, 1)
  | _ => none

/-- The redirection at the front. -/
def redirect? (tokens : List Token) : Option (Except Misformed (Redirect × List Token)) :=
  let after (fd : Option Nat) (rest : List Token) : Option (Except Misformed (Redirect × List Token)) :=
    match rest with
    | ⟨.operator op, _⟩ :: rest =>
      (redirectionOf? op).map fun (kind, standard) =>
        match rest with
        | ⟨.word target, _⟩ :: rest => .ok (⟨fd.getD standard, kind, target⟩, rest)
        | rest => unexpected rest none
    | _ => none
  match tokens with
  | ⟨.descriptor fd, _⟩ :: rest => after (some fd) rest
  | tokens => after none tokens

/-- The redirections at the front, so many at most. -/
def redirects : Nat → List Token → Except Misformed (List Redirect × List Token)
  | 0, tokens => .ok ([], tokens)
  | fuel + 1, tokens =>
    match redirect? tokens with
    | none => .ok ([], tokens)
    | some reading => do
      let (r, tokens) ← reading
      let (rs, tokens) ← redirects fuel tokens
      .ok (r :: rs, tokens)

/-- The words and redirections of a simple command, so many at most. -/
def simpleParts : Nat → List Token → Except Misformed ((List Word × List Redirect) × List Token)
  | 0, tokens => .ok (([], []), tokens)
  | fuel + 1, tokens =>
    match redirect? tokens with
    | some reading => do
      let (r, tokens) ← reading
      let ((words, rs), tokens) ← simpleParts fuel tokens
      .ok ((words, r :: rs), tokens)
    | none =>
      match tokens with
      | ⟨.word w, _⟩ :: rest => do
        let ((words, rs), tokens) ← simpleParts fuel rest
        .ok ((w :: words, rs), tokens)
      | ⟨.unterminated, _⟩ :: _ => unexpected tokens none
      | tokens => .ok (([], []), tokens)

/-- The words up to the end of a line or a semicolon. -/
def wordsToEnd : List Token → List Word × List Token
  | ⟨.word w, _⟩ :: rest =>
    let (words, rest) := wordsToEnd rest
    (w :: words, rest)
  | tokens => ([], tokens)

/-- The patterns of one case, with bars between them, and the parenthesis after them. -/
def patterns : List Token → Except Misformed (List Word × List Token)
  | ⟨.word w, _⟩ :: ⟨.operator .bar, _⟩ :: rest => do
    let (ws, rest) ← patterns rest
    .ok (w :: ws, rest)
  | ⟨.word w, _⟩ :: ⟨.operator .closing, _⟩ :: rest => .ok ([w], rest)
  | ⟨.word _, _⟩ :: rest => unexpected rest (some ")")
  | tokens => unexpected tokens none

mutual

/-- Commands up to the end of a list; there has to be one at least, unless the tokens end. -/
def commands : Nat → List Token → Except Misformed (Command × List Token)
  | 0, tokens => unexpected tokens none
  | fuel + 1, tokens => do
    let tokens := skipNewlines tokens
    if tokens.isEmpty then .ok (.nothing, tokens)
    else
      let (first, tokens) ← chain fuel tokens
      match tokens with
      | ⟨.operator .ampersand, _⟩ :: rest => moreCommands fuel (.background first) rest
      | ⟨.operator .semicolon, _⟩ :: rest => moreCommands fuel first rest
      | ⟨.newline, _⟩ :: rest => moreCommands fuel first rest
      | tokens => .ok (first, tokens)

/-- The commands after one whose end has been passed, if there are any. -/
def moreCommands : Nat → Command → List Token → Except Misformed (Command × List Token)
  | 0, _, tokens => unexpected tokens none
  | fuel + 1, first, tokens => do
    let tokens := skipNewlines tokens
    if endsList tokens then .ok (first, tokens)
    else
      let (rest, tokens) ← commands fuel tokens
      .ok (.sequence first rest, tokens)

/-- Pipelines joined by `&&` and `||`, which bind alike. -/
def chain : Nat → List Token → Except Misformed (Command × List Token)
  | 0, tokens => unexpected tokens none
  | fuel + 1, tokens => do
    let (first, tokens) ← pipeline fuel tokens
    links fuel first tokens

/-- The pipelines that are joined to one. -/
def links : Nat → Command → List Token → Except Misformed (Command × List Token)
  | 0, _, tokens => unexpected tokens none
  | fuel + 1, first, tokens =>
    match tokens with
    | ⟨.operator .and, _⟩ :: rest => do
      let (second, tokens) ← pipeline fuel (skipNewlines rest)
      links fuel (.both first second) tokens
    | ⟨.operator .or, _⟩ :: rest => do
      let (second, tokens) ← pipeline fuel (skipNewlines rest)
      links fuel (.either first second) tokens
    | tokens => .ok (first, tokens)

/-- A pipeline, with its negation. -/
def pipeline : Nat → List Token → Except Misformed (Command × List Token)
  | 0, tokens => unexpected tokens none
  | fuel + 1, tokens => do
    if startsWith "!" tokens then
      let (body, tokens) ← pipeline fuel tokens.tail
      .ok (.negation body, tokens)
    else
      let (first, tokens) ← command fuel tokens
      let (others, tokens) ← pipes fuel tokens
      .ok (if others.isEmpty then first else .pipeline (first :: others), tokens)

/-- The commands that a pipe leads to. -/
def pipes : Nat → List Token → Except Misformed (List Command × List Token)
  | 0, tokens => unexpected tokens none
  | fuel + 1, tokens =>
    match tokens with
    | ⟨.operator .bar, _⟩ :: rest => do
      let (next, tokens) ← command fuel (skipNewlines rest)
      let (others, tokens) ← pipes fuel tokens
      .ok (next :: others, tokens)
    | tokens => .ok ([], tokens)

/-- One command with its redirections. -/
def command : Nat → List Token → Except Misformed (Command × List Token)
  | 0, tokens => unexpected tokens none
  | fuel + 1, tokens => do
    let line := lineOf tokens
    let withRedirects (body : Command) (tokens : List Token) : Except Misformed (Command × List Token) := do
      let (rs, tokens) ← redirects tokens.length tokens
      .ok (if rs.isEmpty then body else .redirected line body rs, tokens)
    match tokens with
    | ⟨.operator .opening, _⟩ :: rest => do
      let (body, tokens) ← commands fuel rest
      if startsWithOp .closing tokens then withRedirects (.subshell body) tokens.tail
      else unexpected tokens (some ")")
    | ⟨.word w, _⟩ :: ⟨.operator .opening, _⟩ :: ⟨.operator .closing, _⟩ :: rest => do
      let (body, tokens) ← command fuel (skipNewlines rest)
      .ok (.definition w body, tokens)
    | ⟨.word w, _⟩ :: rest =>
      match String.ofList w with
      | "if" => do
        let (body, tokens) ← branches fuel rest
        withRedirects body tokens
      | "while" | "until" => do
        let (test, tokens) ← commands fuel rest
        let tokens ← expect "do" tokens
        let (body, tokens) ← commands fuel tokens
        let tokens ← expect "done" tokens
        withRedirects (.loop (w = "until".toList) test body) tokens
      | "for" => do
        let (body, tokens) ← forLoop fuel line rest
        withRedirects body tokens
      | "case" => do
        let (body, tokens) ← caseOf fuel line rest
        withRedirects body tokens
      | "\x7b" => do
        let (body, tokens) ← commands fuel rest
        let tokens ← expect "\x7d" tokens
        withRedirects body tokens
      | text =>
        if reserved.contains text then unexpected tokens none
        else do
          let ((words, rs), tokens) ← simpleParts tokens.length tokens
          .ok (.simple line words rs, tokens)
    | tokens => do
      let ((words, rs), after) ← simpleParts tokens.length tokens
      if words.isEmpty && rs.isEmpty then unexpected tokens none
      else .ok (.simple line words rs, after)

/-- A condition after `if` or `elif`, with all that follows up to `fi`. -/
def branches : Nat → List Token → Except Misformed (Command × List Token)
  | 0, tokens => unexpected tokens none
  | fuel + 1, tokens => do
    let (test, tokens) ← commands fuel tokens
    let tokens ← expect "then" tokens
    let (yes, tokens) ← commands fuel tokens
    if startsWith "elif" tokens then
      let (no, tokens) ← branches fuel tokens.tail
      .ok (.branch test yes no, tokens)
    else if startsWith "else" tokens then
      let (no, tokens) ← commands fuel tokens.tail
      .ok (.branch test yes no, ← expect "fi" tokens)
    else .ok (.branch test yes .nothing, ← expect "fi" tokens)

/-- A loop over words, after `for`. -/
def forLoop : Nat → Nat → List Token → Except Misformed (Command × List Token)
  | 0, _, tokens => unexpected tokens none
  | fuel + 1, line, tokens =>
    match tokens with
    | ⟨.word name, nameLine⟩ :: rest => do
      if !isName name then .error ⟨.badForName, nameLine⟩
      else
        let rest := skipNewlines rest
        let (words, rest) : Option (List Word) × List Token :=
          if startsWith "in" rest then
            let (words, rest) := wordsToEnd rest.tail
            (some words, rest)
          else (none, rest)
        let rest := if startsWithOp .semicolon rest then rest.tail else rest
        let tokens ← expect "do" (skipNewlines rest)
        let (body, tokens) ← commands fuel tokens
        .ok (.each line name words body, ← expect "done" tokens)
    | tokens => .error ⟨.badForName, lineOf tokens⟩

/-- A choice by patterns, after `case`. -/
def caseOf : Nat → Nat → List Token → Except Misformed (Command × List Token)
  | 0, _, tokens => unexpected tokens none
  | fuel + 1, line, tokens =>
    match tokens with
    | ⟨.word subject, _⟩ :: rest => do
      let tokens ← expect "in" (skipNewlines rest)
      let (cases, tokens) ← casesOf fuel (skipNewlines tokens)
      .ok (.choice line subject cases, tokens)
    | tokens => unexpected tokens none

/-- The cases of a choice up to `esac`. -/
def casesOf : Nat → List Token → Except Misformed (List (List Word × Command) × List Token)
  | 0, tokens => unexpected tokens none
  | fuel + 1, tokens =>
    if startsWith "esac" tokens then .ok ([], tokens.tail)
    else do
      let tokens := if startsWithOp .opening tokens then tokens.tail else tokens
      let (chosen, tokens) ← patterns tokens
      let tokens := skipNewlines tokens
      let (body, tokens) ←
        if endsList tokens then .ok (.nothing, tokens) else commands fuel tokens
      if startsWithOp .doubleSemicolon tokens then
        let (more, tokens) ← casesOf fuel (skipNewlines tokens.tail)
        .ok ((chosen, body) :: more, tokens)
      else if startsWith "esac" tokens then .ok ([(chosen, body)], tokens.tail)
      else unexpected tokens (some ";;")

end

/-- How deep reading so many tokens can go. -/
def readingDepth (tokens : List Token) : Nat :=
  8 * tokens.length + 8

/-- Commands on one line, so many at most. -/
def lineOfCommands : Nat → List Token → Except Misformed (Command × List Token)
  | 0, tokens => unexpected tokens none
  | fuel + 1, tokens => do
    let (first, tokens) ← chain (readingDepth tokens) tokens
    let next (first : Command) (rest : List Token) : Except Misformed (Command × List Token) :=
      match rest with
      | [] | ⟨.newline, _⟩ :: _ => .ok (first, rest)
      | rest => do
        let (second, rest) ← lineOfCommands fuel rest
        .ok (.sequence first second, rest)
    match tokens with
    | [] => .ok (first, tokens)
    | ⟨.newline, _⟩ :: _ => .ok (first, tokens)
    | ⟨.operator .semicolon, _⟩ :: rest => next first rest
    | ⟨.operator .ampersand, _⟩ :: rest => next (.background first) rest
    | tokens => unexpected tokens none

/-- The next line with commands, whether it ends the script without an end of line, and the tokens after
it. -/
def nextLine (tokens : List Token) : Except Misformed (Option (Command × Bool) × List Token) :=
  match skipNewlines tokens with
  | [] => .ok (none, [])
  | tokens => do
    let (c, rest) ← lineOfCommands (tokens.length + 1) tokens
    .ok (some (c, rest.isEmpty), rest.drop 1)

end Offspring.Shell
