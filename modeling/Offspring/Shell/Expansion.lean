import Offspring.Shell.Pattern
import Offspring.Shell.Scope

/-!
# What words stand for

Quotes, parameters, arithmetic and commands in a word are replaced by what they stand for; an unquoted
replacement is divided into fields. The output of a command in a word has to be there already: expansion
halts at the first one that is not and tells the command, so that it can be run and expansion begun again
with its output. Until then nothing has been changed.
-/

namespace Offspring.Shell

/-- Why an expansion halts. -/
inductive Halt where
  /-- The output of a command is needed. -/
  | command (source : List Char)
  | fault (message : List Char)

/-- An expansion under way. -/
structure Draft where
  scope : Scope
  /-- The outputs of commands that have not been used yet. -/
  outputs : List (List Char)

/-- A part of an expansion. -/
abbrev Expand := StateT Draft (Except Halt)

/-- A piece of an expanded word. -/
inductive Atom where
  | mark (c : Char) (isQuoted : Bool)
  /-- A character of an unquoted replacement, which may divide fields. -/
  | loose (c : Char)
  /-- Here is a field, even if it holds nothing. -/
  | present
  /-- Here one field ends and another begins. -/
  | cut

namespace Expansion

/-- Halts for a fault. -/
def fail {α : Type} (message : List Char) : Expand α :=
  fun _ => .error (.fault message)

/-- A replacement, as pieces. -/
def replaced (isQuoted : Bool) (value : List Char) : List Atom :=
  value.map fun c => if isQuoted then .mark c true else .loose c

/-- The output of the next command, without the ends of lines at its end. -/
def outputOf (source : List Char) : Expand (List Char) := fun draft =>
  match draft.outputs with
  | [] => .error (.command source)
  | output :: outputs =>
    .ok ((output.reverse.dropWhile (· = '\n')).reverse, { draft with outputs })

/-- The value of an arithmetic text. -/
def arithmetic (text : List Char) : Expand (List Char) := fun draft =>
  match Arith.run draft.scope.number text with
  | .error fault => .error (.fault (fault.message text))
  | .ok (n, set) =>
    let scope := set.reverse.foldl (fun s (name, value) => s.set name (toString value).toList) draft.scope
    .ok ((toString n).toList, { draft with scope })

/-- The positional parameters in one word. -/
def allParameters (isQuoted : Bool) (isOneField : Bool) (s : Scope) : List Atom :=
  if isQuoted && isOneField then
    replaced true ((s.separators.take 1).intercalate s.positional)
  else
    let fields := s.positional.map fun value =>
      if isQuoted then .present :: replaced true value else replaced false value
    [Atom.cut].intercalate fields

/-- The name of a parameter at the front of a text. -/
def parameterName (text : List Char) : List Char × List Char :=
  match text with
  | [] => ([], [])
  | c :: rest =>
    if c.isDigit then
      let digits := text.takeWhile Char.isDigit
      (digits, text.dropWhile Char.isDigit)
    else if isNameChar c then (text.takeWhile isNameChar, text.dropWhile isNameChar)
    else if "@*#?$!-".toList.contains c then ([c], rest)
    else ([], text)

/-- The characters of pieces, each with whether it is quoted. -/
def marks (atoms : List Atom) : List Marked :=
  atoms.filterMap fun
    | .mark c quoted => some (c, quoted)
    | .loose c => some (c, false)
    | .present => none
    | .cut => some (' ', false)

/-- The text of pieces that are not divided into fields. -/
def plainText (atoms : List Atom) : List Char :=
  (marks atoms).map (·.1)

/-- Pieces that take part in the division into fields when nothing around them is quoted. -/
def loosened (isQuoted : Bool) (atoms : List Atom) : List Atom :=
  if isQuoted then atoms
  else
    atoms.map fun
      | .mark c false => .loose c
      | other => other

/-- The characters that a backslash takes their meaning from within double quotes. -/
def escapable (c : Char) : Bool :=
  "$\"\\\x60".toList.contains c

/-- The text between backquotes as a command. -/
def unescapeBack : List Char → List Char
  | '\\' :: c :: rest =>
    if "$\\\x60".toList.contains c then c :: unescapeBack rest else '\\' :: c :: unescapeBack rest
  | c :: rest => c :: unescapeBack rest
  | [] => []

mutual

/-- The pieces of a text, of which so many characters are left at most. -/
def atoms : Nat → Bool → List Char → Expand (List Atom)
  | 0, _, _ | _, _, [] => pure []
  | fuel + 1, isQuoted, c :: rest => do
    if c = '\\' then
      match rest with
      | [] => pure [.mark '\\' true]
      | d :: rest =>
        let later ← atoms fuel isQuoted rest
        if d = '\n' then pure later
        else if isQuoted && !escapable d then pure (.mark '\\' true :: .mark d true :: later)
        else pure (.mark d true :: later)
    else if c = '\'' && !isQuoted then
      let (text, rest) := (inside .single rest).getD ([], [])
      let later ← atoms fuel isQuoted rest
      pure (.present :: replaced true text ++ later)
    else if c = '"' then
      if isQuoted then atoms fuel isQuoted rest
      else
        let (text, rest) := (inside .double rest).getD ([], [])
        let hasNoField := text = "$@".toList && (← get).scope.positional.isEmpty
        let now ← atoms fuel true text
        let later ← atoms fuel isQuoted rest
        pure (if hasNoField then later else .present :: now ++ later)
    else if c = '\x60' then
      let (text, rest) := (inside .back rest).getD ([], [])
      let value ← outputOf (unescapeBack text)
      let later ← atoms fuel isQuoted rest
      pure (replaced isQuoted value ++ later)
    else if c = '$' then
      let (now, rest) ← dollar fuel isQuoted rest
      let later ← atoms fuel isQuoted rest
      pure (now ++ later)
    else
      let later ← atoms fuel isQuoted rest
      pure (.mark c isQuoted :: later)

/-- The pieces of what follows a dollar sign, and the text after it. -/
def dollar : Nat → Bool → List Char → Expand (List Atom × List Char)
  | 0, _, rest => pure ([], rest)
  | fuel + 1, isQuoted, text => do
    match text with
    | '(' :: rest =>
      let (source, rest) := (inside .paren rest).getD ([], [])
      match source.head? = some '(' && source.getLast? = some ')' with
      | true =>
        let inner ← atoms fuel true source.tail.dropLast
        pure (replaced isQuoted (← arithmetic (plainText inner)), rest)
      | false => pure (replaced isQuoted (← outputOf source), rest)
    | '\x7b' :: rest =>
      let (content, rest) := (inside .brace rest).getD ([], [])
      pure (← braced fuel isQuoted content, rest)
    | c :: rest =>
      let (name, after) := if c.isDigit then ([c], rest) else parameterName text
      if name.isEmpty then pure ([.mark '$' isQuoted], text)
      else
        let scope := (← get).scope
        if name = ['@'] then pure (allParameters isQuoted false scope, after)
        else if name = ['*'] then pure (allParameters isQuoted true scope, after)
        else pure (replaced isQuoted ((scope.parameter? name).getD []), after)
    | [] => pure ([.mark '$' isQuoted], [])

/-- The pieces of a parameter in braces. -/
def braced : Nat → Bool → List Char → Expand (List Atom)
  | 0, _, _ => pure []
  | fuel + 1, isQuoted, content => do
    let scope := (← get).scope
    let length : Option (List Char) :=
      match content with
      | '#' :: c :: rest =>
        let (name, after) := parameterName (c :: rest)
        if name.isEmpty || !after.isEmpty then none else some name
      | _ => none
    match length with
    | some name =>
      let count := if name = ['@'] || name = ['*'] then scope.positional.length
        else ((scope.parameter? name).getD []).length
      pure (replaced isQuoted (toString count).toList)
    | none =>
      let (name, after) := parameterName content
      if name.isEmpty then fail "Bad substitution".toList
      else if name = ['@'] && after.isEmpty then pure (allParameters isQuoted false scope)
      else if name = ['*'] && after.isEmpty then pure (allParameters isQuoted true scope)
      else
        let value := if name = ['@'] || name = ['*'] then
            (if scope.positional.isEmpty then none else some ([' '].intercalate scope.positional))
          else scope.parameter? name
        let (value, operation) : Option (List Char) × List Char :=
          match after with
          | ':' :: rest => (value.filter (!·.isEmpty), rest)
          | rest => (value, rest)
        let usual := replaced isQuoted (value.getD [])
        match operation with
        | [] => pure usual
        | '-' :: word =>
          match value with
          | some value => pure (replaced isQuoted value)
          | none => pure (loosened isQuoted (← atoms fuel isQuoted word))
        | '+' :: word =>
          match value with
          | some _ => pure (loosened isQuoted (← atoms fuel isQuoted word))
          | none => pure []
        | '=' :: word =>
          match value with
          | some value => pure (replaced isQuoted value)
          | none =>
            let text := plainText (← atoms fuel isQuoted word)
            modify fun draft => { draft with scope := draft.scope.set name text }
            pure (replaced isQuoted text)
        | '?' :: word =>
          match value with
          | some value => pure (replaced isQuoted value)
          | none =>
            let text := plainText (← atoms fuel isQuoted word)
            fail (name ++ ": ".toList ++ (if word.isEmpty then "parameter not set".toList else text))
        | '#' :: word =>
          let (longest, word) := if word.head? = some '#' then (true, word.tail) else (false, word)
          let pattern := marks (← atoms fuel false word)
          let text := value.getD []
          pure (replaced isQuoted (text.drop ((Pattern.frontLength? longest pattern text).getD 0)))
        | '%' :: word =>
          let (longest, word) := if word.head? = some '%' then (true, word.tail) else (false, word)
          let pattern := marks (← atoms fuel false word)
          let text := value.getD []
          pure (replaced isQuoted
            (text.take ((Pattern.keptLength? longest pattern text).getD text.length)))
        | _ => fail "Bad substitution".toList

end

/-- The pieces of a word. A tilde at its start stands for the home directory. -/
def ofWord (word : Word) : Expand (List Atom) := do
  match word with
  | '~' :: rest =>
    match rest.head?, (← get).scope.get? "HOME".toList with
    | none, some home | some '/', some home =>
      pure (replaced true home ++ (← atoms rest.length false rest))
    | _, _ => atoms word.length false word
  | _ => atoms word.length false word

/-- The fields of pieces. `current` is the field that has begun, the latest character first. -/
def divide (separators : List Char) (current : Option (List Marked)) :
    List Atom → List (List Marked)
  | [] => current.toList.map List.reverse
  | .mark c quoted :: rest => divide separators (some ((c, quoted) :: current.getD [])) rest
  | .present :: rest => divide separators (some (current.getD [])) rest
  | .cut :: rest => current.toList.map List.reverse ++ divide separators none rest
  | .loose c :: rest =>
    if !separators.contains c then divide separators (some ((c, false) :: current.getD [])) rest
    else if c.isWhitespace then current.toList.map List.reverse ++ divide separators none rest
    else (current.getD []).reverse :: divide separators none rest

/-- The fields of a word; a field that is a pattern becomes the names of the files that `files` finds for
it. -/
def fields (files : List Marked → List (List Char)) (word : Word) : Expand (List (List Char)) := do
  let atoms ← ofWord word
  let separators := (← get).scope.separators
  pure ((divide separators none atoms).flatMap fun field =>
    let found := if Pattern.isOpen field then files field else []
    if found.isEmpty then [field.map (·.1)] else found)

/-- The fields of words. -/
def allFields (files : List Marked → List (List Char)) (words : List Word) :
    Expand (List (List Char)) := do
  let fieldLists ← words.mapM (fields files)
  pure fieldLists.flatten

/-- The text of a word that stands for one text. -/
def text (word : Word) : Expand (List Char) := do
  pure (plainText (← ofWord word))

/-- The characters of a word that is a pattern. -/
def pattern (word : Word) : Expand (List Marked) := do
  pure (marks (← ofWord word))

/-- The name and the value of a word that is an assignment, as they are written. -/
def assignment? (word : Word) : Option (List Char × Word) :=
  let name := word.takeWhile (· ≠ '=')
  match word.dropWhile (· ≠ '=') with
  | _ :: value => if isName name then some (name, value) else none
  | [] => none

end Expansion

end Offspring.Shell
