import Offspring.Shell.Redirecting
import Offspring.Utility.Printf
import Offspring.Utility.FileFacts

/-!
# Builtin commands

A builtin gets its arguments and tells what the shell does next. Output is left to be written, since a
write may have to wait.
-/

namespace Offspring.Shell

open Posix (Fd Pid)
open Machine (FileTree Process)

variable {T : Type}

namespace Builtin

/-- A builtin, given its name and arguments. -/
abbrev Behavior (T : Type) := Pid → State → List (List Char) → Machine T → State × Machine T

/-- A builtin that only ends. -/
def ends (status : Nat) : Behavior T := fun _ s _ m => (s.settle status, m)

/-- A builtin that writes to its output and ends. -/
def answer (s : State) (output : List Char) (status : Nat) : State :=
  if output.isEmpty then s.settle status else s.goTo (.emit [(1, Text.octets output)] status)

/-- Texts with something between them. -/
def join (between : Char) (texts : List (List Char)) : List Char :=
  [between].intercalate texts

/-- A line of text. -/
def line (text : List Char) : List Char :=
  text ++ ['\n']

/-- Writes its arguments with blanks between them. Escapes are replaced. -/
def echo : Behavior T := fun _ s args m =>
  let (ending, args) : List Char × List (List Char) :=
    match args with
    | ['-', 'n'] :: rest => ([], rest)
    | args => (['\n'], args)
  let text := join ' ' args
  let (text, halted) := Printf.expandEscapes text.length text
  (answer s (text ++ if halted then [] else ending) 0, m)

/-- Writes arguments in a format. -/
def printf : Behavior T := fun _ s args m =>
  match args with
  | [] | [['-', '-']] => (s.complain "printf: usage: printf format [arg ...]".toList 2, m)
  | ('-' :: c :: _) :: rest =>
    if c = '-' then write s rest m
    else (s.complain ("printf: Illegal option -".toList ++ [c]) 2, m)
  | args => write s args m
where
  /-- Writes the arguments that come after the first one as that tells. -/
  write (s : State) (args : List (List Char)) (m : Machine T) : State × Machine T :=
    let r := Printf.run (args.headD []) args.tail
    let complaints := r.complaints.map fun c => ((2 : Fd), s.complaint ("printf: ".toList ++ c.message))
    let output := if r.output.isEmpty then [] else [((1 : Fd), Text.octets r.output)]
    (s.goTo (.emit (complaints ++ output) (if complaints.isEmpty then 0 else if r.halted then 2 else 1)), m)

/-- The number that an argument is. -/
def number? (arg : List Char) : Option Nat :=
  if arg.isEmpty || !arg.all Char.isDigit then none else some (Text.decimal arg)

/-- The complaint about an argument that should be a number. -/
def illegalNumber (name arg : List Char) : List Char :=
  name ++ ": Illegal number: ".toList ++ arg

/-- Ends the shell, with the status of the last command unless one is given. -/
def exit : Behavior T := fun _ s args m =>
  match args with
  | [] => (s.goTo (.leave s.scope.status), m)
  | arg :: _ =>
    match number? arg with
    | some n => (s.goTo (.leave n), m)
    | none => (s.giveUp (illegalNumber "exit".toList arg) 2, m)

/-- Evaluates a condition. -/
def test (name : List Char) : Behavior T := fun pid s args m =>
  let closed := name = ['['] && args.getLast? ≠ some [']']
  if closed then (s.complain "[: missing ]".toList 2, m)
  else
    let words := if name = ['['] then args.dropLast else args
    match m.process? pid with
    | none => (s.settle 1, m)
    | some p =>
      match Condition.holds (Condition.fileFacts m p) words with
      | .ok holds => (s.settle (if holds then 0 else 1), m)
      | .error fault => (s.complain (name ++ ": ".toList ++ fault.message) 2, m)

/-- Replaces the parts of a path that go nowhere or up. -/
def tidy (path : List Char) : List Char :=
  let step (way : List OsString) (name : OsString) : List OsString :=
    if name = FileTree.dot then way
    else if name = FileTree.dotDot then way.tail
    else name :: way
  Text.chars (FileTree.absolute ((FileTree.names (Text.octets path)).foldl step []).reverse)

/-- Changes the directory. -/
def cd : Behavior T := fun pid s args m =>
  let target? :=
    match args with
    | [] => s.scope.get? "HOME".toList
    | ['-'] :: _ => s.scope.get? "OLDPWD".toList
    | arg :: _ => some arg
  match target? with
  | none => (s.settle 0, m)
  | some target =>
    match m.changeDirectory pid (Text.octets target) with
    | (.error _, m) => (s.complain ("cd: can't cd to ".toList ++ target) 2, m)
    | (.ok (), m) =>
      let before := (s.scope.get? "PWD".toList).getD []
      let now := tidy (if target.head? = some '/' then target else before ++ '/' :: target)
      let scope := ((s.scope.set "OLDPWD".toList before).markExported "OLDPWD".toList).set "PWD".toList now
      let s := { s with scope }
      (if args.head? = some ['-'] then answer s (line now) 0 else s.settle 0, m)

/-- Tells the directory. -/
def pwd : Behavior T := fun pid s args m =>
  let physical := ((m.process? pid).map fun p => Text.chars (m.tree.pathOf p.cwd)).getD []
  let told := if args.contains "-P".toList then physical else (s.scope.get? "PWD".toList).getD physical
  (answer s (line told) 0, m)

/-- A number in octal with four digits at least. -/
def fourOctalDigits (n : Nat) : List Char :=
  let digits := Nat.toDigits 8 n
  List.replicate (4 - digits.length) '0' ++ digits

/-- Tells or sets the mask for new files. -/
def umask : Behavior T := fun pid s args m =>
  let mask := ((m.process? pid).map (·.umask)).getD 0
  match args with
  | [] => (answer s (line (fourOctalDigits mask)) 0, m)
  | ['-', 'S'] :: _ => (answer s (line (symbolic mask)) 0, m)
  | arg :: _ =>
    match Text.leadingNumber 8 0 arg with
    | (n, []) => (s.settle 0, m.setUmask pid n)
    | _ =>
      if arg.head?.any Char.isDigit then (s.complain (illegalNumber "umask".toList arg) 2, m)
      else (s.complain ("umask: Illegal mode: ".toList ++ arg) 2, m)
where
  /-- The permissions that a mask leaves, in letters. -/
  symbolic (mask : Nat) : List Char :=
    let holder (letter : Char) (shift : Nat) : List Char :=
      let kept (bit : Nat) (c : Char) : List Char := if mask / (bit * shift) % 2 = 0 then [c] else []
      letter :: '=' :: kept 4 'r' ++ kept 2 'w' ++ kept 1 'x'
    join ',' [holder 'u' 64, holder 'g' 8, holder 'o' 1]

/-- Starts reading a line into variables. -/
def readLine : Behavior T := fun _ s args m =>
  let (isRaw, names) : Bool × List (List Char) :=
    match args with
    | ['-', 'r'] :: rest => (true, rest)
    | args => (false, args)
  match names with
  | [] => (s.giveUp "read: arg count".toList 2, m)
  | names => (s.goTo (.reading names isRaw []), m)

/-- Whether a character of a line divides fields. -/
def isSeparator (separators : List Char) (c : Marked) : Bool :=
  !c.2 && separators.contains c.1

/-- Whether a character of a line divides fields and can be left out at their ends. -/
def isBlankSeparator (separators : List Char) (c : Marked) : Bool :=
  isSeparator separators c && c.1.isWhitespace

/-- Gives the fields of a line to variables; the last one gets all that is left. -/
def assignFields (separators : List Char) (scope : Scope) : List (List Char) → List Marked → Scope
  | [], _ => scope
  | [name], text =>
    let text := text.dropWhile (isBlankSeparator separators)
    let text := (text.reverse.dropWhile (isBlankSeparator separators)).reverse
    scope.set name (text.map (·.1))
  | name :: names, text =>
    let text := text.dropWhile (isBlankSeparator separators)
    let field := text.takeWhile (!isSeparator separators ·)
    let rest := (text.dropWhile (!isSeparator separators ·)).dropWhile (isBlankSeparator separators)
    let rest :=
      match rest with
      | c :: after =>
        if isSeparator separators c && !c.1.isWhitespace then
          after.dropWhile (isBlankSeparator separators)
        else rest
      | [] => []
    assignFields separators (scope.set name (field.map (·.1))) names rest

/-- Ends reading a line. -/
def takeLine (s : State) (names : List (List Char)) (text : List Marked) (status : Nat) : State :=
  { s with scope := assignFields s.scope.separators s.scope names text.reverse }.settle status

/-- The signal that an argument names, with or without `SIG` in front. -/
def signal? (arg : List Char) : Option Nat :=
  let name := if "SIG".toList.isPrefixOf arg then arg.drop 3 else arg
  if name = "EXIT".toList then some 0 else Machine.Signal.named? (String.ofList name)

/-- Sets what is done for one signal. -/
def trapOne (pid : Pid) (action : Option (List Char)) (s : State) (m : Machine T) (signal : Nat) :
    State × Machine T :=
  let others := s.traps.filter (·.1 ≠ signal)
  let m := m.modifyProcess pid fun p =>
    let p := { p with
      ignored := p.ignored.filter (· ≠ signal)
      caught := p.caught.filter (· ≠ signal) }
    match action with
    | none => p
    | some action =>
      if signal = 0 || !Machine.Signal.isCatchable signal then p
      else if action.isEmpty then { p with ignored := signal :: p.ignored }
      else { p with caught := signal :: p.caught }
  match action with
  | none => ({ s with traps := others }, m)
  | some action => ({ s with traps := others ++ [(signal, action)] }, m)

/-- Sets what is done for signals. -/
def trap : Behavior T := fun pid s args m =>
  let args := if args.head? = some "--".toList then args.tail else args
  match args with
  | [] => (s.settle 0, m)
  | first :: rest =>
    let (action, names) : Option (List Char) × List (List Char) :=
      if rest.isEmpty || (number? first).isSome then (none, args)
      else if first = ['-'] then (none, rest)
      else (some first, rest)
    match names.find? fun name => (signal? name).isNone with
    | some name => (s.complain ("trap: ".toList ++ name ++ ": bad trap".toList) 1, m)
    | none =>
      let (s, m) := (names.filterMap signal?).foldl
        (fun (acc : State × Machine T) signal => trapOne pid action acc.1 acc.2 signal) (s, m)
      (s.settle 0, m)

/-- The process that an argument names; a negative number names a group. -/
def target? (arg : List Char) : Option Int :=
  match arg with
  | '-' :: rest => (number? rest).map fun n => -(n : Int)
  | arg => (number? arg).map fun n => (n : Int)

/-- Sends a signal to processes one after the other, up to an argument that names none. The complaints
come back, and the status. -/
def sendAll (pid : Pid) (signal : Nat) :
    List (List Char) → Machine T → (List (List Char) × Nat) × Machine T
  | [], m => (([], 0), m)
  | arg :: rest, m =>
    match target? arg with
    | none => (([illegalNumber "kill".toList arg], 2), m)
    | some target =>
      match m.sendFrom pid target signal with
      | (.ok (), m) => sendAll pid signal rest m
      | (.error e, m) =>
        let ((complaints, status), m) := sendAll pid signal rest m
        ((("kill: ".toList ++ e.text.toList ++ ['\n']) :: complaints, max 1 status), m)

/-- The signal and the processes that the arguments of a sending command name. -/
def killRequest (args : List (List Char)) : Option (Nat × List (List Char)) :=
  match args with
  | ['-', 's'] :: name :: rest => (signal? name).map (·, rest)
  | ['-', '-'] :: rest => some (15, rest)
  | ('-' :: c :: name) :: rest => (signal? (c :: name)).map (·, rest)
  | args => some (15, args)

/-- How a sending command is used. -/
def killUsage : List Char :=
  "kill: Usage: kill [-s sigspec | -signum | -sigspec] [pid | job]... or\nkill -l [exitstatus]".toList

/-- The complaint about a signal that there is not. -/
def unknownSignal (args : List (List Char)) : List Char :=
  match args with
  | ['-', 's'] :: name :: _ => "kill: invalid signal number or name: ".toList ++ name
  | ('-' :: c :: _) :: _ => "kill: Illegal option -".toList ++ [c]
  | _ => killUsage

/-- Sends a signal. -/
def kill : Behavior T := fun pid s args m =>
  match killRequest args with
  | none => (s.complain (unknownSignal args) 2, m)
  | some (signal, targets) =>
    let targets := if targets.head? = some "--".toList then targets.tail else targets
    if targets.isEmpty then (s.complain killUsage 2, m)
    else
      let ((complaints, status), m) := sendAll pid signal targets m
      let writes := complaints.map fun text => ((2 : Fd), s.complaint text)
      (s.goTo (.emit writes status), m)

/-- Waits for children, for all of them unless some are named. -/
def wait : Behavior T := fun _ s args m =>
  match args with
  | [] => ({ s with children := [] }.goTo (.awaiting s.children 0 .all), m)
  | args =>
    let pids := args.filterMap number?
    ({ s with children := s.children.filter (!pids.contains ·) }.goTo (.awaiting pids 127 .named), m)

/-- Marks variables for programs. -/
def markExported : Behavior T := fun _ s args m =>
  let scope := args.foldl (fun (scope : Scope) arg =>
    match Expansion.assignment? arg with
    | some (name, value) => (scope.set name value).markExported name
    | none => if isName arg then scope.markExported arg else scope) s.scope
  ({ s with scope }.settle 0, m)

/-- Gives variables values that are to stay. -/
def keepValues : Behavior T := fun _ s args m =>
  let scope := args.foldl (fun (scope : Scope) arg =>
    match Expansion.assignment? arg with
    | some (name, value) => scope.set name value
    | none => scope) s.scope
  ({ s with scope }.settle 0, m)

/-- Gives variables values that only hold within the present function. -/
def localVariables : Behavior T := fun _ s args m =>
  let frames (name : List Char) : List Frame → List Frame
    | frames => frames.mapIdx fun i frame =>
      match frame with
      | .call positional locals =>
        if (frames.take i).any fun | .call .. => true | _ => false then frame
        else .call positional ((name, s.scope.bindings.lookup name) :: locals)
      | other => other
  let s := args.foldl (fun (s : State) arg =>
    let name := arg.takeWhile (· ≠ '=')
    let s := { s with frames := frames name s.frames }
    match Expansion.assignment? arg with
    | some (name, value) => { s with scope := s.scope.set name value }
    | none => s) s
  (s.settle 0, m)

/-- Forgets variables or functions. -/
def unset : Behavior T := fun _ s args m =>
  match args with
  | ['-', 'f'] :: names =>
    ({ s with functions := s.functions.filter fun (name, _) => !names.contains name }.settle 0, m)
  | args =>
    let names := args.filter (· ≠ "-v".toList)
    ({ s with scope := names.foldl Scope.unset s.scope }.settle 0, m)

/-- The shell with options and positional parameters from arguments. The only option that changes
something here is the one to end on a failure. -/
def withOptions (s : State) : List (List Char) → State
  | [] => s
  | ['-', '-'] :: rest => { s with scope := { s.scope with positional := rest } }
  | ['-', 'o'] :: name :: rest =>
    withOptions (if name = "errexit".toList then { s with endsOnFailure := true } else s) rest
  | ['+', 'o'] :: name :: rest =>
    withOptions (if name = "errexit".toList then { s with endsOnFailure := false } else s) rest
  | ('-' :: letters) :: rest =>
    withOptions (if letters.contains 'e' then { s with endsOnFailure := true } else s) rest
  | ('+' :: letters) :: rest =>
    withOptions (if letters.contains 'e' then { s with endsOnFailure := false } else s) rest
  | args => { s with scope := { s.scope with positional := args } }

/-- Sets options and the positional parameters. -/
def set : Behavior T := fun _ s args m =>
  ((withOptions s args).settle 0, m)

/-- Drops positional parameters. -/
def shift : Behavior T := fun _ s args m =>
  let count := ((args.head?).bind number?).getD 1
  if s.scope.positional.length < count then (s.giveUp "shift: can't shift that many".toList 2, m)
  else
    ({ s with scope := { s.scope with positional := s.scope.positional.drop count } }.settle 0, m)

/-- Runs its arguments as a text. -/
def eval : Behavior T := fun _ s args m =>
  (s.evaluate (join ' ' args) none, m)

/-- Runs the text in a file. -/
def sourceFile : Behavior T := fun pid s args m =>
  match args, m.process? pid with
  | path :: _, some p =>
    match m.tree.locate p.cwd (Text.octets path) with
    | .ok (id, _) => (s.evaluate (Text.chars (m.tree.octets id)) none, m)
    | .error _ => (s.giveUp (".: cannot open ".toList ++ path ++ ": No such file".toList) 2, m)
  | _, _ => (s.settle 0, m)

/-- Whether a frame belongs to a loop. -/
def isLoop : Frame → Bool
  | .tested .. | .repeated .. | .each .. => true
  | _ => false

/-- The frames without those above the loop that is so many loops further out, or the outermost one. -/
def toLoop : Nat → List Frame → List Frame × List Frame
  | _, [] => ([], [])
  | n, frame :: rest =>
    if isLoop frame && (n ≤ 1 || !rest.any isLoop) then ([], frame :: rest)
    else
      let (left, kept) := toLoop (if isLoop frame then n - 1 else n) rest
      (frame :: left, kept)

/-- Gives back the meanings of descriptors that frames have kept. -/
def undoAll (pid : Pid) (frames : List Frame) (m : Machine T) : Machine T :=
  frames.foldl (fun m frame =>
    match frame with
    | .undo saved => restore pid saved m
    | _ => m) m

/-- Leaves loops, or goes on with the next round of one. -/
def jump (isBreak : Bool) : Behavior T := fun pid s args m =>
  if !s.frames.any isLoop then (s.settle 0, m)
  else
    let count := ((args.head?).bind number?).getD 1
    let (left, kept) := toLoop count s.frames
    let m := undoAll pid left m
    if isBreak then ({ s with frames := kept.tail }.settle 0, m)
    else
      let kept :=
        match kept with
        | .tested isUntil test body _ :: rest => .repeated isUntil test body :: rest
        | frames => frames
      ({ s with frames := kept }.settle 0, m)

/-- Whether a function or a sourced text ends at a frame. -/
def isReturnPoint : Frame → Bool
  | .call .. | .source .. => true
  | _ => false

/-- Ends a function. -/
def returnFrom : Behavior T := fun pid s args m =>
  let status := ((args.head?).bind number?).getD s.scope.status
  if !s.frames.any isReturnPoint then (s.goTo (.leave status), m)
  else
    let left := s.frames.takeWhile (!isReturnPoint ·)
    let kept := s.frames.dropWhile (!isReturnPoint ·)
    let m := undoAll pid left m
    match kept with
    | .source .. :: _ =>
      ({ s with frames := kept, tokens := [], scope := { s.scope with status } }.goTo .fetch, m)
    | kept => ({ s with frames := kept }.settle status, m)

/-- The builtins whose failures end the shell. -/
def special : List String :=
  [":", ".", "break", "continue", "eval", "exec", "exit", "export", "readonly", "return", "set", "shift",
    "times", "trap", "unset"]

/-- The builtin with a name. -/
def find? (name : List Char) : Option (Behavior T) :=
  match String.ofList name with
  | ":" | "true" | "times" | "ulimit" | "hash" | "alias" | "unalias" => some (ends 0)
  | "false" => some (ends 1)
  | "echo" => some echo
  | "printf" => some printf
  | "exit" => some exit
  | "test" | "[" => some (test name)
  | "cd" | "chdir" => some cd
  | "pwd" => some pwd
  | "umask" => some umask
  | "read" => some readLine
  | "trap" => some trap
  | "kill" => some kill
  | "wait" => some wait
  | "export" => some markExported
  | "readonly" => some keepValues
  | "local" => some localVariables
  | "unset" => some unset
  | "set" => some set
  | "shift" => some shift
  | "eval" => some eval
  | "." => some sourceFile
  | "break" => some (jump true)
  | "continue" => some (jump false)
  | "return" => some returnFrom
  | _ => none

end Builtin

end Offspring.Shell
