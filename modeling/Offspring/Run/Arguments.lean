import Offspring.OsString
import Offspring.Run.Number

/-!
# Arguments of the command line

`Request.ofArguments` reads arguments into what they ask for. Options stand in any order, each once unless
it can be repeated; the program to run and its arguments come after two dashes. A value is checked when the
next option or the end shows that the option has all it gets, so an unknown option is told before a bad
value right in front of it. Which options exclude each other, and what is missing, is looked at last.
-/

namespace Offspring.Run

/-- An option. -/
inductive OptionName where
  | stdin
  | stdout
  | stderr
  | capture
  | stdoutOnly
  | detach
  | umask
  | cwd
  | env
  | inheritEnv
  | timeout
  | config
  deriving DecidableEq

namespace OptionName

/-- The long form of an option, without its dashes. -/
def long : OptionName → String
  | .stdin => "stdin"
  | .stdout => "stdout"
  | .stderr => "stderr"
  | .capture => "capture"
  | .stdoutOnly => "stdout-only"
  | .detach => "detach"
  | .umask => "umask"
  | .cwd => "cwd"
  | .env => "env"
  | .inheritEnv => "inherit-env"
  | .timeout => "timeout"
  | .config => "config"

/-- What the value of an option is called; a flag has none. -/
def valueName? : OptionName → Option String
  | .stdin => some "STDIN"
  | .stdout => some "STDOUT"
  | .stderr => some "STDERR"
  | .umask => some "UMASK"
  | .cwd => some "CWD"
  | .env => some "KEY=VALUE"
  | .timeout => some "TIMEOUT"
  | .config => some "CONFIG"
  | .capture | .stdoutOnly | .detach | .inheritEnv => none

/-- The letter of an option. -/
def letter? : OptionName → Option Char
  | .timeout => some 't'
  | .config => some 'c'
  | _ => none

/-- Whether an option can be given more than once. -/
def isRepeatable (o : OptionName) : Bool :=
  o = .env

/-- How a message shows an option. -/
def shown (o : OptionName) : String :=
  "--" ++ o.long ++
    (match o.valueName? with
     | some name => " <" ++ name ++ ">"
     | none => "")

/-- The options that cannot be given together with one. -/
def excluded : OptionName → List OptionName
  | .capture => [.stdin, .stdout, .stderr]
  | .stdin | .stdout | .stderr => [.capture]
  | _ => []

end OptionName

/-- Why arguments are refused. -/
inductive UsageError where
  | unexpected (arg : String)
  | unknownCommand (arg : String)
  | valueRequired (o : OptionName)
  | valueNotWanted (shown value : String)
  | repeated (o : OptionName)
  | invalidValue (o : OptionName) (value reason : String)
  | notText
  | conflict (o : OptionName) (others : List OptionName)
  | programMissing
  deriving DecidableEq

/-- The wording of a refusal. -/
def UsageError.message : UsageError → String
  | .unexpected arg => "unexpected argument '" ++ arg ++ "' found"
  | .unknownCommand arg => "unrecognized subcommand '" ++ arg ++ "'"
  | .valueRequired o => "a value is required for '" ++ o.shown ++ "' but none was supplied"
  | .valueNotWanted shown value =>
    "unexpected value '" ++ value ++ "' for '" ++ shown ++ "' found; no more were expected"
  | .repeated o => "the argument '" ++ o.shown ++ "' cannot be used multiple times"
  | .invalidValue o value reason =>
    "invalid value '" ++ value ++ "' for '" ++ o.shown ++ "': " ++ reason
  | .notText => "invalid UTF-8 was detected in one or more arguments"
  | .conflict o [other] =>
    "the argument '" ++ o.shown ++ "' cannot be used with '" ++ other.shown ++ "'"
  | .conflict o _ => "the argument '" ++ o.shown ++ "' cannot be used with:"
  | .programMissing => "the following required arguments were not provided:"

/-- The value that an option was given. -/
inductive OptionValue where
  | flag
  | path (p : OsString)
  | text (s : String)
  | number (n : Nat)
  deriving DecidableEq

/-- Octets that have to be text. -/
def readText (value : OsString) : Except UsageError String :=
  match Text.strict? value with
  | some s => .ok s
  | none => .error .notText

/-- The value of an option; a path must not be empty. -/
def readValue (o : OptionName) (value : OsString) : Except UsageError OptionValue :=
  match o with
  | .stdin | .stdout | .stderr | .cwd | .config =>
    if value.isEmpty then .error (.valueRequired o) else .ok (.path value)
  | .env => do .ok (.text (← readText value))
  | .umask => do
    let text ← readText value
    match readMask text with
    | .ok mask => .ok (.number mask)
    | .error fault => .error (.invalidValue o text fault.message)
  | .timeout => do
    let text ← readText value
    match readSeconds text with
    | .ok seconds => .ok (.number seconds)
    | .error fault => .error (.invalidValue o text fault.message)
  | .capture | .stdoutOnly | .detach | .inheritEnv => .ok .flag

/-- Options with their values, in the order in which they were given. -/
abbrev Given := List (OptionName × OptionValue)

/-- Arguments that are being read. -/
structure Reading where
  given : Given := []
  /-- An option that may still get a value, or whose value has not been checked yet. -/
  pending : Option (OptionName × Option OsString) := none
  /-- What came after two dashes. -/
  operands : Option (List OsString) := none

namespace Reading

/-- Takes an option with the value that it has got. -/
def take (r : Reading) (o : OptionName) (value : Option OsString) : Except UsageError Reading :=
  match o.valueName?, value with
  | some _, none => .error (.valueRequired o)
  | _, value =>
    if !o.isRepeatable && r.given.any (·.1 = o) then .error (.repeated o)
    else do
      let v ← readValue o (value.getD .empty)
      .ok { r with given := r.given ++ [(o, v)], pending := none }

/-- Takes the pending option. -/
def settle (r : Reading) : Except UsageError Reading :=
  match r.pending with
  | some (o, value) => { r with pending := none }.take o value
  | none => .ok r

/-- Takes an option that has been met, with the value that is attached to it. -/
def meet (r : Reading) (o : OptionName) (attached : Option OsString) : Except UsageError Reading :=
  match o.valueName?, attached with
  | none, some value => .error (.valueNotWanted ("--" ++ o.long) value.shown)
  | none, none => do (← r.settle).take o none
  | some _, some value => do (← r.settle).take o (some value)
  | some _, none => do .ok { (← r.settle) with pending := some (o, none) }

end Reading

/-- Octets before the first equals sign and, if there is one, those after it. -/
def divide (octets : List UInt8) : OsString × Option OsString :=
  let name : OsString := ⟨(octets.takeWhile (· ≠ 0x3D)).toArray⟩
  match octets.dropWhile (· ≠ 0x3D) with
  | [] => (name, none)
  | _ :: value => (name, some ⟨value.toArray⟩)

/-- What reading arguments ends with when it does not come to their end. -/
inductive Stop where
  | usage (e : UsageError)
  /-- A help page is asked for. -/
  | help
  | version
  deriving DecidableEq

/-- Refuses arguments. -/
def refuse {α : Type} (e : UsageError) : Except Stop α :=
  .error (.usage e)

/-- A refusal as the end of reading. -/
def stopping {α : Type} (answer : Except UsageError α) : Except Stop α :=
  answer.mapError .usage

/-- Reads the letters after one dash; octets that are no text are shown with replacements. -/
def readLetters (allowed : List OptionName) (r : Reading) (letters : OsString) :
    Except Stop Reading :=
  match (Text.lossy letters).toList with
  | [] => .ok r
  | c :: _ =>
    match allowed.find? (·.letter? = some c) with
    | some o =>
      let attached := letters.extract 1 letters.size
      let attached : Option OsString :=
        match attached.toList with
        | [] => none
        | 0x3D :: value => some ⟨value.toArray⟩
        | _ => some attached
      stopping (r.meet o attached)
    | none =>
      if c = 'h' then .error .help
      else refuse (.unexpected (String.ofList ['-', c]))

/-- Reads an argument that comes before two dashes. -/
def readArgument (allowed : List OptionName) (r : Reading) (arg : OsString) : Except Stop Reading :=
  match arg.toList with
  | 0x2D :: 0x2D :: [] => .ok { r with operands := some [] }
  | 0x2D :: 0x2D :: rest =>
    let (name, attached) := divide rest
    match allowed.find? fun o => OsString.ofString o.long = name with
    | some o => stopping (r.meet o attached)
    | none =>
      if name = OsString.ofString "help" then .error .help
      else refuse (.unexpected ("--" ++ name.shown))
  | 0x2D :: c :: rest => readLetters allowed r ⟨(c :: rest).toArray⟩
  | _ =>
    match r.pending with
    | some (o, none) => .ok { r with pending := some (o, some arg) }
    | _ => refuse (.unexpected arg.shown)

/-- Reads arguments one after the other. -/
def readArguments (allowed : List OptionName) (takesOperands : Bool) (r : Reading) :
    List OsString → Except Stop Reading
  | [] => stopping r.settle
  | arg :: rest => do
    match r.operands with
    | none => readArguments allowed takesOperands (← readArgument allowed r arg) rest
    | some operands =>
      if takesOperands then
        let r ← stopping r.settle
        readArguments allowed takesOperands { r with operands := some (operands ++ [arg]) } rest
      else refuse (.unexpected arg.shown)

/-- The first option that cannot be given together with others that were given. -/
def conflict? (given : Given) : Option UsageError :=
  given.findSome? fun (o, _) =>
    let others := (given.map (·.1)).filter fun other => o.excluded.contains other
    if others.isEmpty then none else some (.conflict o others)

/-- What a run asks for on the command line. -/
structure RunRequest where
  program : String
  /-- The arguments, the program's name included. -/
  args : List String
  given : Given
  deriving DecidableEq

/-- What the command line asks for. -/
inductive Request where
  | run (request : RunRequest)
  /-- To run what a file describes, a given one or the usual one. -/
  | exec (file : Option OsString)
  deriving DecidableEq

/-- The options of a run. -/
def runOptions : List OptionName :=
  [.stdin, .stdout, .stderr, .capture, .stdoutOnly, .detach, .umask, .cwd, .env, .inheritEnv, .timeout]

/-- Reads the arguments of a run. -/
def readRun (args : List OsString) : Except Stop Request := do
  let r ← readArguments runOptions true {} args
  let words ← stopping ((r.operands.getD []).mapM readText)
  match conflict? r.given, words with
  | some e, _ => refuse e
  | none, [] => refuse .programMissing
  | none, program :: _ => .ok (.run ⟨program, words, r.given⟩)

/-- Reads the arguments of a run from a file. -/
def readExec (args : List OsString) : Except Stop Request := do
  let r ← readArguments [.config] false {} args
  .ok (.exec (r.given.findSome? fun
    | (.config, .path p) => some p
    | _ => none))

/-- The commands. -/
def commandNames : List OsString :=
  ["run", "exec", "help"].map OsString.ofString

/-- Reads what comes before a command, and the command. -/
def Request.ofArguments (args : List OsString) : Except Stop Request :=
  match args with
  | [] => .error .help
  | first :: rest =>
    match first.toList with
    | 0x2D :: 0x2D :: [] =>
      match rest with
      | [] => .error .help
      | arg :: _ =>
        refuse (if commandNames.contains arg then .unexpected arg.shown else .unknownCommand arg.shown)
    | 0x2D :: 0x2D :: name =>
      let (name, attached) := divide name
      if name = OsString.ofString "version" || name = OsString.ofString "help" then
        match attached with
        | some value => refuse (.valueNotWanted ("--" ++ name.shown) value.shown)
        | none => .error (if name = OsString.ofString "version" then .version else .help)
      else refuse (.unexpected ("--" ++ name.shown))
    | 0x2D :: c :: letters =>
      match (Text.lossy ⟨(c :: letters).toArray⟩).toList with
      | 'V' :: _ => .error .version
      | 'h' :: _ => .error .help
      | c :: _ => refuse (.unexpected (String.ofList ['-', c]))
      | [] => .error .help
    | _ =>
      if first = OsString.ofString "run" then readRun rest
      else if first = OsString.ofString "exec" then readExec rest
      else if first = OsString.ofString "help" then .error .help
      else refuse (.unknownCommand first.shown)

end Offspring.Run
