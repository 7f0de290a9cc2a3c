import Offspring.Machine.Processes
import Offspring.Utility.FileFacts
import Offspring.Utility.Printf
import Offspring.Utility.Quoting

/-!
# Tools

Every tool but the shell is a row of jobs, worked off one after the other: writing, copying from one
descriptor to the output, sleeping, and turning into another program. A tool ends with the worst of what
its jobs have found.
-/

namespace Offspring.Utility

open Posix (Fd Pid)
open Machine (Tool)

variable {T : Type}

/-- How much is copied. -/
inductive Limit where
  | all
  | octets (count : Nat)
  | lines (count : Nat)
  deriving DecidableEq

/-- How many octets are copied at once. -/
def chunk : Nat := 8192

/-- What is left of a limit after some octets, and how many of them it lets through. -/
def Limit.after (limit : Limit) (octets : ByteArray) : Limit × Nat :=
  match limit with
  | .all => (.all, octets.size)
  | .octets n => (.octets (n - octets.size), min n octets.size)
  | .lines n =>
    let step (acc : Nat × Nat) (b : UInt8) : Nat × Nat :=
      if acc.1 = 0 then acc else (if b = 0x0A then acc.1 - 1 else acc.1, acc.2 + 1)
    let (left, taken) := octets.toList.foldl step (n, 0)
    (.lines left, taken)

/-- Whether a limit lets nothing through any more. -/
def Limit.isReached : Limit → Bool
  | .all => false
  | .octets n | .lines n => n = 0

/-- How much is read for a limit at once. -/
def Limit.request : Limit → Nat
  | .octets n => min n chunk
  | _ => chunk

/-- Where a tool copies from, under the name that it has in complaints. -/
structure Source where
  name : List Char
  /-- Whether only the beginning is copied. The tools for that word their complaints in their own way. -/
  isHead : Bool
  deriving DecidableEq

namespace Source

/-- The complaint that a source cannot be opened. -/
def unopened (s : Source) (e : Errno) : String :=
  (if s.isHead then "cannot open " ++ quoted .always s.name ++ " for reading"
    else quoted .ifNeeded s.name) ++ ": " ++ e.text

/-- The complaint that a source cannot be read. -/
def unread (s : Source) (e : Errno) : String :=
  (if s.isHead then "error reading " ++ quoted .always s.name else quoted .ifNeeded s.name) ++
    ": " ++ e.text

end Source

/-- Something that a tool does. -/
inductive Job where
  | write (fd : Fd) (octets : ByteArray)
  /-- Copies a file to the output. -/
  | copyFile (path : OsString) (isHead : Bool) (limit : Limit)
  | copy (source : Source) (fd : Fd) (limit : Limit)
  | close (fd : Fd)
  /-- Gives up if there is no output to write to. -/
  | needOutput
  /-- Closes the input, which is wrong if there is none. -/
  | closeInput (complaint : String)
  | sleepUntil (time : Nat)
  /-- Writes the same over and over. -/
  | forever (octets : ByteArray)
  | makeDirectory (path : OsString) (withParents : Bool)
  | remove (path : OsString) (isForced : Bool)
  | touch (path : OsString)
  | test (words : List (List Char)) (isBracket : Bool)
  | tellDirectory
  | become (argv environment : List OsString)
  deriving DecidableEq

/-- A tool at work. -/
structure Worker where
  name : OsString
  jobs : List Job
  status : Nat := 0

namespace Worker

/-- A complaint of a tool. -/
def complaint (name : OsString) (message : String) : Job :=
  .write 2 (name ++ OsString.ofString (": " ++ message ++ "\n"))

/-- The worker with other jobs to do. -/
def goOn (w : Worker) (jobs : List Job) : Worker :=
  { w with jobs }

/-- The worker after a job has failed: it complains, notes a status, and goes on. -/
def failed (w : Worker) (message : String) (status : Nat) (rest : List Job) : Worker :=
  { w with status, jobs := complaint w.name message :: rest }

/-! ### Reading argument vectors -/

/-- The microseconds of a decimal number, cut after the sixth place. -/
def microseconds? (text : List Char) : Option Nat :=
  let whole := text.takeWhile Char.isDigit
  let rest := text.dropWhile Char.isDigit
  let (places, rest) : List Char × List Char :=
    match rest with
    | '.' :: rest => (rest.takeWhile Char.isDigit, rest.dropWhile Char.isDigit)
    | rest => ([], rest)
  let unit? : Option Nat :=
    match rest with
    | [] | ['s'] => some 1
    | ['m'] => some 60
    | ['h'] => some 3600
    | ['d'] => some 86400
    | _ => none
  if whole.isEmpty && places.isEmpty then none
  else
    unit?.map fun unit =>
      let millionths := Text.decimal ((places ++ List.replicate 6 '0').take 6)
      (Text.decimal whole * 1000000 + millionths) * unit

/-- A number with a unit behind it. -/
def count? (text : List Char) : Option Nat :=
  let digits := text.takeWhile Char.isDigit
  if digits.isEmpty then none
  else
    match text.dropWhile Char.isDigit with
    | [] => some (Text.decimal digits)
    | ['b'] => some (Text.decimal digits * 512)
    | ['k'] | ['K'] => some (Text.decimal digits * 1024)
    | ['M'] => some (Text.decimal digits * 1048576)
    | _ => none

/-- How much the arguments ask for, and the files. -/
def headArguments (limit : Limit) : List (List Char) → Option (Limit × List (List Char))
  | ['-', 'c'] :: n :: rest => do headArguments (.octets (← count? n)) rest
  | ['-', 'n'] :: n :: rest => do headArguments (.lines (← count? n)) rest
  | ('-' :: 'c' :: n) :: rest => do headArguments (.octets (← count? n)) rest
  | ('-' :: 'n' :: n) :: rest => do headArguments (.lines (← count? n)) rest
  | ['-', '-'] :: rest => some (limit, rest)
  | ('-' :: c :: n) :: rest => do headArguments (.lines (← count? (c :: n))) rest
  | rest => some (limit, rest)

/-- The jobs to copy files, or the input if there are none or for a dash. -/
def copying (isHead : Bool) (limit : Limit) (files : List (List Char)) : List Job :=
  let files := if files.isEmpty then [['-']] else files
  let input : Source := ⟨(if isHead then "standard input" else "-").toList, isHead⟩
  let copies := files.map fun file =>
    if file = ['-'] then .copy input 0 limit else .copyFile (Text.octets file) isHead limit
  let ending := if files.contains ['-'] then
      [.closeInput (if isHead then "-: " else "closing standard input: ")]
    else []
  (if isHead then [] else [.needOutput]) ++ copies ++ ending

/-- An entry of an environment in the place of one with the same name, or at the end. -/
def putEntry (entry : List Char) : List (List Char) → List (List Char)
  | [] => [entry]
  | other :: rest =>
    if other.takeWhile (· ≠ '=') = entry.takeWhile (· ≠ '=') then entry :: rest
    else other :: putEntry entry rest

/-- The jobs of the tool that shows or changes an environment. -/
def envJobs (environment : List (List Char)) : List (List Char) → List Job
  | ['-', 'i'] :: rest | ['-'] :: rest => envJobs [] rest
  | ['-', 'u'] :: name :: rest => envJobs (environment.filter (·.takeWhile (· ≠ '=') ≠ name)) rest
  | ['-', '-'] :: rest => envJobs environment rest
  | [] => [.write 1 (Text.octets (environment.flatMap (· ++ ['\n'])))]
  | arg :: rest =>
    if arg.contains '=' then envJobs (putEntry arg environment) rest
    else [.become ((arg :: rest).map Text.octets) (environment.map Text.octets)]

/-- The options in front of the operands, and the operands. -/
def options (args : List (List Char)) : List (List Char) × List (List Char) :=
  let isOption (arg : List Char) : Bool := arg.head? = some '-' && arg.length > 1
  let found := args.takeWhile fun arg => isOption arg && arg ≠ "--".toList
  let rest := args.drop found.length
  (found, if rest.head? = some "--".toList then rest.tail else rest)

/-- Whether one of the options has a letter. -/
def hasOption (letter : Char) (found : List (List Char)) : Bool :=
  found.any (·.contains letter)

/-- The worker of a tool with its argument vector and environment. -/
def start (tool : Tool) (argv environment : List OsString) (now : Nat) : Worker :=
  let name := argv.headD .empty
  let args := argv.tail.map Text.chars
  let w : Worker := { name, jobs := [] }
  match tool with
  | .shell => w
  | .ends status => { w with status }
  | .cat => w.goOn (copying false .all ((options args).2))
  | .headOf =>
    match headArguments (.lines 10) args with
    | some (limit, files) => w.goOn (copying true limit files)
    | none => w.failed "invalid number" 1 []
  | .echo =>
    let (ending, args) : List Char × List (List Char) :=
      if args.head? = some "-n".toList then ([], args.tail) else (['\n'], args)
    w.goOn [.write 1 (Text.octets ([' '].intercalate args ++ ending))]
  | .env => w.goOn (envJobs (environment.map Text.chars) args)
  | .printf =>
    match args with
    | [] => w.failed "missing operand" 1 []
    | format :: args =>
      let r := Printf.run format args
      let jobs := r.complaints.map fun c => complaint name (String.ofList c.toolMessage)
      { w with jobs := jobs ++ [.write 1 (Text.octets r.output)], status := if jobs.isEmpty then 0 else 1 }
  | .sleep =>
    match args.mapM microseconds? with
    | some times =>
      if times.isEmpty then w.failed "missing operand" 1 []
      else w.goOn [.sleepUntil (now + times.foldr (· + ·) 0)]
    | none => w.failed "invalid time interval" 1 []
  | .yes =>
    let text := if args.isEmpty then ['y'] else [' '].intercalate args
    w.goOn [.forever (Text.octets (text ++ ['\n']))]
  | .test =>
    let isBracket := (name.toList.getLast?) = some 0x5B
    w.goOn [.test args isBracket]
  | .printDirectory => w.goOn [.tellDirectory]
  | .makeDirectory =>
    let (found, paths) := options args
    w.goOn (paths.map fun path => .makeDirectory (Text.octets path) (hasOption 'p' found))
  | .remove =>
    let (found, paths) := options args
    w.goOn (paths.map fun path => .remove (Text.octets path) (hasOption 'f' found))
  | .touch => w.goOn (((options args).2).map fun path => .touch (Text.octets path))

/-! ### Working -/

/-- What comes of one step of a tool. -/
inductive Progress where
  | goesOn (w : Worker)
  /-- It waits, until a time if one is known. -/
  | blocked (wake : Option Nat)
  | becomes (tool : Tool) (argv environment : List OsString)
  | ended

/-- Where the tools look for a program. -/
def searchPaths (name : OsString) (environment : List OsString) : List OsString :=
  if name.toList.contains Machine.FileTree.slash then [name]
  else
    let path := (environment.map Text.chars).findSome? fun entry =>
      if "PATH=".toList.isPrefixOf entry then some (entry.drop 5) else none
    ((path.getD "/bin:/usr/bin".toList).splitOn ':').map fun dir =>
      if dir.isEmpty then name else Text.octets (dir ++ ['/']) ++ name

/-- Turns a process into the first program that is found. -/
def becomeFirst (pid : Pid) (argv environment : List OsString) :
    Errno → List OsString → Machine T → Except Errno (Tool × List OsString) × Machine T
  | cause, [], m => (.error cause, m)
  | cause, path :: paths, m =>
    match m.exec pid path argv environment with
    | (.ok found, m) => (.ok found, m)
    | (.error e, m) =>
      if e = .notExecutable then
        (.ok (.shell, argv.take 1 ++ path :: argv.tail), m.modifyProcess pid fun p =>
          { p with fds := p.fds.onExec, caught := [] })
      else becomeFirst pid argv environment (if e = .noEntry then cause else e) paths m

/-- Makes a directory, with those above it that are missing. -/
def makeDirectories (pid : Pid) (path : OsString) (m : Machine T) : Except Errno Unit × Machine T :=
  let absolute := Machine.FileTree.isAbsolute path
  let names := Machine.FileTree.names path
  let step (acc : (Except Errno Unit × Machine T) × OsString) (name : OsString) :
      (Except Errno Unit × Machine T) × OsString :=
    let ((_, m), above) := acc
    let here := if above.isEmpty && !absolute then name else above ++ OsString.ofString "/" ++ name
    (m.makeDirectory pid here, here)
  let ((answer, m), _) := names.foldl step ((.ok (), m), .empty)
  match answer with
  | .error e => if e = .alreadyThere then (.ok (), m) else (.error e, m)
  | ok => (ok, m)

/-- The worker after a call on a file. -/
def afterCall (w : Worker) (path : OsString) (what : String) (rest : List Job)
    (answer : Except Errno Unit × Machine T) : Progress × Machine T :=
  match answer with
  | (.ok (), m) => (.goesOn (w.goOn rest), m)
  | (.error e, m) =>
    (.goesOn (w.failed (what ++ quoted .always (Text.chars path) ++ ": " ++ e.text) 1 rest), m)

/-- What a tool says it could not write, given its next jobs and the octets. Tools that hold back small
outputs find out late. -/
def unwritten (rest : List Job) (octets : ByteArray) : String :=
  match rest with
  | .forever _ :: _ => "standard output"
  | .copy source .. :: _ =>
    if source.isHead && heldBack ≤ octets.size then "error writing 'standard output'" else "write error"
  | _ => "write error"
where
  /-- How many octets are held back at most. -/
  heldBack : Nat := 4096

/-- How a tool ends that could not write its output. -/
def unwrittenStatus (w : Worker) : Nat :=
  if (Machine.FileTree.names w.name).getLast? = some (OsString.ofString "env") then 125 else 1

/-- Whether a process has a descriptor. -/
def hasDescriptor (m : Machine T) (pid : Pid) (fd : Fd) : Bool :=
  (m.process? pid).any fun p => (p.fds.get? fd).isSome

/-- Works on the first job. -/
def step (pid : Pid) (w : Worker) (m : Machine T) : Progress × Machine T :=
  match w.jobs with
  | [] => (.ended, m.exit pid w.status)
  | job :: rest =>
    match job with
    | .write fd octets =>
      if octets.isEmpty then (.goesOn (w.goOn rest), m)
      else
        match m.write pid fd octets with
        | (.blocked, m) => (.blocked none, m)
        | (.done n, m) =>
          let left := octets.extract n octets.size
          (.goesOn (w.goOn (if left.isEmpty then rest else .write fd left :: rest)), m)
        | (.failed e, m) =>
          let m := if e = .brokenPipe then m.raise pid Machine.Signal.pipe else m
          (.goesOn (if fd = 2 then { w with status := max 1 w.status, jobs := [] }
            else w.failed (unwritten rest octets ++ ": " ++ e.text) w.unwrittenStatus []), m)
    | .forever octets =>
      let many := (List.range 64).foldl (fun all _ => all ++ octets) .empty
      (.goesOn (w.goOn [.write 1 many, job]), m)
    | .copyFile path isHead limit =>
      let source : Source := ⟨Text.chars path, isHead⟩
      match m.openFile pid path .read true with
      | (.ok fd, m) => (.goesOn (w.goOn (.copy source fd limit :: .close fd :: rest)), m)
      | (.error e, m) => (.goesOn (w.failed (source.unopened e) 1 rest), m)
    | .copy source fd limit =>
      if limit.isReached then (.goesOn (w.goOn rest), m)
      else
        match m.read pid fd limit.request with
        | (.blocked, m) => (.blocked none, m)
        | (.failed e, m) => (.goesOn (w.failed (source.unread e) 1 rest), m)
        | (.done octets, m) =>
          if octets.isEmpty then (.goesOn (w.goOn rest), m)
          else
            let (limit, taken) := limit.after octets
            (.goesOn (w.goOn (.write 1 (octets.extract 0 taken) :: .copy source fd limit :: rest)), m)
    | .close fd => (.goesOn (w.goOn rest), m.close pid fd)
    | .needOutput =>
      if hasDescriptor m pid 1 then (.goesOn (w.goOn rest), m)
      else (.goesOn (w.failed ("standard output: " ++ Errno.badDescriptor.text) 1 []), m)
    | .closeInput complaint =>
      if hasDescriptor m pid 0 then (.goesOn (w.goOn rest), m.close pid 0)
      else (.goesOn (w.failed (complaint ++ Errno.badDescriptor.text) 1 rest), m)
    | .sleepUntil time =>
      if time ≤ m.now then (.goesOn (w.goOn rest), m) else (.blocked (some time), m)
    | .makeDirectory path withParents =>
      afterCall w path "cannot create directory " rest
        (if withParents then makeDirectories pid path m else m.makeDirectory pid path)
    | .remove path isForced =>
      match m.removeFile pid path with
      | (.error e, m) =>
        if isForced && e = .noEntry then (.goesOn (w.goOn rest), m)
        else afterCall w path "cannot remove " rest (.error e, m)
      | done => afterCall w path "cannot remove " rest done
    | .touch path =>
      match m.openFile pid path .append true with
      | (.ok fd, m) => (.goesOn (w.goOn rest), m.close pid fd)
      | (.error e, m) => afterCall w path "cannot touch " rest (.error e, m)
    | .test words isBracket =>
      match m.process? pid with
      | none => (.ended, m)
      | some p =>
        let words := if isBracket then words.dropLast else words
        match Condition.holds (Condition.fileFacts m p) words with
        | .ok holds => (.goesOn { w with status := if holds then 0 else 1, jobs := rest }, m)
        | .error fault => (.goesOn (w.failed (String.ofList fault.message) 2 rest), m)
    | .tellDirectory =>
      let path := ((m.process? pid).map fun p => m.tree.pathOf p.cwd).getD .empty
      (.goesOn (w.goOn (.write 1 (path.push 0x0A) :: rest)), m)
    | .become argv environment =>
      let name := argv.headD .empty
      match becomeFirst pid argv environment .noEntry (searchPaths name environment) m with
      | (.ok (tool, argv), m) => (.becomes tool argv environment, m)
      | (.error e, m) =>
        (.goesOn (w.failed (escaped (Text.chars name) ++ ": " ++ e.text)
          (if e = .noEntry then 127 else 126) rest), m)

end Worker

end Offspring.Utility
