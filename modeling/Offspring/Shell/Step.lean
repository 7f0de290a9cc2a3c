import Offspring.Shell.Builtin

/-!
# Running a shell step by step

`step` makes one step of a shell in its process: it takes a line, starts a command, lets a builtin work,
writes what can be written, or looks whether a child has ended. A step that has to wait answers `blocked`
and is made again later.
-/

namespace Offspring.Shell

open Posix (Fd Pid)
open Machine (Slot Tool FileTree)

variable {T : Type}

/-- What comes of a step. -/
inductive Progress where
  | goesOn (s : State)
  | blocked
  /-- The process is another program now. -/
  | becomes (tool : Tool) (argv environment : List OsString)
  | ended

/-! ### Files named by patterns -/

/-- The names in a directory that a pattern stands for, in order. Names with a dot in front have to be
asked for. -/
def namesFor (m : Machine T) (dir : OsString) (cwd : Machine.NodeId) (pattern : List Marked) :
    List (List Char) :=
  match m.tree.locate cwd (if dir.isEmpty then FileTree.dot else dir) with
  | .ok (_, ⟨.directory _ entries, _, _⟩) =>
    let names := entries.map fun (name, _) => Text.chars name
    let wanted := names.filter fun name =>
      (name.head? ≠ some '.' || pattern.head?.any (·.1 = '.')) && Pattern.accepts pattern name
    wanted.mergeSort fun a b => !b.lex a
  | _ => []

/-- The parts of a pattern between slashes. -/
def patternParts : List Marked → List (List Marked)
  | [] => [[]]
  | (c, quoted) :: rest =>
    if c = '/' then [] :: patternParts rest
    else
      match patternParts rest with
      | [] => [[(c, quoted)]]
      | part :: parts => ((c, quoted) :: part) :: parts

/-- The paths that the parts of a pattern stand for, each of them after one of the paths found so far. -/
def pathsFor (m : Machine T) (cwd : Machine.NodeId) (isFirst : Bool) (found : List (List Char)) :
    List (List Marked) → List (List Char)
  | [] => found
  | part :: parts =>
    let found := found.flatMap fun path =>
      let path := if isFirst then path else path ++ ['/']
      if Pattern.isOpen part then
        (namesFor m (Text.octets path) cwd part).map (path ++ ·)
      else
        let next := path ++ part.map (·.1)
        if parts.isEmpty && !m.tree.exists? cwd (Text.octets next) then [] else [next]
    pathsFor m cwd false found parts

/-- The files that a pattern stands for, seen from a process. -/
def filesFor (m : Machine T) (pid : Pid) (pattern : List Marked) : List (List Char) :=
  match m.process? pid with
  | none => []
  | some p => pathsFor m p.cwd true [[]] (patternParts pattern)

/-! ### Children -/

/-- Gives a descriptor of a process a meaning. -/
def place (pid : Pid) (fd : Fd) (slot : Slot) (m : Machine T) : Machine T :=
  m.modifyProcess pid fun p => { p with fds := p.fds.insert fd { slot with closeOnExec := false } }

/-- What a descriptor of a process means. -/
def slotOf (m : Machine T) (pid : Pid) (fd : Fd) : Option Slot :=
  (m.process? pid).bind (·.fds.get? fd)

/-- Makes a child of a shell that does not catch what the shell catches. -/
def forkChild (wrap : State → T) (pid : Pid) (s : State) (control : Control) (m : Machine T) :
    Except Errno Pid × Machine T :=
  match m.fork pid (wrap (s.childRunning control)) with
  | (.ok child, m) => (.ok child, m.modifyProcess child fun p => { p with caught := [] })
  | failed => failed

/-- The shell after a child could not be made. -/
def cannotFork (s : State) : State :=
  s.giveUp "Cannot fork".toList 2

/-- Starts the commands of a pipeline one after the other. `input` is the descriptor that the next one
reads from. -/
def startPipeline (wrap : State → T) (pid : Pid) (s : State) (started : List Pid) (input : Option Fd) :
    List Command → Machine T → State × Machine T
  | [], m => (s.goTo (.awaiting started.reverse 0 .foreground), m)
  | part :: parts, m =>
    let connect (child : Pid) (output : Option Fd) (unused : List Fd) (m : Machine T) : Machine T :=
      let m := match input.bind (slotOf m child) with
        | some slot => place child 0 slot m
        | none => m
      let m := match output.bind (slotOf m child) with
        | some slot => place child 1 slot m
        | none => m
      (input.toList ++ output.toList ++ unused).foldl
        (fun m fd => if fd ≤ 1 then m else m.close child fd) m
    if parts.isEmpty then
      match forkChild wrap pid s (.run part true []) m with
      | (.error _, m) => (cannotFork s, m)
      | (.ok child, m) =>
        let m := connect child none [] m
        let m := input.toList.foldl (fun m fd => m.close pid fd) m
        startPipeline wrap pid s (child :: started) none parts m
    else
      match m.makePipe pid with
      | (.error _, m) => (s.giveUp "Pipe call failed".toList 2, m)
      | (.ok (reader, writer), m) =>
        match forkChild wrap pid s (.run part true []) m with
        | (.error _, m) => (cannotFork s, m)
        | (.ok child, m) =>
          let m := connect child (some writer) [reader] m
          let m := (writer :: input.toList).foldl (fun m fd => m.close pid fd) m
          startPipeline wrap pid s (child :: started) (some reader) parts m

/-- Starts a command in the background. It reads from nothing and cannot be interrupted from a
terminal. -/
def startBackground (wrap : State → T) (pid : Pid) (s : State) (c : Command) (m : Machine T) :
    State × Machine T :=
  match forkChild wrap pid s (.run c true []) m with
  | (.error _, m) => (cannotFork s, m)
  | (.ok child, m) =>
    let m := m.modifyProcess child fun p =>
      { p with ignored := 2 :: 3 :: p.ignored, fds := p.fds.erase 0 }
    let (_, m) := m.openFile child (OsString.ofString "/dev/null") .read false
    ({ s with
        scope := { s.scope with lastBackground := some child }
        children := s.children ++ [child] }.settle 0, m)

/-- Starts a command whose output is needed in a word. -/
def startOutput (wrap : State → T) (pid : Pid) (s : State) (source : List Char) (m : Machine T) :
    State × Machine T :=
  match m.makePipe pid with
  | (.error _, m) => (s.giveUp "Pipe call failed".toList 2, m)
  | (.ok (reader, writer), m) =>
    let child := { s with canGiveUp := true }.childRunning .fetch
    let child := { child with tokens := tokens source, isTest := false }
    match m.fork pid (wrap child) with
    | (.error _, m) => (cannotFork s, m)
    | (.ok child, m) =>
      let m := m.modifyProcess child fun p => { p with caught := [] }
      let m := match slotOf m child writer with
        | some slot => place child 1 slot m
        | none => m
      let m := [reader, writer].foldl (fun m fd => if fd ≤ 1 then m else m.close child fd) m
      (s.goTo (.gathering reader child .empty), m.close pid writer)

/-! ### Starting commands -/

/-- A simple command with its words replaced. -/
structure Expanded where
  words : List (List Char)
  redirects : List (Fd × RedirectionKind × List Char)
  assignments : List (List Char × List Char)

/-- Replaces the redirections' targets. -/
def expandRedirects (rs : List Redirect) : Expand (List (Fd × RedirectionKind × List Char)) :=
  rs.mapM fun r => do
    pure (r.fd, r.kind, ← Expansion.text r.target)

/-- Replaces the words of a simple command; those in front that are assignments are kept apart. If there
are no others, a value can refer to those before it. -/
def expandSimple (files : List Marked → List (List Char)) (words : List Word) (rs : List Redirect) :
    Expand Expanded := do
  let isAssignment (w : Word) : Bool := (Expansion.assignment? w).isSome
  let fields ← Expansion.allFields files (words.dropWhile isAssignment)
  let redirects ← expandRedirects rs
  let assignments ← (words.takeWhile isAssignment).mapM fun w => do
    let (name, value) := (Expansion.assignment? w).getD ([], [])
    let value ← Expansion.text value
    if fields.isEmpty then modify fun draft => { draft with scope := draft.scope.set name value }
    pure (name, value)
  pure ⟨fields, redirects, assignments⟩

/-- The shell with variables assigned. -/
def assigned (s : State) (assignments : List (List Char × List Char)) : State :=
  { s with scope := assignments.foldl (fun scope (name, value) => scope.set name value) s.scope }

/-- The shell with variables assigned for a builtin; only the special ones leave them so. -/
def assignedFor (name : List Char) (s : State) (assignments : List (List Char × List Char)) : State :=
  if assignments.isEmpty || Builtin.special.contains (String.ofList name) then assigned s assignments
  else
    let old := assignments.map fun (name, _) => (name, s.scope.bindings.lookup name)
    let s := { s with frames := .call s.scope.positional old :: s.frames }
    assigned s assignments

/-- Runs a simple command whose words are replaced. -/
def runExpanded (wrap : State → T) (pid : Pid) (s : State) (isLast : Bool) (e : Expanded)
    (m : Machine T) : State × Machine T :=
  match e.words with
  | [] =>
    match redirectAll pid [] e.redirects m with
    | ((.ok (), saved), m) => ((assigned s e.assignments).settle s.outputStatus, restore pid saved m)
    | ((.error message, saved), m) => (s.complain message 2, restore pid saved m)
  | name :: args =>
    if name = "exec".toList then
      if args.isEmpty then
        match redirectAll pid [] e.redirects m with
        | ((.ok (), saved), m) => ((assigned s e.assignments).settle 0, forget pid saved m)
        | ((.error message, saved), m) => (s.giveUp message 2, restore pid saved m)
      else ({ s with frames := [] }.goTo (.become e.redirects args e.assignments true), m)
    else
      let (name, args, plain) : List Char × List (List Char) × Bool :=
        match args with
        | first :: rest =>
          if name = "command".toList then (first, rest, true) else (name, args, false)
        | [] => (name, args, false)
      let inside (go : State → Machine T → State × Machine T) : State × Machine T :=
        match redirectAll pid [] e.redirects m with
        | ((.ok (), saved), m) =>
          let s := assignedFor name { s with builtin := name } e.assignments
          go (if saved.isEmpty then s else { s with frames := .undo saved :: s.frames }) m
        | ((.error message, saved), m) =>
          let m := restore pid saved m
          if Builtin.special.contains (String.ofList name) then (s.giveUp message 2, m)
          else (s.complain message 2, m)
      match if plain then none else s.functions.lookup name with
      | some body =>
        inside fun s m =>
          ({ s with scope := { s.scope with positional := args } }.push
            (.call s.scope.positional []) (.run body false []), m)
      | none =>
        match Builtin.find? name with
        | some behavior => inside fun s m => behavior pid s args m
        | none =>
          let control : Control := .become e.redirects (name :: args) e.assignments false
          if isLast && !s.hasTraps then (s.goTo control, m)
          else
            match forkChild wrap pid s control m with
            | (.error _, m) => (cannotFork s, m)
            | (.ok child, m) => (s.goTo (.awaiting [child] 0 .foreground), m)

/-- Goes on with what an expansion gives; an output that is needed is gathered first. -/
def expanding {α : Type} (wrap : State → T) (pid : Pid) (s : State) (c : Command) (isLast : Bool)
    (outputs : List (List Char)) (expansion : Expand α)
    (go : State → α → Machine T → State × Machine T) (m : Machine T) : State × Machine T :=
  match expansion ⟨s.scope, outputs⟩ with
  | .ok (value, draft) => go { s with scope := draft.scope } value m
  | .error (.command source) =>
    startOutput wrap pid { s with frames := .expanding c isLast outputs :: s.frames } source m
  | .error (.fault message) => (s.giveUp message 2, m)

/-- Goes on with the next round of a loop over values. -/
def nextRound (s : State) (name : List Char) (values : List (List Char)) (body : Command) : State :=
  match values with
  | [] => s.settle s.scope.status
  | value :: values =>
    { s with scope := s.scope.set name value }.push (.each name values body) (.run body false [])

/-- The shell before a command that ends it by failing, if it is such a shell. -/
def guarded (s : State) : State :=
  if s.mayFail then s else { s with frames := .guard :: s.frames }

/-- Starts a command. -/
def runCommand (wrap : State → T) (pid : Pid) (s : State) (c : Command) (isLast : Bool)
    (outputs : List (List Char)) (m : Machine T) : State × Machine T :=
  match c with
  | .nothing => (s.settle 0, m)
  | .simple line words rs =>
    let s := { s with line, outputStatus := if outputs.isEmpty then 0 else s.outputStatus }
    let s := if outputs.isEmpty then guarded s else s
    expanding wrap pid s c isLast outputs (expandSimple (filesFor m pid) words rs)
      (fun s e m => runExpanded wrap pid s isLast e m) m
  | .pipeline parts => startPipeline wrap pid (guarded s) [] none parts m
  | .negation body => (s.push .negate (.run body false []), m)
  | .both first second => (s.push (.onSuccess second isLast) (.run first false []), m)
  | .either first second => (s.push (.onFailure second isLast) (.run first false []), m)
  | .sequence first second => (s.push (.andThen second isLast) (.run first false []), m)
  | .background body => startBackground wrap pid s body m
  | .subshell body =>
    if isLast && !s.hasTraps then (s.goTo (.run body true []), m)
    else
      match forkChild wrap pid s (.run body true []) m with
      | (.error _, m) => (cannotFork s, m)
      | (.ok child, m) => ((guarded s).goTo (.awaiting [child] 0 .foreground), m)
  | .redirected line body rs =>
    expanding wrap pid { s with line } c isLast outputs (expandRedirects rs) (fun s redirects m =>
      match redirectAll pid [] redirects m with
      | ((.ok (), saved), m) => (s.push (.undo saved) (.run body false []), m)
      | ((.error message, saved), m) => (s.complain message 2, restore pid saved m)) m
  | .branch test yes no => (s.push (.choose yes no isLast) (.run test false []), m)
  | .loop isUntil test body => (s.push (.tested isUntil test body 0) (.run test false []), m)
  | .each line name words body =>
    let expansion : Expand (List (List Char)) :=
      match words with
      | some words => Expansion.allFields (filesFor m pid) words
      | none => do pure (← get).scope.positional
    expanding wrap pid { s with line } c isLast outputs expansion (fun s values m =>
      (nextRound { s with scope := { s.scope with status := 0 } } name values body, m)) m
  | .choice line subject cases =>
    let expansion : Expand (Option Command) := do
      let text ← Expansion.text subject
      let found ← cases.findSomeM? fun (patterns, body) => do
        let accepted ← patterns.anyM fun word => do
          pure (Pattern.accepts (← Expansion.pattern word) text)
        pure (if accepted then some body else none)
      pure found
    expanding wrap pid { s with line } c isLast outputs expansion (fun s body m =>
      (s.goTo (.run (body.getD .nothing) isLast []), m)) m
  | .definition name body =>
    ({ s with functions := (name, body) :: s.functions.filter (·.1 ≠ name) }.settle 0, m)

/-! ### Ends of commands -/

/-- Whether a loop goes on after its test. -/
def loopGoesOn (isUntil : Bool) (status : Nat) : Bool :=
  (status = 0) != isUntil

/-- Gives local variables their values back. -/
def dropLocals (scope : Scope) (locals : List (List Char × Option Variable)) : Scope :=
  locals.foldl (fun scope (name, old) =>
    match old with
    | some v => { scope with bindings := Scope.changed name (fun _ => v) scope.bindings }
    | none => scope.unset name) scope

/-- Goes on after a command has ended. -/
def afterCommand (pid : Pid) (s : State) (status : Nat) (m : Machine T) : State × Machine T :=
  let s := { s with scope := { s.scope with status } }
  match s.frames with
  | [] => (s.goTo (.leave status), m)
  | frame :: rest =>
    let s := { s with frames := rest }
    match frame with
    | .nextLine => (s.goTo .fetch, m)
    | .andThen c isLast => (s.goTo (.run c isLast []), m)
    | .onSuccess c isLast => (if status = 0 then s.goTo (.run c isLast []) else s, m)
    | .onFailure c isLast => (if status = 0 then s else s.goTo (.run c isLast []), m)
    | .negate => (s.settle (if status = 0 then 1 else 0), m)
    | .choose yes no isLast => (s.goTo (.run (if status = 0 then yes else no) isLast []), m)
    | .tested isUntil test body last =>
      if loopGoesOn isUntil status then (s.push (.repeated isUntil test body) (.run body false []), m)
      else (s.settle last, m)
    | .repeated isUntil test body =>
      (s.push (.tested isUntil test body status) (.run test false []), m)
    | .each name values body => (nextRound s name values body, m)
    | .guard => (if status = 0 then s else s.goTo (.leave status), m)
    | .undo saved => (s.settle status, restore pid saved m)
    | .call positional locals =>
      let scope := { dropLocals s.scope locals with positional }
      ({ s with scope }.settle status, m)
    | .source outer next =>
      let s := { s with tokens := outer }
      match next with
      | none => (s.settle status, m)
      | some (control, status) => ({ s with scope := { s.scope with status } }.goTo control, m)
    | .expanding c isLast outputs => (s.goTo (.run c isLast outputs), m)

/-- Takes the next line of the script. At its end the text that is being run is done. -/
def fetchLine (s : State) : State :=
  match nextLine s.tokens with
  | .error fault => { s with line := fault.line }.giveUp fault.fault.message.toList 2
  | .ok (none, _) => { s with tokens := [] }.settle s.scope.status
  | .ok (some (c, endsScript), tokens) =>
    let isLast := s.canGiveUp && s.frames.isEmpty && endsScript
    if isLast then { s with tokens }.goTo (.run c true [])
    else { s with tokens }.push .nextLine (.run c false [])

/-! ### Waiting, reading and writing -/

/-- Writes what a builtin has to write. What cannot be written is given up, with a complaint. -/
def emit (pid : Pid) (s : State) (writes : List (Fd × ByteArray)) (status : Nat) (m : Machine T) :
    Progress × Machine T :=
  match writes with
  | [] => (.goesOn (s.settle status), m)
  | (fd, octets) :: rest =>
    match m.write pid fd octets with
    | (.blocked, m) => (.blocked, m)
    | (.done n, m) =>
      let writes := if n < octets.size then (fd, octets.extract n octets.size) :: rest else rest
      (.goesOn (s.goTo (.emit writes status)), m)
    | (.failed e, m) =>
      let m := if e = .brokenPipe then m.raise pid Machine.Signal.pipe else m
      let told := s.builtin ++ ": ".toList ++ s.builtin ++ ": I/O error".toList
      let rest := if fd = 2 then rest else rest ++ [(2, s.complaint told)]
      (.goesOn (s.goTo (.emit rest (if status = 0 then 1 else status))), m)

/-- Looks whether the next child has ended. -/
def awaitChild (pid : Pid) (s : State) (children : List Pid) (status : Nat) (why : Awaited)
    (m : Machine T) : Progress × Machine T :=
  match children with
  | [] => (.goesOn (s.settle (if why = .all then 0 else status)), m)
  | child :: rest =>
    match m.reap pid child with
    | (.blocked, m) =>
      match why, (m.process? pid).bind (·.arrived.head?) with
      | .foreground, _ | _, none => (.blocked, m)
      | _, some signal => (.goesOn (s.settle (128 + signal)), m)
    | (.failed _, m) =>
      (.goesOn (s.goTo (.awaiting rest ((s.ended.lookup child).getD 127) why)), m)
    | (.done remains, m) =>
      let now := State.statusOf remains.status
      let s := if why = .foreground then s else { s with ended := (child, now) :: s.ended }
      let s := s.goTo (.awaiting rest now why)
      let signal := (remains.status &&& 0x7F).toNat
      if why ≠ .all && rest.isEmpty && signal ≠ 0 && signal ≠ 2 && signal ≠ Machine.Signal.pipe then
        let told := OsString.ofString (Machine.Signal.description signal ++ "\n")
        (.goesOn (s.goTo (.emit [(2, told)] now)), m)
      else (.goesOn s, m)

/-- How many octets one step of reading a line takes at most. -/
def readingLimit : Nat := 4096

/-- Reads octets one by one up to the end of a line. -/
def readOctets (pid : Pid) (s : State) (names : List (List Char)) (isRaw : Bool) :
    Nat → List Marked → Machine T → Progress × Machine T
  | 0, line, m => (.goesOn (s.goTo (.reading names isRaw line)), m)
  | fuel + 1, line, m =>
    match m.read pid 0 1 with
    | (.blocked, m) =>
      match s.control with
      | .reading _ _ before =>
        if before.length = line.length then (.blocked, m)
        else (.goesOn (s.goTo (.reading names isRaw line)), m)
      | _ => (.blocked, m)
    | (.failed _, m) => (.goesOn (Builtin.takeLine s names line 1), m)
    | (.done octets, m) =>
      match Text.chars octets, line with
      | [], _ => (.goesOn (Builtin.takeLine s names line 1), m)
      | c :: _, ('\\', false) :: before =>
        if isRaw then
          if c = '\n' then (.goesOn (Builtin.takeLine s names line 0), m)
          else readOctets pid s names isRaw fuel ((c, false) :: line) m
        else readOctets pid s names isRaw fuel (if c = '\n' then before else (c, true) :: before) m
      | c :: _, line =>
        if c = '\n' then (.goesOn (Builtin.takeLine s names line 0), m)
        else readOctets pid s names isRaw fuel ((c, false) :: line) m

/-- How many octets of an output or a script are read at once. -/
def chunk : Nat := 4096

/-- Gathers the output of a command. -/
def gather (pid : Pid) (s : State) (reader : Fd) (child : Pid) (output : ByteArray) (m : Machine T) :
    Progress × Machine T :=
  match m.read pid reader chunk with
  | (.blocked, m) => (.blocked, m)
  | (.done octets, m) =>
    if octets.isEmpty then
      match m.reap pid child with
      | (.blocked, m) => (.blocked, m)
      | (answer, m) =>
        let m := m.close pid reader
        let outputStatus := match answer with
          | .done remains => State.statusOf remains.status
          | _ => 127
        let s := { s with outputStatus }
        match s.frames with
        | .expanding c isLast outputs :: frames =>
          (.goesOn ({ s with frames }.goTo (.run c isLast (outputs ++ [Text.chars output]))), m)
        | _ => (.goesOn (s.settle outputStatus), m)
    else (.goesOn (s.goTo (.gathering reader child (output ++ octets))), m)
  | (.failed _, m) => (.goesOn (s.settle 2), m)

/-- Reads the script from the input. -/
def load (pid : Pid) (s : State) (script : ByteArray) (m : Machine T) : Progress × Machine T :=
  match m.read pid 0 chunk with
  | (.blocked, m) => (.blocked, m)
  | (.done octets, m) =>
    if octets.isEmpty then
      (.goesOn ({ s with tokens := tokens (Text.chars script) }.goTo .fetch), m)
    else (.goesOn (s.goTo (.loading (script ++ octets))), m)
  | (.failed _, m) => (.goesOn (s.goTo (.leave 0)), m)

/-! ### Turning into a program -/

/-- The paths at which a program may be. -/
def programPaths (s : State) (name : List Char) : List (List Char) :=
  if name.contains '/' then [name]
  else
    let path := (s.scope.get? "PATH".toList).getD []
    (path.splitOn ':').map fun dir => if dir.isEmpty then name else dir ++ '/' :: name

/-- Turns the process into the first program that is found. -/
def execFirst (pid : Pid) (argv environment : List OsString) :
    Option Errno → List (List Char) → Machine T →
    Except (Option Errno) (Tool × List OsString) × Machine T
  | cause, [], m => (.error cause, m)
  | cause, path :: paths, m =>
    let octets := Text.octets path
    match m.exec pid octets argv environment with
    | (.ok found, m) => (.ok found, m)
    | (.error e, m) =>
      if e = .notExecutable then
        (.ok (.shell, argv.take 1 ++ octets :: argv.tail), m.modifyProcess pid fun p =>
          { p with fds := p.fds.onExec, caught := [] })
      else
        let missing := e = .noEntry || e = .notDirectory
        execFirst pid argv environment (if missing then cause else some e) paths m

/-- Turns the shell into a program, after its redirections. -/
def become (pid : Pid) (s : State) (redirects : List (Fd × RedirectionKind × List Char))
    (words : List (List Char)) (assignments : List (List Char × List Char)) (isOrdered : Bool)
    (m : Machine T) : Progress × Machine T :=
  match redirectAll pid [] redirects m with
  | ((.error message, _), m) => (.goesOn (s.giveUp message 2), m)
  | ((.ok (), _), m) =>
    let scope := assignments.foldl (fun (scope : Scope) (name, value) =>
      (scope.set name value).markExported name) s.scope
    let name := words.headD []
    let argv := words.map Text.octets
    let environment := scope.environment.map Text.octets
    match execFirst pid argv environment none (programPaths s name) m with
    | (.ok (tool, argv), m) => (.becomes tool argv environment, m)
    | (.error cause, m) =>
      let reason := cause.elim "not found" Errno.text
      let status := if cause.isNone || name.isEmpty then 127 else 126
      let told := (if isOrdered then "exec: ".toList else []) ++ name ++ ": ".toList ++ reason.toList
      (.goesOn (s.giveUp told status), m)

/-! ### One step -/

/-- Ends the shell, after what it wanted to do at its end. -/
def leave (pid : Pid) (s : State) (status : Nat) (m : Machine T) : Progress × Machine T :=
  match s.traps.lookup 0 with
  | some action =>
    let s := { s with traps := s.traps.filter (·.1 ≠ 0), frames := [], scope := { s.scope with status } }
    (.goesOn (s.evaluate action (some (.leave status, status))), m)
  | none => (.ended, m.exit pid status)

/-- Whether signals that were caught are looked at before a step. -/
def looksAtSignals : Control → Bool
  | .run .. | .settled _ | .fetch => true
  | _ => false

/-- Takes the first signal that has arrived, and runs what is set for it. -/
def takeSignal (pid : Pid) (s : State) (m : Machine T) : Option (State × Machine T) := do
  let p ← m.process? pid
  let signal ← p.arrived.head?
  let action := (s.traps.lookup signal).getD []
  let m := m.modifyProcess pid fun p => { p with arrived := p.arrived.tail }
  some (s.evaluate action (some (s.control, s.scope.status)), m)

/-- Makes one step. -/
def step (wrap : State → T) (pid : Pid) (s : State) (m : Machine T) : Progress × Machine T :=
  match if looksAtSignals s.control then takeSignal pid s m else none with
  | some (s, m) => (.goesOn s, m)
  | none =>
    match s.control with
    | .fetch => (.goesOn (fetchLine s), m)
    | .run c isLast outputs =>
      let (s, m) := runCommand wrap pid s c isLast outputs m
      (.goesOn s, m)
    | .settled status =>
      let (s, m) := afterCommand pid s status m
      (.goesOn s, m)
    | .emit writes status => emit pid s writes status m
    | .awaiting children status why => awaitChild pid s children status why m
    | .reading names isRaw line => readOctets pid s names isRaw readingLimit line m
    | .gathering reader child output => gather pid s reader child output m
    | .loading script => load pid s script m
    | .become redirects words assignments isOrdered => become pid s redirects words assignments isOrdered m
    | .leave status => leave pid s status m

/-- A shell that starts in a process. -/
def start (pid : Pid) (argv environment : List OsString) (m : Machine T) : State :=
  let invocation := Invocation.ofArguments (argv.map Text.chars)
  let cwd := (m.process? pid).map (·.cwd)
  let s : State := {
    scope := Scope.initial invocation.name invocation.positional pid (environment.map Text.chars)
      (Text.chars (m.tree.pathOf (cwd.getD FileTree.root)))
    control := .fetch
    endsOnFailure := invocation.endsOnFailure }
  if invocation.isIncomplete then
    { s with line := 0 }.giveUp "-c requires an argument".toList 2
  else
    match invocation.command, invocation.file with
    | some script, _ => { s with tokens := tokens script, canGiveUp := true }
    | none, some file =>
      let unopened (e : Errno) : State :=
        let scope := { s.scope with name := Text.chars (argv.headD .empty) }
        { s with line := 0, scope }.giveUp (openMessage false file e) 2
      match m.tree.locate (cwd.getD FileTree.root) (Text.octets file) with
      | .ok (id, node) =>
        if node.allows .read then { s with tokens := tokens (Text.chars (m.tree.octets id)) }
        else unopened .accessDenied
      | .error e => unopened e
    | none, none => s.goTo (.loading .empty)

end Offspring.Shell
