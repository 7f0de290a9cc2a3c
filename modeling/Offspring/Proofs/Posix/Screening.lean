import Offspring.Posix.Launch
import Offspring.Proofs.Posix.Memory

/-!
# The checks before a fork

`checksOf` lists the checks of a launch, and `screen` makes them in order up to the first one that refuses: the
files and the pipe of the streams, what cannot be laid out in memory, and the pipe of the report. `Screened` says
that an answer is that of checks, and is put together as the checks are: opening the streams is making their
checks (`screened_openPlan`), and so is making the plan (`screened_ofSpec`).
-/

namespace Offspring.Posix

variable {W : Type}

/-- A check that a launch makes before it forks. -/
inductive Check where
  /-- A file can be opened for reading. -/
  | input (path : OsString)
  /-- A file can be made or emptied. -/
  | output (path : OsString)
  /-- A pipe can be made. -/
  | pipe
  /-- There is a program path. -/
  | named (program : OsString)
  /-- Octets of the kind that is told hold no NUL. -/
  | whole (what : String) (octets : OsString)
  deriving DecidableEq

/-- Why a file cannot be opened, if it cannot. A path with a NUL is not handed to the operating system. -/
def fileRefusal (call : OsString → W → Except Errno Fd × W) (path : OsString) (w : W) :
    Option LaunchError × W :=
  if path.hasNul then (some (.redirect path .nulInPath), w)
  else
    match call path w with
    | (.error e, w) => (some (.redirect path (.os e)), w)
    | (.ok _, w) => (none, w)

namespace Check

/-- Makes a check; the answer is why it refuses, if it does. -/
def perform (k : Kernel W) : Check → W → Option LaunchError × W
  | .input path, w => fileRefusal k.openRead path w
  | .output path, w => fileRefusal k.create path w
  | .pipe, w =>
    match k.makePipe w with
    | (.error e, w) => (some (.io (.os e)), w)
    | (.ok _, w) => (none, w)
  | .named program, w => (if program.isEmpty then some (.invalidArgument "empty program path") else none, w)
  | .whole what octets, w =>
    (if octets.hasNul then some (.invalidArgument (what ++ " contains a NUL byte")) else none, w)

/-- The file that a check makes or empties if it passes. -/
def output? : Check → Option OsString
  | .output path => some path
  | _ => none

end Check

/-- How far checks have come. -/
structure Screening (W : Type) where
  /-- The checks that passed, in order. -/
  passed : List Check
  /-- The check behind them that refused, and why. -/
  refused : Option (Check × LaunchError)
  world : W

/-- Makes checks in order up to the first one that refuses. -/
def screen (k : Kernel W) : List Check → W → Screening W
  | [], w => ⟨[], none, w⟩
  | check :: rest, w =>
    match check.perform k w with
    | (some cause, w) => ⟨[], some (check, cause), w⟩
    | (none, w) =>
      let s := screen k rest w
      { s with passed := check :: s.passed }

/-- The checks of the output stream's target; a buffer needs a pipe. -/
def outputChecks : Option StreamTarget → List Check
  | some (.file path) => [.output path]
  | some (.buffer _) => [.pipe]
  | _ => []

/-- The checks of the error stream's target. -/
def errorChecks : Option StreamTarget → List Check
  | some (.file path) => [.output path]
  | _ => []

/-- The checks of the streams, in order. -/
def streamChecks (plan : StreamPlan) : List Check :=
  plan.stdin.toList.map .input ++ outputChecks plan.stdout ++ errorChecks plan.stderr

/-- The checks of what is laid out in memory. -/
def textChecks (spec : LaunchSpec) : List Check :=
  [.named spec.program, .whole "program path" spec.program] ++
    spec.argv.map (fun arg => .whole "argument" (.ofString arg)) ++
    spec.env.map (fun entry => .whole "environment entry" (.ofString entry)) ++
    if spec.cwd.isEmpty then [] else [.whole "working directory" spec.cwd]

/-- The checks of a launch, in order. -/
def checksOf (spec : LaunchSpec) (plan : StreamPlan) : List Check :=
  streamChecks plan ++ textChecks spec ++ [.pipe]

section Screening

variable (k : Kernel W)

/-- The checks that passed are the first ones, all of them if none refused. -/
theorem screen_passed (checks : List Check) (w : W) :
    match (screen k checks w).refused with
    | none => (screen k checks w).passed = checks
    | some (check, _) => (screen k checks w).passed ++ [check] <+: checks := by
  induction checks generalizing w with
  | nil => rfl
  | cons check rest ih =>
    rcases hcheck : check.perform k w with ⟨_ | cause, w'⟩
    · have hrest := ih w'
      simp only [screen, hcheck]
      cases hrefused : (screen k rest w').refused <;> simp only [hrefused] at hrest ⊢
      · rw [hrest]
      · exact (List.prefix_cons_inj check).mpr hrest
    · simp [screen, hcheck]

/-- More checks go on where the first ones have passed. -/
theorem screen_append (checks more : List Check) (w : W) :
    screen k (checks ++ more) w =
      match (screen k checks w).refused with
      | some _ => screen k checks w
      | none =>
        let s := screen k more (screen k checks w).world
        { s with passed := (screen k checks w).passed ++ s.passed } := by
  induction checks generalizing w with
  | nil => rfl
  | cons check rest ih =>
    rcases hcheck : check.perform k w with ⟨_ | cause, w'⟩
    · simp only [List.cons_append, screen, hcheck, ih w']
      cases hrefused : (screen k rest w').refused <;> simp [hrefused]
    · simp [screen, hcheck]

end Screening

/-! ### What is answered -/

section Answering

variable {k : Kernel W} {α β : Type} {checks more : List Check} {w : W}

/-- An answer is that of checks: the cause of the first refusal, with some descriptors closed behind it, or a
success in the world that the checks have led to. -/
def Screened (k : Kernel W) (checks : List Check) (w : W) (answer : Except LaunchError α × W) : Prop :=
  match (screen k checks w).refused with
  | some (_, cause) => ∃ fds, answer = (.error cause, k.closeAll fds (screen k checks w).world)
  | none => ∃ a, answer = (.ok a, (screen k checks w).world)

theorem Screened.nil (a : α) : Screened k [] w (.ok a, w) :=
  ⟨a, rfl⟩

/-- A check that passes or refuses has the answer of the step that makes it. -/
theorem Screened.one {check : Check} {answer : Except LaunchError α × W}
    (h : (∃ cause w', check.perform k w = (some cause, w') ∧ answer = (.error cause, w')) ∨
      ∃ a w', check.perform k w = (none, w') ∧ answer = (.ok a, w')) : Screened k [check] w answer := by
  obtain ⟨cause, w', hcheck, rfl⟩ | ⟨a, w', hcheck, rfl⟩ := h
  · simp only [Screened, screen, hcheck]
    exact ⟨[], rfl⟩
  · simp only [Screened, screen, hcheck]
    exact ⟨a, rfl⟩

/-- The answer of more checks goes on from that of the first ones; behind a refusal, more is closed. -/
theorem Screened.append {answer : Except LaunchError α × W} {next : Except LaunchError β × W}
    (h : Screened k checks w answer)
    (hrefused : ∀ cause w', answer = (.error cause, w') → ∃ fds, next = (.error cause, k.closeAll fds w'))
    (hpassed : ∀ a w', answer = (.ok a, w') → Screened k more w' next) :
    Screened k (checks ++ more) w next := by
  rw [Screened, screen_append]
  rw [Screened] at h
  cases hscreen : (screen k checks w).refused with
  | some refusal =>
    rw [hscreen] at h
    obtain ⟨fds, hanswer⟩ := h
    obtain ⟨closed, hnext⟩ := hrefused _ _ hanswer
    simp only [hscreen]
    exact ⟨fds ++ closed, by rw [hnext, Kernel.closeAll, Kernel.closeAll, Kernel.closeAll, List.foldl_append]⟩
  | none =>
    rw [hscreen] at h
    obtain ⟨a, hanswer⟩ := h
    exact hpassed a _ hanswer

/-- What is opened behind what was opened before. -/
theorem Screened.andThen {opened : Except LaunchError Stdio × W}
    {next : Stdio → W → Except LaunchError Stdio × W} (h : Screened k checks w opened)
    (hnext : ∀ s w', opened = (.ok s, w') → Screened k more w' (next s w')) :
    Screened k (checks ++ more) w (Stdio.andThen k opened next) := by
  apply h.append
  · rintro cause w' rfl
    exact ⟨[], rfl⟩
  · rintro s w' rfl
    have hlast := hnext s w' rfl
    rw [← List.append_nil more]
    apply hlast.append
    · intro cause w'' hfailed
      rw [Stdio.andThen, hfailed]
      exact ⟨s.allFds, rfl⟩
    · intro s' w'' hopened
      rw [Stdio.andThen, hopened]
      exact .nil s'

/-- What is laid out behind what was laid out before. -/
theorem Screened.bind {x : Except LaunchError α} {f : α → Except LaunchError β} (h : Screened k checks w (x, w))
    (hf : ∀ a, x = .ok a → Screened k more w (f a, w)) : Screened k (checks ++ more) w (x >>= f, w) := by
  apply h.append
  · rintro cause w' ⟨⟩
    exact ⟨[], rfl⟩
  · rintro a w' ⟨⟩
    exact hf a rfl

/-- The file of a stream. -/
theorem screened_openFile {call : OsString → W → Except Errno Fd × W} {check : Check} {path : OsString}
    (hcheck : check.perform k w = fileRefusal call path w) :
    Screened k [check] w (Stdio.openFile call path w) := by
  apply Screened.one
  rw [hcheck, fileRefusal, Stdio.openFile]
  split
  · exact .inl ⟨_, _, rfl, rfl⟩
  · rcases call path w with ⟨e | fd, w'⟩
    · exact .inl ⟨_, _, rfl, rfl⟩
    · exact .inr ⟨fd, _, rfl, rfl⟩

/-- Holding what was opened changes nothing in the answer of the checks. -/
theorem Screened.map {answer : Except LaunchError α × W} (h : Screened k checks w answer) (f : α → β) :
    Screened k checks w (answer.map (Except.map f) id) := by
  unfold Screened at h ⊢
  split at h
  · obtain ⟨fds, rfl⟩ := h
    exact ⟨fds, rfl⟩
  · obtain ⟨a, rfl⟩ := h
    exact ⟨f a, rfl⟩

theorem screened_openInput (path : Option OsString) :
    Screened k (path.toList.map .input) w (Stdio.openInput k path w) := by
  cases path with
  | none => exact .nil _
  | some path =>
    have hfile : Screened k [.input path] w (Stdio.openFile k.openRead path w) := screened_openFile rfl
    have hmap := hfile.map fun fd => ({ stdin := some fd } : Stdio)
    rw [Stdio.openInput]
    rcases hopened : Stdio.openFile k.openRead path w with ⟨_ | fd, w'⟩ <;> rw [hopened] at hmap <;> exact hmap

theorem screened_openOutput {target : Option StreamTarget} (htarget : target ≠ some .sameAsStdout) (s : Stdio) :
    Screened k (outputChecks target) w (Stdio.openOutput k target s w) := by
  rcases target with _ | (path | sink | _)
  · exact .nil s
  · have hfile : Screened k [.output path] w (Stdio.openFile k.create path w) := screened_openFile rfl
    have hmap := hfile.map fun fd => { s with stdout := some fd }
    rw [Stdio.openOutput]
    rcases hopened : Stdio.openFile k.create path w with ⟨_ | fd, w'⟩ <;> rw [hopened] at hmap <;> exact hmap
  · apply Screened.one
    rw [Stdio.openOutput, Check.perform]
    rcases k.makePipe w with ⟨e | ends, w'⟩
    · exact .inl ⟨_, _, rfl, rfl⟩
    · exact .inr ⟨_, _, rfl, rfl⟩
  · contradiction

theorem screened_openError (target : Option StreamTarget) (s : Stdio) :
    Screened k (errorChecks target) w (Stdio.openError k target s w) := by
  rcases target with _ | (path | sink | _)
  · exact .nil s
  · have hfile : Screened k [.output path] w (Stdio.openFile k.create path w) := screened_openFile rfl
    have hmap := hfile.map fun fd => { s with ownStderr := some fd }
    rw [Stdio.openError]
    rcases hopened : Stdio.openFile k.create path w with ⟨_ | fd, w'⟩ <;> rw [hopened] at hmap <;> exact hmap
  · exact .nil _
  · exact .nil _

/-- Opening the streams is making their checks. -/
theorem screened_openPlan {plan : StreamPlan} (hplan : plan.stdout ≠ some .sameAsStdout) :
    Screened k (streamChecks plan) w (Stdio.openPlan k plan w) := by
  apply Screened.andThen
  · apply Screened.andThen (screened_openInput plan.stdin)
    intro s w' _
    exact screened_openOutput hplan s
  · intro s w' _
    exact screened_openError plan.stderr s

theorem screened_ofOctets (what : String) (octets : OsString) :
    Screened k [.whole what octets] w (CString.ofOctets what octets, w) := by
  apply Screened.one
  obtain ⟨hnul, hrefused⟩ | ⟨s, hnul, hlaid, -⟩ := CString.ofOctets_eq what octets
  · exact .inl ⟨.nulByte what, w, by simp [Check.perform, hnul, LaunchError.nulByte], by rw [hrefused]⟩
  · exact .inr ⟨s, w, by simp [Check.perform, hnul], by rw [hlaid]⟩

theorem screened_ofTexts (what : String) (texts : List String) :
    Screened k (texts.map fun text => .whole what (.ofString text)) w (CString.ofTexts what texts, w) := by
  induction texts with
  | nil => exact .nil []
  | cons text rest ih =>
    have hall : CString.ofTexts what (text :: rest) =
        CString.ofOctets what (.ofString text) >>= fun s => CString.ofTexts what rest >>= fun more =>
          .ok (s :: more) := List.mapM_cons
    rw [hall, List.map_cons, ← List.singleton_append]
    apply (screened_ofOctets what (.ofString text)).bind
    intro s _
    rw [← List.append_nil (rest.map _)]
    apply ih.bind
    intro more _
    exact .nil (s :: more)

/-- There has to be a program path. -/
theorem screened_named (program : OsString) :
    Screened k [.named program] w
      (if program.isEmpty then .error (.invalidArgument "empty program path") else .ok (), w) := by
  apply Screened.one
  cases hempty : program.isEmpty with
  | true => exact .inl ⟨.invalidArgument "empty program path", w, by simp [Check.perform, hempty], rfl⟩
  | false => exact .inr ⟨(), w, by simp [Check.perform, hempty], rfl⟩

theorem screened_directory (cwd : OsString) :
    Screened k (if cwd.isEmpty then [] else [.whole "working directory" cwd]) w
      (if cwd.isEmpty then .ok none else (CString.ofOctets "working directory" cwd).map some, w) := by
  split
  · exact .nil none
  · exact (screened_ofOctets "working directory" cwd).map some

/-- Making the plan is making the checks of what is laid out in memory. -/
theorem screened_ofSpec (spec : LaunchSpec) (options : LaunchOptions) (stdio : Stdio) :
    Screened k (textChecks spec) w (ExecPlan.ofSpec spec options stdio, w) := by
  have hchecks : textChecks spec = [Check.named spec.program] ++ ([Check.whole "program path" spec.program] ++
      (spec.argv.map (fun arg => Check.whole "argument" (OsString.ofString arg)) ++
        (spec.env.map (fun entry => Check.whole "environment entry" (OsString.ofString entry)) ++
          ((if spec.cwd.isEmpty then [] else [Check.whole "working directory" spec.cwd]) ++ [])))) := by
    simp [textChecks]
  rw [ExecPlan.ofSpec_steps, hchecks]
  apply (screened_named spec.program).bind
  intro _ _
  apply (screened_ofOctets "program path" spec.program).bind
  intro program _
  apply (screened_ofTexts "argument" spec.argv).bind
  intro argv _
  apply (screened_ofTexts "environment entry" spec.env).bind
  intro envp _
  apply (screened_directory spec.cwd).bind
  intro cwd _
  exact .nil _

/-- The routing of the streams never leads the output stream to itself. -/
theorem plan_stdout_ne (redirection : Redirection) (mode : ConsoleMode) :
    (redirection.plan mode).stdout ≠ some .sameAsStdout := by
  cases redirection with
  | inherit => simp [Redirection.plan]
  | files chosen => cases hstdout : chosen.stdout <;> simp [Redirection.plan, hstdout]
  | buffer sink => simp [Redirection.plan]

end Answering

end Offspring.Posix
