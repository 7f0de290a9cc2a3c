import Offspring.Proofs.Posix.Bench
import Offspring.Proofs.Posix.Fork
import Offspring.Proofs.Posix.Screening
import Offspring.Proofs.Posix.Trace

/-!
# What a launch does before it forks

A launch prepares (`prepare`) and then forks. Preparing is making the checks in order; a check of a file is also
what makes or empties it, so the first refusal decides which files of the user are touched. The calls are read
off a traced launch: up to the fork they are openings, and behind a refusal closings.
-/

namespace Offspring.Posix

variable {W : Type}

/-! ### A launch up to its fork -/

/-- What a launch has in hand when it forks. -/
structure Preparations where
  stdio : Stdio
  plan : ExecPlan
  /-- The end of the report's pipe that the parent reads. -/
  reader : Fd
  writer : Fd

/-- What a launch does before it forks. -/
def prepare (k : Kernel W) (spec : LaunchSpec) (options : LaunchOptions) (w : W) :
    Except LaunchError Preparations × W :=
  match Stdio.openPlan k options.stdio w with
  | (.error cause, w) => (.error cause, w)
  | (.ok stdio, w) =>
    match ExecPlan.ofSpec spec options stdio with
    | .error cause => (.error cause, k.closeAll stdio.allFds w)
    | .ok plan =>
      match k.makePipe w with
      | (.error e, w) => (.error (.io (.os e)), k.closeAll stdio.allFds w)
      | (.ok (reader, writer), w) => (.ok ⟨stdio, plan, reader, writer⟩, w)

section Preparing

variable {k : Kernel W} {spec : LaunchSpec} {options : LaunchOptions} {w w' : W}

/-- Preparing a launch is making its checks. -/
theorem screened_prepare (hplan : options.stdio.stdout ≠ some .sameAsStdout) :
    Screened k (checksOf spec options.stdio) w (prepare k spec options w) := by
  rw [checksOf, List.append_assoc]
  apply (screened_openPlan hplan).append
  · intro cause w₁ hopen
    rw [prepare, hopen]
    exact ⟨[], rfl⟩
  intro stdio w₁ hopen
  apply (screened_ofSpec spec options stdio).append
  · intro cause w₂ hspec
    obtain ⟨hcause, rfl⟩ := Prod.mk.inj hspec
    simp only [prepare, hopen, hcause]
    exact ⟨stdio.allFds, rfl⟩
  intro plan w₂ hspec
  obtain ⟨hmade, rfl⟩ := Prod.mk.inj hspec
  simp only [prepare, hopen, hmade, Screened, screen, Check.perform]
  rcases k.makePipe w₁ with ⟨e | ⟨reader, writer⟩, w₂⟩
  · exact ⟨stdio.allFds, rfl⟩
  · exact ⟨_, rfl⟩

/-- What a launch does from its fork on. -/
def Preparations.forkOff (k : Kernel W) (spec : LaunchSpec) (options : LaunchOptions) (p : Preparations) (w : W) :
    Except LaunchError Child × W :=
  match k.fork w with
  | (.error e, w) => (.error (.launch (.os e)), k.closeAll (p.reader :: p.writer :: p.stdio.allFds) w)
  | (.ok child, w) =>
    supervise k spec options p.stdio p.reader child
      (k.closeAll (p.writer :: p.stdio.childFds) (p.plan.run k child p.writer w))

/-- A launch prepares, and forks if that has worked. -/
theorem launch_eq_prepare :
    launch k spec options w =
      match prepare k spec options w with
      | (.error cause, w) => (.error cause, w)
      | (.ok p, w) => p.forkOff k spec options w := by
  rw [launch, prepare]
  rcases Stdio.openPlan k options.stdio w with ⟨_ | stdio, w₁⟩
  · rfl
  cases hspec : ExecPlan.ofSpec spec options stdio with
  | error cause => simp only [hspec]
  | ok plan =>
    simp only [hspec]
    rcases k.makePipe w₁ with ⟨_ | ⟨reader, writer⟩, w₂⟩ <;> rfl

/-- A launch that is prepared has opened its streams, made its plan and the pipe of the report. -/
theorem prepare_ok {p : Preparations} (h : prepare k spec options w = (.ok p, w')) :
    ∃ opened, Stdio.openPlan k options.stdio w = (.ok p.stdio, opened) ∧
      ExecPlan.ofSpec spec options p.stdio = .ok p.plan ∧ k.makePipe opened = (.ok (p.reader, p.writer), w') := by
  unfold prepare at h
  rcases hopen : Stdio.openPlan k options.stdio w with ⟨_ | stdio, w₁⟩
  · rw [hopen] at h
    cases h
  simp only [hopen] at h
  cases hspec : ExecPlan.ofSpec spec options stdio with
  | error _ =>
    rw [hspec] at h
    cases h
  | ok plan =>
    simp only [hspec] at h
    rcases hpipe : k.makePipe w₁ with ⟨_ | ⟨reader, writer⟩, w₂⟩ <;> rw [hpipe] at h <;> cases h
    exact ⟨w₁, rfl, hspec, hpipe⟩

end Preparing

/-! ### What is asked of the operating system -/

/-- The file that a call has made or emptied. -/
def SystemCall.created? : SystemCall → Option OsString
  | .create path (.ok _) => some path
  | _ => none

/-- The files that calls have made or emptied, in order. -/
def created (made : List (Made W)) : List OsString :=
  made.filterMap (·.call.created?)

/-- Whether a call opens or closes something, and does nothing else. -/
def SystemCall.isOpening : SystemCall → Bool
  | .openRead .. | .create .. | .makePipe _ | .close _ => true
  | _ => false

/-- What goes on behind a log adds to the log. -/
theorem Traced.made_of_behind {f : Traced W → Traced W} (hf : ∀ log r, f (behind log r) = behind log (f r))
    (r : Traced W) : ∃ later, (f r).made = r.made ++ later := by
  have hgoes := hf r.made (start r.world)
  rw [behind_start] at hgoes
  exact ⟨(f (start r.world)).made, by rw [hgoes]; rfl⟩

section Tracing

variable (k : Kernel W)

/-- A file is asked for once, or not at all; it is there if the answer says so. -/
theorem fileRefusal_traced (call : OsString → W → Except Errno Fd × W)
    (entry : OsString → Except Errno Fd → SystemCall)
    (hopening : ∀ path answer, (entry path answer).isOpening) (path : OsString) (r : Traced W) :
    ∃ later, fileRefusal (fun path r => r.answered (entry path) (call path r.world)) path r =
        ((fileRefusal call path r.world).1, ⟨(fileRefusal call path r.world).2, r.made ++ later⟩) ∧
      (∀ m ∈ later, m.call.isOpening) ∧
      ((∀ e, (entry path (.error e)).created? = none) → ∀ file, (∀ fd, (entry path (.ok fd)).created? = file) →
        created later = if (fileRefusal call path r.world).1.isNone then file.toList else []) := by
  rw [fileRefusal, fileRefusal]
  split
  · exact ⟨[], by simp, fun _ hnone => absurd hnone List.not_mem_nil, fun _ _ _ => rfl⟩
  · rcases hcall : call path r.world with ⟨e | fd, w⟩
    · refine ⟨[⟨entry path (.error e), r.world⟩], rfl, ?_, fun hfailed _ _ => ?_⟩
      · simp [hopening]
      · simp [created, hfailed]
    · refine ⟨[⟨entry path (.ok fd), r.world⟩], rfl, ?_, fun _ file hmade => ?_⟩
      · simp [hopening]
      · cases file <;> simp [created, hmade]

/-- A check asks the operating system for its file or its pipe at most; if it passes its file is there. -/
theorem perform_traced (check : Check) (r : Traced W) :
    ∃ later, check.perform k.traced r =
        ((check.perform k r.world).1, ⟨(check.perform k r.world).2, r.made ++ later⟩) ∧
      (∀ m ∈ later, m.call.isOpening) ∧
      created later = if (check.perform k r.world).1.isNone then check.output?.toList else [] := by
  cases check with
  | input path =>
    obtain ⟨later, hanswer, hopening, hcreated⟩ :=
      fileRefusal_traced k.openRead .openRead (fun _ _ => rfl) path r
    exact ⟨later, hanswer, hopening, hcreated (fun _ => rfl) none fun _ => rfl⟩
  | output path =>
    obtain ⟨later, hanswer, hopening, hcreated⟩ :=
      fileRefusal_traced k.create .create (fun _ _ => rfl) path r
    exact ⟨later, hanswer, hopening, hcreated (fun _ => rfl) (some path) fun _ => rfl⟩
  | pipe =>
    refine ⟨[⟨.makePipe (k.makePipe r.world).1, r.world⟩], ?_, by simp [SystemCall.isOpening], ?_⟩
    · have hask : k.traced.makePipe r = r.answered .makePipe (k.makePipe r.world) := rfl
      simp only [Check.perform, hask]
      rcases k.makePipe r.world with ⟨e | ends, w⟩ <;> rfl
    · simp [created, SystemCall.created?, Check.output?]
  | named program | whole what octets =>
    refine ⟨[], by simp [Check.perform], fun _ hnone => absurd hnone List.not_mem_nil, ?_⟩
    simp [created, Check.output?]

/-- Checks that are written down are the same checks. What they ask for are openings, and the files that they
have made or emptied are those of the checks that passed. -/
theorem screen_traced (checks : List Check) (r : Traced W) :
    let s := screen k checks r.world
    ∃ later, screen k.traced checks r = ⟨s.passed, s.refused, ⟨s.world, r.made ++ later⟩⟩ ∧
      (∀ m ∈ later, m.call.isOpening) ∧ created later = s.passed.filterMap Check.output? := by
  induction checks generalizing r with
  | nil => exact ⟨[], by simp [screen], nofun, rfl⟩
  | cons check rest ih =>
    obtain ⟨first, hfirst, hopening, hcreated⟩ := perform_traced k check r
    rcases hcheck : check.perform k r.world with ⟨_ | cause, w⟩ <;> rw [hcheck] at hfirst hcreated
    · obtain ⟨later, hlater, hopenings, hothers⟩ := ih ⟨w, r.made ++ first⟩
      refine ⟨first ++ later, ?_, ?_, ?_⟩
      · simp only [screen, hfirst, hcheck, hlater, List.append_assoc]
      · intro m hm
        rcases List.mem_append.mp hm with hm | hm
        · exact hopening m hm
        · exact hopenings m hm
      · simp only [screen, hcheck, List.filterMap_cons]
        rw [created, List.filterMap_append, ← created, ← created, hothers, hcreated]
        cases check.output? <;> rfl
    · exact ⟨first, by simp only [screen, hfirst, hcheck], hopening, by simpa [screen, hcheck] using hcreated⟩

/-- Closing descriptors is closing each of them. -/
theorem closeAll_traced (fds : List Fd) (r : Traced W) :
    ∃ later, (k.traced.closeAll fds r).made = r.made ++ later ∧ (∀ m ∈ later, m.call.isOpening) ∧
      created later = [] := by
  induction fds generalizing r with
  | nil => exact ⟨[], by simp [Kernel.closeAll], nofun, rfl⟩
  | cons fd rest ih =>
    obtain ⟨later, hlater, hopening, hcreated⟩ := ih (k.traced.close fd r)
    refine ⟨⟨.close fd, r.world⟩ :: later, ?_, ?_, hcreated⟩
    · rw [Kernel.closeAll, List.foldl_cons]
      exact hlater.trans (List.append_assoc ..)
    · intro m hm
      rcases List.mem_cons.mp hm with rfl | hm
      · rfl
      · exact hopening m hm

/-- The first call from the fork on is the fork. -/
theorem forkOff_traced (spec : LaunchSpec) (options : LaunchOptions) (p : Preparations) (r : Traced W) :
    ∃ later, (p.forkOff k.traced spec options r).2.made =
      r.made ++ ⟨.fork (k.fork r.world).1, r.world⟩ :: later := by
  have hask : k.traced.fork r = r.answered .fork (k.fork r.world) := rfl
  rw [Preparations.forkOff, hask]
  rcases k.fork r.world with ⟨e | child, w⟩
  · obtain ⟨later, hlater, -⟩ :=
      closeAll_traced k (p.reader :: p.writer :: p.stdio.allFds) (r.add (.fork (.error e)) w)
    exact ⟨later, hlater.trans (List.append_assoc ..)⟩
  · let next (r : Traced W) : Traced W := (supervise k.traced spec options p.stdio p.reader child
      (k.traced.closeAll (p.writer :: p.stdio.childFds) (p.plan.run k.traced child p.writer r))).2
    have hbehind : ∀ log r, next (.behind log r) = .behind log (next r) := by
      intro log r
      have h := k.traced_projects_behind log
      simp only [next, run_map h, closeAll_map h, supervise_map h, projected_snd]
    obtain ⟨later, hlater⟩ := Traced.made_of_behind hbehind (r.add (.fork (.ok child)) w)
    exact ⟨later, hlater.trans (List.append_assoc ..)⟩

end Tracing

section Deciding

variable (k : Kernel W) {spec : LaunchSpec} {options : LaunchOptions} {w : W}
  (hplan : options.stdio.stdout ≠ some .sameAsStdout)
include hplan

/-- Behind a refusal a launch closes what it has opened, and its answer is the cause. -/
theorem launch_of_refused {check : Check} {cause : LaunchError}
    (hrefused : (screen k (checksOf spec options.stdio) w).refused = some (check, cause)) :
    let run := launch k.traced spec options (.start w)
    run.1 = .error cause ∧ (∀ m ∈ run.2.made, m.call.isOpening) ∧
      created run.2.made = (screen k (checksOf spec options.stdio) w).passed.filterMap Check.output? := by
  intro run
  obtain ⟨before, hscreen, hopening, hcreated⟩ := screen_traced k (checksOf spec options.stdio) (.start w)
  have htraced : Screened k.traced (checksOf spec options.stdio) (.start w)
      (prepare k.traced spec options (.start w)) := screened_prepare hplan
  simp only [Screened, hscreen, Traced.world_start, hrefused] at htraced
  obtain ⟨fds, hprepare⟩ := htraced
  have hrun : run = _ := launch_eq_prepare
  rw [hprepare] at hrun
  obtain ⟨closed, hclosed, hclosing, hnone⟩ :=
    closeAll_traced k fds ⟨(screen k (checksOf spec options.stdio) w).world, before⟩
  have hmade : run.2.made = before ++ closed := by
    rw [hrun]
    exact hclosed
  refine ⟨by rw [hrun], fun m hm => ?_, ?_⟩
  · rw [hmade] at hm
    rcases List.mem_append.mp hm with hm | hm
    · exact hopening m hm
    · exact hclosing m hm
  · rw [hmade, created, List.filterMap_append, ← created, ← created, hnone, List.append_nil, hcreated]
    rfl

/-- If no check refuses, the next call is the fork. -/
theorem launch_of_passed (hpassed : (screen k (checksOf spec options.stdio) w).refused = none) :
    let s := screen k (checksOf spec options.stdio) w
    ∃ before later, (launch k.traced spec options (.start w)).2.made =
        before ++ ⟨.fork (k.fork s.world).1, s.world⟩ :: later ∧
      (∀ m ∈ before, m.call.isOpening) ∧ created before = s.passed.filterMap Check.output? := by
  intro s
  obtain ⟨before, hscreen, hopening, hcreated⟩ := screen_traced k (checksOf spec options.stdio) (.start w)
  have htraced : Screened k.traced (checksOf spec options.stdio) (.start w)
      (prepare k.traced spec options (.start w)) := screened_prepare hplan
  simp only [Screened, hscreen, Traced.world_start, hpassed] at htraced
  obtain ⟨p, hprepare⟩ := htraced
  obtain ⟨later, hlater⟩ := forkOff_traced k spec options p ⟨s.world, before⟩
  refine ⟨before, later, ?_, hopening, hcreated⟩
  rw [launch_eq_prepare, hprepare]
  exact hlater

/-- If no check refuses, there is a plan in memory, and the child that a fork makes has it. -/
theorem plan_of_passed (hpassed : (screen k (checksOf spec options.stdio) w).refused = none) :
    let s := screen k (checksOf spec options.stdio) w
    ∃ plan, Prepared spec options plan ∧ ∀ child forked, k.fork s.world = (.ok child, forked) →
      ∃ f : Fork k spec options w, f.plan = plan ∧ f.child = child ∧ f.world = forked := by
  intro s
  have hscreened : Screened k (checksOf spec options.stdio) w (prepare k spec options w) := screened_prepare hplan
  simp only [Screened, hpassed] at hscreened
  obtain ⟨p, hprepare⟩ := hscreened
  obtain ⟨opened, hopen, hspec, hpipe⟩ := prepare_ok hprepare
  refine ⟨p.plan, prepared_of_ofSpec hspec, fun child forked hfork => ?_⟩
  exact ⟨⟨p.stdio, p.plan, p.reader, p.writer, child, opened, s.world, forked, hopen, hspec, hpipe, hfork⟩,
    rfl, rfl, rfl⟩

end Deciding

/-- A launch makes its checks in order, and the first one that refuses decides.

Then the answer is its cause, nothing was asked for but openings and closings, and the files that were made or
emptied are those of the checks before it. If no check refuses, the fork comes next, and the child that it makes
has a plan in memory from which it reads what was asked for, octet by octet. -/
theorem launch_checks_first (k : Kernel W) (spec : LaunchSpec) (redirection : Redirection) (mode : ConsoleMode)
    (detach : Bool) (umask : Option Nat) (w : W) :
    let options : LaunchOptions := { stdio := redirection.plan mode, detach, umask }
    let checks := checksOf spec options.stdio
    let s := screen k checks w
    let run := launch k.traced spec options (.start w)
    (launch k spec options w).1 = run.1 ∧
      match s.refused with
      | some (check, cause) =>
        s.passed ++ [check] <+: checks ∧ run.1 = .error cause ∧ (∀ m ∈ run.2.made, m.call.isOpening) ∧
          created run.2.made = s.passed.filterMap Check.output?
      | none =>
        s.passed = checks ∧
          (∃ before later, run.2.made = before ++ ⟨.fork (k.fork s.world).1, s.world⟩ :: later ∧
            (∀ m ∈ before, m.call.isOpening) ∧ created before = checks.filterMap Check.output?) ∧
          ∃ plan, Prepared spec options plan ∧ ∀ child forked, k.fork s.world = (.ok child, forked) →
            ∃ f : Fork k spec options w, f.plan = plan ∧ f.child = child ∧ f.world = forked := by
  intro options checks s run
  have hplan : options.stdio.stdout ≠ some .sameAsStdout := plan_stdout_ne redirection mode
  have hworld : (launch k spec options w).1 = run.1 :=
    congrArg Prod.fst (launch_map k.traced_projects_world spec options (.start w))
  refine ⟨hworld, ?_⟩
  have hpassed := screen_passed k checks w
  have hs : screen k checks w = s := rfl
  rw [hs] at hpassed
  cases hrefused : s.refused with
  | some refusal =>
    simp only [hrefused] at hpassed ⊢
    exact ⟨hpassed, launch_of_refused k hplan hrefused⟩
  | none =>
    simp only [hrefused] at hpassed ⊢
    obtain ⟨before, later, hmade, hopening, hcreated⟩ := launch_of_passed k hplan hrefused
    exact ⟨hpassed, ⟨before, later, hmade, hopening, hcreated.trans (congrArg _ hpassed)⟩,
      plan_of_passed k hplan hrefused⟩

/-- A launch with an argument that cannot be laid out in memory. -/
def brokenSpec : LaunchSpec :=
  { program := .ofString "a", args := ["a", "b\x00c"] }

/-- The files of its output and its errors. -/
def brokenFiles : Redirection :=
  .files { stdout := some (.ofString "o"), stderr := some (.ofString "e") }

/-- Both files are emptied before the argument is refused. -/
theorem files_emptied_before_refusal :
    let options : LaunchOptions := { stdio := brokenFiles.plan .merged }
    (launch Bench.kernel brokenSpec options (.client [] [])).1 =
        .error (.invalidArgument "argument contains a NUL byte") ∧
      created (launch Bench.kernel.traced brokenSpec options (.start (.client [] []))).2.made =
        [.ofString "o", .ofString "e"] := by
  intro options
  obtain ⟨hworld, hrun⟩ := launch_checks_first Bench.kernel brokenSpec brokenFiles .merged false none (.client [] [])
  have hrefused : (screen Bench.kernel (checksOf brokenSpec options.stdio) (.client [] [])).refused =
      some (.whole "argument" (.ofString "b\x00c"), .invalidArgument "argument contains a NUL byte") := by
    decide +kernel
  have hpassed : (screen Bench.kernel (checksOf brokenSpec options.stdio) (.client [] [])).passed.filterMap
      Check.output? = [.ofString "o", .ofString "e"] := by decide +kernel
  rw [hrefused] at hrun
  obtain ⟨-, hcause, -, hcreated⟩ := hrun
  exact ⟨hworld.trans hcause, hcreated.trans hpassed⟩

/-- A launch with more than permission bits in its mask. -/
def stickyOptions : LaunchOptions :=
  { stdio := Redirection.inherit.plan .merged, umask := some 0o1022 }

theorem stickyOptions_forks :
    (Fork.find? Bench.kernel (.ofProgram (.ofString "a")) stickyOptions (.client [] [])).isSome := by
  decide +kernel

/-- Nothing refuses the mask, but the child sets only its permission bits. -/
theorem mask_not_as_given :
    ∃ f : Fork Bench.kernel (.ofProgram (.ofString "a")) stickyOptions (.client [] []),
      f.plan.umask = some 0o22 ∧ f.plan.umask ≠ stickyOptions.umask := by
  refine ⟨(Fork.find? _ _ _ _).get stickyOptions_forks, ?_, ?_⟩ <;> decide +kernel

end Offspring.Posix
