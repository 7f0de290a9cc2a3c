import Offspring.Posix.Launch
import Offspring.Proofs.Spawner.Projection

/-!
# Kernels in projected worlds

A part of the world may be of no concern, such as what was written down before. One kernel projects to another
one if both answer alike and the worlds of the first are taken to those of the second. Then launching a child
and dealing with it go alike over both.
-/

namespace Offspring.Posix

variable {W V α : Type}

/-- An answer with its world projected. -/
def projected (project : W → V) (answer : α × W) : α × V :=
  (answer.1, project answer.2)

@[simp] theorem projected_mk (project : W → V) (a : α) (w : W) : projected project (a, w) = (a, project w) := rfl

@[simp] theorem projected_fst (project : W → V) (answer : α × W) : (projected project answer).1 = answer.1 := rfl

@[simp] theorem projected_snd (project : W → V) (answer : α × W) :
    (projected project answer).2 = project answer.2 := rfl

/-- Both kernels answer alike, and `project` takes the worlds of the first to those of the second. -/
structure Kernel.Projects (k : Kernel W) (k' : Kernel V) (project : W → V) : Prop where
  interruptions : ∀ w, k'.interruptions (project w) = k.interruptions w
  openRead : ∀ path w, k'.openRead path (project w) = projected project (k.openRead path w)
  create : ∀ path w, k'.create path (project w) = projected project (k.create path w)
  makePipe : ∀ w, k'.makePipe (project w) = projected project (k.makePipe w)
  close : ∀ fd w, k'.close fd (project w) = project (k.close fd w)
  read : ∀ fd count w, k'.read fd count (project w) = projected project (k.read fd count w)
  fork : ∀ w, k'.fork (project w) = projected project (k.fork w)
  await : ∀ pid w, k'.await pid (project w) = projected project (k.await pid w)
  poll : ∀ pid w, k'.poll pid (project w) = projected project (k.poll pid w)
  hasEnded : ∀ pid w, k'.hasEnded pid (project w) = projected project (k.hasEnded pid w)
  kill : ∀ pid signal w, k'.kill pid signal (project w) = projected project (k.kill pid signal w)
  startCollector : ∀ fd sink w,
    k'.startCollector fd sink (project w) = projected project (k.startCollector fd sink w)
  finishCollector : ∀ id w, k'.finishCollector id (project w) = project (k.finishCollector id w)
  startReaper : ∀ pid collector w,
    k'.startReaper pid collector (project w) = projected project (k.startReaper pid collector w)
  abort : ∀ w, k'.abort (project w) = project (k.abort w)
  note : ∀ event w, k'.note event (project w) = project (k.note event w)
  newSession : ∀ pid w, k'.newSession pid (project w) = projected project (k.newSession pid w)
  setUmask : ∀ pid mask w, k'.setUmask pid mask (project w) = project (k.setUmask pid mask w)
  keepOnExec : ∀ pid fd w, k'.keepOnExec pid fd (project w) = projected project (k.keepOnExec pid fd w)
  duplicate : ∀ pid fd target w,
    k'.duplicate pid fd target (project w) = projected project (k.duplicate pid fd target w)
  changeDirectory : ∀ pid path w,
    k'.changeDirectory pid path (project w) = projected project (k.changeDirectory pid path w)
  exec : ∀ pid program argv envp w,
    k'.exec pid program argv envp (project w) = projected project (k.exec pid program argv envp w)
  write : ∀ pid fd octets w, k'.write pid fd octets (project w) = project (k.write pid fd octets w)
  exit : ∀ pid code w, k'.exit pid code (project w) = project (k.exit pid code w)

variable {k : Kernel W} {k' : Kernel V} {project : W → V}

theorem retryFor_map {call : W → Except Errno α × W} {call' : V → Except Errno α × V}
    (hcall : ∀ w, call' (project w) = projected project (call w)) (fuel : Nat) (w : W) :
    Kernel.retryFor call' fuel (project w) = projected project (Kernel.retryFor call fuel w) := by
  induction fuel generalizing w with
  | zero => exact hcall w
  | succ fuel ih =>
    rw [Kernel.retryFor, Kernel.retryFor, hcall]
    rcases call w with ⟨e | a, w'⟩
    · by_cases he : e = .interrupted <;> simp [he, ih]
    · rfl

section Dealing

/-- Both kernels deal with a child alike, once interruptions are over. -/
structure Kernel.DealsAlike (k : Kernel W) (k' : Kernel V) (project : W → V) (child : Pid) : Prop where
  await : ∀ w, k'.retry (k'.await child) (project w) = projected project (k.retry (k.await child) w)
  poll : ∀ w, k'.retry (k'.poll child) (project w) = projected project (k.retry (k.poll child) w)
  hasEnded : ∀ w, k'.retry (k'.hasEnded child) (project w) = projected project (k.retry (k.hasEnded child) w)
  kill : ∀ signal w, k'.kill child signal (project w) = projected project (k.kill child signal w)
  finishCollector : ∀ id w, k'.finishCollector id (project w) = project (k.finishCollector id w)
  note : ∀ event w, k'.note event (project w) = project (k.note event w)

theorem finish_map {child : Pid} (h : k.DealsAlike k' project child) (outcome : Outcome) (c : Child) (w : W) :
    c.finish k' outcome (project w) =
      ((c.finish k outcome w).1, projected project (c.finish k outcome w).2) := by
  cases hcollector : c.collector with
  | none => simp [Child.finish, hcollector]
  | some collector => simp [Child.finish, hcollector, h.finishCollector]

theorem conclude_map {child : Pid} (h : k.DealsAlike k' project child) (answer : Except Errno Remains) (c : Child)
    (w : W) :
    c.conclude k' answer (project w) =
      ((c.conclude k answer w).1, projected project (c.conclude k answer w).2) := by
  cases answer with
  | ok remains => exact finish_map h _ c w
  | error e => simp only [Child.conclude, h.note, finish_map h]

theorem tryWait_map (c : Child) (h : k.DealsAlike k' project c.pid) (w : W) :
    c.tryWait k' (project w) = ((c.tryWait k w).1, projected project (c.tryWait k w).2) := by
  cases hexit : c.exit with
  | some outcome => simp [Child.tryWait, hexit]
  | none =>
    simp only [Child.tryWait, hexit, h.poll]
    rcases k.retry (k.poll c.pid) w with ⟨_ | _ | _, w'⟩ <;>
      simp only [projected_mk, projected_fst, projected_snd, conclude_map h]

theorem wait_map (c : Child) (h : k.DealsAlike k' project c.pid) (w : W) :
    c.wait k' (project w) = ((c.wait k w).1, projected project (c.wait k w).2) := by
  cases hexit : c.exit with
  | some outcome => simp [Child.wait, hexit]
  | none => simp only [Child.wait, hexit, h.await, projected_fst, projected_snd, conclude_map h]

theorem kill_map (c : Child) (h : k.DealsAlike k' project c.pid) (w : W) :
    c.kill k' (project w) = projected project (c.kill k w) := by
  cases hexit : c.exit with
  | some outcome => simp [Child.kill, hexit]
  | none =>
    simp only [Child.kill, hexit, h.hasEnded]
    rcases k.retry (k.hasEnded c.pid) w with ⟨_ | _ | _, w'⟩
    case ok.true => rfl
    all_goals
      simp only [projected_mk, h.kill]
      rcases k.kill c.pid sigkill w' with ⟨e | _, w''⟩
      · by_cases he : e = .noProcess <;> simp [he, h.note]
      · rfl

end Dealing

variable (h : k.Projects k' project)
include h

theorem retry_map {call : W → Except Errno α × W} {call' : V → Except Errno α × V}
    (hcall : ∀ w, call' (project w) = projected project (call w)) (w : W) :
    k'.retry call' (project w) = projected project (k.retry call w) := by
  rw [Kernel.retry, Kernel.retry, h.interruptions]
  exact retryFor_map hcall _ w

theorem closeAll_map (fds : List Fd) (w : W) : k'.closeAll fds (project w) = project (k.closeAll fds w) := by
  induction fds generalizing w with
  | nil => rfl
  | cons fd fds ih =>
    rw [Kernel.closeAll, List.foldl_cons, h.close]
    exact ih (k.close fd w)

section Opening

omit h in
theorem openFile_map {call : OsString → W → Except Errno Fd × W} {call' : OsString → V → Except Errno Fd × V}
    (hcall : ∀ path w, call' path (project w) = projected project (call path w)) (path : OsString) (w : W) :
    Stdio.openFile call' path (project w) = projected project (Stdio.openFile call path w) := by
  rw [Stdio.openFile, Stdio.openFile, hcall]
  cases path.hasNul
  · rcases call path w with ⟨_ | _, _⟩ <;> rfl
  · rfl

theorem openInput_map (path : Option OsString) (w : W) :
    Stdio.openInput k' path (project w) = projected project (Stdio.openInput k path w) := by
  cases path with
  | none => rfl
  | some path =>
    rw [Stdio.openInput, Stdio.openInput, openFile_map h.openRead]
    rcases Stdio.openFile k.openRead path w with ⟨_ | _, _⟩ <;> rfl

theorem openOutput_map (target : Option StreamTarget) (s : Stdio) (w : W) :
    Stdio.openOutput k' target s (project w) = projected project (Stdio.openOutput k target s w) := by
  rcases target with _ | (path | sink | _)
  · rfl
  · rw [Stdio.openOutput, Stdio.openOutput, openFile_map h.create]
    rcases Stdio.openFile k.create path w with ⟨_ | _, _⟩ <;> rfl
  · rw [Stdio.openOutput, Stdio.openOutput, h.makePipe]
    rcases k.makePipe w with ⟨_ | ⟨_, _⟩, _⟩ <;> rfl
  · rfl

theorem openError_map (target : Option StreamTarget) (s : Stdio) (w : W) :
    Stdio.openError k' target s (project w) = projected project (Stdio.openError k target s w) := by
  rcases target with _ | (path | sink | _)
  · rfl
  · rw [Stdio.openError, Stdio.openError, openFile_map h.create]
    rcases Stdio.openFile k.create path w with ⟨_ | _, _⟩ <;> rfl
  · rfl
  · rfl

theorem andThen_map {opened : Except LaunchError Stdio × W} {next : Stdio → W → Except LaunchError Stdio × W}
    {next' : Stdio → V → Except LaunchError Stdio × V}
    (hnext : ∀ s w, next' s (project w) = projected project (next s w)) :
    Stdio.andThen k' (projected project opened) next' = projected project (Stdio.andThen k opened next) := by
  rcases opened with ⟨_ | s, w⟩
  · rfl
  · simp only [projected_mk, Stdio.andThen, hnext]
    rcases next s w with ⟨_ | _, _⟩
    · simp only [projected_mk, closeAll_map h]
    · rfl

theorem openPlan_map (plan : StreamPlan) (w : W) :
    Stdio.openPlan k' plan (project w) = projected project (Stdio.openPlan k plan w) := by
  rw [Stdio.openPlan, openInput_map h, andThen_map h (openOutput_map h plan.stdout),
    andThen_map h (openError_map h plan.stderr), ← Stdio.openPlan]

end Opening

section Child

theorem redirectFd_map (child : Pid) (fd target : Fd) (w : W) :
    ExecPlan.redirectFd k' child fd target (project w) =
      projected project (ExecPlan.redirectFd k child fd target w) := by
  by_cases hsame : fd = target
  · simp only [ExecPlan.redirectFd, hsame, if_true, h.keepOnExec]
  · simp only [ExecPlan.redirectFd, hsame, if_false]
    exact retry_map h (h.duplicate child fd target) w

theorem redirectFrom_map (child : Pid) (target : Fd) (fds : List (Option Fd)) (w : W) :
    ExecPlan.redirectFrom k' child target fds (project w) =
      projected project (ExecPlan.redirectFrom k child target fds w) := by
  induction fds generalizing target w with
  | nil => rfl
  | cons fd rest ih =>
    cases fd with
    | none => exact ih (target + 1) w
    | some fd =>
      rw [ExecPlan.redirectFrom, ExecPlan.redirectFrom, redirectFd_map h]
      rcases ExecPlan.redirectFd k child fd target w with ⟨_ | _, w'⟩
      · rfl
      · exact ih (target + 1) w'

omit h in
theorem stepIf_map {step : W → Except Errno Unit × W} {step' : V → Except Errno Unit × V}
    (hstep : ∀ w, step' (project w) = projected project (step w)) (wanted : Bool) (w : W) :
    ExecPlan.stepIf wanted step' (project w) = projected project (ExecPlan.stepIf wanted step w) := by
  cases wanted
  · rfl
  · exact hstep w

omit h in
theorem next_map {next : W → Except Errno Unit × W} {next' : V → Except Errno Unit × V}
    (hnext : ∀ w, next' (project w) = projected project (next w)) (done : Except Errno Unit × W) :
    ExecPlan.andThen (projected project done) next' = projected project (ExecPlan.andThen done next) := by
  rcases done with ⟨_ | _, w⟩
  · rfl
  · exact hnext w

theorem run_map (plan : ExecPlan) (child : Pid) (report : Fd) (w : W) :
    plan.run k' child report (project w) = project (plan.run k child report w) := by
  have hsteps : plan.steps k' child (project w) = projected project (plan.steps k child w) := by
    simp only [ExecPlan.steps]
    rw [stepIf_map (h.newSession child), next_map, next_map (redirectFrom_map h child 0 plan.targets),
      next_map, next_map (h.exec child plan.program.read plan.argv.read plan.envp.read)]
    · intro w
      cases plan.cwd with
      | none => rfl
      | some dir => exact h.changeDirectory child dir.read w
    · intro w
      cases plan.umask with
      | none => rfl
      | some mask => exact congrArg (Prod.mk _) (h.setUmask child mask w)
  rw [ExecPlan.run, ExecPlan.run, hsteps]
  rcases plan.steps k child w with ⟨_ | _, w'⟩
  · simp only [projected_mk, h.write, h.exit]
  · rfl

end Child

section Launch

theorem readReport_map (fd : Fd) (fuel : Nat) (octets : ByteArray) (w : W) :
    readReport k' fd fuel octets (project w) = projected project (readReport k fd fuel octets w) := by
  induction fuel generalizing octets w with
  | zero => rfl
  | succ fuel ih =>
    rw [readReport, readReport, h.read]
    by_cases hfull : 4 ≤ octets.size
    · simp [hfull]
    · simp only [hfull, if_false]
      rcases k.read fd (4 - octets.size) w with ⟨e | more, w'⟩
      · by_cases he : e = .interrupted <;> simp [he, ih]
      · cases hmore : more.isEmpty <;> simp [hmore, ih]

theorem startCapture_map (capture : Option Capture) (w : W) :
    startCapture k' capture (project w) = projected project (startCapture k capture w) := by
  cases capture with
  | none => rfl
  | some capture =>
    rw [startCapture, startCapture, h.startCollector]
    rcases k.startCollector capture.reader capture.sink w with ⟨_ | _, _⟩
    · simp only [projected_mk, h.note]
    · rfl

theorem supervise_map (spec : LaunchSpec) (options : LaunchOptions) (stdio : Stdio) (reader : Fd) (child : Pid)
    (w : W) : supervise k' spec options stdio reader child (project w) =
      projected project (supervise k spec options stdio reader child w) := by
  rw [supervise, supervise, h.interruptions, readReport_map h]
  rcases readReport k reader (k.interruptions w + 5) .empty w with ⟨_ | _ | _, w'⟩
  · simp only [projected_mk, projected_fst, projected_snd, h.close, startCapture_map h, h.note]
  · simp only [projected_mk, projected_fst, projected_snd, h.close, retry_map h (h.await child), closeAll_map h]
    rcases k.retry (k.await child) (k.close reader w') with ⟨_ | _, _⟩
    · simp only [h.abort]
    · rfl
  · simp only [projected_mk, projected_snd, h.close, h.kill, h.abort]

/-- A launch goes alike in a projected world. -/
theorem launch_map (spec : LaunchSpec) (options : LaunchOptions) (w : W) :
    launch k' spec options (project w) = projected project (launch k spec options w) := by
  rw [launch, launch, openPlan_map h]
  rcases Stdio.openPlan k options.stdio w with ⟨_ | stdio, w₁⟩
  · rfl
  · simp only [projected_mk]
    cases ExecPlan.ofSpec spec options stdio with
    | error cause => simp only [projected_mk, closeAll_map h]
    | ok plan =>
      simp only [h.makePipe]
      rcases k.makePipe w₁ with ⟨_ | ⟨reader, writer⟩, w₂⟩
      · simp only [projected_mk, closeAll_map h]
      · simp only [projected_mk, h.fork]
        rcases k.fork w₂ with ⟨_ | child, w₃⟩
        · simp only [projected_mk, closeAll_map h]
        · simp only [projected_mk, run_map h, closeAll_map h, supervise_map h]

end Launch

section Leaving

/-- Kernels that answer alike deal with every child alike. -/
theorem Kernel.Projects.dealsAlike (child : Pid) : k.DealsAlike k' project child where
  await := retry_map h (h.await child)
  poll := retry_map h (h.poll child)
  hasEnded := retry_map h (h.hasEnded child)
  kill := h.kill child
  finishCollector := h.finishCollector
  note := h.note

theorem release_map (c : Child) (w : W) : c.release k' (project w) = project (c.release k w) := by
  cases hexit : c.exit with
  | some outcome => simp [Child.release, hexit]
  | none =>
    cases hdetach : c.detach with
    | false =>
      have halike := h.dealsAlike c.pid
      simp only [Child.release, hexit, hdetach, h.note, kill_map c halike, wait_map c halike, projected_snd,
        Bool.false_eq_true, if_false]
    | true =>
      simp only [Child.release, hexit, hdetach, h.note, h.startReaper, if_true]
      rcases k.startReaper c.pid c.collector (k.note .leavingDetached w) with ⟨_ | _, w'⟩
      · simp only [projected_mk, h.note]
      · rfl

/-- Backends over kernels that answer alike answer alike. -/
theorem backend_projects : (backend k).Projects (backend k') project where
  name := rfl
  supportsSignals := rfl
  launch := launch_map h
  pid := rfl
  tryWait c w := tryWait_map c (h.dealsAlike c.pid) w
  wait c w := wait_map c (h.dealsAlike c.pid) w
  kill c w := by
    have hkill := kill_map c (h.dealsAlike c.pid) w
    simp only [backend, hkill]
    rfl
  release := release_map h
  note := h.note

end Leaving

end Offspring.Posix
