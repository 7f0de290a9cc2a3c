import Offspring.Proofs.Posix.Course
import Offspring.Posix.Launch

/-!
# What holds across a preparation

A relation of worlds that is kept by single calls is kept by what is made of them: by the opening of the streams'
targets (`Keeps.openPlan`), and by the steps of a child up to the change of its directory (`Keeps.course`).
-/

namespace Offspring.Posix

variable {W : Type}

/-- A relation of the worlds before and behind a call, and across several calls, of those calls by which a launch
opens files and a child prepares for its program. Changing a directory is not among them. -/
structure Keeps (k : Kernel W) (R : W → W → Prop) : Prop where
  refl : ∀ w, R w w
  trans : ∀ {w w' w''}, R w w' → R w' w'' → R w w''
  openRead : ∀ path w, R w (k.openRead path w).2
  create : ∀ path w, R w (k.create path w).2
  makePipe : ∀ w, R w (k.makePipe w).2
  close : ∀ fd w, R w (k.close fd w)
  newSession : ∀ child w, R w (k.newSession child w).2
  setUmask : ∀ child mask w, R w (k.setUmask child mask w)
  keepOnExec : ∀ child fd w, R w (k.keepOnExec child fd w).2
  duplicate : ∀ child fd target w, R w (k.duplicate child fd target w).2

/-- A step that leaves a child in its directory and in its program. -/
def ChildStep.Stays : ChildStep → Prop
  | .session | .mask _ | .stream _ _ => True
  | .directory _ | .program => False

namespace Keeps

variable {k : Kernel W} {R : W → W → Prop} (h : Keeps k R)
include h

theorem closeAll (fds : List Fd) (w : W) : R w (k.closeAll fds w) := by
  induction fds generalizing w with
  | nil => exact h.refl w
  | cons fd fds ih => exact h.trans (h.close fd w) (ih _)

theorem retry {α : Type} {call : W → Except Errno α × W} (hcall : ∀ w, R w (call w).2) (w : W) :
    R w (k.retry call w).2 := by
  have hall : ∀ fuel w, R w (Kernel.retryFor call fuel w).2 := by
    intro fuel
    induction fuel with
    | zero => exact hcall
    | succ fuel ih =>
      intro w
      have hfirst := hcall w
      rw [Kernel.retryFor]
      split
      · rename_i hanswer
        rw [hanswer] at hfirst
        split
        · exact h.trans hfirst (ih _)
        · exact hfirst
      · exact hfirst
  exact hall (k.interruptions w) w

/-! ### Opening the streams -/

omit h in
/-- Passing on what a file's opening has answered changes no world. -/
theorem openFile {call : OsString → W → Except Errno Fd × W} (hrefl : ∀ w, R w w)
    (hcall : ∀ path w, R w (call path w).2) (path : OsString) (w : W) : R w (Stdio.openFile call path w).2 := by
  have hopened := hcall path w
  rw [Stdio.openFile]
  split
  · exact hrefl w
  · split
    all_goals
      rename_i hanswer
      rw [hanswer] at hopened
      exact hopened

theorem openInput (path : Option OsString) (w : W) : R w (Stdio.openInput k path w).2 := by
  cases path with
  | none => exact h.refl w
  | some path =>
    have hopened := openFile h.refl h.openRead path w
    rw [Stdio.openInput]
    split
    all_goals
      rename_i hanswer
      rw [hanswer] at hopened
      exact hopened

theorem openOutput (target : Option StreamTarget) (s : Stdio) (w : W) :
    R w (Stdio.openOutput k target s w).2 := by
  rcases target with _ | path | sink | _
  · exact h.refl w
  · have hopened := openFile h.refl h.create path w
    rw [Stdio.openOutput]
    split
    all_goals
      rename_i hanswer
      rw [hanswer] at hopened
      exact hopened
  · have hopened := h.makePipe w
    rw [Stdio.openOutput]
    split
    all_goals
      rename_i hanswer
      rw [hanswer] at hopened
      exact hopened
  · exact h.refl w

theorem openError (target : Option StreamTarget) (s : Stdio) (w : W) : R w (Stdio.openError k target s w).2 := by
  rcases target with _ | path | sink | _
  · exact h.refl w
  · have hopened := openFile h.refl h.create path w
    rw [Stdio.openError]
    split
    all_goals
      rename_i hanswer
      rw [hanswer] at hopened
      exact hopened
  · exact h.refl w
  · exact h.refl w

theorem andThen {opened : Except LaunchError Stdio × W} {next : Stdio → W → Except LaunchError Stdio × W} {w : W}
    (hopened : R w opened.2) (hnext : ∀ s w, R w (next s w).2) : R w (Stdio.andThen k opened next).2 := by
  obtain ⟨answer, w₁⟩ := opened
  cases answer with
  | error cause => exact hopened
  | ok s =>
    have hboth := h.trans hopened (hnext s w₁)
    rw [Stdio.andThen]
    split
    · rename_i hanswer
      rw [hanswer] at hboth
      exact h.trans hboth (h.closeAll _ _)
    · exact hboth

/-- The streams' targets are opened, or closed again. -/
theorem openPlan (plan : StreamPlan) (w : W) : R w (Stdio.openPlan k plan w).2 :=
  h.andThen (h.andThen (h.openInput plan.stdin w) (h.openOutput plan.stdout)) (h.openError plan.stderr)

/-! ### The steps of a child -/

theorem perform (plan : ExecPlan) (child : Pid) {step : ChildStep} (hstep : step.Stays) (w : W) :
    R w (plan.perform k child step w).2 := by
  cases step with
  | session => exact h.newSession child w
  | mask bits => exact h.setUmask child bits w
  | stream fd target =>
    rw [ExecPlan.perform, ExecPlan.redirectFd]
    split
    · exact h.keepOnExec child fd w
    · exact h.retry (h.duplicate child fd target) w
  | directory | program => exact hstep.elim

/-- Steps that stay keep the relation, one after the other. -/
theorem course (plan : ExecPlan) (child : Pid) {steps : List ChildStep} (hsteps : ∀ step ∈ steps, step.Stays) (w : W) :
    R w (plan.course k child steps w).world := by
  induction steps generalizing w with
  | nil => exact h.refl w
  | cons step rest ih =>
    obtain ⟨hstep, hrest⟩ := List.forall_mem_cons.mp hsteps
    have hfirst := h.perform plan child hstep w
    rw [ExecPlan.course]
    split
    · rename_i hanswer
      rw [hanswer] at hfirst
      exact h.trans hfirst (ih hrest _)
    · rename_i hanswer
      rw [hanswer] at hfirst
      exact hfirst

end Keeps

/-- The steps of a child before it changes its directory. -/
def ExecPlan.stays (plan : ExecPlan) : List ChildStep :=
  (if plan.detach then [.session] else []) ++ (plan.umask.map .mask).toList ++ streamSteps 0 plan.targets

theorem stays_streamSteps {target : Fd} {fds : List (Option Fd)} :
    ∀ step ∈ streamSteps target fds, step.Stays := by
  induction fds generalizing target with
  | nil => exact nofun
  | cons fd rest ih =>
    cases fd with
    | none => exact ih
    | some fd => exact List.forall_mem_cons.mpr ⟨trivial, ih⟩

/-- None of these steps moves the child. -/
theorem ExecPlan.stays_of_mem (plan : ExecPlan) : ∀ step ∈ plan.stays, step.Stays := by
  intro step hstep
  obtain hfirst | hstream := List.mem_append.mp hstep
  · obtain hsession | hmask := List.mem_append.mp hfirst
    · split at hsession
      · rw [List.mem_singleton.mp hsession]
        exact trivial
      · cases hsession
    · obtain ⟨bits, -, hbits⟩ := Option.map_eq_some_iff.mp (Option.mem_toList.mp hmask)
      rw [← hbits]
      exact trivial
  · exact stays_streamSteps step hstream

end Offspring.Posix
