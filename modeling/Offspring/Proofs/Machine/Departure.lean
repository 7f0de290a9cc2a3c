import Offspring.Machine.Setup
import Offspring.Proofs.Machine.Steady
import Offspring.Proofs.Posix.Fork
import Offspring.Proofs.Posix.Keeping
import Offspring.Proofs.Posix.Memory

/-!
# Where a child sets out

A child works where its parent does until it changes its directory, which is the last thing that it does before
its program. `Departed` says where it is then, and that no file has moved since before the launch; it holds of
every child that comes so far (`departed_of_course`).
-/

namespace Offspring.Posix

variable {W : Type} {k : Kernel W} {plan : ExecPlan} {child : Pid}

/-- A course that answers well has come to its end. -/
theorem Course.answer_eq_ok_iff {c : Course W} {w : W} : c.answer = (.ok (), w) ↔ c.failed = none ∧ c.world = w := by
  rw [Course.answer]
  cases c.failed with
  | none => simp
  | some failure => simp

/-- A course that comes to its end has come to the end of its first steps. -/
theorem ExecPlan.course_append_of_ok {steps more : List ChildStep} {w : W}
    (h : (plan.course k child (steps ++ more) w).failed = none) :
    (plan.course k child more (plan.course k child steps w).world).failed = none ∧
      (plan.course k child (steps ++ more) w).world =
        (plan.course k child more (plan.course k child steps w).world).world := by
  have hanswer := Course.answer_eq_ok_iff.mpr ⟨h, rfl⟩
  rw [answer_course_append, Course.answer] at hanswer
  cases hfirst : (plan.course k child steps w).failed with
  | none =>
    rw [hfirst] at hanswer
    obtain ⟨hfailed, hworld⟩ := Course.answer_eq_ok_iff.mp hanswer
    exact ⟨hfailed, hworld.symm⟩
  | some failure =>
    rw [hfirst] at hanswer
    cases hanswer

end Offspring.Posix

namespace Offspring.World

open Machine (FileTree Node NodeId client)
open Posix (Pid Fork)

/-- The calls of a machine keep every process in its directory and every file in its place. -/
theorem keeps_steady : Posix.Keeps kernel Machine.Steady where
  refl := .refl
  trans := .trans
  openRead path w := Machine.steady_openFile client path .read true w
  create path w := Machine.steady_openFile client path .write true w
  makePipe w := Machine.steady_makePipe client w
  close fd w := Machine.steady_close client fd w
  newSession child w := Machine.steady_newSession child w
  setUmask child mask w := Machine.steady_setUmask child mask w
  keepOnExec child fd w := Machine.steady_keepOnExec child fd w
  duplicate child fd target w := Machine.steady_duplicate child fd target w

/-- A new child works where its parent does. -/
theorem cwd_of_fork {w w' : World} {child : Pid} (h : kernel.fork w = (.ok child, w')) :
    w'.tree = w.tree ∧ ∃ dir, w.cwd? client = some dir ∧ w'.cwd? child = some dir := by
  have hfork : w.fork client .client = (.ok child, w') := h
  rw [Machine.fork] at hfork
  split at hfork
  · cases hfork
  · cases hfork
  · rename_i p hp _
    cases hfork
    refine ⟨rfl, p.cwd, by rw [Machine.cwd?, hp, Option.map_some], ?_⟩
    rw [Machine.cwd?, Machine.process?, Array.getElem?_push_size]
    rfl

/-- A process that changes its directory works where the path leads. -/
theorem cwd_of_changeDirectory {w w' : World} {child : Pid} {path : OsString} {cwd : NodeId}
    (h : kernel.changeDirectory child path w = (.ok (), w')) (hcwd : w.cwd? child = some cwd) :
    w'.tree = w.tree ∧ ∃ dir node, w.tree.locate cwd path = .ok (dir, node) ∧ w'.cwd? child = some dir := by
  have hchange : w.changeDirectory child path = (.ok (), w') := h
  obtain ⟨p, hp, rfl⟩ := Option.map_eq_some_iff.mp hcwd
  rw [Machine.changeDirectory, hp] at hchange
  split at hchange
  · cases hchange
  · cases hchange
  · rename_i hsame _
    cases hsame
    split at hchange
    · cases hchange
    · rename_i dir node hlocate
      split at hchange
      · cases hchange
      split at hchange
      · cases hchange
      cases hchange
      refine ⟨rfl, dir, node, hlocate, ?_⟩
      rw [Machine.cwd?, Machine.process?_modifyProcess, if_pos rfl, hp]
      rfl

/-- A child that comes to its program works in a directory, which is its parent's unless a path is given for it. No
file has moved since the launch began. -/
structure Departed (w : World) (path : OsString) (child : Pid) (arrived : World) (dir : NodeId) : Prop where
  tree : w.tree.Grows arrived.tree
  cwd : arrived.cwd? child = some dir
  place : if path.isEmpty then dir = w.workingDirectory
    else ∃ node, arrived.tree.locate w.workingDirectory path = .ok (dir, node)

/-- The client works where it did. -/
theorem workingDirectory_of_steady {w w' : World} (h : w.Steady w') : w'.workingDirectory = w.workingDirectory :=
  congrArg (Option.getD · FileTree.root) (h.cwd client)

/-- What was done before that moved no process makes no difference. -/
theorem Departed.of_steady {w w' arrived : World} {path : OsString} {child : Pid} {dir : NodeId}
    (h : w.Steady w') (hdeparted : Departed w' path child arrived dir) : Departed w path child arrived dir where
  tree := h.tree.trans hdeparted.tree
  cwd := hdeparted.cwd
  place := workingDirectory_of_steady h ▸ hdeparted.place

/-- A child that has prepared for its program has set out. -/
theorem departed_of_course {spec : LaunchSpec} {options : LaunchOptions} {w : World}
    (f : Fork kernel spec options w)
    (h : (f.plan.course kernel f.child f.plan.preparations f.world).failed = none) :
    ∃ dir, Departed w spec.cwd f.child (f.plan.course kernel f.child f.plan.preparations f.world).world dir := by
  have hopened : w.Steady f.opened := by
    have hplan := keeps_steady.openPlan options.stdio w
    rwa [f.openPlan_eq] at hplan
  have hpiped : w.Steady f.piped := by
    have hpipe := keeps_steady.makePipe f.opened
    rw [f.makePipe_eq] at hpipe
    exact hopened.trans hpipe
  obtain ⟨htree, home, hparent, hchild⟩ := cwd_of_fork f.fork_eq
  have hhome : w.workingDirectory = home := by
    rw [workingDirectory, ← Machine.cwd?, ← hpiped.cwd, hparent]
    rfl
  -- Up to the change of its directory the child stays where it was made.
  obtain ⟨hmoved, hworld⟩ := Posix.ExecPlan.course_append_of_ok h
  rw [← Posix.ExecPlan.stays] at hmoved hworld
  have hstayed := keeps_steady.course f.plan f.child f.plan.stays_of_mem f.world
  rw [Posix.ExecPlan.preparations, ← Posix.ExecPlan.stays, hworld]
  generalize (f.plan.course kernel f.child f.plan.stays f.world).world = stayed at hmoved hstayed ⊢
  have hgrows : w.tree.Grows stayed.tree := hpiped.tree.trans (htree ▸ hstayed.tree)
  have hstays : stayed.cwd? f.child = some home := (hstayed.cwd f.child).trans hchild
  have hdirectory := (Posix.prepared_of_ofSpec f.ofSpec_eq).cwd
  cases hempty : spec.cwd.isEmpty with
  | true =>
    rw [hempty, if_pos rfl] at hdirectory
    rw [Option.map_eq_none_iff.mp hdirectory]
    exact ⟨home, hgrows, hstays, by rw [if_pos hempty, hhome]⟩
  | false =>
    rw [hempty, if_neg Bool.false_ne_true] at hdirectory
    obtain ⟨path, hcwd, hpath⟩ := Option.map_eq_some_iff.mp hdirectory
    rw [hcwd] at hmoved ⊢
    have hanswer := Posix.Course.answer_eq_ok_iff.mpr ⟨hmoved, rfl⟩
    rw [Option.map_some, Option.toList_some, Posix.ExecPlan.answer_course_singleton, Posix.ExecPlan.perform,
      hpath] at hanswer
    obtain ⟨hsame, dir, node, hlocate, hmoved⟩ := cwd_of_changeDirectory hanswer hstays
    rw [Option.map_some, Option.toList_some, hpath]
    refine ⟨dir, hsame ▸ hgrows, hmoved, ?_⟩
    rw [if_neg (by rw [hempty]; exact Bool.false_ne_true), hhome, hsame]
    exact ⟨node, hlocate⟩

end Offspring.World
