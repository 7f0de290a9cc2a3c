import Offspring.Proofs.Posix.Fork

/-!
# What a program is left with

A child's descriptors are put at the numbers of the standard streams one after the other, and what is closed on
exec goes when the program starts (`Table.routed`). Whatever the copies overwrite on the way, a program has no
files but those that its parent keeps on exec and those of its streams (`Table.Bears.routed`). So it has no end
of the report's pipe, and its parent reads the end of the pipe once it has closed its own.
-/

namespace Offspring.Posix

variable {W : Type}

namespace Table

variable {t : Table} {n target : Fd}

/-- Puts a descriptor at a stream's number, if the stream has one. -/
def redirect (t : Table) (target : Fd) : Option Fd → Table
  | none => t
  | some fd => (ChildStep.stream fd target).apply t

theorem redirect_other (fd : Option Fd) (h : n ≠ target) : t.redirect target fd n = t n := by
  cases fd with
  | none => rfl
  | some fd => exact put_other h

/-- The stream's number stands for the descriptor's file, and stays open on exec. -/
theorem redirect_same {fd : Fd} {file : OpenFile} {closeOnExec : Bool} (h : t fd = some ⟨file, closeOnExec⟩) :
    t.redirect target (some fd) target = some ⟨file, false⟩ := by
  rw [redirect, ChildStep.apply, put_same, h]
  rfl

theorem through_streamSteps (stdin stdout stderr : Option Fd) :
    t.through (streamSteps 0 [stdin, stdout, stderr]) =
      ((t.redirect 0 stdin).redirect 1 stdout).redirect 2 stderr := by
  cases stdin <;> cases stdout <;> cases stderr <;> rfl

/-- What a program gets, if a child puts its descriptors at the streams' numbers in order. -/
def routed (t : Table) (stdin stdout stderr : Option Fd) : Table :=
  (((t.redirect 0 stdin).redirect 1 stdout).redirect 2 stderr).onExec

/-- What the steps of a child make of its descriptors. -/
theorem through_childSteps {plan : ExecPlan} {stdin stdout stderr : Option Fd}
    (h : plan.targets = [stdin, stdout, stderr]) : t.through plan.childSteps = t.routed stdin stdout stderr := by
  have hsession : ∀ t : Table, t.through (if plan.detach then [.session] else []) = t := fun t => by
    cases plan.detach <;> rfl
  have hmask : ∀ t : Table, t.through (plan.umask.map ChildStep.mask).toList = t := fun t => by
    cases plan.umask <;> rfl
  have hdirectory : ∀ t : Table,
      t.through (plan.cwd.map fun dir => ChildStep.directory dir.read).toList = t := fun t => by
    cases plan.cwd <;> rfl
  rw [ExecPlan.childSteps, ExecPlan.preparations, h]
  simp only [through_append, hsession, hmask, hdirectory, through_streamSteps]
  rfl

theorem onExec_congr {t' : Table} (h : t n = t' n) : t.onExec n = t'.onExec n := by
  rw [onExec, onExec, h]

theorem onExec_kept {file : OpenFile} (h : t n = some ⟨file, false⟩) : t.onExec n = some ⟨file, false⟩ := by
  rw [onExec, h]
  rfl

/-- A redirected stream of a program stands for the file of its descriptor. -/
theorem onExec_redirect_same {fd : Fd} {file : OpenFile} {closeOnExec : Bool}
    (h : t fd = some ⟨file, closeOnExec⟩) : (t.redirect target (some fd)).onExec target = some ⟨file, false⟩ :=
  onExec_kept (redirect_same h)

/-- What can be inherited is. -/
theorem onExec_of_inheritable (h : ∀ slot, t n = some slot → slot.closeOnExec = false) : t.onExec n = t n := by
  rw [onExec]
  cases hslot : t n with
  | none => rfl
  | some slot => simp [h slot hslot]

/-- What holds of the files that are kept on exec, and of those of some descriptors. -/
structure Bears (t : Table) (P : OpenFile → Prop) (sources : List (Option Fd)) : Prop where
  kept : ∀ fd file, t fd = some ⟨file, false⟩ → P file
  source : ∀ fd slot, some fd ∈ sources → t fd = some slot → P slot.file

/-- A copy of one of the descriptors brings no other file. -/
theorem Bears.redirect {P : OpenFile → Prop} {sources : List (Option Fd)} (h : t.Bears P sources) (target : Fd)
    {source : Option Fd} (hsource : source ∈ sources) : (t.redirect target source).Bears P sources := by
  cases source with
  | none => exact h
  | some fd =>
    have hput : ∀ slot, t.redirect target (some fd) target = some slot → P slot.file := by
      intro slot hslot
      rw [Table.redirect, ChildStep.apply, put_same, Option.map_eq_some_iff] at hslot
      obtain ⟨held, hheld, rfl⟩ := hslot
      exact h.source fd held hsource hheld
    refine ⟨fun n file hslot => ?_, fun n slot hn hslot => ?_⟩ <;> by_cases hsame : n = target
    · exact hput _ (hsame ▸ hslot)
    · rw [redirect_other _ hsame] at hslot
      exact h.kept n file hslot
    · exact hput _ (hsame ▸ hslot)
    · rw [redirect_other _ hsame] at hslot
      exact h.source n slot hn hslot

/-- So a program has no other file. -/
theorem Bears.routed {P : OpenFile → Prop} {stdin stdout stderr : Option Fd}
    (h : t.Bears P [stdin, stdout, stderr]) {slot : Slot} (hslot : t.routed stdin stdout stderr n = some slot) :
    P slot.file := by
  obtain ⟨hheld, hkept⟩ := Option.filter_eq_some_iff.mp hslot
  obtain ⟨file, closeOnExec⟩ := slot
  cases closeOnExec with
  | false =>
    exact (((h.redirect 0 (by simp)).redirect 1 (by simp)).redirect 2 (by simp)).kept n file hheld
  | true => cases hkept

section Numbers

variable (stdin stdout stderr : Option Fd)

theorem routed_zero : t.routed stdin stdout stderr 0 = (t.redirect 0 stdin).onExec 0 :=
  onExec_congr ((redirect_other stderr (by decide)).trans (redirect_other stdout (by decide)))

theorem routed_one : t.routed stdin stdout stderr 1 = ((t.redirect 0 stdin).redirect 1 stdout).onExec 1 :=
  onExec_congr (redirect_other stderr (by decide))

/-- Only the streams' numbers are changed. -/
theorem routed_above (h : 3 ≤ n) : t.routed stdin stdout stderr n = t.onExec n := by
  have hne : ∀ m < 3, n ≠ m := fun m hm => Nat.ne_of_gt (Nat.lt_of_lt_of_le hm h)
  calc t.routed stdin stdout stderr n
      = ((t.redirect 0 stdin).redirect 1 stdout).onExec n :=
        onExec_congr (redirect_other stderr (hne 2 (by decide)))
    _ = (t.redirect 0 stdin).onExec n := onExec_congr (redirect_other stdout (hne 1 (by decide)))
    _ = t.onExec n := onExec_congr (redirect_other stdin (hne 0 (by decide)))

end Numbers

end Table

namespace Fork.Account

variable {k : Kernel W} {spec : LaunchSpec} {options : LaunchOptions} {w : W} {view : W → System}
  {f : Fork k spec options w} {input output error : List (Fd × OpenFile)} {serial : Nat}
  (a : f.Account view input output error serial)
include a

/-- A program gets nothing of what its launch has opened, unless a step puts it somewhere. -/
theorem onExec_eq : ((view f.piped).table .self).onExec = ((view w).table .self).onExec :=
  a.all.parent.onExec_eq

theorem get {entry : Fd × OpenFile} (h : entry ∈ input ++ output ++ error) :
    (view f.piped).table .self entry.1 = some ⟨entry.2, true⟩ :=
  a.all.parent.get (List.mem_append_left _ h)

/-- A program's descriptors are its parent's, with the copies for its streams. -/
theorem table_program (os : Conforms k view) (hdone : (f.plan.steps k f.child f.world).1 = .ok ()) :
    (view (f.plan.run k f.child f.writer f.world)).table .self = (view f.piped).table .self ∧
    (view (f.plan.run k f.child f.writer f.world)).table (.child f.child) =
      ((view f.piped).table .self).routed f.stdio.stdin f.stdio.stdout f.stdio.stderr := by
  have hfailed : f.course.failed = none := f.steps_eq_ok_iff.mp hdone
  have hsteps := ExecPlan.course_steps k f.plan f.child f.plan.childSteps f.world
  rw [← Fork.course, hfailed] at hsteps
  obtain ⟨hself, hchild⟩ := a.course_tables os
  rw [ExecPlan.run_eq, ← Fork.course, Course.concluded, hfailed]
  exact ⟨hself, by rw [hchild, hsteps, Table.through_childSteps f.targets_eq]⟩

/-- A program has no end of the report's pipe. -/
theorem routed_ne_serial {fd : Fd} {slot : Slot}
    (h : ((view f.piped).table .self).routed f.stdio.stdin f.stdio.stdout f.stdio.stderr fd = some slot) :
    slot.file.serial ≠ serial := by
  refine Table.Bears.routed (P := fun file => file.serial ≠ serial)
    ⟨fun n file hkept => ?_, fun n held hn hheld => ?_⟩ h
  · -- Both ends are closed on exec.
    refine a.serial_ne hkept ?_ ?_ <;> rintro rfl
    · cases a.reader_eq.symm.trans hkept
    · cases a.writer_eq.symm.trans hkept
  · obtain ⟨file, hfile⟩ := a.provided.mem_of_childFd (Stdio.mem_childFds_of_target hn)
    have hopened := a.files.parent.get hfile
    cases (a.report.parent.kept hopened).symm.trans hheld
    exact a.unused_serial _ _ _ hopened

end Fork.Account

end Offspring.Posix
