import Offspring.Proofs.Posix.ChildTable
import Offspring.Proofs.Posix.Opening

/-!
# A launch that has forked

`Fork` is what the parent's calls have answered up to a successful fork. From there on the launch is the
child's work, and then the parent's (`launch_eq`). `Fork.account` says which descriptors both start with.
-/

namespace Offspring.Posix

variable {W : Type} {k : Kernel W} {spec : LaunchSpec} {options : LaunchOptions} {w : W}

/-- A plan has the descriptors that it was made with. -/
theorem ExecPlan.targets_of_ofSpec {stdio : Stdio} {plan : ExecPlan}
    (h : ExecPlan.ofSpec spec options stdio = .ok plan) : plan.targets = stdio.targets := by
  rw [ExecPlan.ofSpec] at h
  split at h
  · cases h
  · simp only [bind, Except.bind] at h
    repeat' split at h
    all_goals cases h
    all_goals rfl

/-- What the calls of a launch have answered up to a successful fork. -/
structure Fork (k : Kernel W) (spec : LaunchSpec) (options : LaunchOptions) (w : W) where
  stdio : Stdio
  plan : ExecPlan
  /-- The end of the report's pipe that the parent reads. -/
  reader : Fd
  writer : Fd
  child : Pid
  opened : W
  piped : W
  world : W
  openPlan_eq : Stdio.openPlan k options.stdio w = (.ok stdio, opened)
  ofSpec_eq : ExecPlan.ofSpec spec options stdio = .ok plan
  makePipe_eq : k.makePipe opened = (.ok (reader, writer), piped)
  fork_eq : k.fork piped = (.ok child, world)

namespace Fork

/-- What the child comes to. -/
def course (f : Fork k spec options w) : Course W :=
  f.plan.course k f.child f.plan.childSteps f.world

/-- The child comes to its program if no step fails. -/
theorem steps_eq_ok_iff (f : Fork k spec options w) :
    (f.plan.steps k f.child f.world).1 = .ok () ↔ f.course.failed = none := by
  rw [ExecPlan.steps_eq, ← course, Course.answer]
  cases f.course.failed <;> simp

/-- After the fork comes the child's work, and then the parent's. -/
theorem launch_eq (f : Fork k spec options w) :
    launch k spec options w = supervise k spec options f.stdio f.reader f.child
      (k.closeAll (f.writer :: f.stdio.childFds) (f.plan.run k f.child f.writer f.world)) := by
  simp only [launch, f.openPlan_eq, f.ofSpec_eq, f.makePipe_eq, f.fork_eq]

/-- The plan has the descriptors that were opened for it. -/
theorem targets_eq (f : Fork k spec options w) : f.plan.targets = f.stdio.targets :=
  ExecPlan.targets_of_ofSpec f.ofSpec_eq

/-- The fork that a launch comes to, if it does. -/
def find? (k : Kernel W) (spec : LaunchSpec) (options : LaunchOptions) (w : W) : Option (Fork k spec options w) :=
  match hopen : Stdio.openPlan k options.stdio w with
  | (.error _, _) => none
  | (.ok stdio, opened) =>
    match hspec : ExecPlan.ofSpec spec options stdio with
    | .error _ => none
    | .ok plan =>
      match hpipe : k.makePipe opened with
      | (.error _, _) => none
      | (.ok (reader, writer), piped) =>
        match hfork : k.fork piped with
        | (.error _, _) => none
        | (.ok child, world) =>
          some ⟨stdio, plan, reader, writer, child, opened, piped, world, hopen, hspec, hpipe, hfork⟩

/-- What is open on both sides of a fork: the plan's files, and the pipe of the report. -/
structure Account (f : Fork k spec options w) (view : W → System) (input output error : List (Fd × OpenFile))
    (serial : Nat) : Prop where
  provided : Provided options.stdio f.stdio input output error
  files : (view w).OpensFiles (input ++ output ++ error) (view f.opened)
  report : (view f.opened).OpensFiles [(f.reader, .pipeReader serial), (f.writer, .pipeWriter serial)]
    (view f.piped)
  empty : (view f.piped).held serial = .empty
  forked : (view f.piped).Forked f.child (view f.world)

/-- A fork can be accounted for. -/
theorem account {view : W → System} (os : Conforms k view) (f : Fork k spec options w) :
    ∃ input output error serial, f.Account view input output error serial := by
  obtain ⟨input, output, error, hprovided, hfiles⟩ := openPlan_opens os f.openPlan_eq
  have hpipe := os.makePipe f.opened
  rw [f.makePipe_eq] at hpipe
  obtain ⟨serial, hreport, hempty⟩ := hpipe.1.opens
  have hfork := os.fork f.piped
  rw [f.fork_eq] at hfork
  exact ⟨input, output, error, serial, hprovided, hfiles, hreport, hempty, hfork.1⟩

namespace Account

variable {f : Fork k spec options w} {view : W → System} {input output error : List (Fd × OpenFile)}
  {serial : Nat} (a : f.Account view input output error serial)
include a

/-- The child starts with its parent's descriptors. -/
theorem table_child : (view f.world).table (.child f.child) = (view f.piped).table .self := by
  rw [a.forked.2]
  simp

/-- The parent has the descriptors that it had before. -/
theorem table_self : (view f.world).table .self = (view f.piped).table .self := by
  rw [a.forked.2, System.table_withLife, System.table_self_withTable_child]

/-- All files that the launch has opened, the last ones for the report. -/
theorem all : (view w).OpensFiles
    (input ++ output ++ error ++ [(f.reader, .pipeReader serial), (f.writer, .pipeWriter serial)])
    (view f.piped) :=
  a.files.append a.report

/-- The parent has both ends of the report's pipe, which are closed on exec. -/
theorem reader_eq : (view f.piped).table .self f.reader = some ⟨.pipeReader serial, true⟩ :=
  a.report.parent.get List.mem_cons_self

theorem writer_eq : (view f.piped).table .self f.writer = some ⟨.pipeWriter serial, true⟩ :=
  a.report.parent.get (List.mem_cons_of_mem _ List.mem_cons_self)

/-- The report's pipe is new. -/
theorem unused_serial : (view f.opened).Unused serial :=
  a.report.unused _ List.mem_cons_self

/-- What the parent had open is not the report's pipe. -/
theorem serial_ne {fd : Fd} {slot : Slot} (h : (view f.piped).table .self fd = some slot)
    (hreader : fd ≠ f.reader) (hwriter : fd ≠ f.writer) : slot.file.serial ≠ serial := by
  have hbefore : (view f.opened).table .self fd = some slot := by
    rw [← a.report.parent.other (by simp [hreader, hwriter])]
    exact h
  exact a.unused_serial _ _ _ hbefore

/-- The child leaves the parent's descriptors alone, and its own are what its steps have made of them. -/
theorem course_tables (os : Conforms k view) :
    (view f.course.world).table .self = (view f.piped).table .self ∧
      (view f.course.world).table (.child f.child) = ((view f.piped).table .self).through f.course.done := by
  have hview := course_view os f.plan f.child f.plan.childSteps f.world
  rw [← Fork.course, a.table_child] at hview
  constructor <;> rw [hview]
  · rw [System.table_self_withTable_child, a.table_self]
  · exact System.table_withTable_same _ _ _

end Account

end Fork

end Offspring.Posix
