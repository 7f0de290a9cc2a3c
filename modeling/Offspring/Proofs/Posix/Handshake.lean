import Offspring.Proofs.Posix.Report
import Offspring.Proofs.Posix.Routing

/-!
# Parent and child at once

After a fork the parent and its child make their calls side by side, in any order. A `Handshake` is where both of
them stand, and a move is one call of either. Two of the parent's calls may have to wait: a read of the report's
pipe, and the wait for the child's end.

`Sound` is what every move keeps: the octets that the child has sent are in the pipe or have been read, and the
parent knows what the child has done once it stops reading.
-/

namespace Offspring.Posix

variable {W : Type}

/-! ### Both sides, call by call -/

/-- Where a forked child stands. -/
inductive ChildStage where
  /-- It has done some steps, and others are left. With none left its program runs. -/
  | stepping (done rest : List ChildStep)
  /-- A step has failed behind those that are done, and is to be reported. -/
  | reporting (done : List ChildStep) (step : ChildStep) (e : Errno)
  /-- The failure is reported. -/
  | exiting (done : List ChildStep) (step : ChildStep) (e : Errno)
  | ended (done : List ChildStep) (step : ChildStep) (e : Errno)

namespace ChildStage

/-- The steps that succeeded, in order. -/
def done : ChildStage → List ChildStep
  | stepping done _ | reporting done _ _ | exiting done _ _ | ended done _ _ => done

/-- The step that failed, with its error. -/
def failed : ChildStage → Option (ChildStep × Errno)
  | stepping _ _ => none
  | reporting _ step e | exiting _ step e | ended _ step e => some (step, e)

/-- Whether the child makes no more calls of its own: it has turned into its program, or ended. -/
def IsOver : ChildStage → Prop
  | stepping _ [] | ended _ _ _ => True
  | stepping _ (_ :: _) | reporting _ _ _ | exiting _ _ _ => False

/-- The octets that the child has put into the report's pipe. -/
def sent : ChildStage → ByteArray
  | stepping _ _ | reporting _ _ _ => .empty
  | exiting _ _ e | ended _ _ e => ExecPlan.reportOctets e

/-- What a parent that has read to the end knows. -/
def Reported : ChildStage → Report → Prop
  | stepping _ [], report => report = .running
  | stepping _ (_ :: _), _ | reporting _ _ _, _ => False
  | exiting _ _ e, report | ended _ _ e, report => report = .failed e

/-- The calls that a child makes at most. -/
def movesLeft : ChildStage → Nat
  | stepping _ rest => rest.length + 2
  | reporting _ _ _ => 2
  | exiting _ _ _ => 1
  | ended _ _ _ => 0

/-- A child that is over runs its program, or has ended. -/
theorem IsOver.cases {child : ChildStage} (h : child.IsOver) :
    (∃ done, child = .stepping done []) ∨ ∃ done step e, child = .ended done step e := by
  cases child with
  | stepping done rest =>
    cases rest with
    | nil => exact .inl ⟨done, rfl⟩
    | cons step rest => exact h.elim
  | reporting | exiting => exact h.elim
  | ended done step e => exact .inr ⟨done, step, e, rfl⟩

/-- A failure is known behind its report. -/
theorem Reported.of_failed {child : ChildStage} {e : Errno} (h : child.Reported (.failed e)) :
    (∃ done step, child = .exiting done step e) ∨ ∃ done step, child = .ended done step e := by
  cases child with
  | stepping done rest =>
    cases rest with
    | nil => cases (h : Report.failed e = .running)
    | cons step rest => exact h.elim
  | reporting => exact h.elim
  | exiting done step e' =>
    cases (h : Report.failed e = .failed e')
    exact .inl ⟨done, step, rfl⟩
  | ended done step e' =>
    cases (h : Report.failed e = .failed e')
    exact .inr ⟨done, step, rfl⟩

end ChildStage

/-- Where the parent stands. -/
inductive ParentStage where
  /-- It closes what only the child needs. -/
  | closing (left : List Fd)
  /-- It reads the report, of which it has some octets. -/
  | reading (octets : ByteArray)
  | learned (report : Report)
  /-- It waits for the end of a child that has reported an error. -/
  | reaping (e : Errno)
  | returned (result : Except LaunchError Child)

/-- The calls that a parent makes at most, but for those that are interrupted. -/
def ParentStage.movesLeft : ParentStage → Nat
  | closing left => left.length + 8
  | reading octets => 4 - octets.size + 3
  | learned _ => 2
  | reaping _ => 1
  | returned _ => 0

/-- A parent and its child. -/
structure Handshake (W : Type) where
  child : ChildStage
  parent : ParentStage
  world : W

/-- Who makes a call. -/
inductive Actor where
  | child
  | parent

/-- The moves that can be made at most before the parent has returned. -/
def Handshake.movesLeft (k : Kernel W) (x : Handshake W) : Nat :=
  match x.parent with
  | .returned _ => 0
  | parent => x.child.movesLeft + parent.movesLeft + k.interruptions x.world

namespace Fork

variable {k : Kernel W} {spec : LaunchSpec} {options : LaunchOptions} {w : W} (f : Fork k spec options w)
  (view : W → System)

/-- Both sides right after the fork. -/
def start : Handshake W :=
  ⟨.stepping [] f.plan.childSteps, .closing (f.writer :: f.stdio.childFds), f.world⟩

/-- One call of the child. -/
def childMove : ChildStage → W → ChildStage × W
  | .stepping done (step :: rest), w =>
    match f.plan.perform k f.child step w with
    | (.ok (), w) => (.stepping (done ++ [step]) rest, w)
    | (.error e, w) => (.reporting done step e, w)
  | .reporting done step e, w => (.exiting done step e, k.write f.child f.writer (ExecPlan.reportOctets e) w)
  | .exiting done step e, w => (.ended done step e, k.exit f.child execFailedExit w)
  | .stepping done [], w => (.stepping done [], w)
  | .ended done step e, w => (.ended done step e, w)

/-- What a parent does that has waited for a failed child. -/
def afterWait (e : Errno) : Except Errno Remains × W → ParentStage × W
  | (.ok _, w) => (.returned (.error (.launch (.os e))), k.closeAll (f.stdio.capture.map (·.reader)).toList w)
  | (.error _, w) =>
    (.returned (.error (.launch (.os e))), k.abort (k.closeAll (f.stdio.capture.map (·.reader)).toList w))

/-- One call of the parent. -/
def parentMove : ParentStage → W → ParentStage × W
  | .closing [], w => (.reading .empty, w)
  | .closing (fd :: left), w => (.closing left, k.close fd w)
  | .reading octets, w =>
    if 4 ≤ octets.size then (.learned (.ofOctets octets), w)
    else
      match k.read f.reader (4 - octets.size) w with
      | (.ok more, w) => (if more.isEmpty then .learned (.ofOctets octets) else .reading (octets ++ more), w)
      | (.error e, w) => (if e = .interrupted then .reading octets else .learned .unreadable, w)
  | .learned .running, w =>
    let (collector, w) := startCapture k f.stdio.capture (k.close f.reader w)
    (.returned (.ok ⟨f.child, options.detach, collector, none⟩), k.note (.execSucceeded spec.program) w)
  | .learned (.failed e), w => (.reaping e, k.close f.reader w)
  | .learned .unreadable, w =>
    (.returned (.error (.launch (.kind .other))), k.abort (k.kill f.child sigkill (k.close f.reader w)).2)
  | .reaping e, w =>
    match k.await f.child w with
    | (.ok remains, w) => f.afterWait e (.ok remains, w)
    | (.error cause, w) => if cause = .interrupted then (.reaping e, w) else f.afterWait e (.error cause, w)
  | .returned result, w => (.returned result, w)

/-- What one move leads to. -/
def move (x : Handshake W) : Actor → Handshake W
  | .child => ⟨(f.childMove x.child x.world).1, x.parent, (f.childMove x.child x.world).2⟩
  | .parent => ⟨x.child, (f.parentMove x.parent x.world).1, (f.parentMove x.parent x.world).2⟩

/-- Whether somebody has a call to make, and does not wait in it: for the report, or for the child's end. A call
that is interrupted does not wait any longer. -/
def CanMove (x : Handshake W) : Actor → Prop
  | .child => ¬x.child.IsOver
  | .parent =>
    match x.parent with
    | .closing _ | .learned _ => True
    | .reading octets => 4 ≤ octets.size ∨ ∃ serial closeOnExec,
        (view x.world).table .self f.reader = some ⟨.pipeReader serial, closeOnExec⟩ ∧
          ((view x.world).CanRead serial ∨ Interrupted (k.read f.reader (4 - octets.size) x.world))
    | .reaping _ => (view x.world).life f.child = .ended ∨ Interrupted (k.await f.child x.world)
    | .returned _ => False

/-- What moves lead to, in order. -/
def run (x : Handshake W) (moves : List Actor) : Handshake W :=
  moves.foldl f.move x

/-- Whether moves can be made in order, and nobody waits in one. -/
def Admits : Handshake W → List Actor → Prop
  | _, [] => True
  | x, actor :: moves => f.CanMove view x actor ∧ Admits (f.move x actor) moves

/-- What a launch answers about the steps of its child: success if all of them were done, and otherwise the error
of the step that failed. Nothing was done behind that one, and no child is left. -/
def Tells (done : List ChildStep) (failed : Option (ChildStep × Errno)) (answer : Except LaunchError Child × W) :
    Prop :=
  match failed with
  | none => done = f.plan.childSteps ∧ ∃ collector, answer.1 = .ok ⟨f.child, options.detach, collector, none⟩
  | some (step, e) => done ++ [step] <+: f.plan.childSteps ∧
      (∀ fd target, step = .stream fd target → e ≠ .interrupted) ∧ answer.1 = .error (.launch (.os e)) ∧
      (view answer.2).life f.child = .absent ∧ (view answer.2).life = (view w).life

/-! ### What moves keep -/

/-- A step failed behind others. -/
structure Broke (done : List ChildStep) (step : ChildStep) (e : Errno) : Prop where
  first : done ++ [step] <+: f.plan.childSteps
  word : IsWord e
  settled : ∀ fd target, step = .stream fd target → e ≠ .interrupted

/-- What the parent has open while it reads the report. -/
def kept : Table :=
  ((view f.piped).table .self).closing (f.writer :: f.stdio.childFds)

/-- What a child has come to. -/
def ChildSound (s : System) : ChildStage → Prop
  | .stepping done rest => done ++ rest = f.plan.childSteps ∧
      s.table (.child f.child) = ((view f.piped).table .self).through done ∧ s.life f.child = .running
  | .reporting done step e => f.Broke done step e ∧
      s.table (.child f.child) = ((view f.piped).table .self).through done ∧ s.life f.child = .running
  | .exiting done step e => f.Broke done step e ∧ s.life f.child = .running
  | .ended done step e => f.Broke done step e ∧
      (s.table (.child f.child) = fun _ => none) ∧ s.life f.child = .ended

/-- What the parent has come to: nothing that was sent is lost, and it has learned what the child did. -/
def ParentSound (serial : Nat) (s : System) (child : ChildStage) : ParentStage → Prop
  | .closing left => (s.table .self).closing left = f.kept view ∧ s.held serial = child.sent
  | .reading octets => s.table .self = f.kept view ∧ octets ++ s.held serial = child.sent
  | .learned report => child.Reported report
  | .reaping e => child.Reported (.failed e)
  | .returned _ => False

/-- A handshake before the parent returns. -/
structure Live (serial : Nat) (x : Handshake W) : Prop where
  child : f.ChildSound view (view x.world) x.child
  parent : f.ParentSound view serial (view x.world) x.child x.parent
  others : ∀ pid, pid ≠ f.child → (view x.world).table (.child pid) = (view f.world).table (.child pid)
  lives : ∀ pid, pid ≠ f.child → (view x.world).life pid = (view w).life pid

/-- What every move keeps. -/
inductive Sound (serial : Nat) (x : Handshake W) : Prop where
  | live (h : f.Live view serial x)
  | returned (result : Except LaunchError Child) (hparent : x.parent = .returned result) (hover : x.child.IsOver)
      (htells : f.Tells view x.child.done x.child.failed (result, x.world))

/-- A sound handshake that is closer to its end than another one. -/
structure Nears (serial : Nat) (x x' : Handshake W) : Prop where
  sound : f.Sound view serial x'
  less : x'.movesLeft k < x.movesLeft k

variable {f view} {serial : Nat} {input output error : List (Fd × OpenFile)}

namespace Account

variable (a : f.Account view input output error serial)
include a

/-- The parent keeps its end of the report's pipe, and only that one. -/
theorem reader_kept : f.kept view f.reader = some ⟨.pipeReader serial, true⟩ := by
  have hpairwise := a.report.parent.sorted
  have hreader : f.reader < f.writer := by simpa using hpairwise
  have hfree := a.report.parent.free List.mem_cons_self
  refine Table.closing_eq_some.mpr ⟨fun hmem => ?_, a.reader_eq⟩
  rcases List.mem_cons.mp hmem with heq | hchild
  · exact Nat.ne_of_lt hreader heq
  · obtain ⟨file, hfile⟩ := a.provided.mem_of_childFd hchild
    cases (a.files.parent.get hfile).symm.trans hfree

/-- Nobody can write to the report's pipe once the parent has closed its end and the child has none. -/
theorem no_writer {s : System} (hself : s.table .self = f.kept view)
    (hchild : ∀ fd slot, s.table (.child f.child) fd = some slot → slot.file ≠ .pipeWriter serial)
    (hother : ∀ pid, pid ≠ f.child → s.table (.child pid) = (view f.world).table (.child pid)) :
    ¬s.HasWriter serial := by
  rintro ⟨p, fd, slot, hslot, hfile⟩
  have hserial : slot.file.serial = serial := congrArg OpenFile.serial hfile
  cases p with
  | self =>
    rw [hself, kept, Table.closing_eq_some, List.mem_cons, not_or] at hslot
    by_cases hreader : fd = f.reader
    · rw [hreader, a.reader_eq] at hslot
      cases hslot.2
      cases hfile
    · exact a.serial_ne hslot.2 hreader hslot.1.1 hserial
  | child pid =>
    by_cases hpid : pid = f.child
    · exact hchild fd slot (hpid ▸ hslot) hfile
    · have hfork : (view f.world).table (.child pid) = (view f.piped).table (.child pid) := by
        rw [a.forked.2, System.table_withLife, System.table_child_withTable_other _ _ _ hpid]
      rw [hother pid hpid, hfork, a.report.children pid] at hslot
      exact a.unused_serial _ _ _ hslot hserial

/-- Both sides are sound right after the fork. -/
theorem live_start : f.Live view serial f.start := by
  have hheld : (view f.world).held serial = .empty := by
    rw [a.forked.2, System.held_withLife, System.held_withTable, a.empty]
  refine ⟨⟨rfl, a.table_child, ?_⟩, ⟨?_, hheld⟩, fun _ _ => rfl, fun pid hpid => ?_⟩
  · rw [start, a.forked.2, System.life_withLife_same]
  · rw [start, a.table_self]
    rfl
  · rw [start, a.forked.2, System.life_withLife_other _ _ _ hpid, System.life_withTable, a.all.life]

variable (hstd : ∀ fd < 3, (view w).table .self fd ≠ none)
include hstd

/-- Everything that a launch opens is above the standard descriptors. -/
theorem three_le {entry : Fd × OpenFile}
    (h : entry ∈ input ++ output ++ error ++ [(f.reader, .pipeReader serial), (f.writer, .pipeWriter serial)]) :
    3 ≤ entry.1 :=
  Nat.le_of_not_lt fun hless => hstd _ hless (a.all.parent.free h)

/-- Each copy is made from a descriptor above the standard ones, to one of these. -/
theorem copies_down {fd target : Fd} (h : .stream fd target ∈ f.plan.childSteps) : target < fd := by
  obtain ⟨hfd, htarget⟩ := stream_mem_streamSteps (stream_mem_childSteps h)
  rw [f.targets_eq] at hfd htarget
  obtain ⟨file, hfile⟩ := a.provided.mem_of_childFd (Stdio.mem_childFds_of_target hfd)
  have hhigh : 3 ≤ fd := a.three_le hstd (List.mem_append_left _ hfile)
  have hlow : target < 3 := by simpa [Stdio.targets] using htarget
  exact Nat.lt_of_lt_of_le hlow hhigh

/-- A child has its end of the report's pipe as long as a step is to be done or has failed. -/
theorem writer_through {done : List ChildStep} {step : ChildStep} (h : done ++ [step] <+: f.plan.childSteps) :
    ((view f.piped).table .self).through done f.writer = some ⟨.pipeWriter serial, true⟩ := by
  have hwriter : 3 ≤ f.writer :=
    a.three_le hstd (List.mem_append_right _ (List.mem_cons_of_mem _ List.mem_cons_self))
  have hprepared : ∀ step ∈ done, step.IsPreparation := fun step hstep =>
    isPreparation_of_mem_preparations (by rw [f.targets_eq]; rfl) step ((done_prefix_preparations h).subset hstep)
  rw [Table.through_above hprepared hwriter, a.writer_eq]

end Account

/-- A move of the parent that leaves all children as they are. -/
theorem Live.of_parent {x : Handshake W} (h : f.Live view serial x) {parent : ParentStage} {w' : W}
    (htables : ∀ pid, (view w').table (.child pid) = (view x.world).table (.child pid))
    (hlife : (view w').life = (view x.world).life)
    (hparent : f.ParentSound view serial (view w') x.child parent) : f.Live view serial ⟨x.child, parent, w'⟩ := by
  refine ⟨?_, hparent, fun pid hpid => (htables pid).trans (h.others pid hpid), fun pid hpid => ?_⟩
  · have hchild := h.child
    cases hstage : x.child <;> simp only [hstage, ChildSound, htables, hlife] at hchild ⊢ <;> exact hchild
  · exact (congrFun hlife pid).trans (h.lives pid hpid)

/-- A move of the child that the parent does not see. -/
theorem ParentSound.of_child {s s' : System} {child child' : ChildStage} {parent : ParentStage}
    (h : f.ParentSound view serial s child parent) (hself : s'.table .self = s.table .self)
    (hheld : s'.held = s.held) (hsent : child'.sent = child.sent)
    (hreported : ∀ report, child.Reported report → child'.Reported report) :
    f.ParentSound view serial s' child' parent := by
  cases parent with
  | closing left | reading octets =>
    simp only [ParentSound, hself, hheld, hsent]
    exact h
  | learned report | reaping e => exact hreported _ h
  | returned result => exact h

/-- The moves left are those of both sides, and the interruptions to come. -/
theorem Live.movesLeft_eq {x : Handshake W} (h : f.Live view serial x) :
    x.movesLeft k = x.child.movesLeft + x.parent.movesLeft + k.interruptions x.world := by
  obtain ⟨child, parent, world⟩ := x
  cases parent with
  | returned result => exact h.parent.elim
  | closing | reading | learned | reaping => rfl

/-- A call that leaves one side less to do. -/
theorem Live.nears {x x' : Handshake W} (h : f.Live view serial x) (h' : f.Live view serial x')
    (hless : x'.child.movesLeft + x'.parent.movesLeft < x.child.movesLeft + x.parent.movesLeft)
    (hfewer : k.interruptions x'.world ≤ k.interruptions x.world) : f.Nears view serial x x' := by
  refine ⟨.live h', ?_⟩
  rw [h.movesLeft_eq, h'.movesLeft_eq]
  exact Nat.add_lt_add_of_lt_of_le hless hfewer

/-- A call that was interrupted, and is to be made again. -/
theorem Live.nears_of_interrupted {child : ChildStage} {parent : ParentStage} {world w' : W}
    (h : f.Live view serial ⟨child, parent, world⟩) (hsame : view w' = view world)
    (hless : k.interruptions w' < k.interruptions world) :
    f.Nears view serial ⟨child, parent, world⟩ ⟨child, parent, w'⟩ := by
  have h' : f.Live view serial ⟨child, parent, w'⟩ := by
    refine h.of_parent (fun _ => ?_) ?_ ?_ <;> rw [hsame]
    exact h.parent
  refine ⟨.live h', ?_⟩
  rw [h.movesLeft_eq, h'.movesLeft_eq]
  exact Nat.add_lt_add_left hless _

/-- No moves are left once the parent has returned. -/
theorem Live.movesLeft_of_returned {x x' : Handshake W} (h : f.Live view serial x)
    {result : Except LaunchError Child} (hreturned : x'.parent = .returned result) :
    x'.movesLeft k < x.movesLeft k := by
  have hnone : x'.movesLeft k = 0 := by rw [Handshake.movesLeft, hreturned]
  have hsome : 0 < x.parent.movesLeft := by
    have hparent := h.parent
    cases hstage : x.parent <;> rw [hstage] at hparent
    case returned => exact hparent.elim
    all_goals exact Nat.succ_pos _
  rw [hnone, h.movesLeft_eq]
  omega

end Fork

end Offspring.Posix
