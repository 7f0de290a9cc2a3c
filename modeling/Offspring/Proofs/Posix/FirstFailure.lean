import Offspring.Proofs.Posix.Agreement
import Offspring.Proofs.Posix.Bench

/-!
# What the parent learns of its child

A launch makes its child's calls first and its own behind them. That is one order of a handshake's moves
(`Fork.leads_launch`), and in all of them the parent returns, with success if the child has come to its program,
and with the number of the first error otherwise, when the child is reaped.
-/

namespace Offspring.Posix

variable {W : Type}

namespace Fork

variable {k : Kernel W} {spec : LaunchSpec} {options : LaunchOptions} {w : W} {f : Fork k spec options w}
  {view : W → System} {serial : Nat} {input output error : List (Fd × OpenFile)}

/-! ### A launch is an order of moves -/

/-- Moves that nobody has to wait for lead from one handshake to another. -/
def Leads (f : Fork k spec options w) (view : W → System) (x y : Handshake W) : Prop :=
  ∃ moves, f.Admits view x moves ∧ f.run x moves = y

namespace Leads

variable {x y z : Handshake W}

theorem refl (x : Handshake W) : f.Leads view x x :=
  ⟨[], trivial, rfl⟩

/-- One move comes before others. -/
theorem move (actor : Actor) (hcan : f.CanMove view x actor) (h : f.Leads view (f.move x actor) y) :
    f.Leads view x y := by
  obtain ⟨moves, hmoves, hrun⟩ := h
  exact ⟨actor :: moves, ⟨hcan, hmoves⟩, hrun⟩

theorem trans (h : f.Leads view x y) (h' : f.Leads view y z) : f.Leads view x z := by
  obtain ⟨moves, hmoves, rfl⟩ := h
  induction moves generalizing x with
  | nil => exact h'
  | cons actor moves ih => exact .move actor hmoves.1 (ih hmoves.2 h')

/-- Moves keep both sides sound. -/
theorem sound (os : Conforms k view) (a : f.Account view input output error serial)
    (hstd : ∀ fd < 3, (view w).table .self fd ≠ none) (h : f.Leads view x y) (hsound : f.Sound view serial x) :
    f.Sound view serial y := by
  obtain ⟨moves, hmoves, rfl⟩ := h
  exact (hsound.run os a hstd hmoves).1

end Leads

variable (f view) in
/-- The child's calls in a row are its course, with the report of a failure. -/
theorem leads_child (parent : ParentStage) (done rest : List ChildStep) (world : W) :
    ∃ child, child.IsOver ∧ child.done = done ++ (f.plan.course k f.child rest world).done ∧
      child.failed = (f.plan.course k f.child rest world).failed ∧
      f.Leads view ⟨.stepping done rest, parent, world⟩
        ⟨child, parent, (f.plan.course k f.child rest world).concluded k f.child f.writer⟩ := by
  induction rest generalizing done world with
  | nil => exact ⟨.stepping done [], trivial, (List.append_nil done).symm, rfl, .refl _⟩
  | cons step rest ih =>
    have hcan : f.CanMove view ⟨.stepping done (step :: rest), parent, world⟩ .child := id
    rw [ExecPlan.course]
    rcases hperform : f.plan.perform k f.child step world with ⟨e | _, w'⟩
    · have hmove : f.move ⟨.stepping done (step :: rest), parent, world⟩ .child =
          ⟨.reporting done step e, parent, w'⟩ := by simp only [move, childMove, hperform]
      refine ⟨.ended done step e, trivial, (List.append_nil done).symm, rfl, .move .child hcan ?_⟩
      rw [hmove]
      exact .move .child id (.move .child id (.refl _))
    · have hmove : f.move ⟨.stepping done (step :: rest), parent, world⟩ .child =
          ⟨.stepping (done ++ [step]) rest, parent, w'⟩ := by simp only [move, childMove, hperform]
      obtain ⟨child, hover, hdone, hfailed, hleads⟩ := ih (done ++ [step]) w'
      refine ⟨child, hover, ?_, hfailed, .move .child hcan ?_⟩
      · rw [hdone, List.append_assoc]
        rfl
      · rw [hmove]
        exact hleads

/-- Then the parent closes what only the child needs. -/
theorem leads_closing (child : ChildStage) (left : List Fd) (world : W) :
    f.Leads view ⟨child, .closing left, world⟩ ⟨child, .reading .empty, k.closeAll left world⟩ := by
  induction left generalizing world with
  | nil => exact .move .parent trivial (.refl _)
  | cons fd left ih => exact .move .parent trivial (ih (k.close fd world))

variable (os : Conforms k view) (a : f.Account view input output error serial)
  (hstd : ∀ fd < 3, (view w).table .self fd ≠ none) {child : ChildStage}
include os a hstd

/-- It reads the report of a child that is over, in as many reads as it takes. -/
theorem leads_reading {fuel : Nat} {octets : ByteArray} {world : W} (hover : child.IsOver)
    (h : f.Live view serial ⟨child, .reading octets, world⟩)
    (hfuel : k.interruptions world + (4 - octets.size) < fuel) :
    f.Leads view ⟨child, .reading octets, world⟩
      ⟨child, .learned (readReport k f.reader fuel octets world).1,
        (readReport k f.reader fuel octets world).2⟩ := by
  induction fuel generalizing octets world with
  | zero => exact absurd hfuel (Nat.not_lt_zero _)
  | succ fuel ih =>
    have hcan := h.parent_can_move a hover
    have hnears := h.parent_reads os a hstd hcan
    refine .move .parent hcan ?_
    -- The next read is about fewer octets, or was interrupted.
    have hnext : ∀ octets' w', f.move ⟨child, .reading octets, world⟩ .parent = ⟨child, .reading octets', w'⟩ →
        f.Leads view ⟨child, .reading octets', w'⟩ ⟨child, .learned (readReport k f.reader fuel octets' w').1,
          (readReport k f.reader fuel octets' w').2⟩ := by
      intro octets' w' hmove
      rw [hmove] at hnears
      have hlive := hnears.sound.to_live (by simp)
      have hless := hnears.less
      rw [h.movesLeft_eq, hlive.movesLeft_eq] at hless
      refine ih hlive ?_
      simp only [ParentStage.movesLeft] at hless
      omega
    rw [readReport]
    by_cases hfull : 4 ≤ octets.size
    · simp only [move, parentMove, if_pos hfull]
      exact .refl _
    · rcases hread : k.read f.reader (4 - octets.size) world with ⟨e | more, w'⟩
      · by_cases he : e = .interrupted
        · simp only [move, parentMove, if_neg hfull, hread, if_pos he] at hnext ⊢
          exact hnext _ _ rfl
        · simp only [move, parentMove, if_neg hfull, hread, if_neg he]
          exact .refl _
      · by_cases hempty : more.isEmpty
        · simp only [move, parentMove, if_neg hfull, hread, if_pos hempty]
          exact .refl _
        · simp only [move, parentMove, if_neg hfull, hread, if_neg hempty] at hnext ⊢
          exact hnext _ _ rfl

omit hstd in
/-- It waits for a child that is over and has failed, as often as it is interrupted, and returns. -/
theorem leads_reaping {fuel : Nat} {e : Errno} {world : W} (hover : child.IsOver)
    (h : f.Live view serial ⟨child, .reaping e, world⟩) (hfuel : k.interruptions world ≤ fuel) :
    f.Leads view ⟨child, .reaping e, world⟩
      ⟨child, (f.afterWait e (Kernel.retryFor (k.await f.child) fuel world)).1,
        (f.afterWait e (Kernel.retryFor (k.await f.child) fuel world)).2⟩ := by
  induction fuel generalizing world with
  | zero =>
    have hcan := h.parent_can_move a hover
    refine .move .parent hcan ?_
    rw [Kernel.retryFor]
    rcases hawait : k.await f.child world with ⟨cause | remains, w'⟩
    · have hanswer := (os.await f.child world hcan).1
      rw [hawait] at hanswer
      have hcause : cause ≠ .interrupted := fun hinterrupted =>
        Nat.not_lt_zero _ (Nat.lt_of_lt_of_le (hanswer.2.2.2 hinterrupted) hfuel)
      simp only [Fork.move, parentMove, hawait, if_neg hcause]
      exact .refl _
    · simp only [Fork.move, parentMove, hawait]
      exact .refl _
  | succ fuel ih =>
    have hcan := h.parent_can_move a hover
    have hnears := h.parent_reaps os a hcan
    refine .move .parent hcan ?_
    rw [Kernel.retryFor]
    rcases hawait : k.await f.child world with ⟨cause | remains, w'⟩
    · by_cases hcause : cause = .interrupted
      · have hmove : f.move ⟨child, .reaping e, world⟩ .parent = ⟨child, .reaping e, w'⟩ := by
          simp only [Fork.move, parentMove, hawait, if_pos hcause]
        rw [hmove] at hnears ⊢
        have hlive := hnears.sound.to_live (by simp)
        have hless := hnears.less
        rw [h.movesLeft_eq, hlive.movesLeft_eq] at hless
        have hfewer : k.interruptions w' < k.interruptions world := Nat.lt_of_add_lt_add_left hless
        simp only [if_pos hcause]
        exact ih hlive (by omega)
      · simp only [Fork.move, parentMove, hawait, if_neg hcause]
        exact .refl _
    · simp only [Fork.move, parentMove, hawait]
      exact .refl _

/-- A launch that has forked is one order of moves, up to the parent's return. -/
theorem leads_launch : ∃ child result world, f.Leads view f.start ⟨child, .returned result, world⟩ ∧
    launch k spec options w = (result, world) ∧ child.done = f.course.done ∧ child.failed = f.course.failed := by
  obtain ⟨child, hover, hdone, hfailed, hchild⟩ :=
    f.leads_child view (.closing (f.writer :: f.stdio.childFds)) [] f.plan.childSteps f.world
  rw [← ExecPlan.run_eq] at hchild
  have hreading := hchild.trans (leads_closing child (f.writer :: f.stdio.childFds) _)
  rw [f.launch_eq]
  generalize k.closeAll (f.writer :: f.stdio.childFds) (f.plan.run k f.child f.writer f.world) = closed
    at hreading ⊢
  have hsound := hreading.sound os a hstd (.live a.live_start)
  have hfuel : k.interruptions closed + (4 - ByteArray.empty.size) < k.interruptions closed + 5 :=
    Nat.lt_succ_self _
  have hlearned := hreading.trans (leads_reading os a hstd hover (hsound.to_live (by simp)) hfuel)
  rw [supervise]
  rcases hread : readReport k f.reader (k.interruptions closed + 5) .empty closed with ⟨report, w₁⟩
  rw [hread] at hlearned
  cases report with
  | running | unreadable =>
    exact ⟨child, _, _, hlearned.trans (.move .parent trivial (.refl _)), rfl, hdone, hfailed⟩
  | failed e =>
    have hreaping : f.Leads view f.start ⟨child, .reaping e, k.close f.reader w₁⟩ :=
      hlearned.trans (.move .parent trivial (.refl _))
    have hlive := (hreaping.sound os a hstd (.live a.live_start)).to_live (by simp)
    have hreturned := hreaping.trans (leads_reaping os a hover hlive (Nat.le_refl _))
    simp only [Kernel.retry]
    rcases hreaped : Kernel.retryFor (k.await f.child) (k.interruptions (k.close f.reader w₁))
      (k.close f.reader w₁) with ⟨cause | remains, w₂⟩ <;> rw [hreaped] at hreturned
    · exact ⟨child, _, _, hreturned, rfl, hdone, hfailed⟩
    · exact ⟨child, _, _, hreturned, rfl, hdone, hfailed⟩

end Fork

/-- A launch tells which of its child's steps has failed first, or that none has. It tells the same in every order
in which the child and the parent can make their calls. The parent always comes to return, after so many calls of
both at most, and then either the program runs or no child is left. -/
theorem launch_tells_first_failure {k : Kernel W} {view : W → System} (os : Conforms k view)
    {spec : LaunchSpec} {options : LaunchOptions} {w : W} (f : Fork k spec options w)
    (hstd : ∀ fd < 3, (view w).table .self fd ≠ none) :
    f.plan.run k f.child f.writer f.world = f.course.concluded k f.child f.writer ∧
    f.Tells view f.course.done f.course.failed (launch k spec options w) ∧
    ∀ moves, f.Admits view f.start moves →
      moves.length ≤ f.start.movesLeft k ∧
      ((∀ actor, ¬f.CanMove view (f.run f.start moves) actor) →
        ∃ result, (f.run f.start moves).parent = .returned result) ∧
      ∀ result, (f.run f.start moves).parent = .returned result →
        f.Tells view (f.run f.start moves).child.done (f.run f.start moves).child.failed
          (result, (f.run f.start moves).world) := by
  obtain ⟨input, output, error, serial, a⟩ := f.account os
  refine ⟨ExecPlan.run_eq k f.plan f.child f.writer f.world, ?_, fun moves hmoves => ?_⟩
  · obtain ⟨child, result, world, hleads, hlaunch, hdone, hfailed⟩ := Fork.leads_launch os a hstd
    rw [hlaunch, ← hdone, ← hfailed]
    exact (hleads.sound os a hstd (.live a.live_start)).tells rfl
  · obtain ⟨hsound, hbound⟩ := Fork.Sound.run os a hstd (.live a.live_start) hmoves
    refine ⟨Nat.le_trans (Nat.le_add_left _ _) hbound, fun hstuck => ?_, fun result => hsound.tells⟩
    refine Classical.byContradiction fun hreturned => ?_
    obtain ⟨actor, hcan⟩ := hsound.can_move a fun result hparent => hreturned ⟨result, hparent⟩
    exact hstuck actor hcan

/-! ### A directory that is not there -/

/-- A detached launch with a file for the output stream and a directory. -/
def directorySpec : LaunchSpec :=
  { program := .ofString "/bin/true", args := ["true"], cwd := .ofString "/nowhere" }

def detachedOptions : LaunchOptions :=
  { stdio := { stdout := some (.file (.ofString "out")) }, detach := true }

/-- The child's copy is interrupted once, and its directory refused; the parent reads one octet, then two, then
one, is interrupted before, and again while it waits. -/
def refusedDirectory : Bench :=
  .client [] [.works 0, .works 0, .works 0, .works 0, .fails 4, .works 0, .fails 2147483647, .fails 4, .works 0,
    .works 1, .works 0, .fails 4, .works 0]

theorem refusedDirectory_forks :
    (Fork.find? Bench.kernel directorySpec detachedOptions refusedDirectory).isSome := by
  decide +kernel

/-- The launch that comes to its fork there. -/
def refusedDirectoryFork : Fork Bench.kernel directorySpec detachedOptions refusedDirectory :=
  (Fork.find? Bench.kernel directorySpec detachedOptions refusedDirectory).get refusedDirectory_forks

/-- The largest number of 32 bits is told, and the program was not tried. -/
theorem launch_tells_refused_directory :
    refusedDirectoryFork.course.done = [.session, .stream 3 1] ∧
      refusedDirectoryFork.course.failed = some (.directory (.ofString "/nowhere"), ⟨2147483647⟩) ∧
      (∃ w', launch Bench.kernel directorySpec detachedOptions refusedDirectory =
        (.error (.launch (.os ⟨2147483647⟩)), w') ∧ w'.system.life refusedDirectoryFork.child = .absent) ∧
      ∃ moves, refusedDirectoryFork.Admits Bench.system refusedDirectoryFork.start moves ∧
        (refusedDirectoryFork.run refusedDirectoryFork.start moves).parent =
          .returned (.error (.launch (.os ⟨2147483647⟩))) := by
  have hdone : refusedDirectoryFork.course.done = [.session, .stream 3 1] := by decide +kernel
  have hfailed : refusedDirectoryFork.course.failed =
      some (.directory (.ofString "/nowhere"), ⟨2147483647⟩) := by decide +kernel
  have hstd : ∀ fd < 3, refusedDirectory.system.table .self fd ≠ none := by decide
  obtain ⟨-, htells, horders⟩ := launch_tells_first_failure Bench.conforms refusedDirectoryFork hstd
  rw [hfailed] at htells
  obtain ⟨-, -, hanswer, hreaped, -⟩ := htells
  refine ⟨hdone, hfailed, ⟨_, Prod.ext hanswer rfl, hreaped⟩, ?_⟩
  obtain ⟨_, _, _, _, a⟩ := refusedDirectoryFork.account Bench.conforms
  obtain ⟨child, result, world, ⟨moves, hmoves, hrun⟩, -, -, hchild⟩ := Fork.leads_launch Bench.conforms a hstd
  obtain ⟨-, -, hreturned⟩ := horders moves hmoves
  have htold := hreturned result (by rw [hrun])
  rw [hrun, hchild, hfailed] at htold
  obtain ⟨-, -, rfl, -⟩ := htold
  exact ⟨moves, hmoves, by rw [hrun]⟩

end Offspring.Posix
