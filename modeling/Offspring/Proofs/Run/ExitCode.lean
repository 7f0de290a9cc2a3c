import Mathlib.Tactic.SplitIfs
import Offspring.Proofs.Posix.LastWait
import Offspring.Proofs.Run.Launching
import Offspring.Run.Session

/-!
# The exit code of a run

A run ends with a code that is made of the status word of its child. On the way from the last wait to the code the
word is decoded (`ExitStatus.ofWaitStatus`), kept by the spawner as its state, told in the report with one number
for the code and one for the signal, and made one number again. `exitCodeOf` says directly what comes out, bit by
bit of the word. `Host.traced` is a host whose kernel writes down its calls, so the last wait can be read off a
run; `execute_tells_status` is about all runs over all kernels that lead to a report.
-/

namespace Offspring

variable {W C : Type}

namespace ExitStatus

/-- The seven lowest bits of a status word. -/
theorem toNat_ending (status : UInt32) : (status &&& 0x7F).toNat = status.toNat % 128 := by
  rw [UInt32.toNat_and]
  exact Nat.and_two_pow_sub_one_eq_mod status.toNat 7

/-- The eight bits of a status word above the lowest eight. -/
theorem toNat_code (status : UInt32) : ((status >>> 8) &&& 0xFF).toNat = status.toNat / 256 % 256 := by
  have hshift : (status >>> 8).toNat = status.toNat / 256 := Nat.shiftRight_eq_div_pow status.toNat 8
  rw [UInt32.toNat_and, hshift]
  exact Nat.and_two_pow_sub_one_eq_mod (status.toNat / 256) 8

/-- What a status word says, bit by bit. -/
theorem ofWaitStatus_eq (status : UInt32) :
    ofWaitStatus status =
      if status.toNat % 128 = 0 then .exited (status.toNat / 256 % 256 : Nat)
      else if status.toNat % 128 = 127 then .exited noExitCode
      else .signaled (status.toNat % 128 : Nat) := by
  have hbound : status.toNat % 128 < 128 := Nat.mod_lt _ (by decide)
  rw [ofWaitStatus, toNat_ending, toNat_code]
  split_ifs <;> first | rfl | omega

end ExitStatus

namespace Run

open Posix (Kernel Traced Made Pid Remains Child Bench Pending Answered waitsOf)

/-- The code of a run whose child was last waited for with this answer. -/
def exitCodeOf : Except Errno Remains → Nat
  | .ok remains =>
    let ending := remains.status.toNat % 128
    if ending = 0 then remains.status.toNat / 256 % 256
    else if ending = 127 then 1
    else 128 + ending
  | .error _ => 1

/-- A code fits an octet. -/
theorem exitCodeOf_le (answer : Except Errno Remains) : exitCodeOf answer ≤ 255 := by
  cases answer with
  | error e => exact Nat.le_add_left 1 254
  | ok remains =>
    have hending : remains.status.toNat % 128 < 128 := Nat.mod_lt _ (by decide)
    have hcode : remains.status.toNat / 256 % 256 < 256 := Nat.mod_lt _ (by decide)
    simp only [exitCodeOf]
    split_ifs <;> omega

/-- Only a child that ended by itself with 0 gives 0. -/
theorem exitCodeOf_eq_zero_iff (answer : Except Errno Remains) :
    exitCodeOf answer = 0 ↔ ∃ remains, answer = .ok remains ∧
      remains.status.toNat % 128 = 0 ∧ remains.status.toNat / 256 % 256 = 0 := by
  cases answer with
  | error e => simp [exitCodeOf]
  | ok remains =>
    simp only [exitCodeOf, Except.ok.injEq, exists_eq_left']
    split_ifs with hexited hneither
    · exact (and_iff_right hexited).symm
    · exact iff_of_false not_false fun hboth => hexited hboth.1
    · exact iff_of_false (by omega) fun hboth => hexited hboth.1

/-- Neither the bit that tells of a core dump nor a bit of the upper half matters. -/
theorem exitCodeOf_congr {remains remains' : Remains}
    (hsame : remains'.status &&& 0xFF7F = remains.status &&& 0xFF7F) :
    exitCodeOf (.ok remains') = exitCodeOf (.ok remains) := by
  have hending (status : UInt32) : status.toNat % 128 = (status &&& 0xFF7F).toNat % 128 := by
    rw [← ExitStatus.toNat_ending, ← ExitStatus.toNat_ending, UInt32.and_assoc]
    rfl
  have hcode (status : UInt32) : status.toNat / 256 % 256 = (status &&& 0xFF7F).toNat / 256 % 256 := by
    rw [← ExitStatus.toNat_code, ← ExitStatus.toNat_code, UInt32.shiftRight_and, UInt32.and_assoc]
    rfl
  rw [exitCodeOf, exitCodeOf, hending remains'.status, hcode remains'.status, hsame, ← hending, ← hcode]

/-! ### From the last wait to the report -/

section Reporting

variable {b : Backend W C} {s : Spawner C} {report : Report} (hsignals : b.supportsSignals = true)
  (hcode : report.exitCode = s.exitCode) (hsignal : report.termSignal = s.terminationSignal b)
include hsignals hcode hsignal

/-- A code that is none stands for itself in no report. -/
theorem exitStatus_of_exited {code : Int} (hstate : s.state = .exited code) :
    report.exitStatus = if 0 ≤ code then code else 1 := by
  rw [Report.exitStatus, hcode, hsignal, Spawner.exitCode, Spawner.terminationSignal, hsignals, hstate]
  rfl

theorem exitStatus_of_signaled {signal : Int} (hstate : s.state = .signaled signal) (hpositive : 0 < signal) :
    report.exitStatus = 128 + signal := by
  rw [Report.exitStatus, hcode, hsignal, Spawner.exitCode, Spawner.terminationSignal, hsignals, hstate]
  exact if_pos hpositive

/-- A report ends the run with the code for the last wait. -/
theorem exitStatus_of_reaped {answer : Except Errno Remains}
    (hstate : s.state = .ofStatus (Child.outcomeOf answer).status) : report.exitStatus = exitCodeOf answer := by
  cases answer with
  | error e => exact exitStatus_of_exited hsignals hcode hsignal hstate
  | ok remains =>
    rw [Child.outcomeOf, Remains.outcome, ExitStatus.ofWaitStatus_eq] at hstate
    rw [exitCodeOf]
    split_ifs at hstate ⊢ with hexited hneither
    · rw [exitStatus_of_exited hsignals hcode hsignal hstate, if_pos (Int.natCast_nonneg _)]
    · exact exitStatus_of_exited hsignals hcode hsignal hstate
    · rw [exitStatus_of_signaled hsignals hcode hsignal hstate (by omega)]
      rfl

end Reporting

/-- Since the log the spawner's child has been found gone, and the state tells what the last wait has answered. -/
def Settled (pid : Pid) (log : List (Made W)) (s : Spawner Child) (r : Traced W) : Prop :=
  ∃ answer, Answered pid log answer r ∧ s.state = .ofStatus (Child.outcomeOf answer).status

section Watching

variable {k : Kernel W} {c : Child} {log : List (Made W)} {s : Spawner Child} {r : Traced W}

/-- A child that has been found gone is given up without another wait. -/
theorem settled_recordExit {answer : Except Errno Remains} {x : Offspring.Outcome × Child × Traced W}
    (h : Child.Gone c log answer x) :
    let ended := s.recordExit (Posix.backend k.traced) x.1 x.2.1 x.2.2
    Settled c.pid log ended.1 ended.2 := by
  obtain ⟨outcome, c', r'⟩ := x
  obtain rfl : outcome = Child.outcomeOf answer := h.outcome
  refine ⟨answer, ?_, rfl⟩
  have hreleased : c'.release k.traced r' = r' := Child.release_of_exit h.keeps
  simp only [Spawner.recordExit, Posix.backend, hreleased]
  exact h.answered

section Looking

variable (hchild : s.child = some c) (hnew : c.exit = none) (h : Pending c.pid log r)
include hchild hnew h

/-- A poll finds the child running, or settles it. -/
theorem wait_noHang :
    (∃ r', s.wait (Posix.backend k.traced) .noHang r = (true, { s with child := some c }, r') ∧
        Pending c.pid log r') ∨
      ∃ s' r', s.wait (Posix.backend k.traced) .noHang r = (false, s', r') ∧ Settled c.pid log s' r' := by
  have hpoll : (Posix.backend k.traced).tryWait c r = c.tryWait k.traced r := rfl
  simp only [Spawner.wait, hchild, hpoll]
  obtain ⟨r', hrunning, hpending⟩ | ⟨answer, x, hgone, hx⟩ := Child.gone_tryWait (k := k) hnew h
  · rw [hrunning]
    exact .inl ⟨r', rfl, hpending⟩
  · rw [hgone]
    exact .inr ⟨_, _, rfl, settled_recordExit hx⟩

/-- Any other wait comes back with the child settled. -/
theorem settled_wait (policy : WaitPolicy) (hpolicy : policy ≠ .noHang) :
    let answer := s.wait (Posix.backend k.traced) policy r
    Settled c.pid log answer.2.1 answer.2.2 := by
  cases policy with
  | noHang => exact absurd rfl hpolicy
  | infinite =>
    obtain ⟨answer, hgone⟩ := Child.gone_wait (k := k) hnew h
    simp only [Spawner.wait, hchild]
    exact settled_recordExit hgone
  | needKill =>
    have hkilled : Pending c.pid log (c.kill k.traced r).2 := Child.pending_kill h
    rcases hkill : c.kill k.traced r with ⟨delivered, r'⟩
    rw [hkill] at hkilled
    have hasked : (Posix.backend k.traced).kill c r = (delivered, c, r') := by simp only [Posix.backend, hkill]
    simp only [Spawner.wait, hchild, hasked]
    -- That the child was killed is told to a listener, which is no call.
    have hnoted : Pending c.pid log
        (if delivered then (Posix.backend k.traced).note .killedBeforeWaiting r' else r') := by
      cases delivered <;> exact hkilled
    obtain ⟨answer, hgone⟩ := Child.gone_wait (k := k) hnew hnoted
    exact settled_recordExit hgone

end Looking

end Watching

/-! ### Runs on a host that writes down its calls -/

/-- The host over a kernel, with its calls written down. -/
def Host.traced (h : Host W Child) (k : Kernel W) : Host (Traced W) Child where
  backend := Posix.backend k.traced
  now r := h.now r.world
  rest time r := r.move (h.rest time r.world)
  looks deadline r := h.looks deadline r.world
  newSink r := ((h.newSink r.world).1, r.move (h.newSink r.world).2)
  contents sink r := h.contents sink r.world

/-- Calls are written down beside the world of the host. -/
theorem Host.traced_projects_world {h : Host W Child} {k : Kernel W} (hposix : h.backend = Posix.backend k) :
    (h.traced k).Projects h Traced.world where
  backend := by
    rw [hposix]
    exact Posix.backend_projects k.traced_projects_world
  now _ := rfl
  rest _ _ := rfl
  looks _ _ := rfl
  newSink _ := rfl
  contents _ _ := rfl

section Waiting

variable (h : Host W Child) (k : Kernel W) {c : Child} {log : List (Made W)} {s : Spawner Child} {r : Traced W}
  (hchild : s.child = some c) (hnew : c.exit = none) (hpending : Pending c.pid log r)
include hchild hnew hpending

theorem settled_killOverdue :
    let answer := killOverdue (h.traced k) s r
    Settled c.pid log answer.1 answer.2 :=
  settled_wait (s := s.markSignaled) hchild hnew hpending .needKill (by decide)

/-- However often the child is looked at, in the end it is settled. -/
theorem settled_waitUntil (deadline looks : Nat) :
    let answer := waitUntil (h.traced k) deadline looks s r
    Settled c.pid log answer.2.1 answer.2.2 := by
  induction looks generalizing s r with
  | zero => exact settled_killOverdue h k hchild hnew hpending
  | succ looks ih =>
    have hlook : (h.traced k).backend = Posix.backend k.traced := rfl
    obtain ⟨r', hrunning, hlater⟩ | ⟨s', r', hgone, hsettled⟩ := wait_noHang (k := k) hchild hnew hpending
    · simp only [waitUntil, hlook, hrunning]
      split_ifs with hnever hlate
      · cases hnever
      · exact settled_killOverdue (s := { s with child := some c }) h k rfl hnew hlater
      · exact ih rfl hlater
    · simp only [waitUntil, hlook, hgone, Bool.not_false, if_true]
      exact hsettled

theorem settled_waitWithTimeout (timeout : Option Nat) :
    let answer := waitWithTimeout (h.traced k) timeout s r
    Settled c.pid log answer.2.1 answer.2.2 := by
  cases timeout with
  | none => exact settled_wait hchild hnew hpending .infinite (by decide)
  | some time => exact settled_waitUntil h k hchild hnew hpending _ _

end Waiting

/-- On a host that writes down its calls, a run that comes to a report has launched its child and waited for it. -/
theorem traced_tells_status (h : Host W Child) (k : Kernel W) (parent : List OsString) {c : Config} {w : W}
    {report : Report} (hreport : (execute (h.traced k) parent c (.start w)).1 = .ok report) :
    ∃ child launched watched n answer,
      launchFrom (h.traced k) parent c (.start w) = (.ok child, launched) ∧
      (execute (h.traced k) parent c (.start w)).2.made = launched.made ++ watched ∧
      waitsOf watched = List.replicate n (child.pid, .error .interrupted) ++ [(child.pid, answer)] ∧
      report.exitStatus = exitCodeOf answer := by
  by_cases hc : c.Launchable
  · rcases hlaunch : launchFrom (h.traced k) parent c (.start w) with ⟨cause | child, launched⟩
    · rw [execute_of_refused (h.traced k) parent _ hc hlaunch] at hreport
      cases hreport
    · rw [execute_of_launched (h.traced k) parent _ hc hlaunch] at hreport ⊢
      dsimp only at hreport ⊢
      split_ifs at hreport ⊢ with hnumber
      -- The launch has been noted, which is no call.
      have hpending : Pending child.pid launched.made ((h.traced k).backend.note
          (.childSpawned c.launch.program (h.traced k).backend.name c.detach) launched) :=
        Posix.pending_now child.pid launched
      obtain ⟨answer, ⟨later, n, hmade, hwaits⟩, hstate⟩ := settled_waitWithTimeout h k
        (s := withChild c ((h.traced k).newSink (.start w)).1 child.pid child) rfl (Posix.exit_of_launch hlaunch)
        hpending (c.timeoutSecs.map (· * 1000000))
      cases hreport
      exact ⟨child, launched, later, n, answer, rfl, hmade, hwaits,
        exitStatus_of_reaped (b := Posix.backend k.traced) rfl rfl rfl hstate⟩
  · obtain ⟨failure, hfail⟩ := execute_of_not_launchable hc
    rw [hfail] at hreport
    cases hreport

/-- Whatever a run asks for, and however the calls of its kernel are answered: if it comes to a report, its child
was launched and then waited for. All waits but the last were interrupted, and what the last one has answered
makes the code of the run. It fits an octet, is 0 exactly for a child that ended by itself with 0, and depends
neither on the bit that tells of a core dump nor on the upper half of the status word. -/
theorem execute_tells_status (k : Kernel W) (h : Host W Child) (hposix : h.backend = Posix.backend k)
    (parent : List OsString) (c : Config) (w : W) {report : Report} (hreport : (execute h parent c w).1 = .ok report) :
    ∃ child launched watched n answer,
      launchFrom (h.traced k) parent c (.start w) = (.ok child, launched) ∧
      (execute (h.traced k) parent c (.start w)).1 = .ok report ∧
      (execute (h.traced k) parent c (.start w)).2.made = launched.made ++ watched ∧
      waitsOf watched = List.replicate n (child.pid, .error .interrupted) ++ [(child.pid, answer)] ∧
      (Ending.reported report).exitStatus? = some (exitCodeOf answer : Int) ∧
      exitCodeOf answer ≤ 255 ∧
      (exitCodeOf answer = 0 ↔ ∃ remains, answer = .ok remains ∧
        remains.status.toNat % 128 = 0 ∧ remains.status.toNat / 256 % 256 = 0) ∧
      ∀ remains remains', answer = .ok remains → remains'.status &&& 0xFF7F = remains.status &&& 0xFF7F →
        exitCodeOf (.ok remains') = exitCodeOf answer := by
  have hsame := execute_map (h.traced k) parent (.start w) (Host.traced_projects_world hposix) c
  rw [Traced.world_start] at hsame
  have htraced : (execute (h.traced k) parent c (.start w)).1 = .ok report := by
    rw [← hreport, hsame]
    rfl
  obtain ⟨child, launched, watched, n, answer, hlaunch, hmade, hwaits, hcode⟩ := traced_tells_status h k parent htraced
  refine ⟨child, launched, watched, n, answer, hlaunch, htraced, hmade, hwaits, congrArg some hcode,
    exitCodeOf_le answer, exitCodeOf_eq_zero_iff answer, ?_⟩
  rintro remains remains' rfl hstatus
  exact exitCodeOf_congr hstatus

/-- A kernel on which every child has been ended by a segmentation fault that left a core. -/
def crashing : Kernel Bench :=
  { Bench.kernel with await := fun _ b => (.ok ⟨0x8B, 1024⟩, b) }

/-- A host over that kernel. -/
def crashHost : Host Bench Child where
  backend := Posix.backend crashing
  now _ := 0
  rest _ b := b
  looks _ _ := 1
  newSink b := (⟨0⟩, b)
  contents _ _ := .empty

/-- A run of some program. -/
def crashRun : Config :=
  { launch := .ofProgram (.ofString "a") }

/-- What is told of its child. -/
def crashReport : Report where
  backend := "posix"
  pid := 4
  exitCode := noExitCode
  termSignal := 11
  peakMemory := 1024
  signaled := false
  timedOut := false
  output := none

/-- The run of a child that crashes ends with 139. -/
theorem crash_tells_status :
    crashHost.backend = Posix.backend crashing ∧
      (execute crashHost [] crashRun (.client [] [])).1 = .ok crashReport ∧
      ∃ answer, (Ending.reported crashReport).exitStatus? = some (exitCodeOf answer : Int) ∧
        exitCodeOf answer = 139 := by
  have htold : (execute crashHost [] crashRun (.client [] [])).1.toOption = some crashReport := by decide +kernel
  have hreport : (execute crashHost [] crashRun (.client [] [])).1 = .ok crashReport := by
    generalize (execute crashHost [] crashRun (.client [] [])).1 = told at htold
    cases told with
    | error failure => cases htold
    | ok report => exact congrArg _ (Option.some.inj htold)
  obtain ⟨-, -, -, -, answer, -, -, -, -, hcode, -⟩ := execute_tells_status crashing crashHost rfl [] _ _ hreport
  exact ⟨rfl, hreport, answer, hcode, Int.ofNat_inj.mp (Option.some.inj hcode).symm⟩

end Run

end Offspring
