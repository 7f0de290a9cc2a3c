import Offspring.Proofs.Posix.Bench
import Offspring.Proofs.Posix.Routing

/-!
# The streams of a program

A program finds at 0, 1 and 2 what its plan routes the streams to, or what the parent had there, and at all
other numbers what the parent had and did not close on exec.

One descriptor can be lost on the way. If the parent has neither 0 nor 1 and the plan has files for the output
and error streams but none for the input, then the files get just these numbers, and the copy of the first one
to 1 takes the place of the second (`Overlaps`).
-/

namespace Offspring.Posix

variable {W : Type}

/-- The files of the output and error streams get the numbers 0 and 1, with the input stream left alone. -/
def Overlaps (plan : StreamPlan) (t : Table) : Prop :=
  plan.stdin = none ∧ (∃ path, plan.stdout = some (.file path)) ∧ (∃ path, plan.stderr = some (.file path)) ∧
    t 0 = none ∧ t 1 = none

/-- What a program's descriptors stand for, by its plan and by what the parent had before. -/
structure StreamsRouted (plan : StreamPlan) (capture : Option Capture) (child : Pid) (before after : System) :
    Prop where
  stdin : match plan.stdin with
    | none => after.table (.child child) 0 = before.table .self 0
    | some path => ∃ n, before.Unused n ∧ after.table (.child child) 0 = some ⟨.reading path n, false⟩
  stdout : match plan.stdout with
    | none => after.table (.child child) 1 = before.table .self 1
    | some (.file path) => ∃ n, before.Unused n ∧ after.table (.child child) 1 = some ⟨.writing path n, false⟩
    | some (.buffer sink) => ∃ n reader, before.Unused n ∧ capture = some ⟨reader, sink⟩ ∧
      after.table .self reader = some ⟨.pipeReader n, true⟩ ∧
      after.table (.child child) 1 = some ⟨.pipeWriter n, false⟩
    | some .sameAsStdout => False
  stderr : match plan.stderr with
    | none => after.table (.child child) 2 = before.table .self 2
    | some (.file path) =>
      (¬Overlaps plan (before.table .self) →
        ∃ n, before.Unused n ∧ after.table (.child child) 2 = some ⟨.writing path n, false⟩) ∧
      (Overlaps plan (before.table .self) →
        after.table (.child child) 2 = after.table (.child child) 1)
    | some _ => after.table (.child child) 2 =
      if plan.stdout.isSome then after.table (.child child) 1 else before.table .self 2
  rest : ∀ fd, 3 ≤ fd → after.table (.child child) fd = (before.table .self).onExec fd

/-- A file that nobody had open before the launch is open for a redirected stream, and nowhere else. -/
theorem StreamsRouted.only {plan : StreamPlan} {capture : Option Capture} {child : Pid} {before after : System}
    (h : StreamsRouted plan capture child before after) {fd : Fd} {slot : Slot}
    (hslot : after.table (.child child) fd = some slot) (hnew : before.Unused slot.file.serial) :
    (fd = 0 ∧ plan.stdin.isSome) ∨ (fd = 1 ∧ plan.stdout.isSome) ∨ (fd = 2 ∧ plan.stderr.isSome) := by
  have hnot : before.table .self fd ≠ some slot := fun hbefore => hnew _ _ _ hbefore rfl
  have hcases : fd = 0 ∨ fd = 1 ∨ fd = 2 ∨ 3 ≤ fd := by
    match fd with
    | 0 | 1 | 2 => simp
    | n + 3 => exact .inr (.inr (.inr (Nat.le_add_left 3 n)))
  rcases hcases with rfl | rfl | rfl | hfd
  · cases hstdin : plan.stdin with
    | none =>
      have hsame := h.stdin
      rw [hstdin] at hsame
      exact absurd (hsame.symm.trans hslot) hnot
    | some path => simp
  · cases hstdout : plan.stdout with
    | none =>
      have hsame := h.stdout
      rw [hstdout] at hsame
      exact absurd (hsame.symm.trans hslot) hnot
    | some target => simp
  · cases hstderr : plan.stderr with
    | none =>
      have hsame := h.stderr
      rw [hstderr] at hsame
      exact absurd (hsame.symm.trans hslot) hnot
    | some target => simp
  · rw [h.rest fd hfd, Table.onExec, Option.filter_eq_some_iff] at hslot
    exact absurd hslot.1 hnot

section Launch

variable {k : Kernel W} {spec : LaunchSpec} {options : LaunchOptions} {w : W} {view : W → System}
  {f : Fork k spec options w} {input output error : List (Fd × OpenFile)} {serial : Nat}
  (a : f.Account view input output error serial)

namespace Fork.Account

include a

/-- The files of the output and error streams were new. -/
theorem unused {fd : Fd} {file : OpenFile} (h : (fd, file) ∈ output ++ error) : (view w).Unused file.serial :=
  a.files.unused _ (by rw [List.append_assoc]; exact List.mem_append_right _ h)

/-- What was opened for one stream is below what was opened for later ones. -/
theorem input_lt {x y : Fd × OpenFile} (hx : x ∈ input) (hy : y ∈ output ++ error) : x.1 < y.1 := by
  have hfiles := a.files
  rw [List.append_assoc] at hfiles
  exact hfiles.lt hx hy

theorem output_lt {x y : Fd × OpenFile} (hx : x ∈ output) (hy : y ∈ error) : x.1 < y.1 :=
  a.files.lt (List.mem_append_right _ hx) hy

/-- The copy for the input stream leaves the sources of the later ones alone. -/
theorem redirect_stdin {entry : Fd × OpenFile} (h : entry ∈ output ++ error) :
    ((view f.piped).table .self).redirect 0 f.stdio.stdin entry.1 = some ⟨entry.2, true⟩ := by
  have hget := a.get (show entry ∈ input ++ output ++ error by
    rw [List.append_assoc]
    exact List.mem_append_right _ h)
  cases hstdin : f.stdio.stdin with
  | none => exact hget
  | some fd =>
    obtain ⟨file, hfile⟩ := a.provided.input.mem hstdin
    rw [Table.redirect_other _ (Nat.ne_of_gt (Nat.lt_of_le_of_lt (Nat.zero_le _) (a.input_lt hfile h))), hget]

/-- A number without a stream stands for what the parent had there. -/
theorem inherited (hinherit : ∀ fd < 3, ∀ slot, (view w).table .self fd = some slot → slot.closeOnExec = false)
    {fd : Fd} (hfd : fd < 3) : ((view f.piped).table .self).onExec fd = (view w).table .self fd := by
  rw [a.onExec_eq, Table.onExec_of_inheritable (hinherit fd hfd)]

/-- If the output stream has a descriptor and the error stream's own one is 1, then the files overlap. -/
theorem overlaps_of_one {fd : Fd} (hstdout : f.stdio.stdout = some fd) {entry : Fd × OpenFile} (h : entry ∈ error)
    (hone : entry.1 = 1) : Overlaps options.stdio ((view w).table .self) := by
  obtain ⟨file, hfile⟩ := a.provided.output.mem hstdout
  have hzero : fd = 0 := Nat.lt_one_iff.mp (hone ▸ a.output_lt hfile h)
  have hleast : ∀ {x : Fd × OpenFile}, x ∈ input → False := fun hx =>
    Nat.not_lt_zero _ (hzero ▸ a.input_lt hx (List.mem_append_left _ hfile))
  refine ⟨?_, ?_, ?_, ?_, ?_⟩
  · have hinput := a.provided.input
    cases hstdin : options.stdio.stdin with
    | none => rfl
    | some path =>
      rw [hstdin] at hinput
      obtain ⟨_, _, -, rfl⟩ := hinput
      exact (hleast List.mem_cons_self).elim
  · have houtput := a.provided.output
    have hsorted := a.files.parent.sorted
    rw [List.map_append, List.map_append] at hsorted
    rcases htarget : options.stdio.stdout with _ | (path | sink | _) <;> rw [htarget] at houtput
    · cases houtput.1.symm.trans hstdout
    · exact ⟨path, rfl⟩
    · -- The end of a pipe that the parent reads is the lower one.
      obtain ⟨reader, writer, n, hwriter, -, rfl⟩ := houtput
      cases hwriter.symm.trans hstdout
      have hless : reader < fd := by
        simpa using (List.pairwise_append.mp (List.pairwise_append.mp hsorted).1).2.1
      exact absurd (hzero ▸ hless) (Nat.not_lt_zero _)
    · cases houtput
  · have herror := a.provided.error
    rcases htarget : options.stdio.stderr with _ | (path | sink | _) <;> rw [htarget] at herror
    · rw [herror.2.2] at h
      cases h
    · exact ⟨path, rfl⟩
    · rw [herror.2.2] at h
      cases h
    · rw [herror.2.2] at h
      cases h
  · exact hzero ▸ a.files.parent.free (List.mem_append_left _ (List.mem_append_right _ hfile))
  · exact hone ▸ a.files.parent.free (List.mem_append_right _ h)

/-- The copies for the input and output streams leave the source of the error stream alone, unless the files
overlap. -/
theorem redirect_stdout {entry : Fd × OpenFile} (h : entry ∈ error)
    (hoverlaps : ¬Overlaps options.stdio ((view w).table .self)) :
    (((view f.piped).table .self).redirect 0 f.stdio.stdin).redirect 1 f.stdio.stdout entry.1 =
      some ⟨entry.2, true⟩ := by
  have hstdin := a.redirect_stdin (List.mem_append_right output h)
  cases hstdout : f.stdio.stdout with
  | none => exact hstdin
  | some fd => rw [Table.redirect_other _ fun hone => hoverlaps (a.overlaps_of_one hstdout h hone), hstdin]

/-- The output stream's file is still there for an error stream that follows it. -/
theorem stdout_kept {fd : Fd} {file : OpenFile} (h : (fd, file) ∈ output) (hstdout : f.stdio.stdout = some fd) :
    ∃ closeOnExec, (((view f.piped).table .self).redirect 0 f.stdio.stdin).redirect 1 f.stdio.stdout fd =
      some ⟨file, closeOnExec⟩ := by
  have hstdin := a.redirect_stdin (List.mem_append_left error h)
  rw [hstdout]
  by_cases hone : fd = 1
  · subst hone
    exact ⟨false, Table.redirect_same hstdin⟩
  · exact ⟨true, by rw [Table.redirect_other _ hone, hstdin]⟩

/-- Where the files overlap, those of the output and error streams are at 0 and 1. -/
theorem at_zero_one (h : Overlaps options.stdio ((view w).table .self)) :
    f.stdio.stdout = some 0 ∧ f.stdio.stderr = some 1 := by
  obtain ⟨hstdin, ⟨out, hstdout⟩, ⟨err, hstderr⟩, hzero, hone⟩ := h
  have hinput := a.provided.input
  have houtput := a.provided.output
  have herror := a.provided.error
  rw [hstdin] at hinput
  rw [hstdout] at houtput
  rw [hstderr] at herror
  obtain ⟨-, rfl⟩ := hinput
  obtain ⟨fd, n, hfd, -, rfl⟩ := houtput
  obtain ⟨own, m, hown, hfollows, rfl⟩ := herror
  obtain ⟨hlowest, hlowest', -⟩ := a.files.parent
  have hfirst : ((view w).table .self).IsLowestFree 0 := ⟨hzero, nofun⟩
  obtain rfl := hlowest.unique hfirst
  have hsecond : (((view w).table .self).put 0 (some ⟨.writing out n, true⟩)).IsLowestFree 1 :=
    ⟨hone, fun fd hfd => by rw [Nat.lt_one_iff.mp hfd, Table.put_same]; nofun⟩
  obtain rfl := hlowest'.unique hsecond
  exact ⟨hfd, by rw [Stdio.stderr, hfollows, hown]; rfl⟩

/-- An error stream that goes nowhere is the parent's. -/
theorem stderr_inherited
    (hinherit : ∀ fd < 3, ∀ slot, (view w).table .self fd = some slot → slot.closeOnExec = false)
    (hown : f.stdio.ownStderr = none) (halone : f.stdio.stderrFollows = false ∨ f.stdio.stdout = none) :
    ((view f.piped).table .self).routed f.stdio.stdin f.stdio.stdout f.stdio.stderr 2 =
      (view w).table .self 2 := by
  have hstderr : f.stdio.stderr = none := by
    rcases halone with hfollows | hstdout
    · rw [Stdio.stderr, hfollows, hown]
      rfl
    · rw [Stdio.stderr, hstdout, hown]
      exact ite_self _
  rw [hstderr, ← a.inherited hinherit (by decide)]
  exact Table.onExec_congr ((Table.redirect_other f.stdio.stdout (by decide)).trans
    (Table.redirect_other f.stdio.stdin (by decide)))

/-- An error stream that follows the output stream has its file, or is the parent's. -/
theorem stderr_follows
    (hinherit : ∀ fd < 3, ∀ slot, (view w).table .self fd = some slot → slot.closeOnExec = false)
    (hown : f.stdio.ownStderr = none) (hfollows : f.stdio.stderrFollows = f.stdio.stdout.isSome) :
    ((view f.piped).table .self).routed f.stdio.stdin f.stdio.stdout f.stdio.stderr 2 =
      if options.stdio.stdout.isSome then
        ((view f.piped).table .self).routed f.stdio.stdin f.stdio.stdout f.stdio.stderr 1
      else (view w).table .self 2 := by
  rw [← a.provided.output.isSome_eq]
  cases hstdout : f.stdio.stdout with
  | none =>
    rw [if_neg (by simp), ← hstdout]
    exact a.stderr_inherited hinherit hown (.inr hstdout)
  | some fd =>
    obtain ⟨file, hfile⟩ := a.provided.output.mem hstdout
    have hstderr : f.stdio.stderr = some fd := by rw [Stdio.stderr, hfollows, hstdout]; rfl
    obtain ⟨closeOnExec, hkept⟩ := a.stdout_kept hfile hstdout
    rw [hstdout] at hkept
    rw [if_pos (by simp), Table.routed_one, hstderr,
      Table.onExec_redirect_same (a.redirect_stdin (List.mem_append_left _ hfile))]
    exact Table.onExec_redirect_same hkept

end Fork.Account

/-- A program's descriptors are what its plan routes the streams to, and what its parent had. The one exception
is an error stream with a file of its own where the files overlap: then it follows the output stream. -/
theorem Fork.streams_routed (os : Conforms k view) (f : Fork k spec options w)
    (hinherit : ∀ fd < 3, ∀ slot, (view w).table .self fd = some slot → slot.closeOnExec = false)
    (hdone : (f.plan.steps k f.child f.world).1 = .ok ()) :
    StreamsRouted options.stdio f.stdio.capture f.child (view w)
      (view (f.plan.run k f.child f.writer f.world)) := by
  obtain ⟨input, output, error, serial, a⟩ := f.account os
  obtain ⟨hself, htable⟩ := a.table_program os hdone
  have hinput := a.provided.input
  have houtput := a.provided.output
  have herror := a.provided.error
  refine ⟨?_, ?_, ?_, fun fd hfd => ?_⟩
  · rw [htable, Table.routed_zero]
    cases hstdin : options.stdio.stdin <;> rw [hstdin] at hinput
    · rw [hinput.1]
      exact a.inherited hinherit (by decide)
    · obtain ⟨fd, n, hfd, rfl⟩ := hinput
      rw [hfd]
      exact ⟨n, a.files.unused _ List.mem_cons_self, Table.onExec_redirect_same (a.get List.mem_cons_self)⟩
  · rw [htable, Table.routed_one]
    rcases htarget : options.stdio.stdout with _ | (path | sink | _) <;> rw [htarget] at houtput
    · rw [houtput.1]
      exact (Table.onExec_congr (Table.redirect_other f.stdio.stdin (by decide))).trans
        (a.inherited hinherit (by decide))
    · obtain ⟨fd, n, hfd, -, rfl⟩ := houtput
      rw [hfd]
      exact ⟨n, a.unused List.mem_cons_self, Table.onExec_redirect_same (a.redirect_stdin List.mem_cons_self)⟩
    · obtain ⟨reader, fd, n, hfd, hcapture, rfl⟩ := houtput
      rw [hfd, hself]
      have hreader : (view f.piped).table .self reader = some ⟨.pipeReader n, true⟩ :=
        a.get (List.mem_append_left _ (List.mem_append_right _ List.mem_cons_self))
      exact ⟨n, reader, a.unused List.mem_cons_self, hcapture, hreader,
        Table.onExec_redirect_same (a.redirect_stdin (List.mem_cons_of_mem _ List.mem_cons_self))⟩
    · cases houtput
  · rw [htable]
    rcases htarget : options.stdio.stderr with _ | (path | sink | _) <;> rw [htarget] at herror
    · exact a.stderr_inherited hinherit herror.1 (.inl herror.2.1)
    · obtain ⟨fd, n, hown, hfollows, rfl⟩ := herror
      have hstderr : f.stdio.stderr = some fd := by rw [Stdio.stderr, hfollows, hown]; rfl
      refine ⟨fun hno => ⟨n, a.unused (List.mem_append_right _ List.mem_cons_self), ?_⟩, fun hyes => ?_⟩
      · rw [hstderr]
        exact Table.onExec_redirect_same (a.redirect_stdout List.mem_cons_self hno)
      · obtain ⟨hzero, hone⟩ := a.at_zero_one hyes
        obtain ⟨file, hfile⟩ := a.provided.output.mem hzero
        have hfirst := a.redirect_stdin (List.mem_append_left _ hfile)
        rw [Table.routed_one, hzero, hone, Table.onExec_redirect_same hfirst]
        exact Table.onExec_redirect_same (Table.redirect_same hfirst)
    · exact a.stderr_follows hinherit herror.1 herror.2.1
    · exact a.stderr_follows hinherit herror.1 herror.2.1
  · rw [htable, Table.routed_above _ _ _ hfd, a.onExec_eq]

/-- A program finds its streams as planned, but for the error stream where the files overlap. Nothing else that
the launch has opened is left to it: neither another descriptor of the plan's files and of the captured output,
nor one of the report. -/
theorem program_streams (os : Conforms k view) (f : Fork k spec options w)
    (hinherit : ∀ fd < 3, ∀ slot, (view w).table .self fd = some slot → slot.closeOnExec = false)
    (hdone : (f.plan.steps k f.child f.world).1 = .ok ()) :
    StreamsRouted options.stdio f.stdio.capture f.child (view w)
      (view (f.plan.run k f.child f.writer f.world)) ∧
    (∀ fd slot, (view (f.plan.run k f.child f.writer f.world)).table (.child f.child) fd = some slot →
      (view w).Unused slot.file.serial →
        (fd = 0 ∧ options.stdio.stdin.isSome) ∨ (fd = 1 ∧ options.stdio.stdout.isSome) ∨
          (fd = 2 ∧ options.stdio.stderr.isSome)) ∧
    ∃ serial, (view f.piped).table .self f.reader = some ⟨.pipeReader serial, true⟩ ∧
      (view f.piped).table .self f.writer = some ⟨.pipeWriter serial, true⟩ ∧
      ∀ fd slot, (view (f.plan.run k f.child f.writer f.world)).table (.child f.child) fd = some slot →
        slot.file.serial ≠ serial := by
  have hrouted := f.streams_routed os hinherit hdone
  obtain ⟨input, output, error, serial, a⟩ := f.account os
  refine ⟨hrouted, fun fd slot => hrouted.only, serial, a.reader_eq,
    a.writer_eq, fun fd slot hslot => ?_⟩
  rw [(a.table_program os hdone).2] at hslot
  exact a.routed_ne_serial hslot

end Launch

/-! ### Clients without standard descriptors -/

/-- A program that needs nothing. -/
def bareSpec : LaunchSpec :=
  { program := .ofString "/bin/true", args := ["true"] }

/-- Input from a file, and all output into a console buffer. -/
def capturedOptions : LaunchOptions :=
  { stdio := { stdin := some (.ofString "in"), stdout := some (.buffer ⟨0⟩), stderr := some .sameAsStdout } }

theorem capturedOptions_forks : (Fork.find? Bench.kernel bareSpec capturedOptions (.client [0, 1] [])).isSome := by
  decide +kernel

/-- The launch of a client without 0 and 1. -/
def capturedFork : Fork Bench.kernel bareSpec capturedOptions (.client [0, 1] []) :=
  (Fork.find? Bench.kernel bareSpec capturedOptions (.client [0, 1] [])).get capturedOptions_forks

/-- The input's file is at 0 from the start; the pipe's end for both output streams comes from 3. -/
theorem program_streams_captured :
    (∀ fd < 3, ∀ slot, (Bench.standard [0, 1]).table .self fd = some slot → slot.closeOnExec = false) ∧
      (capturedFork.plan.steps Bench.kernel capturedFork.child capturedFork.world).1 = .ok () ∧
      StreamsRouted capturedOptions.stdio capturedFork.stdio.capture capturedFork.child (Bench.standard [0, 1])
        (capturedFork.plan.run Bench.kernel capturedFork.child capturedFork.writer capturedFork.world).system := by
  have hinherit := Bench.standard_inheritable [0, 1]
  have hdone := capturedFork.steps_eq_ok_iff.mpr (by decide +kernel)
  exact ⟨hinherit, hdone, (program_streams Bench.conforms capturedFork hinherit hdone).1⟩

/-- Files for the output and error streams. -/
def twoFiles : LaunchOptions :=
  { stdio := { stdout := some (.file (.ofString "out")), stderr := some (.file (.ofString "err")) } }

theorem twoFiles_forks : (Fork.find? Bench.kernel bareSpec twoFiles (.client [0, 1] [])).isSome := by
  decide +kernel

/-- The launch of the same client with these. -/
def twoFilesFork : Fork Bench.kernel bareSpec twoFiles (.client [0, 1] []) :=
  (Fork.find? Bench.kernel bareSpec twoFiles (.client [0, 1] [])).get twoFiles_forks

/-- The error stream's file is lost: the stream is not written there but to the other one. -/
theorem error_file_lost :
    (∀ fd < 3, ∀ slot, (Bench.standard [0, 1]).table .self fd = some slot → slot.closeOnExec = false) ∧
      (twoFilesFork.plan.steps Bench.kernel twoFilesFork.child twoFilesFork.world).1 = .ok () ∧
      ¬∃ n, (twoFilesFork.plan.run Bench.kernel twoFilesFork.child twoFilesFork.writer
        twoFilesFork.world).system.table (.child twoFilesFork.child) 2 = some ⟨.writing (.ofString "err") n, false⟩ := by
  refine ⟨Bench.standard_inheritable [0, 1], twoFilesFork.steps_eq_ok_iff.mpr (by decide +kernel), ?_⟩
  have hout : (twoFilesFork.plan.run Bench.kernel twoFilesFork.child twoFilesFork.writer
      twoFilesFork.world).system.table (.child twoFilesFork.child) 2 =
        some ⟨.writing (.ofString "out") 3, false⟩ := by decide +kernel
  rintro ⟨n, herr⟩
  cases hout.symm.trans herr

end Offspring.Posix
