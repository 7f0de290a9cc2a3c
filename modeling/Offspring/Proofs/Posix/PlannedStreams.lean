import Offspring.Proofs.Posix.Bench
import Offspring.Proofs.Posix.Opening
import Offspring.Proofs.Posix.Screening

/-!
# Plans as they are made and as they are opened

A `StreamPlan` can say what no backend can do: an output stream that follows itself, or an error stream that
follows no other. `StreamPlan.WellFormed` rules this out. A redirection makes well-formed plans only, and in a
well-formed plan the error stream's target alone decides which descriptor the stream gets: one of its own for a
file, the output stream's where it follows that one, and none without a target.
-/

namespace Offspring

/-- A plan that makes sense: the output stream does not follow itself, and the error stream is not gathered on
its own and follows the output stream only if that one goes anywhere. -/
structure StreamPlan.WellFormed (plan : StreamPlan) : Prop where
  stdout_ne : plan.stdout ≠ some .sameAsStdout
  stderr_ne (sink : Sink) : plan.stderr ≠ some (.buffer sink)
  followed : plan.stderr = some .sameAsStdout → plan.stdout.isSome

namespace Redirection

/-- Whether the output stream goes anywhere. -/
def hasOutput : Redirection → Bool
  | .inherit => false
  | .files chosen => chosen.stdout.isSome
  | .buffer _ => true

/-- The error stream's own file. -/
def errorFile? : Redirection → Option OsString
  | .files chosen => chosen.stderr
  | .inherit | .buffer _ => none

/-- Both output streams shall go to one target: there is one, and the error stream has no file of its own. -/
def Merges (r : Redirection) (mode : ConsoleMode) : Prop :=
  mode = .merged ∧ r.hasOutput ∧ r.errorFile? = none

variable (r : Redirection) (mode : ConsoleMode)

theorem isSome_plan_stdout : (r.plan mode).stdout.isSome = r.hasOutput := by
  cases r with
  | files chosen => exact Option.isSome_map
  | inherit | buffer => rfl

/-- The error stream's own file comes first, whatever the mode. -/
theorem plan_stderr_of_file {path : OsString} (hpath : r.errorFile? = some path) :
    (r.plan mode).stderr = some (.file path) := by
  cases r with
  | files chosen =>
    have hstderr : chosen.stderr = some path := hpath
    simp only [plan, hstderr]
  | inherit | buffer => cases hpath

theorem plan_stderr_of_merges (hmerges : r.Merges mode) : (r.plan mode).stderr = some .sameAsStdout := by
  obtain ⟨rfl, houtput, hfile⟩ := hmerges
  cases r with
  | inherit => cases houtput
  | files chosen =>
    obtain ⟨path, hstdout⟩ := Option.isSome_iff_exists.mp houtput
    have hstderr : chosen.stderr = none := hfile
    simp only [plan, hstdout, hstderr]
  | buffer => rfl

theorem plan_stderr_of_not_merges (hfile : r.errorFile? = none) (hnot : ¬r.Merges mode) :
    (r.plan mode).stderr = none := by
  cases r with
  | inherit => rfl
  | files chosen =>
    have hstderr : chosen.stderr = none := hfile
    cases hstdout : chosen.stdout with
    | none => simp only [plan, hstdout, hstderr]
    | some path =>
      cases mode with
      | merged => exact absurd ⟨rfl, Option.isSome_iff_exists.mpr ⟨path, hstdout⟩, hfile⟩ hnot
      | stdoutOnly => simp only [plan, hstdout, hstderr]
  | buffer =>
    cases mode with
    | merged => exact absurd ⟨rfl, rfl, rfl⟩ hnot
    | stdoutOnly => rfl

/-- The error stream's target: its own file, the output stream's target, or none. -/
theorem plan_stderr_cases :
    (∃ path, r.errorFile? = some path ∧ (r.plan mode).stderr = some (.file path)) ∨
      (r.Merges mode ∧ (r.plan mode).stderr = some .sameAsStdout) ∨
      (r.errorFile? = none ∧ ¬r.Merges mode ∧ (r.plan mode).stderr = none) := by
  cases hfile : r.errorFile? with
  | some path => exact .inl ⟨path, rfl, r.plan_stderr_of_file mode hfile⟩
  | none =>
    by_cases hmerges : r.Merges mode
    · exact .inr (.inl ⟨hmerges, r.plan_stderr_of_merges mode hmerges⟩)
    · exact .inr (.inr ⟨rfl, hmerges, r.plan_stderr_of_not_merges mode hfile hmerges⟩)

theorem plan_wellFormed : (r.plan mode).WellFormed where
  stdout_ne := Posix.plan_stdout_ne r mode
  stderr_ne sink hbuffer := by
    obtain ⟨path, -, hstderr⟩ | ⟨-, hstderr⟩ | ⟨-, -, hstderr⟩ := r.plan_stderr_cases mode
    all_goals cases hstderr.symm.trans hbuffer
  followed hsame := by
    obtain ⟨path, -, hstderr⟩ | ⟨hmerges, -⟩ | ⟨-, -, hstderr⟩ := r.plan_stderr_cases mode
    · cases hstderr.symm.trans hsame
    · rw [isSome_plan_stdout, hmerges.2.1]
    · cases hstderr.symm.trans hsame

/-- A console buffer gathers output and gives no input. -/
theorem plan_stdin_of_buffer {sink : Sink} (hbuffer : (r.plan mode).stdout = some (.buffer sink)) :
    (r.plan mode).stdin = none := by
  cases r with
  | inherit | buffer => rfl
  | files chosen =>
    obtain ⟨path, -, hfile⟩ := Option.map_eq_some_iff.mp hbuffer
    cases hfile

end Redirection

namespace Posix

variable {W : Type}

/-! ### Why a plan cannot be opened -/

section Refusals

variable {k : Kernel W} {w : W} {cause : LaunchError}

theorem fileRefusal_cause {call : OsString → W → Except Errno Fd × W} {path : OsString}
    (h : (fileRefusal call path w).1 = some cause) : ∃ e, cause = .redirect path e := by
  rw [fileRefusal] at h
  split at h
  · cases h
    exact ⟨_, rfl⟩
  · rcases hcall : call path w with ⟨e | fd, w'⟩ <;> rw [hcall] at h <;> cases h
    exact ⟨_, rfl⟩

/-- A check refuses with the failure of the file or the pipe it is about, or because of its text. -/
theorem Check.perform_cause {check : Check} (h : (check.perform k w).1 = some cause) :
    match check with
    | .input path | .output path => ∃ e, cause = .redirect path e
    | .pipe => ∃ e, cause = .io e
    | .named _ | .whole _ _ => ∃ reason, cause = .invalidArgument reason := by
  cases check with
  | input | output => exact fileRefusal_cause h
  | pipe =>
    simp only [perform] at h
    rcases hpipe : k.makePipe w with ⟨e | ends, w'⟩ <;> rw [hpipe] at h <;> cases h
    exact ⟨_, rfl⟩
  | named | whole => exact ⟨_, (Option.some.inj (Option.ite_none_right_eq_some.mp h).2).symm⟩

/-- Checks refuse as one of them does. -/
theorem screen_refused {checks : List Check} {check : Check}
    (h : (screen k checks w).refused = some (check, cause)) :
    check ∈ checks ∧ ∃ w', (check.perform k w').1 = some cause := by
  induction checks generalizing w with
  | nil => cases h
  | cons first rest ih =>
    rcases hfirst : first.perform k w with ⟨_ | refusal, w'⟩ <;> simp only [screen, hfirst] at h
    · obtain ⟨hmem, hcause⟩ := ih h
      exact ⟨List.mem_cons_of_mem _ hmem, hcause⟩
    · cases h
      exact ⟨List.mem_cons_self, w, by rw [hfirst]⟩

/-- A well-formed plan that cannot be opened has a file or a pipe that cannot be opened. -/
theorem openPlan_refused {plan : StreamPlan} (hplan : plan.WellFormed)
    (h : (Stdio.openPlan k plan w).1 = .error cause) :
    ∃ check ∈ streamChecks plan, ∃ w', (check.perform k w').1 = some cause := by
  have hscreened : Screened k (streamChecks plan) w (Stdio.openPlan k plan w) := screened_openPlan hplan.stdout_ne
  rw [Screened] at hscreened
  split at hscreened
  · rename_i check refusal hrefused
    obtain ⟨fds, hanswer⟩ := hscreened
    rw [hanswer] at h
    cases h
    exact ⟨check, screen_refused hrefused⟩
  · obtain ⟨stdio, hanswer⟩ := hscreened
    rw [hanswer] at h
    cases h

/-- The form of a well-formed plan is no reason for a failure. -/
theorem openPlan_ne_configuration {plan : StreamPlan} (hplan : plan.WellFormed) (reason : String) :
    (Stdio.openPlan k plan w).1 ≠ .error (.configuration reason) := by
  intro h
  obtain ⟨check, -, w', hrefused⟩ := openPlan_refused hplan h
  have hcause := check.perform_cause hrefused
  cases check <;> obtain ⟨_, hcause⟩ := hcause <;> cases hcause

end Refusals

/-! ### The error stream's descriptor -/

namespace Provided

variable {plan : StreamPlan} {stdio : Stdio} {input output error : List (Fd × OpenFile)}
  (h : Provided plan stdio input output error)
include h

/-- A file of its own is at another descriptor than the output stream. -/
theorem stderr_of_file {s s' : System} (hopens : s.OpensFiles (input ++ output ++ error) s') {path : OsString}
    (htarget : plan.stderr = some (.file path)) : ∃ fd, stdio.stderr = some fd ∧ stdio.stdout ≠ some fd := by
  have herror := h.error
  rw [htarget] at herror
  obtain ⟨fd, n, hown, hfollows, rfl⟩ := herror
  refine ⟨fd, by rw [Stdio.stderr, hfollows, hown]; rfl, fun hstdout => ?_⟩
  -- What the output stream has was opened before the error stream's file, and so at a lower number.
  obtain ⟨file, hfile⟩ := h.output.mem hstdout
  exact Nat.lt_irrefl fd (hopens.lt (List.mem_append_right _ hfile) (List.mem_singleton_self _))

theorem stderr_of_same (htarget : plan.stderr = some .sameAsStdout) (houtput : plan.stdout.isSome) :
    ∃ fd, stdio.stdout = some fd ∧ stdio.stderr = some fd := by
  have herror := h.error
  rw [htarget] at herror
  obtain ⟨-, hfollows, -⟩ := herror
  rw [← h.output.isSome_eq] at houtput
  obtain ⟨fd, hfd⟩ := Option.isSome_iff_exists.mp houtput
  exact ⟨fd, hfd, by rw [Stdio.stderr, hfollows, houtput, if_pos rfl, hfd]⟩

theorem stderr_of_none (htarget : plan.stderr = none) : stdio.stderr = none := by
  have herror := h.error
  rw [htarget] at herror
  obtain ⟨hown, hfollows, -⟩ := herror
  rw [Stdio.stderr, hfollows, hown]
  rfl

end Provided

/-- Whatever a redirection is and in both modes, its plan makes sense and is opened as it is meant: the error
stream's own file comes before sharing a target, a console buffer leaves the input stream alone, and no plan
fails for its form. If the plan can be opened, the error stream has the output stream's descriptor exactly if both
shall go to one target; with a file of its own it has another one, and otherwise none. -/
theorem plan_opened_as_meant (redirection : Redirection) (mode : ConsoleMode) :
    let plan := redirection.plan mode
    plan.WellFormed ∧
      plan.stdout.isSome = redirection.hasOutput ∧
      (∀ path, redirection.errorFile? = some path → plan.stderr = some (.file path)) ∧
      (∀ sink, plan.stdout = some (.buffer sink) → plan.stdin = none) ∧
      ∀ {W : Type} (k : Kernel W) (w : W),
        (∀ reason, (Stdio.openPlan k plan w).1 ≠ .error (.configuration reason)) ∧
        ∀ view : W → System, Conforms k view →
          ∀ stdio w', Stdio.openPlan k plan w = (.ok stdio, w') →
            ((∃ fd, stdio.stdout = some fd ∧ stdio.stderr = some fd) ↔ redirection.Merges mode) ∧
            (redirection.errorFile?.isSome → ∃ fd, stdio.stderr = some fd ∧ stdio.stdout ≠ some fd) ∧
            (redirection.errorFile? = none → ¬redirection.Merges mode → stdio.stderr = none) := by
  intro plan
  have hplan : plan.WellFormed := redirection.plan_wellFormed mode
  refine ⟨hplan, redirection.isSome_plan_stdout mode, fun _ => redirection.plan_stderr_of_file mode,
    fun _ => redirection.plan_stdin_of_buffer mode, fun k w => ⟨openPlan_ne_configuration hplan, ?_⟩⟩
  intro view os stdio w' hopened
  obtain ⟨input, output, error, hprovided, hopens⟩ := openPlan_opens os hopened
  -- Each target of the error stream is opened in one way, which settles all three parts.
  obtain ⟨path, hfile, htarget⟩ | ⟨hmerges, htarget⟩ | ⟨hfile, hnot, htarget⟩ :=
    redirection.plan_stderr_cases mode
  · have hown := hprovided.stderr_of_file hopens htarget
    refine ⟨⟨?_, fun hmerges => ?_⟩, fun _ => hown, fun hnone => ?_⟩
    · rintro ⟨fd, hstdout, hstderr⟩
      obtain ⟨fd', hstderr', hne⟩ := hown
      cases hstderr.symm.trans hstderr'
      exact absurd hstdout hne
    · cases hfile.symm.trans hmerges.2.2
    · cases hfile.symm.trans hnone
  · have hshared := hprovided.stderr_of_same htarget (hplan.followed htarget)
    refine ⟨⟨fun _ => hmerges, fun _ => hshared⟩, fun hsome => ?_, fun _ hnot => absurd hmerges hnot⟩
    rw [hmerges.2.2] at hsome
    cases hsome
  · have hnone := hprovided.stderr_of_none htarget
    refine ⟨⟨?_, fun hmerges => absurd hmerges hnot⟩, fun hsome => ?_, fun _ _ => hnone⟩
    · rintro ⟨fd, -, hstderr⟩
      cases hnone.symm.trans hstderr
    · rw [hfile] at hsome
      cases hsome

/-- Files for both output streams, although they shall be merged. -/
def bothFiles : Redirection :=
  .files { stdout := some (.ofString "out"), stderr := some (.ofString "err") }

/-- They are opened at 3 and 4. -/
theorem bothFiles_opened_apart :
    ∃ stdio w', Stdio.openPlan Bench.kernel (bothFiles.plan .merged) (.client [] []) = (.ok stdio, w') ∧
      ∃ fd, stdio.stderr = some fd ∧ stdio.stdout ≠ some fd := by
  have hnumbers : (Stdio.openPlan Bench.kernel (bothFiles.plan .merged) (.client [] [])).1.toOption =
      some { stdout := some 3, ownStderr := some 4 } := by
    decide +kernel
  rcases hopened : Stdio.openPlan Bench.kernel (bothFiles.plan .merged) (.client [] []) with ⟨_ | stdio, w'⟩ <;>
    rw [hopened] at hnumbers
  · cases hnumbers
  · obtain ⟨-, -, -, -, hbackend⟩ := plan_opened_as_meant bothFiles .merged
    have hstreams := (hbackend Bench.kernel (.client [] [])).2 Bench.system Bench.conforms stdio w' hopened
    exact ⟨stdio, w', rfl, hstreams.2.1 rfl⟩

end Posix

end Offspring
