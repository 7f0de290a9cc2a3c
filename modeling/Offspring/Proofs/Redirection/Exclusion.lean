import Offspring.Proofs.Spawner.Settings

/-!
# Calls that configure a redirection

A redirection is configured in place, by calls for files and for a console buffer in any order. `assignFiles` and
`assignBuffer` make such calls one statement after the other: what they refuse they refuse before they assign, and
so they come to what `setFiles` and `setBuffer` answer. What a call does depends on the kind of the redirection
alone (`RouteCall.perform_eq`), and the first call of a kind decides on it for good (`kind?_after`). A redirection
to files that has none is of no kind, and nothing tells it from one that leaves all streams alone.
-/

namespace Offspring

/-- A call that changes a redirection in place; what it has changed stays so if it fails behind that. -/
abbrev Configuring := ExceptT LaunchError (StateM Redirection)

namespace Redirection

/-- Whether output is gathered in a console buffer. -/
def isBuffer : Redirection → Bool
  | .buffer _ => true
  | .inherit | .files _ => false

/-- Whether some stream has a file. -/
def hasFile : Redirection → Bool
  | .files chosen => !chosen.isEmpty
  | .inherit | .buffer _ => false

/-- Becomes another redirection unless what it is refuses that. -/
def assignUnless (refuses : Redirection → Bool) (cause : LaunchError) (target : Redirection) :
    Configuring Unit := do
  if refuses (← get) then throw cause
  set target

/-- Routes streams to files. -/
def assignFiles (wanted : StreamFiles) : Configuring Unit := do
  if wanted.isEmpty then return
  assignUnless isBuffer .bufferConfigured (.files wanted)

/-- Gathers output in a console buffer. -/
def assignBuffer (sink : Sink) : Configuring Unit :=
  assignUnless hasFile .filesConfigured (.buffer sink)

/-- What a redirection is behind a call that was to make it another. -/
def settle (r : Redirection) : Except LaunchError Redirection → Except LaunchError Unit × Redirection
  | .ok r' => (.ok (), r')
  | .error cause => (.error cause, r)

/-- The value is looked at before it is assigned to. -/
theorem assignUnless_run (refuses : Redirection → Bool) (cause : LaunchError) (target r : Redirection) :
    (assignUnless refuses cause target).run.run r =
      r.settle (if refuses r then .error cause else .ok target) := by
  change ((if refuses r then throw cause >>= fun _ => set target else set target : Configuring Unit).run.run r) = _
  cases refuses r <;> rfl

theorem setFiles_of_isBuffer (r : Redirection) (wanted : StreamFiles) :
    r.setFiles wanted =
      if wanted.isEmpty then .ok r else if r.isBuffer then .error .bufferConfigured else .ok (.files wanted) := by
  cases r <;> rfl

theorem setBuffer_of_hasFile (r : Redirection) (sink : Sink) :
    r.setBuffer sink = if r.hasFile then .error .filesConfigured else .ok (.buffer sink) := by
  cases r with
  | files chosen => cases hchosen : chosen.isEmpty <;> simp [setBuffer, hasFile, hchosen]
  | inherit | buffer => rfl

theorem assignFiles_run (wanted : StreamFiles) (r : Redirection) :
    (assignFiles wanted).run.run r = r.settle (r.setFiles wanted) := by
  rw [setFiles_of_isBuffer, assignFiles]
  cases wanted.isEmpty with
  | true => rfl
  | false => exact assignUnless_run isBuffer .bufferConfigured (.files wanted) r

theorem assignBuffer_run (sink : Sink) (r : Redirection) :
    (assignBuffer sink).run.run r = r.settle (r.setBuffer sink) := by
  rw [setBuffer_of_hasFile, assignBuffer, assignUnless_run]

end Redirection

/-- A call that configures a redirection. -/
inductive RouteCall where
  | files (wanted : StreamFiles)
  | buffer (sink : Sink)
  deriving DecidableEq

namespace RouteCall

/-- Makes a call. -/
def perform : RouteCall → Configuring Unit
  | .files wanted => Redirection.assignFiles wanted
  | .buffer sink => Redirection.assignBuffer sink

/-- The redirection that a call asks for. -/
def target : RouteCall → Redirection
  | .files wanted => .files wanted
  | .buffer sink => .buffer sink

/-- The kind of redirection that a call asks for. -/
def kind? (call : RouteCall) : Option RouteKind :=
  call.target.kind?

@[simp] theorem kind?_buffer (sink : Sink) : (buffer sink).kind? = some .buffer := rfl

theorem kind?_files {wanted : StreamFiles} (hwanted : wanted.isEmpty = false) :
    (files wanted).kind? = some .files := by
  simp [kind?, target, Redirection.kind?, hwanted]

/-- A call that asks for nothing does nothing. Any other one is taken by a redirection of its kind or of none, and
is a conflict with one of the other kind. -/
theorem perform_eq (call : RouteCall) (r : Redirection) :
    call.perform.run.run r =
      match call.kind? with
      | none => (.ok (), r)
      | some kind => if r.kind?.getD kind = kind then (.ok (), call.target) else (.error kind.conflict, r) := by
  cases call with
  | files wanted =>
    rw [perform, Redirection.assignFiles_run]
    cases hwanted : wanted.isEmpty with
    | true => simp [kind?, target, Redirection.kind?, Redirection.setFiles, Redirection.settle, hwanted]
    | false =>
      rw [kind?_files hwanted, Redirection.setFiles_eq r wanted hwanted]
      rcases r.kind? with _ | (_ | _) <;> rfl
  | buffer sink =>
    rw [perform, Redirection.assignBuffer_run, kind?_buffer, Redirection.setBuffer_eq]
    rcases r.kind? with _ | (_ | _) <;> rfl

end RouteCall

namespace Redirection

/-- What a redirection answers to a call. -/
def answer (r : Redirection) (call : RouteCall) : Except LaunchError Unit :=
  (call.perform.run.run r).1

/-- What a redirection has become behind calls. -/
def after (r : Redirection) (calls : List RouteCall) : Redirection :=
  calls.foldl (fun r call => (call.perform.run.run r).2) r

theorem after_append_cons (r : Redirection) (before later : List RouteCall) (call : RouteCall) :
    r.after (before ++ call :: later) = (call.perform.run.run (r.after before)).2.after later :=
  List.foldl_append

/-- A call that fails has changed nothing. -/
theorem after_of_error (r : Redirection) (calls : List RouteCall) (call : RouteCall) {cause : LaunchError}
    (h : (r.after calls).answer call = .error cause) : r.after (calls ++ [call]) = r.after calls := by
  rw [answer, call.perform_eq] at h
  rw [after_append_cons, call.perform_eq]
  cases hkind : call.kind? with
  | none => rfl
  | some kind =>
    simp only [hkind] at h ⊢
    split at h
    · cases h
    · rename_i hother
      rw [if_neg hother]
      rfl

/-! ### The kind of a redirection -/

/-- A call gives its kind to a redirection that has none. -/
theorem kind?_perform (call : RouteCall) (r : Redirection) :
    ((call.perform.run.run r).2).kind? = r.kind?.or call.kind? := by
  rw [call.perform_eq]
  cases hkind : call.kind? with
  | none => rw [Option.or_none]
  | some kind =>
    have htarget : call.target.kind? = some kind := hkind
    cases hr : r.kind? with
    | none => simp [htarget]
    | some current =>
      simp only [Option.getD_some, Option.some_or]
      split
      · rename_i hsame
        exact htarget.trans (congrArg some hsame.symm)
      · exact hr

/-- The first call of a kind decides, unless the redirection had a kind before. -/
theorem kind?_after (r : Redirection) (calls : List RouteCall) :
    (r.after calls).kind? = r.kind?.or (calls.findSome? RouteCall.kind?) := by
  induction calls generalizing r with
  | nil => exact Option.or_none.symm
  | cons call calls ih =>
    have hrest := ih (call.perform.run.run r).2
    rw [kind?_perform, Option.or_assoc] at hrest
    rw [List.findSome?_cons]
    cases hkind : call.kind? <;> rw [hkind] at hrest <;> exact hrest

/-- A call whose kind is not that of the redirection in the end is refused at its place. -/
theorem answer_of_kind_ne (r : Redirection) (before later : List RouteCall) (call : RouteCall) {kind : RouteKind}
    (hkind : call.kind? = some kind) (hother : (r.after (before ++ call :: later)).kind? ≠ some kind) :
    (r.after before).answer call = .error kind.conflict := by
  -- Behind the call there is a kind, which no later call changes.
  have hlast : (r.after (before ++ call :: later)).kind? = some ((r.after before).kind?.getD kind) := by
    rw [after_append_cons, kind?_after, kind?_perform, hkind]
    cases (r.after before).kind? <;> rfl
  rw [answer, call.perform_eq, hkind]
  simp only
  rw [if_neg fun hsame => hother (hlast.trans (congrArg some hsame))]

/-- Of a call for a file and a call for a buffer one is refused, whichever comes first. -/
theorem exists_refused (r : Redirection) (calls : List RouteCall) {wanted : StreamFiles} {sink : Sink}
    (hwanted : wanted.isEmpty = false) (hfiles : .files wanted ∈ calls) (hbuffer : .buffer sink ∈ calls) :
    ∃ before call later kind, calls = before ++ call :: later ∧ call.kind? = some kind ∧
      (r.after before).answer call = .error kind.conflict := by
  -- The redirection cannot be of both kinds in the end.
  by_cases hlast : (r.after calls).kind? = some .files
  · obtain ⟨before, later, rfl⟩ := List.append_of_mem hbuffer
    refine ⟨before, _, later, .buffer, rfl, rfl, r.answer_of_kind_ne before later _ rfl ?_⟩
    simp [hlast]
  · obtain ⟨before, later, rfl⟩ := List.append_of_mem hfiles
    have hkind := RouteCall.kind?_files hwanted
    exact ⟨before, _, later, .files, rfl, hkind, r.answer_of_kind_ne before later _ hkind hlast⟩

/-! ### Redirections that nothing tells apart -/

/-- Two redirections are alike if they are one, or if neither sends any stream elsewhere. -/
def Alike (r r' : Redirection) : Prop :=
  r = r' ∨ r.kind? = none ∧ r'.kind? = none

/-- Streams that are sent nowhere are the parent's. -/
theorem plan_of_kind_none {r : Redirection} (hkind : r.kind? = none) (mode : ConsoleMode) : r.plan mode = {} := by
  cases r with
  | inherit => rfl
  | files chosen =>
    have hempty : chosen.isEmpty = true := by simpa [kind?] using hkind
    simp only [StreamFiles.isEmpty, Bool.and_eq_true, Option.isNone_iff_eq_none] at hempty
    obtain ⟨⟨hstdin, hstdout⟩, hstderr⟩ := hempty
    simp [plan, hstdin, hstdout, hstderr]
  | buffer => cases hkind

namespace Alike

variable {r r' : Redirection} (h : r.Alike r')
include h

theorem plan_eq (mode : ConsoleMode) : r.plan mode = r'.plan mode := by
  obtain rfl | ⟨hr, hr'⟩ := h
  · rfl
  · rw [plan_of_kind_none hr, plan_of_kind_none hr']

theorem answer_eq (call : RouteCall) : r.answer call = r'.answer call := by
  obtain rfl | ⟨hr, hr'⟩ := h
  · rfl
  · rw [answer, answer, call.perform_eq, call.perform_eq, hr, hr']
    cases call.kind? <;> simp

theorem perform (call : RouteCall) : (call.perform.run.run r).2.Alike (call.perform.run.run r').2 := by
  obtain rfl | ⟨hr, hr'⟩ := h
  · exact .inl rfl
  · rw [call.perform_eq, call.perform_eq, hr, hr']
    cases call.kind? with
    | none => exact .inr ⟨hr, hr'⟩
    | some kind => exact .inl (by simp)

theorem after (calls : List RouteCall) : (r.after calls).Alike (r'.after calls) := by
  induction calls generalizing r r' with
  | nil => exact h
  | cons call calls ih => exact ih (h.perform call)

end Alike

/-- Behind any calls, a call that fails leaves the redirection as it was; among calls for a file and for a console
buffer one is a conflict; and files without any file are like no redirection at all. -/
theorem calls_exclusive (r : Redirection) (calls : List RouteCall) :
    (∀ call cause, (r.after calls).answer call = .error cause → r.after (calls ++ [call]) = r.after calls) ∧
      (∀ wanted sink, wanted.isEmpty = false → .files wanted ∈ calls → .buffer sink ∈ calls →
        ∃ before call later kind, calls = before ++ call :: later ∧ call.kind? = some kind ∧
          (r.after before).answer call = .error kind.conflict) ∧
      ∀ chosen : StreamFiles, chosen.isEmpty →
        (∀ call, ((files chosen).after calls).answer call = (inherit.after calls).answer call) ∧
        ∀ mode, ((files chosen).after calls).plan mode = (inherit.after calls).plan mode := by
  refine ⟨fun call cause => r.after_of_error calls call, fun wanted sink => r.exists_refused calls, ?_⟩
  intro chosen hchosen
  have hstart : (files chosen).Alike inherit := .inr ⟨by simp [kind?, hchosen], rfl⟩
  have halike := hstart.after calls
  exact ⟨halike.answer_eq, halike.plan_eq⟩

/-- A file, then nothing, then a console buffer. -/
def lateBuffer : List RouteCall :=
  [.files { stdout := some (.ofString "out") }, .files {}, .buffer ⟨0⟩]

/-- The buffer is refused, and the redirection stays one to a file. -/
theorem calls_exclusive_late_buffer :
    (∃ before call later kind, lateBuffer = before ++ call :: later ∧ call.kind? = some kind ∧
        (inherit.after before).answer call = .error kind.conflict) ∧
      inherit.after lateBuffer = .files { stdout := some (.ofString "out") } := by
  obtain ⟨-, hrefused, -⟩ := calls_exclusive .inherit lateBuffer
  have hkept := (calls_exclusive .inherit (lateBuffer.take 2)).1 (.buffer ⟨0⟩) .filesConfigured rfl
  exact ⟨hrefused { stdout := some (.ofString "out") } ⟨0⟩ rfl (by decide) (by decide), hkept⟩

end Redirection

end Offspring
