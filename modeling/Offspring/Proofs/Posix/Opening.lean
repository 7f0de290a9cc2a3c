import Offspring.Posix.Launch
import Offspring.Proofs.Posix.System

/-!
# What the parent opens for a child

`Stdio.openPlan` opens the targets of the streams one after the other, each at the lowest free number.
`Provided` says which files these are for a plan, and at which descriptors they are held.
-/

namespace Offspring.Posix

variable {W : Type}

/-- Files are opened in the parent, in order; nothing else changes, and no process had them open before. -/
structure System.OpensFiles (s : System) (opened : List (Fd × OpenFile)) (s' : System) : Prop where
  parent : (s.table .self).Opens opened (s'.table .self)
  children : ∀ pid, s'.table (.child pid) = s.table (.child pid)
  life : s'.life = s.life
  unused : ∀ entry ∈ opened, s.Unused entry.2.serial

namespace System

variable {s s' s'' : System} {opened more : List (Fd × OpenFile)}

theorem OpensFiles.nil : s.OpensFiles [] s :=
  ⟨rfl, fun _ => rfl, rfl, nofun⟩

/-- What is open stays open while files are opened. -/
theorem OpensFiles.kept (h : s.OpensFiles opened s') {p : Process} {fd : Fd} {slot : Slot}
    (hslot : s.table p fd = some slot) : s'.table p fd = some slot := by
  cases p with
  | self => exact h.parent.kept hslot
  | child pid => rwa [h.children pid]

/-- A serial number that is free after files were opened was free before. -/
theorem OpensFiles.unused_of_unused (h : s.OpensFiles opened s') {serial : Nat} (hunused : s'.Unused serial) :
    s.Unused serial :=
  fun p fd slot hslot => hunused p fd slot (h.kept hslot)

theorem OpensFiles.append (h : s.OpensFiles opened s') (hmore : s'.OpensFiles more s'') :
    s.OpensFiles (opened ++ more) s'' where
  parent := h.parent.append hmore.parent
  children pid := (hmore.children pid).trans (h.children pid)
  life := hmore.life.trans h.life
  unused entry hentry := by
    rcases List.mem_append.mp hentry with hfirst | hlater
    · exact h.unused entry hfirst
    · exact h.unused_of_unused (hmore.unused entry hlater)

/-- What is opened first is below what is opened behind it. -/
theorem OpensFiles.lt (h : s.OpensFiles (opened ++ more) s') {x y : Fd × OpenFile} (hx : x ∈ opened)
    (hy : y ∈ more) : x.1 < y.1 := by
  have hsorted := h.parent.sorted
  rw [List.map_append, List.pairwise_append] at hsorted
  exact hsorted.2.2 _ (List.mem_map_of_mem hx) _ (List.mem_map_of_mem hy)

/-- A new file is opened. -/
theorem OpenedFile.opens {file : Nat → OpenFile} (hfile : ∀ n, (file n).serial = n) {fd : Fd}
    (h : s.OpenedFile file fd s') : ∃ n, s.OpensFiles [(fd, file n)] s' := by
  obtain ⟨n, hunused, hlowest, rfl⟩ := h
  refine ⟨n, ⟨hlowest, rfl⟩, fun pid => ?_, rfl, ?_⟩
  · exact table_child_withTable_self s _ pid
  · simpa [hfile n] using hunused

/-- Both ends of a new pipe are opened, the end to read first. -/
theorem MadePipe.opens {ends : Fd × Fd} (h : s.MadePipe ends s') :
    ∃ n, s.OpensFiles [(ends.1, .pipeReader n), (ends.2, .pipeWriter n)] s' ∧ s'.held n = .empty := by
  obtain ⟨n, t, hunused, hopens, rfl⟩ := h
  refine ⟨n, ⟨?_, fun pid => ?_, rfl, ?_⟩, ?_⟩
  · simpa using hopens
  · exact table_child_withTable_self s t pid
  · simpa [OpenFile.serial] using hunused
  · exact held_withHeld_same _ _ _

end System

/-! ### A plan's files -/

/-- The descriptor of an input stream, and what was opened for it. -/
def InputFrom (path : Option OsString) (stdin : Option Fd) (opened : List (Fd × OpenFile)) : Prop :=
  match path with
  | none => stdin = none ∧ opened = []
  | some path => ∃ fd n, stdin = some fd ∧ opened = [(fd, .reading path n)]

/-- The descriptor of an output stream, and what was opened for it; the parent keeps a pipe's end to read. -/
def OutputTo (target : Option StreamTarget) (stdout : Option Fd) (capture : Option Capture)
    (opened : List (Fd × OpenFile)) : Prop :=
  match target with
  | none => stdout = none ∧ capture = none ∧ opened = []
  | some (.file path) => ∃ fd n, stdout = some fd ∧ capture = none ∧ opened = [(fd, .writing path n)]
  | some (.buffer sink) => ∃ reader fd n, stdout = some fd ∧ capture = some ⟨reader, sink⟩ ∧
    opened = [(reader, .pipeReader n), (fd, .pipeWriter n)]
  | some .sameAsStdout => False

/-- The error stream's own descriptor, or whether it follows an output stream, and what was opened for it. -/
def ErrorTo (target : Option StreamTarget) (stdout own : Option Fd) (follows : Bool)
    (opened : List (Fd × OpenFile)) : Prop :=
  match target with
  | none => own = none ∧ follows = false ∧ opened = []
  | some (.file path) => ∃ fd n, own = some fd ∧ follows = false ∧ opened = [(fd, .writing path n)]
  | some _ => own = none ∧ follows = stdout.isSome ∧ opened = []

/-- A plan's files, stream by stream, and the descriptors at which the parent holds them. -/
structure Provided (plan : StreamPlan) (stdio : Stdio) (input output error : List (Fd × OpenFile)) : Prop where
  input : InputFrom plan.stdin stdio.stdin input
  output : OutputTo plan.stdout stdio.stdout stdio.capture output
  error : ErrorTo plan.stderr stdio.stdout stdio.ownStderr stdio.stderrFollows error

section Files

variable {opened : List (Fd × OpenFile)} {stdin stdout own : Option Fd} {fd : Fd}

theorem InputFrom.mem {path : Option OsString} (h : InputFrom path stdin opened) (hfd : stdin = some fd) :
    ∃ file, (fd, file) ∈ opened := by
  rcases path with _ | path
  · cases h.1.symm.trans hfd
  · obtain ⟨fd', n, hstdin, rfl⟩ := h
    cases hstdin.symm.trans hfd
    exact ⟨_, List.mem_singleton_self _⟩

theorem OutputTo.mem {target : Option StreamTarget} {capture : Option Capture}
    (h : OutputTo target stdout capture opened) (hfd : stdout = some fd) : ∃ file, (fd, file) ∈ opened := by
  rcases target with _ | (path | sink | _)
  · cases h.1.symm.trans hfd
  · obtain ⟨fd', n, hstdout, -, rfl⟩ := h
    cases hstdout.symm.trans hfd
    exact ⟨_, List.mem_singleton_self _⟩
  · obtain ⟨reader, fd', n, hstdout, -, rfl⟩ := h
    cases hstdout.symm.trans hfd
    exact ⟨_, List.mem_cons_of_mem _ (List.mem_singleton_self _)⟩
  · cases h

/-- An output stream has a descriptor if it has a target. -/
theorem OutputTo.isSome_eq {target : Option StreamTarget} {capture : Option Capture}
    (h : OutputTo target stdout capture opened) : stdout.isSome = target.isSome := by
  rcases target with _ | (path | sink | _)
  · rw [h.1]
    rfl
  · obtain ⟨fd, n, hstdout, -⟩ := h
    rw [hstdout]
    rfl
  · obtain ⟨reader, fd, n, hstdout, -⟩ := h
    rw [hstdout]
    rfl
  · cases h

theorem ErrorTo.mem {target : Option StreamTarget} {follows : Bool} (h : ErrorTo target stdout own follows opened)
    (hfd : own = some fd) : ∃ file, (fd, file) ∈ opened := by
  rcases target with _ | (path | sink | _)
  · cases h.1.symm.trans hfd
  · obtain ⟨fd', n, hown, -, rfl⟩ := h
    cases hown.symm.trans hfd
    exact ⟨_, List.mem_singleton_self _⟩
  · cases h.1.symm.trans hfd
  · cases h.1.symm.trans hfd

/-- Every descriptor for a child was opened for its plan. -/
theorem Provided.mem_of_childFd {plan : StreamPlan} {stdio : Stdio} {input output error : List (Fd × OpenFile)}
    (h : Provided plan stdio input output error) (hfd : fd ∈ stdio.childFds) :
    ∃ file, (fd, file) ∈ input ++ output ++ error := by
  simp only [Stdio.childFds, List.mem_append, Option.mem_toList] at hfd
  rcases hfd with (hstdin | hstdout) | hown
  · obtain ⟨file, hfile⟩ := h.input.mem hstdin
    exact ⟨file, List.mem_append_left _ (List.mem_append_left _ hfile)⟩
  · obtain ⟨file, hfile⟩ := h.output.mem hstdout
    exact ⟨file, List.mem_append_left _ (List.mem_append_right _ hfile)⟩
  · obtain ⟨file, hfile⟩ := h.error.mem hown
    exact ⟨file, List.mem_append_right _ hfile⟩

/-- The streams' descriptors are among those that only the child needs. -/
theorem Stdio.mem_childFds_of_target {stdio : Stdio} (h : some fd ∈ stdio.targets) : fd ∈ stdio.childFds := by
  simp only [targets, stderr, List.mem_cons, List.not_mem_nil, or_false] at h
  simp only [childFds, List.mem_append, Option.mem_toList]
  rcases h with hstdin | hstdout | hstderr
  · exact .inl (.inl hstdin.symm)
  · exact .inl (.inr hstdout.symm)
  · cases hfollows : stdio.stderrFollows <;> rw [hfollows] at hstderr
    · exact .inr hstderr.symm
    · exact .inl (.inr hstderr.symm)

end Files

section Opening

variable {k : Kernel W} {view : W → System} {w w' : W}

/-- A file that could be opened for a stream has been opened. -/
theorem openFile_opens {call : OsString → W → Except Errno Fd × W} {file : OsString → Nat → OpenFile}
    (hcall : ∀ path w, Answers k view (System.OpenedFile (file path)) w (call path w))
    (hfile : ∀ path n, (file path n).serial = n) {path : OsString} {fd : Fd}
    (h : Stdio.openFile call path w = (.ok fd, w')) : ∃ n, (view w).OpensFiles [(fd, file path n)] (view w') := by
  rw [Stdio.openFile] at h
  split at h
  · cases h
  · have hanswer := hcall path w
    rcases hopened : call path w with ⟨_ | fd', w₁⟩ <;> rw [hopened] at h hanswer <;> cases h
    exact hanswer.1.opens (hfile path)

variable (os : Conforms k view)
include os

theorem openInput_opens {path : Option OsString} {stdio : Stdio}
    (h : Stdio.openInput k path w = (.ok stdio, w')) :
    ∃ input, InputFrom path stdio.stdin input ∧ stdio = { stdin := stdio.stdin } ∧
      (view w).OpensFiles input (view w') := by
  cases path with
  | none =>
    cases h
    exact ⟨[], ⟨rfl, rfl⟩, rfl, .nil⟩
  | some path =>
    rw [Stdio.openInput] at h
    rcases hfile : Stdio.openFile k.openRead path w with ⟨_ | fd, w₁⟩ <;> rw [hfile] at h <;> cases h
    obtain ⟨n, hopens⟩ := openFile_opens os.openRead (fun _ _ => rfl) hfile
    exact ⟨_, ⟨fd, n, rfl, rfl⟩, rfl, hopens⟩

theorem openOutput_opens {target : Option StreamTarget} {s stdio : Stdio} (hs : s = { stdin := s.stdin })
    (h : Stdio.openOutput k target s w = (.ok stdio, w')) :
    ∃ output, OutputTo target stdio.stdout stdio.capture output ∧
      stdio = { stdin := s.stdin, stdout := stdio.stdout, capture := stdio.capture } ∧
      (view w).OpensFiles output (view w') := by
  rw [hs] at h
  rcases target with _ | (path | sink | _)
  · cases h
    exact ⟨[], ⟨rfl, rfl, rfl⟩, rfl, .nil⟩
  · rw [Stdio.openOutput] at h
    rcases hfile : Stdio.openFile k.create path w with ⟨_ | fd, w₁⟩ <;> rw [hfile] at h <;> cases h
    obtain ⟨n, hopens⟩ := openFile_opens os.create (fun _ _ => rfl) hfile
    exact ⟨_, ⟨fd, n, rfl, rfl, rfl⟩, rfl, hopens⟩
  · have hanswer := os.makePipe w
    rw [Stdio.openOutput] at h
    rcases hpipe : k.makePipe w with ⟨_ | ⟨reader, writer⟩, w₁⟩ <;> rw [hpipe] at h hanswer <;> cases h
    obtain ⟨n, hopens, -⟩ := hanswer.1.opens
    exact ⟨_, ⟨reader, writer, n, rfl, rfl, rfl⟩, rfl, hopens⟩
  · cases h

theorem openError_opens {target : Option StreamTarget} {s stdio : Stdio}
    (hs : s = { stdin := s.stdin, stdout := s.stdout, capture := s.capture })
    (h : Stdio.openError k target s w = (.ok stdio, w')) :
    ∃ error, ErrorTo target s.stdout stdio.ownStderr stdio.stderrFollows error ∧
      stdio = { s with ownStderr := stdio.ownStderr, stderrFollows := stdio.stderrFollows } ∧
      (view w).OpensFiles error (view w') := by
  rw [hs] at h
  rcases target with _ | (path | sink | _)
  · cases h
    exact ⟨[], ⟨rfl, rfl, rfl⟩, rfl, .nil⟩
  · rw [Stdio.openError] at h
    rcases hfile : Stdio.openFile k.create path w with ⟨_ | fd, w₁⟩ <;> rw [hfile] at h <;> cases h
    obtain ⟨n, hopens⟩ := openFile_opens os.create (fun _ _ => rfl) hfile
    exact ⟨_, ⟨fd, n, rfl, rfl, rfl⟩, rfl, hopens⟩
  · cases h
    exact ⟨[], ⟨rfl, rfl, rfl⟩, rfl, .nil⟩
  · cases h
    exact ⟨[], ⟨rfl, rfl, rfl⟩, rfl, .nil⟩

omit os in
/-- Something was opened behind what was opened before. -/
theorem andThen_ok {opened : Except LaunchError Stdio × W} {next : Stdio → W → Except LaunchError Stdio × W}
    {stdio : Stdio} (h : Stdio.andThen k opened next = (.ok stdio, w')) :
    ∃ s w₁, opened = (.ok s, w₁) ∧ next s w₁ = (.ok stdio, w') := by
  rcases opened with ⟨_ | s, w₁⟩
  · cases h
  · rw [Stdio.andThen] at h
    refine ⟨s, w₁, rfl, ?_⟩
    rcases hnext : next s w₁ with ⟨_ | _, w₂⟩ <;> rw [hnext] at h <;> cases h
    rfl

/-- A plan that could be opened has its files, opened in the order input, output, error. -/
theorem openPlan_opens {plan : StreamPlan} {stdio : Stdio} (h : Stdio.openPlan k plan w = (.ok stdio, w')) :
    ∃ input output error, Provided plan stdio input output error ∧
      (view w).OpensFiles (input ++ output ++ error) (view w') := by
  obtain ⟨s₂, w₂, hrest, herror⟩ := andThen_ok h
  obtain ⟨s₁, w₁, hinput, houtput⟩ := andThen_ok hrest
  obtain ⟨input, hfrom, hs₁, hopens₁⟩ := openInput_opens os hinput
  obtain ⟨output, hto, hs₂, hopens₂⟩ := openOutput_opens os hs₁ houtput
  obtain ⟨error, herr, hstdio, hopens₃⟩ := openError_opens os (hs₂.trans (by rw [hs₂])) herror
  refine ⟨input, output, error, ?_, (hopens₁.append hopens₂).append hopens₃⟩
  rw [hs₂] at hstdio herr
  rw [hstdio]
  exact ⟨hfrom, hto, herr⟩

end Opening

end Offspring.Posix
