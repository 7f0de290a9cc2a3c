import Offspring.Proofs.Posix.Retry

/-!
# What the calls of a launch do

The calls of the operating system are a parameter of the backend, a `Kernel`. `Conforms` says what they do
as their manual pages have it, on as much of the operating system as a launch is about, a `System`: the
descriptors of the client and of the children that it has forked, up to the programs that these turn into,
what pipes hold, and which children there are.

Where a call can fail the answer is open: every outcome is allowed that the manual allows. A call that fails
leaves the system as it was.
-/

namespace Offspring.Posix

/-! ### Descriptors -/

/-- An open file. Its serial number tells it from all others; the two ends of a pipe share theirs. -/
inductive OpenFile where
  | reading (path : OsString) (serial : Nat)
  | writing (path : OsString) (serial : Nat)
  | pipeReader (serial : Nat)
  | pipeWriter (serial : Nat)
  /-- What else a client can have been started with. -/
  | inherited (serial : Nat)
  deriving DecidableEq

/-- The serial number of an open file. -/
def OpenFile.serial : OpenFile → Nat
  | .reading _ n | .writing _ n | .pipeReader n | .pipeWriter n | .inherited n => n

/-- What a descriptor stands for. -/
structure Slot where
  file : OpenFile
  closeOnExec : Bool
  deriving DecidableEq

/-- The descriptors of a process. -/
abbrev Table := Fd → Option Slot

namespace Table

variable {t : Table} {fd n : Fd} {slot : Option Slot} {file : OpenFile}

/-- Gives a descriptor a meaning, or none, whatever it stood for. -/
def put (t : Table) (fd : Fd) (slot : Option Slot) : Table :=
  fun n => if n = fd then slot else t n

@[simp] theorem put_same : t.put fd slot fd = slot :=
  if_pos rfl

theorem put_other (h : n ≠ fd) : t.put fd slot n = t n :=
  if_neg h

/-- What a program is started with. -/
def onExec (t : Table) : Table :=
  fun fd => (t fd).filter (!·.closeOnExec)

/-- Makes numbers free. -/
def closing (t : Table) (fds : List Fd) : Table :=
  fun fd => if fd ∈ fds then none else t fd

/-- What is open was not closed. -/
theorem closing_eq_some {fds : List Fd} {held : Slot} :
    t.closing fds fd = some held ↔ fd ∉ fds ∧ t fd = some held := by
  by_cases h : fd ∈ fds <;> simp [closing, h]

@[simp] theorem closing_nil : t.closing [] = t :=
  funext fun _ => if_neg List.not_mem_nil

theorem closing_put_none {fds : List Fd} : (t.put fd none).closing fds = t.closing (fd :: fds) := by
  funext n
  by_cases hn : n = fd <;> simp [closing, put, hn]

/-- The number that a new descriptor gets. -/
structure IsLowestFree (t : Table) (fd : Fd) : Prop where
  free : t fd = none
  least : ∀ n < fd, t n ≠ none

/-- There is one lowest free number. -/
theorem IsLowestFree.unique {m : Fd} (h : t.IsLowestFree fd) (hm : t.IsLowestFree m) : fd = m :=
  Nat.le_antisymm (Nat.le_of_not_lt fun hless => h.least m hless hm.free)
    (Nat.le_of_not_lt fun hless => hm.least fd hless h.free)

/-- Opens files one after the other, each at the lowest free number, all of them closed on exec. -/
def Opens : Table → List (Fd × OpenFile) → Table → Prop
  | t, [], t' => t' = t
  | t, (fd, file) :: opened, t' => t.IsLowestFree fd ∧ (t.put fd (some ⟨file, true⟩)).Opens opened t'

namespace Opens

variable {t t' t'' : Table} {opened more : List (Fd × OpenFile)}

theorem append (h : t.Opens opened t') (hmore : t'.Opens more t'') : t.Opens (opened ++ more) t'' := by
  induction opened generalizing t with
  | nil => exact h ▸ hmore
  | cons entry opened ih => exact ⟨h.1, ih h.2⟩

/-- A number that no file was opened at stands for what it stood for. -/
theorem other (h : t.Opens opened t') (hfd : ∀ entry ∈ opened, fd ≠ entry.1) : t' fd = t fd := by
  induction opened generalizing t with
  | nil => rw [h]
  | cons entry opened ih =>
    rw [List.forall_mem_cons] at hfd
    rw [ih h.2 hfd.2, put_other hfd.1]

/-- What was open stays open. -/
theorem kept (h : t.Opens opened t') {held : Slot} (hheld : t fd = some held) : t' fd = some held := by
  induction opened generalizing t with
  | nil => exact h ▸ hheld
  | cons entry opened ih =>
    refine ih h.2 ?_
    have hne : fd ≠ entry.1 := fun heq => by
      have hfree := h.1.free
      rw [← heq, hheld] at hfree
      cases hfree
    rw [put_other hne, hheld]

/-- Files are opened where nothing was. -/
theorem free (h : t.Opens opened t') {entry : Fd × OpenFile} (hentry : entry ∈ opened) : t entry.1 = none := by
  induction opened generalizing t with
  | nil => cases hentry
  | cons first opened ih =>
    rcases List.mem_cons.mp hentry with rfl | hentry
    · exact h.1.free
    · have hnone := ih h.2 hentry
      by_cases heq : entry.1 = first.1
      · exact heq ▸ h.1.free
      · rwa [put_other heq] at hnone

/-- Each file is found where it was opened. -/
theorem get (h : t.Opens opened t') {entry : Fd × OpenFile} (hentry : entry ∈ opened) :
    t' entry.1 = some ⟨entry.2, true⟩ := by
  induction opened generalizing t with
  | nil => cases hentry
  | cons first opened ih =>
    rcases List.mem_cons.mp hentry with rfl | hentry
    · exact h.2.kept put_same
    · exact ih h.2 hentry

/-- Later files get higher numbers. -/
theorem sorted (h : t.Opens opened t') : (opened.map (·.1)).Pairwise (· < ·) := by
  induction opened generalizing t with
  | nil => exact .nil
  | cons first opened ih =>
    refine List.pairwise_cons.mpr ⟨fun fd hfd => ?_, ih h.2⟩
    obtain ⟨entry, hentry, rfl⟩ := List.mem_map.mp hfd
    have hfree := h.2.free hentry
    have hne : entry.1 ≠ first.1 := fun heq => by
      rw [heq, put_same] at hfree
      cases hfree
    rw [put_other hne] at hfree
    have hnot : ¬entry.1 < first.1 := fun hless => h.1.least _ hless hfree
    exact Nat.lt_of_le_of_ne (Nat.le_of_not_lt hnot) hne.symm

/-- A program is started with nothing of what was opened. -/
theorem onExec_eq (h : t.Opens opened t') : t'.onExec = t.onExec := by
  induction opened generalizing t with
  | nil => rw [h]
  | cons first opened ih =>
    rw [ih h.2]
    funext fd
    by_cases heq : fd = first.1
    · simp [onExec, heq, h.1.free]
    · simp [onExec, put_other heq]

end Opens

end Table

/-! ### Processes and pipes -/

/-- A process with descriptors. -/
inductive Process where
  /-- The client itself. -/
  | self
  /-- A child that the client has forked. -/
  | child (pid : Pid)
  deriving DecidableEq

/-- What has become of a child. -/
inductive Life where
  /-- There is none, or it has been reaped. -/
  | absent
  | running
  /-- It has ended and is to be reaped. -/
  | ended
  deriving DecidableEq

/-- As much of an operating system as launches are about. -/
structure System where
  table : Process → Table
  /-- The octets in the pipe of a serial number. -/
  held : Nat → ByteArray
  life : Pid → Life

namespace System

/-- Replaces the descriptors of a process. -/
def withTable (s : System) (p : Process) (t : Table) : System :=
  { s with table := fun q => if q = p then t else s.table q }

/-- Replaces the octets in a pipe. -/
def withHeld (s : System) (serial : Nat) (octets : ByteArray) : System :=
  { s with held := fun n => if n = serial then octets else s.held n }

/-- Replaces what has become of a child. -/
def withLife (s : System) (pid : Pid) (life : Life) : System :=
  { s with life := fun q => if q = pid then life else s.life q }

section Projections

variable (s : System) (p q : Process) (t : Table) (serial : Nat) (octets : ByteArray) (pid : Pid) (life : Life)

@[simp] theorem table_withTable_same : (s.withTable p t).table p = t :=
  if_pos rfl

@[simp] theorem table_self_withTable_child : (s.withTable (.child pid) t).table .self = s.table .self := rfl

@[simp] theorem table_child_withTable_self : (s.withTable .self t).table (.child pid) = s.table (.child pid) := rfl

theorem table_child_withTable_other {other : Pid} (h : other ≠ pid) :
    (s.withTable (.child pid) t).table (.child other) = s.table (.child other) :=
  if_neg fun heq => h (Process.child.inj heq)

theorem withTable_same : s.withTable p (s.table p) = s := by
  simp only [withTable]
  congr 1
  funext q
  by_cases h : q = p <;> simp [h]

@[simp] theorem withTable_withTable (t' : Table) : (s.withTable p t).withTable p t' = s.withTable p t' := by
  simp only [withTable]
  congr 1
  funext q
  by_cases h : q = p <;> simp [h]

@[simp] theorem held_withTable : (s.withTable p t).held = s.held := rfl

@[simp] theorem life_withTable : (s.withTable p t).life = s.life := rfl

@[simp] theorem table_withHeld : (s.withHeld serial octets).table = s.table := rfl

@[simp] theorem held_withHeld_same : (s.withHeld serial octets).held serial = octets :=
  if_pos rfl

@[simp] theorem table_withLife : (s.withLife pid life).table = s.table := rfl

@[simp] theorem held_withLife : (s.withLife pid life).held = s.held := rfl

@[simp] theorem life_withLife_same : (s.withLife pid life).life pid = life :=
  if_pos rfl

theorem life_withLife_other {other : Pid} (h : other ≠ pid) : (s.withLife pid life).life other = s.life other :=
  if_neg h

end Projections

/-- No process has a descriptor for an open file of a serial number. -/
def Unused (s : System) (serial : Nat) : Prop :=
  ∀ p fd slot, s.table p fd = some slot → slot.file.serial ≠ serial

/-- A process can write to a pipe. -/
def HasWriter (s : System) (serial : Nat) : Prop :=
  ∃ p fd slot, s.table p fd = some slot ∧ slot.file = .pipeWriter serial

/-- A process can read from a pipe. -/
def HasReader (s : System) (serial : Nat) : Prop :=
  ∃ p fd slot, s.table p fd = some slot ∧ slot.file = .pipeReader serial

/-- A read from a pipe does not have to wait: there are octets, or nobody is left to write some. -/
def CanRead (s : System) (serial : Nat) : Prop :=
  0 < (s.held serial).size ∨ ¬s.HasWriter serial

/-! ### What calls do -/

/-- A new open file gets a descriptor of the client. -/
def OpenedFile (file : Nat → OpenFile) (s : System) (fd : Fd) (s' : System) : Prop :=
  ∃ n, s.Unused n ∧ (s.table .self).IsLowestFree fd ∧
    s' = s.withTable .self ((s.table .self).put fd (some ⟨file n, true⟩))

/-- A new pipe, which is empty, gets descriptors of the client for both ends, the one to read first. -/
def MadePipe (s : System) (ends : Fd × Fd) (s' : System) : Prop :=
  ∃ n t, s.Unused n ∧ (s.table .self).Opens [(ends.1, .pipeReader n), (ends.2, .pipeWriter n)] t ∧
    s' = (s.withTable .self t).withHeld n .empty

/-- A new child runs, and shares all descriptors. -/
def Forked (s : System) (pid : Pid) (s' : System) : Prop :=
  s.life pid = .absent ∧ s' = (s.withTable (.child pid) (s.table .self)).withLife pid .running

/-- The descriptors of a child change. -/
def Changes (child : Pid) (change : Table → Table) (s : System) (_ : Unit) (s' : System) : Prop :=
  s' = s.withTable (.child child) (change (s.table (.child child)))

/-- A descriptor of a child, which has to stand for something, gives its open file to a number that stays
open on exec. -/
def Redirected (child : Pid) (fd target : Fd) (s : System) (_ : Unit) (s' : System) : Prop :=
  ∃ slot, s.table (.child child) fd = some slot ∧
    s' = s.withTable (.child child) ((s.table (.child child)).put target (some ⟨slot.file, false⟩))

/-- A descriptor of the client is closed. -/
def Closed (fd : Fd) (s : System) (_ : Unit) (s' : System) : Prop :=
  s' = s.withTable .self ((s.table .self).put fd none)

/-- Octets are put into a pipe. -/
def Wrote (serial : Nat) (octets : ByteArray) (s : System) (_ : Unit) (s' : System) : Prop :=
  s' = s.withHeld serial octets

/-- A child has ended, and let go of its descriptors. -/
def Ended (child : Pid) (s : System) (_ : Unit) (s' : System) : Prop :=
  s' = (s.withTable (.child child) fun _ => none).withLife child .ended

/-- A child is no more. -/
def Reaped (child : Pid) (s : System) (_ : Remains) (s' : System) : Prop :=
  s' = s.withLife child .absent

/-- Octets are taken from the front of a pipe, so many at most; none are taken only if there are none. -/
def Took (serial count : Nat) (s : System) (octets : ByteArray) (s' : System) : Prop :=
  octets.size ≤ count ∧ (octets.size = 0 → (s.held serial).size = 0) ∧
    ∃ rest, s.held serial = octets ++ rest ∧ s' = s.withHeld serial rest

end System

/-! ### The calls of a kernel -/

/-- A number that fits into 32 bits, as the numbers of system errors do. -/
def IsWord (e : Errno) : Prop :=
  -2147483648 ≤ e.number ∧ e.number < 2147483648

instance (e : Errno) : Decidable (IsWord e) :=
  inferInstanceAs (Decidable (_ ∧ _))

section Kernel

variable {W α : Type}

/-- What a call can come to: it has its effect, or fails and changes nothing. Each interruption is one of
those that were to come. -/
def Answers (k : Kernel W) (view : W → System) (effect : System → α → System → Prop) (w : W) :
    Except Errno α × W → Prop
  | (.ok a, w') => effect (view w) a (view w') ∧ k.interruptions w' ≤ k.interruptions w
  | (.error e, w') => view w' = view w ∧ k.interruptions w' ≤ k.interruptions w ∧ IsWord e ∧
    (e = .interrupted → k.interruptions w' < k.interruptions w)

/-- A call that cannot fail otherwise than by an interruption. -/
def OnlyInterrupted : Except Errno α × W → Prop
  | (.ok _, _) => True
  | (.error e, _) => e = .interrupted

/-- A call that was interrupted. -/
def Interrupted (answer : Except Errno α × W) : Prop :=
  answer.1 = .error .interrupted

/-- A kernel's calls do what their manual pages say, as far as a view of its world shows. A child's own
calls are those up to its program, which runs on its own and out of view. -/
structure Conforms (k : Kernel W) (view : W → System) : Prop where
  /-- `open(2)`: the lowest free number for a new open file, with `O_CLOEXEC`. -/
  openRead : ∀ path w, Answers k view (System.OpenedFile (.reading path)) w (k.openRead path w)
  create : ∀ path w, Answers k view (System.OpenedFile (.writing path)) w (k.create path w)
  /-- `pipe2(2)`, with `O_CLOEXEC`. -/
  makePipe : ∀ w, Answers k view System.MadePipe w (k.makePipe w)
  /-- `close(2)`: the number is free afterwards, whatever the answer. -/
  close : ∀ fd w, Answers k view (System.Closed fd) w (.ok (), k.close fd w)
  /-- `fork(2)`: the child has copies of its parent's descriptors. -/
  fork : ∀ w, Answers k view System.Forked w (k.fork w)
  /-- `setsid(2)`. -/
  newSession : ∀ child w, Answers k view (System.Changes child id) w (k.newSession child w)
  /-- `umask(2)` cannot fail. -/
  setUmask : ∀ child mask w, Answers k view (System.Changes child id) w (.ok (), k.setUmask child mask w)
  /-- `fcntl(2)` with `F_SETFD`. -/
  keepOnExec : ∀ child fd w, Answers k view (System.Redirected child fd fd) w (k.keepOnExec child fd w)
  /-- `dup2(2)` between different numbers: the copy is not closed on exec. -/
  duplicate : ∀ child fd target w, fd ≠ target →
    Answers k view (System.Redirected child fd target) w (k.duplicate child fd target w)
  /-- `chdir(2)`. -/
  changeDirectory : ∀ child path w,
    Answers k view (System.Changes child id) w (k.changeDirectory child path w)
  /-- `execve(2)`: only descriptors that are not closed on exec remain. -/
  exec : ∀ child program argv envp w,
    Answers k view (System.Changes child Table.onExec) w (k.exec child program argv envp w)
  /-- `write(2)`: few octets go into an empty pipe that somebody can read, as a whole and at once. -/
  write : ∀ child fd octets w serial closeOnExec,
    (view w).table (.child child) fd = some ⟨.pipeWriter serial, closeOnExec⟩ → (view w).HasReader serial →
      (view w).held serial = .empty → octets.size ≤ 512 →
      Answers k view (System.Wrote serial octets) w (.ok (), k.write child fd octets w)
  /-- `_exit(2)`: the descriptors are closed, and the child is to be reaped. -/
  exit : ∀ child code w, Answers k view (System.Ended child) w (.ok (), k.exit child code w)
  /-- `read(2)` from a pipe that has octets, or nobody left to write some: part of the octets, or none at
  the end. Until then the call waits, unless it is interrupted. -/
  read : ∀ fd count w serial closeOnExec,
    (view w).table .self fd = some ⟨.pipeReader serial, closeOnExec⟩ → 0 < count →
      (view w).CanRead serial ∨ Interrupted (k.read fd count w) →
      Answers k view (System.Took serial count) w (k.read fd count w) ∧ OnlyInterrupted (k.read fd count w)
  /-- `waitpid(2)` for a child that has ended, and that nobody else reaps. Until then the call waits, unless it
  is interrupted. -/
  await : ∀ child w, (view w).life child = .ended ∨ Interrupted (k.await child w) →
    Answers k view (System.Reaped child) w (k.await child w) ∧ OnlyInterrupted (k.await child w)

theorem Interrupted.only {answer : Except Errno α × W} (h : Interrupted answer) : OnlyInterrupted answer := by
  rcases answer with ⟨e | _, w⟩
  · exact Except.error.inj h
  · trivial

variable {k : Kernel W} {view : W → System} {effect : System → α → System → Prop}

/-- Descriptors are closed in the parent, and nothing else. -/
theorem closeAll_view (os : Conforms k view) (fds : List Fd) (w : W) :
    view (k.closeAll fds w) = (view w).withTable .self (((view w).table .self).closing fds) := by
  induction fds generalizing w with
  | nil => exact ((view w).withTable_same _).symm
  | cons fd fds ih =>
    have hclosed : view (k.close fd w) = _ := (os.close fd w).1
    rw [Kernel.closeAll, List.foldl_cons, ← Kernel.closeAll, ih, hclosed, System.withTable_withTable,
      System.table_withTable_same, Table.closing_put_none]

/-- A call that has its effect has every effect that this one is. -/
theorem Answers.mono {effect' : System → α → System → Prop} {w : W} {answer : Except Errno α × W}
    (h : Answers k view effect w answer) (heffect : ∀ s a s', effect s a s' → effect' s a s') :
    Answers k view effect' w answer := by
  rcases answer with ⟨_ | _, w'⟩
  · exact h
  · exact ⟨heffect _ _ _ h.1, h.2⟩

/-- An answer counts from every world that looks the same, if no interruptions were lost. -/
theorem Answers.of_view_eq {w w' : W} {answer : Except Errno α × W} (h : Answers k view effect w' answer)
    (hview : view w' = view w) (hless : k.interruptions w' ≤ k.interruptions w) :
    Answers k view effect w answer := by
  rcases answer with ⟨_ | _, w''⟩
  · obtain ⟨hsame, hfewer, hword, hinterrupted⟩ := h
    exact ⟨hsame.trans hview, Nat.le_trans hfewer hless, hword,
      fun he => Nat.lt_of_lt_of_le (hinterrupted he) hless⟩
  · exact ⟨hview ▸ h.1, Nat.le_trans h.2 hless⟩

/-- Interruptions that are counted come to an end. -/
theorem ends_of_answers {call : W → Except Errno α × W} (hcall : ∀ w, Answers k view effect w (call w)) :
    k.Ends call := by
  intro w hinterrupted
  have hanswer := hcall w
  rcases hw : call w with ⟨e | a, w'⟩ <;> rw [hw] at hanswer hinterrupted <;> cases hinterrupted
  exact hanswer.2.2.2 rfl

/-- A call that is made again for as long as it is interrupted comes to an answer that is no interruption, and
is made for the last time in a system that looks as it did. -/
theorem retry_settles {call : W → Except Errno α × W} (hcall : ∀ w, Answers k view effect w (call w)) (w : W) :
    ∃ w', view w' = view w ∧ k.interruptions w' ≤ k.interruptions w ∧ k.retry call w = call w' ∧
      (call w').1 ≠ .error .interrupted := by
  have hkeep : ∀ w', view w' = view w ∧ k.interruptions w' ≤ k.interruptions w →
      (call w').1 = .error .interrupted →
        view (call w').2 = view w ∧ k.interruptions (call w').2 ≤ k.interruptions w := by
    intro w' ⟨hsame, hfewer⟩ hinterrupted
    have hanswer := hcall w'
    rcases hw : call w' with ⟨e | a, w''⟩ <;> rw [hw] at hanswer hinterrupted <;> cases hinterrupted
    exact ⟨hanswer.1.trans hsame, Nat.le_trans hanswer.2.1 hfewer⟩
  obtain ⟨w', ⟨hsame, hfewer⟩, hdone, hretry⟩ :=
    Kernel.retry_reaches (ends_of_answers hcall) hkeep ⟨rfl, Nat.le_refl _⟩
  exact ⟨w', hsame, hfewer, hretry, hdone⟩

end Kernel

end Offspring.Posix
