import Offspring.Proofs.Posix.System

/-!
# A kernel on a bench

A kernel that conforms, with a world that can be run: how each call turns out, as far as the manual leaves it
open, is written down before. Calls fail with any error of 32 bits, calls that may be interrupted are, and reads
give as few octets as they are told to.
-/

namespace Offspring.Posix

/-- All serial numbers of a process's files are below a number. -/
def Table.Below (t : Table) (n : Nat) : Prop :=
  ∀ fd slot, t fd = some slot → slot.file.serial < n

theorem Table.below_none (n : Nat) : Table.Below (fun _ => none) n := by
  intro fd slot hslot
  cases hslot

namespace Table.Below

variable {t : Table} {n : Nat} (h : t.Below n)
include h

theorem succ : t.Below (n + 1) :=
  fun fd slot hslot => Nat.lt_succ_of_lt (h fd slot hslot)

theorem clear (fd : Fd) : (t.put fd none).Below n := by
  intro m held hheld
  by_cases hm : m = fd
  · rw [hm, put_same] at hheld
    cases hheld
  · exact h m held (by rwa [put_other hm] at hheld)

theorem put (fd : Fd) {file : OpenFile} (hfile : file.serial < n) (closeOnExec : Bool) :
    (t.put fd (some ⟨file, closeOnExec⟩)).Below n := by
  intro m held hheld
  by_cases hm : m = fd
  · rw [hm, put_same] at hheld
    cases hheld
    exact hfile
  · exact h m held (by rwa [put_other hm] at hheld)

theorem onExec : t.onExec.Below n :=
  fun fd slot hslot => h fd slot (Option.filter_eq_some_iff.mp hslot).1

end Table.Below

/-- All serial numbers and all children of a system are below a number. -/
structure System.Below (s : System) (next : Nat) : Prop where
  tables : ∀ p, (s.table p).Below next
  pids : ∀ pid, next ≤ pid → s.life pid = .absent

namespace System.Below

variable {s : System} {n : Nat} (h : s.Below n)
include h

theorem unused : s.Unused n :=
  fun p fd slot hslot => Nat.ne_of_lt (h.tables p fd slot hslot)

theorem succ : s.Below (n + 1) :=
  ⟨fun p => (h.tables p).succ, fun pid hpid => h.pids pid (Nat.le_of_succ_le hpid)⟩

theorem add (m : Nat) : s.Below (n + m) := by
  induction m with
  | zero => exact h
  | succ m ih => exact ih.succ

theorem withTable (p : Process) {t : Table} (ht : t.Below n) : (s.withTable p t).Below n := by
  refine ⟨fun q => ?_, h.pids⟩
  by_cases hq : q = p
  · rw [hq, table_withTable_same]
    exact ht
  · simp only [System.withTable, if_neg hq]
    exact h.tables q

theorem withHeld (serial : Nat) (octets : ByteArray) : (s.withHeld serial octets).Below n :=
  ⟨h.tables, h.pids⟩

theorem withLife {pid : Pid} {life : Life} (hlife : life = .absent ∨ pid < n) : (s.withLife pid life).Below n := by
  refine ⟨h.tables, fun q hq => ?_⟩
  by_cases hpid : q = pid
  · rw [hpid, life_withLife_same]
    exact hlife.resolve_right (hpid ▸ Nat.not_lt_of_le hq)
  · rw [life_withLife_other _ _ _ hpid]
    exact h.pids q hq

end System.Below

/-- The open file of a descriptor. -/
def System.fileAt (s : System) (p : Process) (fd : Fd) : Option OpenFile :=
  (s.table p fd).map (·.file)

theorem System.Below.fileAt {s : System} {n : Nat} (h : s.Below n) {p : Process} {fd : Fd} {file : OpenFile}
    (hfile : s.fileAt p fd = some file) : file.serial < n := by
  obtain ⟨slot, hslot, rfl⟩ := Option.map_eq_some_iff.mp hfile
  exact h.tables p fd slot hslot

/-- The lowest free number below a limit. -/
def Table.lowestFree? (t : Table) (limit : Nat) : Option Fd :=
  (List.range limit).find? fun fd => (t fd).isNone

theorem Table.isLowestFree_of_lowestFree? {t : Table} {limit : Nat} {fd : Fd} (h : t.lowestFree? limit = some fd) :
    t.IsLowestFree fd := by
  obtain ⟨hfree, -, hleast⟩ := List.find?_range_eq_some.mp h
  exact ⟨by simpa using hfree, fun n hn => by simpa [Option.isSome_iff_ne_none] using hleast n hn⟩

/-- How a call turns out. -/
inductive Turn where
  /-- The call works; a read gives one octet more than this at most. -/
  | works (most : Nat)
  | fails (number : Int32)

/-- The error with a number of 32 bits. -/
def errnoOf (number : Int32) : Errno :=
  ⟨number.toInt⟩

theorem isWord_errnoOf (number : Int32) : IsWord (errnoOf number) :=
  ⟨number.le_toInt, number.toInt_lt⟩

/-- Whether a call is interrupted. -/
def Turn.interrupts : Turn → Bool
  | .works _ => false
  | .fails number => errnoOf number = .interrupted

/-- A system with the turns that its calls take. -/
structure Bench where
  system : System
  /-- The next serial number and process number. -/
  next : Nat
  below : system.Below next
  /-- The number of descriptors that a process can have. -/
  limit : Nat
  turns : List Turn

namespace Bench

/-- How many interruptions are to come. -/
def interruptions (b : Bench) : Nat :=
  b.turns.countP (·.interrupts)

/-- Puts another system on the bench. -/
def become (b : Bench) (system : System) (next : Nat) (below : system.Below next) : Bench :=
  { b with system, next, below }

/-- Makes a call that takes its turn: it fails as the turn says, if it can fail so, and works otherwise. -/
def attempt {α : Type} (canFail : Errno → Bool) (work : Nat → Bench → Except Errno α × Bench) (b : Bench) :
    Except Errno α × Bench :=
  match b.turns with
  | [] => work 0 b
  | .works most :: rest => work most { b with turns := rest }
  | .fails number :: rest =>
    if canFail (errnoOf number) then (.error (errnoOf number), { b with turns := rest })
    else work 0 { b with turns := rest }

/-- Opens a file of the client. -/
def openFile (file : Nat → OpenFile) (hfile : ∀ n, (file n).serial = n) (b : Bench) : Except Errno Fd × Bench :=
  b.attempt (fun _ => true) fun _ b =>
    match (b.system.table .self).lowestFree? b.limit with
    | none => (.error .tooManyFiles, b)
    | some fd =>
      (.ok fd, b.become (b.system.withTable .self ((b.system.table .self).put fd (some ⟨file b.next, true⟩)))
        (b.next + 1) (b.below.succ.withTable _ ((b.below.succ.tables _).put fd
          (Nat.lt_succ_of_le (Nat.le_of_eq (hfile b.next))) true)))

/-- Makes a pipe of the client. -/
def makePipe (b : Bench) : Except Errno (Fd × Fd) × Bench :=
  b.attempt (fun _ => true) fun _ b =>
    match (b.system.table .self).lowestFree? b.limit with
    | none => (.error .tooManyFiles, b)
    | some reader =>
      let t := (b.system.table .self).put reader (some ⟨.pipeReader b.next, true⟩)
      match t.lowestFree? b.limit with
      | none => (.error .tooManyFiles, b)
      | some writer =>
        (.ok (reader, writer), b.become
          ((b.system.withTable .self (t.put writer (some ⟨.pipeWriter b.next, true⟩))).withHeld b.next .empty)
          (b.next + 1) ((b.below.succ.withTable _ (((b.below.succ.tables _).put reader
            (Nat.lt_succ_self _) true).put writer (Nat.lt_succ_self _) true)).withHeld _ _))

/-- Forks a child of the client. -/
def fork (b : Bench) : Except Errno Pid × Bench :=
  b.attempt (fun _ => true) fun _ b =>
    (.ok b.next, b.become
      ((b.system.withTable (.child b.next) (b.system.table .self)).withLife b.next .running) (b.next + 1)
      ((b.below.succ.withTable _ (b.below.succ.tables _)).withLife (.inr (Nat.lt_succ_self _))))

/-- Makes a call of a child that does not change its descriptors. -/
def pass (b : Bench) : Except Errno Unit × Bench :=
  b.attempt (fun _ => true) fun _ b => (.ok (), b)

/-- Gives a child's open file to another number. -/
def duplicate (child : Pid) (fd target : Fd) (b : Bench) : Except Errno Unit × Bench :=
  b.attempt (fun _ => true) fun _ b =>
    match hfile : b.system.fileAt (.child child) fd with
    | none => (.error .badDescriptor, b)
    | some file =>
      (.ok (), b.become (b.system.withTable (.child child)
          ((b.system.table (.child child)).put target (some ⟨file, false⟩))) b.next
        (b.below.withTable _ ((b.below.tables _).put target (b.below.fileAt hfile) false)))

/-- Turns a child into a program. -/
def exec (child : Pid) (b : Bench) : Except Errno Unit × Bench :=
  b.attempt (fun _ => true) fun _ b =>
    (.ok (), b.become (b.system.withTable (.child child) (b.system.table (.child child)).onExec) b.next
      (b.below.withTable _ (b.below.tables _).onExec))

/-- Closes a descriptor of the client. -/
def close (fd : Fd) (b : Bench) : Bench :=
  b.become (b.system.withTable .self ((b.system.table .self).put fd none)) b.next
    (b.below.withTable _ ((b.below.tables _).clear fd))

/-- Writes octets to a pipe, which takes all of them. -/
def write (child : Pid) (fd : Fd) (octets : ByteArray) (b : Bench) : Bench :=
  match b.system.fileAt (.child child) fd with
  | some (.pipeWriter serial) =>
    b.become (b.system.withHeld serial (b.system.held serial ++ octets)) b.next (b.below.withHeld _ _)
  | _ => b

/-- Ends a child, which is to be reaped. -/
def exit (child : Pid) (b : Bench) : Bench :=
  b.become ((b.system.withTable (.child child) fun _ => none).withLife child .ended) (b.next + child + 1)
    (((b.below.add (child + 1)).withTable _ (Table.below_none _)).withLife
      (.inr (Nat.lt_succ_of_le (Nat.le_add_left child b.next))))

/-- Reads from a pipe of the client. -/
def read (fd : Fd) (count : Nat) (b : Bench) : Except Errno ByteArray × Bench :=
  b.attempt (· = .interrupted) fun most b =>
    match b.system.fileAt .self fd with
    | some (.pipeReader serial) =>
      let held := b.system.held serial
      let size := min (min count (most + 1)) held.size
      (.ok (held.extract 0 size), b.become (b.system.withHeld serial (held.extract size held.size)) b.next
        (b.below.withHeld _ _))
    | _ => (.error .badDescriptor, b)

/-- What is left of every child on the bench. -/
def remains : Remains :=
  ⟨0, 0⟩

/-- Reaps a child that has ended. -/
def await (child : Pid) (b : Bench) : Except Errno Remains × Bench :=
  b.attempt (· = .interrupted) fun _ b =>
    if b.system.life child = .ended then
      (.ok remains, b.become (b.system.withLife child .absent) b.next (b.below.withLife (.inl rfl)))
    else (.error .noChild, b)

/-- The calls on a bench. Threads come to nothing there, and signals reach nobody. -/
def kernel : Kernel Bench where
  interruptions := interruptions
  openRead path := openFile (.reading path) fun _ => rfl
  create path := openFile (.writing path) fun _ => rfl
  makePipe := makePipe
  close := close
  read := read
  fork := fork
  await := await
  poll child b := (.ok (if b.system.life child = .ended then some remains else none), b)
  hasEnded child b := (.ok (b.system.life child = .ended), b)
  kill _ _ b := (.error .noProcess, b)
  startCollector _ _ b := (.ok 0, b)
  finishCollector _ b := b
  startReaper _ _ b := (.ok (), b)
  abort b := b
  note _ b := b
  newSession _ := pass
  setUmask _ _ b := b
  keepOnExec child fd := duplicate child fd fd
  duplicate := duplicate
  changeDirectory _ _ := pass
  exec child _ _ _ := exec child
  write := write
  exit child _ := exit child

/-! ### Its calls do what the manual says -/

/-- A call answers as its work does, or fails as its turn says. -/
theorem attempt_answers {α : Type} {canFail : Errno → Bool} {work : Nat → Bench → Except Errno α × Bench}
    {effect : System → α → System → Prop} {b : Bench}
    (hwork : ∀ most b', b'.system = b.system → Answers kernel system effect b' (work most b')) :
    Answers kernel system effect b (b.attempt canFail work) := by
  have hleft : ∀ {turn rest}, b.turns = turn :: rest → rest.countP (·.interrupts) ≤ b.interruptions := by
    intro turn rest hturns
    rw [interruptions, hturns, List.countP_cons]
    exact Nat.le_add_right _ _
  rw [attempt]
  rcases hturns : b.turns with _ | ⟨most | number, rest⟩
  · exact hwork 0 b rfl
  · exact (hwork most { b with turns := rest } rfl).of_view_eq rfl (hleft hturns)
  · simp only
    split
    · refine ⟨rfl, hleft hturns, isWord_errnoOf number, fun hinterrupted => ?_⟩
      have hcounted : (Turn.fails number).interrupts := decide_eq_true hinterrupted
      change rest.countP (·.interrupts) < b.interruptions
      rw [interruptions, hturns, List.countP_cons_of_pos hcounted]
      exact Nat.lt_succ_self _
    · exact (hwork 0 { b with turns := rest } rfl).of_view_eq rfl (hleft hturns)

/-- A call that has worked leads to its system. -/
theorem answers_become {α : Type} {effect : System → α → System → Prop} {b : Bench} {a : α} {s : System}
    {next : Nat} {below : s.Below next} (heffect : effect b.system a s) :
    Answers kernel system effect b (.ok a, b.become s next below) :=
  ⟨heffect, Nat.le_refl _⟩

/-- A call that could not work leaves the bench as it is. -/
theorem answers_error {α : Type} {effect : System → α → System → Prop} {b : Bench} {e : Errno} (hword : IsWord e)
    (hnot : e ≠ .interrupted) : Answers kernel system (α := α) effect b (.error e, b) :=
  ⟨rfl, Nat.le_refl _, hword, fun he => absurd he hnot⟩

theorem openFile_answers (file : Nat → OpenFile) (hfile : ∀ n, (file n).serial = n) (b : Bench) :
    Answers kernel system (System.OpenedFile file) b (b.openFile file hfile) := by
  refine attempt_answers fun most b' _ => ?_
  cases hfree : (b'.system.table .self).lowestFree? b'.limit with
  | none => exact answers_error (by decide) (by decide)
  | some fd => exact answers_become ⟨b'.next, b'.below.unused, Table.isLowestFree_of_lowestFree? hfree, rfl⟩

theorem makePipe_answers (b : Bench) : Answers kernel system System.MadePipe b b.makePipe := by
  refine attempt_answers fun most b' _ => ?_
  cases hreader : (b'.system.table .self).lowestFree? b'.limit with
  | none => exact answers_error (by decide) (by decide)
  | some reader =>
    simp only
    cases hwriter :
      ((b'.system.table .self).put reader (some ⟨.pipeReader b'.next, true⟩)).lowestFree? b'.limit with
    | none => exact answers_error (by decide) (by decide)
    | some writer =>
      exact answers_become ⟨b'.next, _, b'.below.unused, ⟨Table.isLowestFree_of_lowestFree? hreader,
        Table.isLowestFree_of_lowestFree? hwriter, rfl⟩, rfl⟩

theorem fork_answers (b : Bench) : Answers kernel system System.Forked b b.fork :=
  attempt_answers fun _ b' _ => answers_become ⟨b'.below.pids _ (Nat.le_refl _), rfl⟩

theorem pass_answers (child : Pid) (b : Bench) : Answers kernel system (System.Changes child id) b b.pass :=
  attempt_answers fun _ b' _ => ⟨(b'.system.withTable_same _).symm, Nat.le_refl _⟩

theorem duplicate_answers (child : Pid) (fd target : Fd) (b : Bench) :
    Answers kernel system (System.Redirected child fd target) b (b.duplicate child fd target) := by
  refine attempt_answers fun most b' _ => ?_
  split
  · exact answers_error (by decide) (by decide)
  · rename_i file hfile
    obtain ⟨slot, hslot, rfl⟩ := Option.map_eq_some_iff.mp hfile
    exact answers_become ⟨slot, hslot, rfl⟩

theorem exec_answers (child : Pid) (b : Bench) :
    Answers kernel system (System.Changes child Table.onExec) b (b.exec child) :=
  attempt_answers fun _ _ _ => answers_become rfl

theorem read_answers {fd : Fd} {count serial : Nat} {b : Bench}
    (hfile : b.system.fileAt .self fd = some (.pipeReader serial)) (hcount : 0 < count) :
    Answers kernel system (System.Took serial count) b (b.read fd count) := by
  refine attempt_answers fun most b' hsame => ?_
  rw [← hsame] at hfile
  simp only [hfile]
  refine answers_become ⟨?_, fun hnone => ?_, _, ?_, rfl⟩
  · rw [ByteArray.size_extract]
    omega
  · rw [ByteArray.size_extract] at hnone
    omega
  · rw [ByteArray.extract_append_extract, Nat.zero_min, Nat.max_eq_right (Nat.min_le_right _ _),
      ByteArray.extract_zero_size]

theorem await_answers (child : Pid) (b : Bench) :
    Answers kernel system (System.Reaped child) b (b.await child) := by
  refine attempt_answers fun most b' _ => ?_
  split
  · exact answers_become rfl
  · exact answers_error (by decide) (by decide)

/-- A call whose work does not fail can only be interrupted, if its turns can do no more. -/
theorem attempt_onlyInterrupted {α : Type} {work : Nat → Bench → Except Errno α × Bench} {b : Bench}
    (hwork : ∀ most b', b'.system = b.system → OnlyInterrupted (work most b')) :
    OnlyInterrupted (b.attempt (· = .interrupted) work) := by
  rw [attempt]
  rcases hturns : b.turns with _ | ⟨most | number, rest⟩
  · exact hwork 0 b rfl
  · exact hwork most { b with turns := rest } rfl
  · simp only
    split
    · rename_i hinterrupted
      change errnoOf number = .interrupted
      exact of_decide_eq_true hinterrupted
    · exact hwork 0 { b with turns := rest } rfl

theorem read_onlyInterrupted {fd : Fd} {count serial : Nat} {b : Bench}
    (hfile : b.system.fileAt .self fd = some (.pipeReader serial)) : OnlyInterrupted (b.read fd count) := by
  refine attempt_onlyInterrupted fun most b' hsame => ?_
  rw [← hsame] at hfile
  simp only [hfile]
  trivial

theorem await_onlyInterrupted {child : Pid} {b : Bench} (hended : b.system.life child = .ended) :
    OnlyInterrupted (b.await child) := by
  refine attempt_onlyInterrupted fun most b' hsame => ?_
  rw [← hsame] at hended
  simp only [hended, if_true]
  trivial

/-- The kernel on the bench conforms. -/
theorem conforms : Conforms kernel system where
  openRead path := openFile_answers (.reading path) fun _ => rfl
  create path := openFile_answers (.writing path) fun _ => rfl
  makePipe := makePipe_answers
  close _ _ := answers_become rfl
  fork := fork_answers
  newSession := pass_answers
  setUmask _ _ b := ⟨(b.system.withTable_same _).symm, Nat.le_refl _⟩
  keepOnExec child fd := duplicate_answers child fd fd
  duplicate child fd target b _ := duplicate_answers child fd target b
  changeDirectory child _ := pass_answers child
  exec child _ _ _ := exec_answers child
  write child fd octets b serial closeOnExec hslot _ hempty _ := by
    have hfile : b.system.fileAt (.child child) fd = some (.pipeWriter serial) := by rw [System.fileAt, hslot]; rfl
    simp only [kernel, write, hfile, hempty, ByteArray.empty_append]
    exact answers_become rfl
  exit _ _ _ := answers_become rfl
  read fd count b serial closeOnExec hslot hcount _ := by
    have hfile : b.system.fileAt .self fd = some (.pipeReader serial) := by rw [System.fileAt, hslot]; rfl
    exact ⟨read_answers hfile hcount, read_onlyInterrupted hfile⟩
  await child b hready := ⟨await_answers child b, hready.elim await_onlyInterrupted Interrupted.only⟩

/-- A client that has its standard descriptors, but for some, and no children. -/
def standard (closed : List Fd) : System where
  table
    | .self => fun fd => if fd < 3 ∧ fd ∉ closed then some ⟨.inherited fd, false⟩ else none
    | .child _ => fun _ => none
  held _ := .empty
  life _ := .absent

theorem standard_below (closed : List Fd) : (standard closed).Below 3 := by
  refine ⟨fun p => ?_, fun _ _ => rfl⟩
  cases p with
  | self =>
    intro fd slot hslot
    obtain ⟨hfd, hsome⟩ := Option.ite_none_right_eq_some.mp hslot
    cases hsome
    exact hfd.1
  | child pid => exact Table.below_none 3

/-- The standard descriptors can be inherited. -/
theorem standard_inheritable (closed : List Fd) :
    ∀ fd < 3, ∀ slot, (standard closed).table .self fd = some slot → slot.closeOnExec = false := by
  intro fd _ slot hslot
  obtain ⟨-, hsome⟩ := Option.ite_none_right_eq_some.mp hslot
  cases hsome
  rfl

/-- A bench with such a client. -/
def client (closed : List Fd) (turns : List Turn) : Bench :=
  ⟨standard closed, 3, standard_below closed, 64, turns⟩

end Bench

end Offspring.Posix
