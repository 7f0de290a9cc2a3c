import Mathlib.Algebra.GroupWithZero.Nat
import Offspring.Proofs.Posix.Holdings
import Offspring.Proofs.Posix.Streams

/-!
# A launch keeps the parent's descriptors

However a launch ends, the parent has the descriptors afterwards that it had before; only a collecting thread
that was started keeps the end to read of the pipe into the console buffer. The account of the run is kept
through the opening of the streams, the fork and the report, and whenever the report is read the parent holds
nothing of what it has opened but ends of pipes to read. So it cannot keep itself waiting for the report, or
hide the end of the child's output.

A launch that can have no report of a forked child ends the parent itself; it does not return, and nothing is said
about what it leaves open.
-/

namespace Offspring.Posix

variable {W α ε : Type} {k : Kernel W} {view : W → Holdings} {base : Holdings} {held : List Fd}
  {pipes : List (Fd × Fd)} {given : List (Nat × Fd)} {r : Traced W}

/-- A success leads to what is right for its value, a failure to what is right for one. -/
def Leaves (success : α → Traced W → Prop) (failure : Traced W → Prop) : Except ε α × Traced W → Prop
  | (.ok a, r) => success a r
  | (.error _, r) => failure r

theorem Leaves.mono {success success' : α → Traced W → Prop} {failure failure' : Traced W → Prop}
    {answer : Except ε α × Traced W} (h : Leaves success failure answer)
    (hsuccess : ∀ a r, success a r → success' a r) (hfailure : ∀ r, failure r → failure' r) :
    Leaves success' failure' answer := by
  rcases answer with ⟨_ | a, r⟩
  · exact hfailure r h
  · exact hsuccess a r h

/-- The pipes that were made for a capture: one into its buffer, or none. -/
def PipedInto (target : Option StreamTarget) (capture : Option Capture) (pipes : List (Fd × Fd)) : Prop :=
  match capture with
  | none => pipes = []
  | some c => target = some (.buffer c.sink) ∧ ∃ writer, pipes = [(c.reader, writer)]

/-! ### Opening the streams -/

section Opening

/-- A call that opens one file leaves it held if it works, and changes nothing if it fails. -/
theorem leaves_opened {entry : Except Errno Fd → SystemCall} {answer : Except Errno Fd × W}
    (hentry : (∃ path, entry = .openRead path) ∨ ∃ path, entry = .create path)
    (hmoves : (entry answer.1).Moves (view r.world) (view answer.2))
    (h : Opening view base held pipes r) :
    Leaves (fun fd r => Opening view base (fd :: held) pipes r) (Opening view base held pipes)
      (r.answered entry answer) := by
  rcases answer with ⟨e | fd, w⟩
  · rcases hentry with ⟨path, rfl⟩ | ⟨path, rfl⟩ <;> exact h.plain hmoves rfl rfl rfl rfl
  · rcases hentry with ⟨path, rfl⟩ | ⟨path, rfl⟩ <;> exact h.plain hmoves rfl rfl rfl rfl

/-- A pipe leaves both its ends held, or nothing is changed. -/
theorem leaves_makePipe (os : k.Holds view) (h : Opening view base held pipes r) :
    Leaves (fun ends r => Opening view base (ends.1 :: ends.2 :: held) (pipes ++ [ends]) r)
      (Opening view base held pipes) (k.traced.makePipe r) := by
  have hmoves := os.makePipe r.world
  have hask : k.traced.makePipe r = r.answered .makePipe (k.makePipe r.world) := rfl
  rw [hask]
  rcases hpipe : k.makePipe r.world with ⟨e | ⟨reader, writer⟩, w⟩ <;> rw [hpipe] at hmoves
  · exact h.plain hmoves rfl rfl rfl rfl
  · exact h.add hmoves rfl rfl rfl

/-- A file for a stream is held if it could be opened. -/
theorem leaves_openFile {call : OsString → Traced W → Except Errno Fd × Traced W}
    (hcall : ∀ path, Leaves (fun fd r => Opening view base (fd :: held) pipes r)
      (Opening view base held pipes) (call path r))
    (path : OsString) (h : Opening view base held pipes r) :
    Leaves (fun fd r => Opening view base (fd :: held) pipes r) (Opening view base held pipes)
      (Stdio.openFile call path r) := by
  have hopened := hcall path
  rw [Stdio.openFile]
  split
  · exact h
  · rcases hanswer : call path r with ⟨_ | fd, r'⟩ <;> rw [hanswer] at hopened <;> exact hopened

variable (os : k.Holds view)
include os

theorem leaves_openRead (path : OsString) (h : Opening view base held pipes r) :
    Leaves (fun fd r => Opening view base (fd :: held) pipes r) (Opening view base held pipes)
      (k.traced.openRead path r) :=
  leaves_opened (.inl ⟨path, rfl⟩) (os.openRead path r.world) h

theorem leaves_create (path : OsString) (h : Opening view base held pipes r) :
    Leaves (fun fd r => Opening view base (fd :: held) pipes r) (Opening view base held pipes)
      (k.traced.create path r) :=
  leaves_opened (.inr ⟨path, rfl⟩) (os.create path r.world) h

/-- The input stream is opened first. -/
theorem leaves_openInput (path : Option OsString) (h : Opening view base [] [] r) :
    Leaves (fun s r => s = { stdin := s.stdin } ∧ Opening view base s.allFds [] r)
      (Opening view base [] []) (Stdio.openInput k.traced path r) := by
  cases path with
  | none => exact ⟨rfl, h⟩
  | some path =>
    have hfile := leaves_openFile (fun path => leaves_openRead os path h) path h
    rw [Stdio.openInput]
    rcases hanswer : Stdio.openFile k.traced.openRead path r with ⟨_ | fd, r'⟩ <;> rw [hanswer] at hfile
    · exact hfile
    · exact ⟨rfl, hfile⟩

/-- The output stream's target is opened second; a buffer becomes a pipe. -/
theorem leaves_openOutput (target : Option StreamTarget) {s : Stdio} (hs : s = { stdin := s.stdin })
    (h : Opening view base s.allFds [] r) :
    Leaves (fun s' r => s' = { stdin := s'.stdin, stdout := s'.stdout, capture := s'.capture } ∧
        ∃ pipes, PipedInto target s'.capture pipes ∧ Opening view base s'.allFds pipes r)
      (Opening view base s.allFds []) (Stdio.openOutput k.traced target s r) := by
  rw [hs] at h ⊢
  rcases target with _ | (path | sink | _)
  · exact ⟨rfl, [], rfl, h⟩
  · have hfile := leaves_openFile (fun path => leaves_create os path h) path h
    rw [Stdio.openOutput]
    rcases hanswer : Stdio.openFile k.traced.create path r with ⟨_ | fd, r'⟩ <;> rw [hanswer] at hfile
    · exact hfile
    · refine ⟨rfl, [], rfl, hfile.perm ?_⟩
      refine List.perm_iff_count.mpr fun n => ?_
      simp [Stdio.allFds, Stdio.childFds, List.count_append, List.count_cons]
  · have hpipe := leaves_makePipe os h
    rw [Stdio.openOutput]
    rcases hanswer : k.traced.makePipe r with ⟨_ | ⟨reader, writer⟩, r'⟩ <;> rw [hanswer] at hpipe
    · exact hpipe
    · refine ⟨rfl, [(reader, writer)], ⟨rfl, writer, rfl⟩, hpipe.perm ?_⟩
      refine List.perm_iff_count.mpr fun n => ?_
      simp [Stdio.allFds, Stdio.childFds, List.count_append, List.count_cons]
      omega
  · exact h

/-- The error stream's target is opened last. -/
theorem leaves_openError (target : Option StreamTarget) {s : Stdio}
    (hs : s = { stdin := s.stdin, stdout := s.stdout, capture := s.capture })
    (h : Opening view base s.allFds pipes r) :
    Leaves (fun s' r => s'.capture = s.capture ∧ Opening view base s'.allFds pipes r)
      (Opening view base s.allFds pipes) (Stdio.openError k.traced target s r) := by
  rcases target with _ | (path | sink | _)
  · exact ⟨rfl, h⟩
  · have hfile := leaves_openFile (fun path => leaves_create os path h) path h
    rw [Stdio.openError]
    rcases hanswer : Stdio.openFile k.traced.create path r with ⟨_ | fd, r'⟩ <;> rw [hanswer] at hfile
    · exact hfile
    · refine ⟨rfl, hfile.perm ?_⟩
      rw [hs]
      refine List.perm_iff_count.mpr fun n => ?_
      simp [Stdio.allFds, Stdio.childFds, List.count_append, List.count_cons]
      omega
  · exact ⟨rfl, h⟩
  · exact ⟨rfl, h⟩

/-- If a step fails, what was opened before it is closed again. -/
theorem leaves_andThen {before after : Stdio → Traced W → Prop}
    {opened : Except LaunchError Stdio × Traced W} {next : Stdio → Traced W → Except LaunchError Stdio × Traced W}
    (hopened : Leaves before (fun r => ∃ pipes, Account view base [] pipes [] r) opened)
    (hnext : ∀ s r, before s r →
      Leaves after (fun r => ∃ pipes, Account view base s.allFds pipes [] r) (next s r)) :
    Leaves after (fun r => ∃ pipes, Account view base [] pipes [] r) (Stdio.andThen k.traced opened next) := by
  rcases opened with ⟨_ | s, r⟩
  · exact hopened
  · have hlast := hnext s r hopened
    rw [Stdio.andThen]
    rcases hanswer : next s r with ⟨_ | s', r'⟩ <;> rw [hanswer] at hlast
    · obtain ⟨pipes, haccount⟩ := hlast
      exact ⟨pipes, Account.closeAll os s.allFds (by rwa [List.append_nil])⟩
    · exact hlast

/-- What a plan routes the streams to is held, or nothing is. -/
theorem leaves_openPlan (plan : StreamPlan) (h : Opening view base [] [] r) :
    Leaves (fun s r => ∃ pipes, PipedInto plan.stdout s.capture pipes ∧ Opening view base s.allFds pipes r)
      (fun r => ∃ pipes, Account view base [] pipes [] r) (Stdio.openPlan k.traced plan r) := by
  have hfailed (s : Stdio) (r : Traced W) (hr : Opening view base s.allFds [] r) :
      ∃ pipes, Account view base s.allFds pipes [] r := ⟨[], hr.toAccount⟩
  have hinput := (leaves_openInput os plan.stdin h).mono (fun _ _ hs => hs) (hfailed {})
  have houtput := leaves_andThen os hinput fun s r hs =>
    (leaves_openOutput os plan.stdout hs.1 hs.2).mono (fun _ _ hs => hs) (hfailed s)
  refine leaves_andThen os houtput fun s r hs => ?_
  obtain ⟨hshape, pipes, hpiped, haccount⟩ := hs
  refine (leaves_openError os plan.stderr hshape haccount).mono (fun s' r' hs' => ?_) fun _ hr => ⟨pipes, hr.toAccount⟩
  exact ⟨pipes, by rwa [hs'.1], hs'.2⟩

end Opening

/-! ### The report -/

/-- Reading the report changes nothing, and is done while only ends of pipes to read are held. -/
theorem account_readReport (os : k.Holds view) (fd : Fd) (fuel : Nat) (octets : ByteArray)
    (hends : ∀ fd ∈ held, fd ∈ pipes.map (·.1)) (h : Account view base held pipes given r) :
    Account view base held pipes given (readReport k.traced fd fuel octets r).2 := by
  induction fuel generalizing octets r with
  | zero => exact h
  | succ fuel ih =>
    have hread : Account view base held pipes given (k.traced.read fd (4 - octets.size) r).2 :=
      h.idle (os.read fd (4 - octets.size) r.world) rfl rfl rfl fun _ => hends
    rw [readReport]
    split
    · exact h
    · rcases hanswer : k.traced.read fd (4 - octets.size) r with ⟨e | more, r'⟩ <;> rw [hanswer] at hread
      · by_cases he : e = .interrupted
        · simp only [he, if_true]
          exact ih octets hread
        · simp only [he, if_false]
          exact hread
      · cases hmore : more.isEmpty with
        | true => simpa only [hmore, if_true] using hread
        | false =>
          simp only [hmore, Bool.false_eq_true, if_false]
          exact ih _ hread

/-- How many octets a call has read. -/
def SystemCall.octets : SystemCall → Nat
  | .read _ _ (.ok octets) => octets.size
  | _ => 0

/-- How many octets calls have read. -/
def octetsRead (made : List (Made W)) : Nat :=
  (made.map (·.call.octets)).sum

/-- Calls from which no report can be had: a read has failed, or neither nothing nor a whole report was read. -/
def Unreadable (made : List (Made W)) : Prop :=
  (∃ m ∈ made, ∃ fd count e, m.call = .read fd count (.error e) ∧ e ≠ .interrupted) ∨
    octetsRead made ≠ 0 ∧ octetsRead made ≠ 4

theorem octetsRead_add (r : Traced W) (call : SystemCall) (w : W) :
    octetsRead (r.add call w).made = octetsRead r.made + call.octets := by
  simp [octetsRead]

theorem Unreadable.add {call : SystemCall} {w : W} (h : Unreadable r.made) (hquiet : call.octets = 0) :
    Unreadable (r.add call w).made := by
  rcases h with ⟨m, hm, hfailed⟩ | hsize
  · exact .inl ⟨m, List.mem_append_left _ hm, hfailed⟩
  · refine .inr ?_
    rwa [octetsRead_add, hquiet, Nat.add_zero]

theorem size_of_ofOctets {octets : ByteArray} (h : Report.ofOctets octets = .unreadable) :
    octets.size ≠ 0 ∧ octets.size ≠ 4 := by
  unfold Report.ofOctets at h
  split at h
  · cases h
  · split at h
    · cases h
    · exact ⟨‹_›, ‹_›⟩

/-- A report is unreadable only because of what the reads answered. -/
theorem unreadable_of_readReport (fd : Fd) (fuel : Nat) (octets : ByteArray)
    (hsize : octets.size = octetsRead r.made) (h : (readReport k.traced fd fuel octets r).1 = .unreadable) :
    Unreadable (readReport k.traced fd fuel octets r).2.made := by
  induction fuel generalizing octets r with
  | zero => exact .inr (hsize ▸ size_of_ofOctets h)
  | succ fuel ih =>
    have hask : k.traced.read fd (4 - octets.size) r =
        r.answered (.read fd (4 - octets.size)) (k.read fd (4 - octets.size) r.world) := rfl
    rw [readReport] at h ⊢
    split
    · rename_i hfull
      rw [if_pos hfull] at h
      exact .inr (hsize ▸ size_of_ofOctets h)
    · rename_i hfull
      rw [if_neg hfull, hask] at h
      rw [hask]
      generalize k.read fd (4 - octets.size) r.world = answer at h ⊢
      rcases answer with ⟨e | more, w⟩
      · simp only [Traced.answered] at h ⊢
        by_cases he : e = .interrupted
        · simp only [he, if_true] at h ⊢
          exact ih octets (by rw [octetsRead_add]; exact hsize) h
        · simp only [he, if_false]
          exact .inl ⟨_, List.mem_append_right _ (List.mem_singleton_self _), _, _, e, rfl, he⟩
      · have htotal : octets.size + more.size = octetsRead (r.add (.read fd (4 - octets.size) (.ok more)) w).made := by
          rw [octetsRead_add, hsize]
          rfl
        simp only [Traced.answered] at h ⊢
        cases hmore : more.isEmpty with
        | true =>
          simp only [hmore, if_true] at h ⊢
          have hnone : more.size = 0 := eq_of_beq hmore
          rw [hnone, Nat.add_zero] at htotal
          exact .inr (htotal ▸ size_of_ofOctets h)
        | false =>
          simp only [hmore, Bool.false_eq_true, if_false] at h ⊢
          exact ih _ (by rw [ByteArray.size_append, htotal]) h

/-- What the collecting thread of a child was given. -/
def GivenTo (capture : Option Capture) (collector : Option Nat) (given : List (Nat × Fd)) : Prop :=
  match collector with
  | none => given = []
  | some id => ∃ c, capture = some c ∧ given = [(id, c.reader)]

/-- The collecting thread gets the end to read of its pipe, or that is closed. -/
theorem account_startCapture (os : k.Holds view) (capture : Option Capture)
    (h : Account view base (capture.map (·.reader)).toList pipes [] r) :
    ∃ given, GivenTo capture (startCapture k.traced capture r).1 given ∧
      Account view base [] pipes given (startCapture k.traced capture r).2 := by
  cases capture with
  | none => exact ⟨[], rfl, h⟩
  | some c =>
    have hmoves := os.startCollector c.reader c.sink r.world
    have hask : k.traced.startCollector c.reader c.sink r =
        r.answered (.startCollector c.reader c.sink) (k.startCollector c.reader c.sink r.world) := rfl
    rw [startCapture, hask]
    rcases hanswer : k.startCollector c.reader c.sink r.world with ⟨cause | id, w⟩ <;> rw [hanswer] at hmoves
    · have hclosed := h.lose hmoves rfl rfl rfl (.refl _) fun hread => absurd hread Bool.false_ne_true
      exact ⟨[], rfl, hclosed.stays (os.note _ w)⟩
    · have hgiven := h.add hmoves (.refl _) (.inl rfl) fun hread => absurd hread Bool.false_ne_true
      simp only [SystemCall.pipe?, Option.toList_none, List.append_nil] at hgiven
      exact ⟨[(id, c.reader)], ⟨c, rfl, rfl⟩, hgiven⟩

/-- Whether a call ends the parent. -/
def SystemCall.isAbort : SystemCall → Bool
  | .abort => true
  | _ => false

/-- The parent has ended itself. -/
def Aborted (made : List (Made W)) : Prop :=
  ∃ m ∈ made, m.call.isAbort

instance (made : List (Made W)) : Decidable (Aborted made) :=
  inferInstanceAs (Decidable (∃ m ∈ made, m.call.isAbort))

/-- The parent cannot tell what has become of its child: no report can be had from what was read after the fork.
It has ended itself. -/
def LostTrack (made : List (Made W)) : Prop :=
  Aborted made ∧ ∃ before after,
    made = before ++ after ∧ (∃ m ∈ before, ∃ pid, m.call = .fork (.ok pid)) ∧ Unreadable after

/-- Without a report the parent ends itself. -/
theorem supervise_of_unreadable (spec : LaunchSpec) (options : LaunchOptions) (stdio : Stdio) (reader : Fd)
    (child : Pid) (h : (readReport k.traced reader (k.traced.interruptions r + 5) .empty r).1 = .unreadable)
    (hnone : octetsRead r.made = 0) :
    Aborted (supervise k.traced spec options stdio reader child r).2.made ∧
      Unreadable (supervise k.traced spec options stdio reader child r).2.made := by
  have hunreadable := unreadable_of_readReport reader (k.traced.interruptions r + 5) .empty hnone.symm h
  rw [supervise]
  rcases hread : readReport k.traced reader (k.traced.interruptions r + 5) .empty r with ⟨_ | e | _, r'⟩ <;>
    rw [hread] at h hunreadable <;> cases h
  exact ⟨⟨_, List.mem_append_right _ (List.mem_singleton_self _), rfl⟩,
    ((hunreadable.add rfl).add rfl).add rfl⟩

/-- What is done after the fork goes on behind the calls made before it, so what was read can be told apart. -/
theorem lostTrack_of_unreadable (spec : LaunchSpec) (options : LaunchOptions) (stdio : Stdio) (reader : Fd)
    (child : Pid) (hforked : ∃ m ∈ r.made, ∃ pid, m.call = .fork (.ok pid))
    (h : (readReport k.traced reader (k.traced.interruptions r + 5) .empty r).1 = .unreadable) :
    LostTrack (supervise k.traced spec options stdio reader child r).2.made := by
  have hbehind := k.traced_projects_behind r.made
  have hreport := readReport_map hbehind reader (k.traced.interruptions r + 5) .empty (.start r.world)
  have hwhole := supervise_map hbehind spec options stdio reader child (.start r.world)
  rw [Traced.behind_start] at hreport hwhole
  rw [hreport] at h
  obtain ⟨⟨m, hm, habort⟩, hunreadable⟩ := supervise_of_unreadable spec options stdio reader child h rfl
  rw [hwhole]
  exact ⟨⟨m, List.mem_append_right _ hm, habort⟩, r.made, _, rfl, hforked, hunreadable⟩

/-- After the report nothing is held, if there was one; a collecting thread may have got what it needs. -/
theorem account_supervise (os : k.Holds view) (spec : LaunchSpec) (options : LaunchOptions) (stdio : Stdio)
    (reader : Fd) (child : Pid) (hends : ∀ fd ∈ reader :: (stdio.capture.map (·.reader)).toList, fd ∈ pipes.map (·.1))
    (hforked : ∃ m ∈ r.made, ∃ pid, m.call = .fork (.ok pid))
    (h : Account view base (reader :: (stdio.capture.map (·.reader)).toList) pipes [] r) :
    LostTrack (supervise k.traced spec options stdio reader child r).2.made ∨ ∃ given,
      GivenTo stdio.capture ((supervise k.traced spec options stdio reader child r).1.toOption.bind (·.collector))
        given ∧ Account view base [] pipes given (supervise k.traced spec options stdio reader child r).2 := by
  have hreport := account_readReport os reader (k.traced.interruptions r + 5) .empty hends h
  have hclosed := hreport.close os reader
  by_cases hlost : (readReport k.traced reader (k.traced.interruptions r + 5) .empty r).1 = .unreadable
  · exact .inl (lostTrack_of_unreadable spec options stdio reader child hforked hlost)
  rw [supervise]
  rcases hread : readReport k.traced reader (k.traced.interruptions r + 5) .empty r with ⟨_ | e | _, r'⟩ <;>
    rw [hread] at hclosed hlost
  · obtain ⟨given, hgiven, haccount⟩ := account_startCapture os stdio.capture hclosed
    exact .inr ⟨given, hgiven, haccount.stays (os.note _ _)⟩
  · have hreaped := Account.retry (k := k) (fun _ h => Account.await os child h) hclosed
    simp only
    rcases hwait : k.traced.retry (k.traced.await child) (k.traced.close reader r') with ⟨_ | _, r''⟩ <;>
      rw [hwait] at hreaped
    all_goals have hnone := Account.closeAll os (stdio.capture.map (·.reader)).toList (by rwa [List.append_nil])
    · exact .inr ⟨[], rfl, hnone.idle (os.abort _) rfl rfl rfl fun hread => absurd hread Bool.false_ne_true⟩
    · exact .inr ⟨[], rfl, hnone⟩
  · exact absurd rfl hlost

/-! ### The launch -/

/-- What a launch leaves to a collecting thread: the end to read of the pipe into the output stream's buffer, which
was made before the pipe for the report. -/
def Lends (target : Option StreamTarget) (collector : Option Nat) (made : List (Made W)) : Prop :=
  match collector with
  | none => givenOf made = []
  | some id => ∃ sink ends report,
      target = some (.buffer sink) ∧ pipesOf made = [ends, report] ∧ givenOf made = [(id, ends.1)]

/-- The descriptors are squared at the end of a run of calls. -/
structure Squared (view : W → Holdings) (before after : Holdings) (made : List (Made W)) : Prop where
  /-- The parent has what it had before. -/
  own : after.own = before.own
  /-- Each descriptor that was opened was closed or given to a thread, and that once. -/
  once : (openings made).Nodup
  balance : (openings made).Perm (closings made ++ (givenOf made).map (·.2))
  /-- Only what was open, and opened on the way, was let go of. -/
  parted : ∀ m ∈ made, ∀ fd ∈ m.call.parted, fd ∈ (view m.before).own ∧ fd ∉ before.own
  /-- Whenever the parent has read, all it had on top were ends of pipes to read. -/
  reads : ∀ m ∈ made, m.call.isRead → ∀ fd ∈ (view m.before).own, fd ∈ before.own ∨ fd ∈ (pipesOf made).map (·.1)
  /-- A thread has what it was given, until it has ended. -/
  lent : Fades ((givenOf made).foldl (fun lent entry => lending lent (some entry)) before.lent) after.lent

theorem Account.squared (h : Account view base [] pipes given r) : Squared view base (view r.world) r.made where
  own := Set.ext fun fd => by rw [h.own]; simp
  once := h.once
  balance := by rw [h.given_eq]; simpa using h.balance
  parted := h.parted
  reads := by rw [h.pipes_eq]; exact h.reads
  lent := by rw [h.given_eq]; exact h.lent

/-- What the parent holds after the fork, once it has closed what only the child needs. -/
theorem opening_perm (s : Stdio) (reader writer : Fd) :
    (reader :: writer :: s.allFds).Perm
      ((writer :: s.childFds) ++ reader :: (s.capture.map (·.reader)).toList) := by
  refine List.perm_iff_count.mpr fun n => ?_
  simp only [Stdio.allFds, List.count_append, List.count_cons]
  omega

theorem ends_of_pipedInto {target : Option StreamTarget} {capture : Option Capture} (ends : Fd × Fd)
    (hpiped : PipedInto target capture pipes) :
    ∀ fd ∈ ends.1 :: (capture.map (·.reader)).toList, fd ∈ (pipes ++ [ends]).map (·.1) := by
  cases capture with
  | none => simp
  | some c =>
    obtain ⟨-, writer, rfl⟩ := hpiped
    simp

theorem lends_of_givenTo {target : Option StreamTarget} {capture : Option Capture} {collector : Option Nat}
    {ends : Fd × Fd} (hpiped : PipedInto target capture pipes) (hgiven : GivenTo capture collector given)
    (h : Account view base held (pipes ++ [ends]) given r) : Lends target collector r.made := by
  cases collector with
  | none => exact h.given_eq.trans hgiven
  | some id =>
    obtain ⟨c, rfl, rfl⟩ := hgiven
    obtain ⟨htarget, writer, rfl⟩ := hpiped
    exact ⟨c.sink, (c.reader, writer), ends, htarget, h.pipes_eq, h.given_eq⟩

/-- The launch has come to an end with an account of all descriptors, unless the parent has lost track of its
child. -/
def Accounted (view : W → Holdings) (base : Holdings) (target : Option StreamTarget)
    (outcome : Except LaunchError Child × Traced W) : Prop :=
  LostTrack outcome.2.made ∨ Lends target (outcome.1.toOption.bind (·.collector)) outcome.2.made ∧
    ∃ pipes given, Account view base [] pipes given outcome.2

/-- A launch that is given up closes what is held. -/
theorem accounted_refused (os : k.Holds view) (target : Option StreamTarget) (cause : LaunchError) (fds : List Fd)
    (h : Account view base fds pipes [] r) :
    Accounted view base target (.error cause, k.traced.closeAll fds r) := by
  have hclosed := Account.closeAll os fds (by rwa [List.append_nil])
  exact .inr ⟨hclosed.given_eq, pipes, [], hclosed⟩

/-- The fork stays written down until the report is read. -/
theorem forked_before_report (plan : ExecPlan) (child : Pid) (writer : Fd) (fds : List Fd) (r : Traced W) (w : W) :
    ∃ m ∈ (k.traced.closeAll fds (plan.run k.traced child writer (r.add (.fork (.ok child)) w))).made,
      ∃ pid, m.call = .fork (.ok pid) := by
  have hbehind : ∀ log r, k.traced.closeAll fds (plan.run k.traced child writer (.behind log r)) =
      .behind log (k.traced.closeAll fds (plan.run k.traced child writer r)) := by
    intro log r
    have hlog := k.traced_projects_behind log
    rw [run_map hlog, closeAll_map hlog]
  have hforked : ⟨.fork (.ok child), r.world⟩ ∈ (r.add (.fork (.ok child)) w).made := by simp
  exact ⟨_, Traced.mem_made_of_behind
    (f := fun r => k.traced.closeAll fds (plan.run k.traced child writer r)) hbehind hforked, child, rfl⟩

theorem launch_accounted (os : k.Holds view) (spec : LaunchSpec) (options : LaunchOptions) (w : W) :
    Accounted view (view w) options.stdio.stdout (launch k.traced spec options (.start w)) := by
  have hopened := leaves_openPlan os options.stdio (.start view w)
  rw [launch]
  rcases hstdio : Stdio.openPlan k.traced options.stdio (.start w) with ⟨_ | stdio, r₁⟩ <;> rw [hstdio] at hopened
  · obtain ⟨pipes, haccount⟩ := hopened
    exact accounted_refused os _ _ [] haccount
  obtain ⟨pipes, hpiped, hstreams⟩ := hopened
  simp only
  cases ExecPlan.ofSpec spec options stdio with
  | error cause => exact accounted_refused os _ _ _ hstreams.toAccount
  | ok plan =>
    have hpipe := leaves_makePipe os hstreams
    rcases hends : k.traced.makePipe r₁ with ⟨_ | ends, r₂⟩ <;> rw [hends] at hpipe
    · exact accounted_refused os _ _ _ hpipe.toAccount
    have hfork := hpipe.toAccount.idle (os.fork r₂.world) rfl rfl rfl fun hread => absurd hread Bool.false_ne_true
    have hask : k.traced.fork r₂ = r₂.answered .fork (k.fork r₂.world) := rfl
    simp only [hask]
    rcases hchild : k.fork r₂.world with ⟨_ | child, w₃⟩ <;> rw [hchild] at hfork
    · exact accounted_refused os _ _ _ hfork
    have hkept := Account.closeAll os _ ((hfork.run os plan child ends.2).perm (opening_perm stdio ends.1 ends.2))
    rcases account_supervise os spec options stdio ends.1 child (ends_of_pipedInto ends hpiped)
      (forked_before_report plan child ends.2 _ r₂ w₃) hkept with hlost | ⟨given, hgiven, haccount⟩
    · exact .inl hlost
    · exact .inr ⟨lends_of_givenTo hpiped hgiven haccount, _, given, haccount⟩

/-- A launch leaves the parent with the descriptors that it had, unless no report of a forked child could be had
and the parent has ended itself. Each descriptor opened on the way is closed once, or is lent for good to the
collecting thread that was started. When the parent reads the report it has closed all ends to write and all
files. -/
theorem launch_keeps_descriptors (os : k.Holds view) (spec : LaunchSpec) (options : LaunchOptions) (w : W) :
    let made := (launch k.traced spec options (.start w)).2.made
    let answer := launch k spec options w
    LostTrack made ∨
      Squared view (view w) (view answer.2) made ∧
        Lends options.stdio.stdout (answer.1.toOption.bind (·.collector)) made := by
  have hworld := launch_map k.traced_projects_world spec options (.start w)
  intro made answer
  rw [show answer = projected Traced.world (launch k.traced spec options (.start w)) from hworld]
  rcases launch_accounted os spec options w with hlost | ⟨hlends, pipes, given, haccount⟩
  · exact .inl hlost
  · exact .inr ⟨haccount.squared, hlends⟩

/-! ### On the bench -/

/-- What the client of a system has open. It has no threads, or they have ended. -/
def System.holdings (s : System) : Holdings where
  own := {fd | s.table .self fd ≠ none}
  lent _ := none

namespace System

variable {s s' : System} {call : SystemCall}

@[simp] theorem mem_holdings {fd : Fd} : fd ∈ s.holdings.own ↔ s.table .self fd ≠ none := .rfl

theorem stays_of_table (h : s'.table .self = s.table .self) : s.holdings.Stays s'.holdings where
  own := by rw [holdings, h, holdings]
  lent := .refl _

theorem moves_of_table (h : s'.table .self = s.table .self) (hopened : call.opened = [])
    (hparted : call.parted = []) : call.Moves s.holdings s'.holdings where
  nodup := by rw [hopened]; exact .nil
  free := by rw [hopened]; exact nofun
  own fd := by simp [h, hopened, hparted]
  lent _ := .inr rfl

/-- A call that opens files has only put them into the table. -/
theorem moves_of_opens {opened : List (Fd × OpenFile)} (h : (s.table .self).Opens opened (s'.table .self))
    (hopened : call.opened = opened.map (·.1)) (hparted : call.parted = []) : call.Moves s.holdings s'.holdings where
  nodup := by
    rw [hopened]
    exact h.sorted.imp Nat.ne_of_lt
  free fd hfd := by
    rw [hopened] at hfd
    obtain ⟨entry, hentry, rfl⟩ := List.mem_map.mp hfd
    exact fun hopen => hopen (h.free hentry)
  own fd := by
    simp only [mem_holdings, hopened, hparted, List.not_mem_nil, not_false_iff, and_true]
    by_cases hfd : fd ∈ opened.map (·.1)
    · obtain ⟨entry, hentry, rfl⟩ := List.mem_map.mp hfd
      simp [h.get hentry, hfd]
    · have hother := h.other fun entry hentry heq => hfd (List.mem_map.mpr ⟨entry, hentry, heq.symm⟩)
      simp [hother, hfd]
  lent _ := .inr rfl

end System

/-- A call that leaves the client's table alone if it works leaves it alone. -/
theorem Answers.table_self {view : W → System} {effect : System → α → System → Prop} {w : W}
    {answer : Except Errno α × W} (h : Answers k view effect w answer)
    (heffect : ∀ s a s', effect s a s' → s'.table .self = s.table .self) :
    (view answer.2).table .self = (view w).table .self := by
  rcases answer with ⟨_ | a, w'⟩
  · rw [h.1]
  · exact heffect _ a _ h.1

namespace Bench

/-- The calls on a bench whose threads take what they are given, and end. -/
def collecting : Kernel Bench :=
  { kernel with startCollector := fun fd _ b => (.ok 0, b.close fd) }

/-- What the client on a bench has open. -/
def holdings (b : Bench) : Holdings :=
  b.system.holdings

theorem openFile_moves {entry : Except Errno Fd → SystemCall} {file : Nat → OpenFile}
    (hfile : ∀ n, (file n).serial = n) (b : Bench)
    (hentry : (∃ path, entry = .openRead path) ∨ ∃ path, entry = .create path) :
    (entry (b.openFile file hfile).1).Moves b.holdings (b.openFile file hfile).2.holdings := by
  have hanswer := openFile_answers file hfile b
  rcases hopen : b.openFile file hfile with ⟨e | fd, b'⟩ <;> rw [hopen] at hanswer
  · have htable : b'.system.table .self = b.system.table .self := by rw [hanswer.1]
    rcases hentry with ⟨path, rfl⟩ | ⟨path, rfl⟩ <;> exact System.moves_of_table htable rfl rfl
  · obtain ⟨n, hopens⟩ := hanswer.1.opens hfile
    rcases hentry with ⟨path, rfl⟩ | ⟨path, rfl⟩ <;> exact System.moves_of_opens hopens.parent rfl rfl

theorem makePipe_moves (b : Bench) :
    (SystemCall.makePipe b.makePipe.1).Moves b.holdings b.makePipe.2.holdings := by
  have hanswer := makePipe_answers b
  rcases hpipe : b.makePipe with ⟨e | ends, b'⟩ <;> rw [hpipe] at hanswer
  · have htable : b'.system.table .self = b.system.table .self := by rw [hanswer.1]
    exact System.moves_of_table htable rfl rfl
  · obtain ⟨n, hopens, -⟩ := hanswer.1.opens
    exact System.moves_of_opens hopens.parent rfl rfl

theorem close_moves {call : SystemCall} (fd : Fd) (b : Bench) (hopened : call.opened = [])
    (hparted : call.parted = [fd]) : call.Moves b.holdings (b.close fd).holdings where
  nodup := by rw [hopened]; exact .nil
  free := by rw [hopened]; exact nofun
  own n := by
    by_cases hn : n = fd <;> simp [holdings, close, become, Table.put, hn, hopened, hparted]
  lent _ := .inr rfl

theorem read_table (fd : Fd) (count : Nat) (b : Bench) :
    Answers kernel system (fun s _ s' => s'.table .self = s.table .self) b (b.read fd count) := by
  refine attempt_answers fun most b' _ => ?_
  simp only
  split
  · exact answers_become rfl
  · exact answers_error (by decide) (by decide)

theorem collecting_holds : collecting.Holds holdings where
  openRead path b := openFile_moves (fun _ => rfl) b (.inl ⟨path, rfl⟩)
  create path b := openFile_moves (fun _ => rfl) b (.inr ⟨path, rfl⟩)
  makePipe := makePipe_moves
  close fd b := close_moves fd b rfl rfl
  read fd count b := System.moves_of_table ((read_table fd count b).table_self fun _ _ _ h => h) rfl rfl
  fork b := System.moves_of_table ((fork_answers b).table_self fun _ _ _ h => by rw [h.2]; rfl) rfl rfl
  await child b := System.moves_of_table ((await_answers child b).table_self fun _ _ _ h => by rw [h]; rfl) rfl rfl
  startCollector fd sink b := close_moves fd b rfl rfl
  abort _ := System.moves_of_table rfl rfl rfl
  note _ _ := System.stays_of_table rfl
  newSession child b := System.stays_of_table ((pass_answers child b).table_self fun _ _ _ h => by rw [h]; rfl)
  setUmask _ _ _ := System.stays_of_table rfl
  keepOnExec child fd b := by
    refine System.stays_of_table ((duplicate_answers child fd fd b).table_self ?_)
    rintro _ _ _ ⟨slot, -, rfl⟩
    rfl
  duplicate child fd target b := by
    refine System.stays_of_table ((duplicate_answers child fd target b).table_self ?_)
    rintro _ _ _ ⟨slot, -, rfl⟩
    rfl
  changeDirectory child _ b :=
    System.stays_of_table ((pass_answers child b).table_self fun _ _ _ h => by rw [h]; rfl)
  exec child _ _ _ b := System.stays_of_table ((exec_answers child b).table_self fun _ _ _ h => by rw [h]; rfl)
  write child fd octets b := by
    refine System.stays_of_table ?_
    simp only [collecting, kernel, write]
    split <;> rfl
  exit _ _ _ := System.stays_of_table rfl

end Bench

/-- The thread for the output of this client's child gets the end to read of the buffer's pipe, which is at 4. -/
theorem captured_launch_keeps_descriptors :
    let made := (launch Bench.collecting.traced bareSpec capturedOptions (.start (.client [] []))).2.made
    Bench.collecting.Holds Bench.holdings ∧
      Squared Bench.holdings (Bench.client [] []).holdings
        (launch Bench.collecting bareSpec capturedOptions (.client [] [])).2.holdings made ∧
      givenOf made = [(0, 4)] := by
  refine ⟨Bench.collecting_holds, ?_, by decide +kernel⟩
  rcases launch_keeps_descriptors Bench.collecting_holds bareSpec capturedOptions (.client [] []) with
    hlost | ⟨hsquared, -⟩
  · exact absurd hlost.1 (by decide +kernel)
  · exact hsquared

end Offspring.Posix
