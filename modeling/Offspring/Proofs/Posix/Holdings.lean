import Mathlib.Data.Set.Defs
import Offspring.Proofs.Posix.Course
import Offspring.Proofs.Posix.Trace

/-!
# What the parent holds

`Holdings` are the open descriptors of the parent: its own, and those that it has given to collecting threads.
`Kernel.Holds` says what each call does to them, as its manual page has it; threads may end at any time, and
then close what they were given. An `Account` of a traced run says what has become of each descriptor that was
opened on the way: it is still held, or was closed, or was given to a thread, one of these and once.
-/

namespace Offspring.Posix

variable {W α : Type}

/-- The open descriptors of the parent: its own ones, and what each collecting thread was given and has not
closed. -/
structure Holdings where
  own : Set Fd
  lent : Nat → Option Fd

/-- Threads may have ended, and closed what they were given. -/
def Fades (lent lent' : Nat → Option Fd) : Prop :=
  ∀ id, lent' id = lent id ∨ lent' id = none

/-- What threads have once one more was given a descriptor. -/
def lending (lent : Nat → Option Fd) : Option (Nat × Fd) → Nat → Option Fd
  | none => lent
  | some (id, fd) => fun n => if n = id then some fd else lent n

namespace SystemCall

/-- The descriptors that a call has opened. -/
def opened : SystemCall → List Fd
  | .openRead _ (.ok fd) | .create _ (.ok fd) => [fd]
  | .makePipe (.ok (reader, writer)) => [reader, writer]
  | _ => []

/-- The pipe that a call has made: the end to read and the end to write. -/
def pipe? : SystemCall → Option (Fd × Fd)
  | .makePipe (.ok ends) => some ends
  | _ => none

/-- The descriptors that a call has closed; a thread that does not start leaves its descriptor closed. -/
def closed : SystemCall → List Fd
  | .close fd | .startCollector fd _ (.error _) => [fd]
  | _ => []

/-- What a thread was given: its number and the descriptor, which is the thread's from then on. -/
def given? : SystemCall → Option (Nat × Fd)
  | .startCollector fd _ (.ok id) => some (id, fd)
  | _ => none

/-- The descriptors that the parent has no more after a call. -/
def parted (call : SystemCall) : List Fd :=
  call.closed ++ (call.given?.map (·.2)).toList

/-- Whether a call reads. -/
def isRead : SystemCall → Bool
  | .read .. => true
  | _ => false

/-- What a call does to the holdings: what it opens was free before, and all else stays as it was. -/
structure Moves (call : SystemCall) (h h' : Holdings) : Prop where
  nodup : call.opened.Nodup
  free : ∀ fd ∈ call.opened, fd ∉ h.own
  own : ∀ fd, fd ∈ h'.own ↔ (fd ∈ h.own ∨ fd ∈ call.opened) ∧ fd ∉ call.parted
  lent : Fades (lending h.lent call.given?) h'.lent

end SystemCall

/-- Holdings that a step which is no call of the parent may lead to. -/
structure Holdings.Stays (h h' : Holdings) : Prop where
  own : h'.own = h.own
  lent : Fades h.lent h'.lent

/-- The calls of a kernel do to the holdings what their manual pages say. -/
structure Kernel.Holds (k : Kernel W) (view : W → Holdings) : Prop where
  /-- `open(2)`: a number that was free. -/
  openRead : ∀ path w, (SystemCall.openRead path (k.openRead path w).1).Moves (view w) (view (k.openRead path w).2)
  create : ∀ path w, (SystemCall.create path (k.create path w).1).Moves (view w) (view (k.create path w).2)
  /-- `pipe2(2)`: two numbers that were free. -/
  makePipe : ∀ w, (SystemCall.makePipe (k.makePipe w).1).Moves (view w) (view (k.makePipe w).2)
  /-- `close(2)`: the number is free afterwards, whatever the answer. -/
  close : ∀ fd w, (SystemCall.close fd).Moves (view w) (view (k.close fd w))
  /-- `read(2)`, `fork(2)` and `waitpid(2)` open and close nothing. -/
  read : ∀ fd count w,
    (SystemCall.read fd count (k.read fd count w).1).Moves (view w) (view (k.read fd count w).2)
  fork : ∀ w, (SystemCall.fork (k.fork w).1).Moves (view w) (view (k.fork w).2)
  await : ∀ pid w, (SystemCall.await pid (k.await pid w).1).Moves (view w) (view (k.await pid w).2)
  /-- The descriptor goes over to the thread, or is closed if no thread can be started. -/
  startCollector : ∀ fd sink w, (SystemCall.startCollector fd sink (k.startCollector fd sink w).1).Moves
    (view w) (view (k.startCollector fd sink w).2)
  abort : ∀ w, SystemCall.abort.Moves (view w) (view (k.abort w))
  note : ∀ event w, (view w).Stays (view (k.note event w))
  /-- What a forked child does has no part in its parent's descriptors. -/
  newSession : ∀ pid w, (view w).Stays (view (k.newSession pid w).2)
  setUmask : ∀ pid mask w, (view w).Stays (view (k.setUmask pid mask w))
  keepOnExec : ∀ pid fd w, (view w).Stays (view (k.keepOnExec pid fd w).2)
  duplicate : ∀ pid fd target w, (view w).Stays (view (k.duplicate pid fd target w).2)
  changeDirectory : ∀ pid path w, (view w).Stays (view (k.changeDirectory pid path w).2)
  exec : ∀ pid program argv envp w, (view w).Stays (view (k.exec pid program argv envp w).2)
  write : ∀ pid fd octets w, (view w).Stays (view (k.write pid fd octets w))
  exit : ∀ pid code w, (view w).Stays (view (k.exit pid code w))

theorem Fades.refl (lent : Nat → Option Fd) : Fades lent lent :=
  fun _ => .inl rfl

theorem Fades.trans {lent lent' lent'' : Nat → Option Fd} (h : Fades lent lent') (h' : Fades lent' lent'') :
    Fades lent lent'' := by
  intro id
  rcases h' id with hsame | hnone
  · rw [hsame]
    exact h id
  · exact .inr hnone

theorem Fades.lending {lent lent' : Nat → Option Fd} (h : Fades lent lent') (given : Option (Nat × Fd)) :
    Fades (lending lent given) (lending lent' given) := by
  rcases given with _ | ⟨id, fd⟩
  · exact h
  · intro n
    by_cases hn : n = id
    · exact .inl (by simp only [Posix.lending, hn, if_true])
    · simpa only [Posix.lending, hn, if_false] using h n

/-- A call that opens something lets go of nothing. -/
theorem SystemCall.opened_of_mem_parted {call : SystemCall} {fd : Fd} (h : fd ∈ call.parted) : call.opened = [] := by
  cases call with
  | close => rfl
  | startCollector => rfl
  | openRead | create | makePipe | read | fork | await | poll | hasEnded | kill | finishCollector | startReaper
  | abort => exact absurd h List.not_mem_nil

/-! ### Accounts -/

/-- All that calls have opened. -/
def openings (made : List (Made W)) : List Fd :=
  made.flatMap (·.call.opened)

/-- All that calls have closed. -/
def closings (made : List (Made W)) : List Fd :=
  made.flatMap (·.call.closed)

/-- The pipes that calls have made. -/
def pipesOf (made : List (Made W)) : List (Fd × Fd) :=
  made.filterMap (·.call.pipe?)

/-- All that threads were given. -/
def givenOf (made : List (Made W)) : List (Nat × Fd) :=
  made.filterMap (·.call.given?)

/-- What has become of the descriptors that were opened since the start, each of them once: some are held, and
threads were given some; the others were closed. Nothing was let go of that was not held, or was open at the
start. Whenever the parent has read, it held the ends to read of its pipes and nothing else. -/
structure Account (view : W → Holdings) (base : Holdings) (held : List Fd) (pipes : List (Fd × Fd))
    (given : List (Nat × Fd)) (r : Traced W) : Prop where
  own : ∀ fd, fd ∈ (view r.world).own ↔ fd ∈ base.own ∨ fd ∈ held
  nodup : held.Nodup
  fresh : ∀ fd ∈ held, fd ∉ base.own
  once : (openings r.made).Nodup
  balance : (openings r.made).Perm (closings r.made ++ given.map (·.2) ++ held)
  pipes_eq : pipesOf r.made = pipes
  given_eq : givenOf r.made = given
  parted : ∀ m ∈ r.made, ∀ fd ∈ m.call.parted, fd ∈ (view m.before).own ∧ fd ∉ base.own
  reads : ∀ m ∈ r.made, m.call.isRead → ∀ fd ∈ (view m.before).own, fd ∈ base.own ∨ fd ∈ pipes.map (·.1)
  lent : Fades (given.foldl (fun lent entry => lending lent (some entry)) base.lent) (view r.world).lent

namespace Account

variable {k : Kernel W} {view : W → Holdings} {base : Holdings} {held held' : List Fd} {pipes : List (Fd × Fd)}
  {given : List (Nat × Fd)} {r r' : Traced W}

/-- At the start nothing has been opened. -/
theorem start (view : W → Holdings) (w : W) : Account view (view w) [] [] [] (.start w) where
  own _ := by simp
  nodup := .nil
  fresh _ hnone := absurd hnone List.not_mem_nil
  once := .nil
  balance := .nil
  pipes_eq := rfl
  given_eq := rfl
  parted _ hnone := absurd hnone List.not_mem_nil
  reads _ hnone := absurd hnone List.not_mem_nil
  lent := .refl _

/-- The order of what is held does not matter. -/
theorem perm (h : Account view base held pipes given r) (hperm : held.Perm held') :
    Account view base held' pipes given r :=
  { h with
    own := fun fd => by rw [h.own, hperm.mem_iff]
    nodup := hperm.nodup_iff.mp h.nodup
    fresh := fun fd hfd => h.fresh fd (hperm.mem_iff.mpr hfd)
    balance := h.balance.trans (hperm.append_left _) }

/-- A step that is no call changes nothing. -/
theorem stays (h : Account view base held pipes given r) {w : W} (hstays : (view r.world).Stays (view w)) :
    Account view base held pipes given (r.move w) :=
  { h with
    own := fun fd => by rw [Traced.world_move, hstays.own, h.own]
    lent := h.lent.trans hstays.lent }

/-- A call opens what was free, and lets go of what is held. It opens something only if everything that was
opened before is still held, so no number comes twice. -/
theorem add (h : Account view base held pipes given r) {call : SystemCall} {w : W}
    (hmoves : call.Moves (view r.world) (view w)) (hperm : (call.opened ++ held).Perm (call.parted ++ held'))
    (hfirst : call.opened = [] ∨ (openings r.made).Perm held)
    (hread : call.isRead → ∀ fd ∈ held, fd ∈ pipes.map (·.1)) :
    Account view base held' (pipes ++ call.pipe?.toList) (given ++ call.given?.toList) (r.add call w) := by
  have hopenings : openings (r.made ++ [⟨call, r.world⟩]) = openings r.made ++ call.opened := by simp [openings]
  have hfree : ∀ fd ∈ call.opened, fd ∉ base.own ∧ fd ∉ held := fun fd hfd =>
    not_or.mp fun hin => hmoves.free fd hfd ((h.own fd).mpr hin)
  have hfresh : ∀ fd ∈ call.parted ++ held', fd ∉ base.own := by
    intro fd hfd
    rcases List.mem_append.mp (hperm.mem_iff.mpr hfd) with hopened | hheld
    · exact (hfree fd hopened).1
    · exact h.fresh fd hheld
  have hnodup : (call.parted ++ held').Nodup := by
    refine hperm.nodup_iff.mp (List.nodup_append.mpr ⟨hmoves.nodup, h.nodup, ?_⟩)
    rintro fd hopened _ hheld rfl
    exact (hfree fd hopened).2 hheld
  refine
    { own := fun fd => ?_
      nodup := (List.nodup_append.mp hnodup).2.1
      fresh := fun fd hfd => hfresh fd (List.mem_append_right _ hfd)
      once := ?_
      balance := ?_
      pipes_eq := ?_
      given_eq := ?_
      parted := fun m hm fd hfd => ?_
      reads := fun m hm hmread fd hfd => ?_
      lent := ?_ }
  · have hsame := hperm.mem_iff (a := fd)
    have hdisjoint := fun hparted : fd ∈ call.parted => fun hheld : fd ∈ held' =>
      (List.nodup_append.mp hnodup).2.2 fd hparted fd hheld rfl
    have hfree' := hfresh fd
    rw [Traced.world_add, hmoves.own, h.own]
    simp only [List.mem_append] at hsame hfree'
    constructor
    · rintro ⟨(hbase | hheld) | hopened, hnot⟩
      · exact .inl hbase
      · exact .inr ((hsame.mp (.inr hheld)).resolve_left hnot)
      · exact .inr ((hsame.mp (.inl hopened)).resolve_left hnot)
    · rintro (hbase | hheld)
      · exact ⟨.inl (.inl hbase), fun hparted => hfree' (.inl hparted) hbase⟩
      · refine ⟨?_, fun hparted => hdisjoint hparted hheld⟩
        rcases hsame.mpr (.inr hheld) with hopened | hold
        · exact .inr hopened
        · exact .inl (.inr hold)
  · rw [Traced.made_add, hopenings]
    rcases hfirst with hnone | hheld
    · rw [hnone, List.append_nil]
      exact h.once
    · refine List.nodup_append.mpr ⟨h.once, hmoves.nodup, ?_⟩
      rintro fd hopening _ hopened rfl
      exact (hfree fd hopened).2 (hheld.mem_iff.mp hopening)
  · refine List.perm_iff_count.mpr fun fd => ?_
    have hbefore := h.balance.count_eq fd
    have hstep := hperm.count_eq fd
    simp only [List.count_append, SystemCall.parted] at hbefore hstep
    have hclosings : closings (r.made ++ [⟨call, r.world⟩]) = closings r.made ++ call.closed := by simp [closings]
    have hgiven : (given ++ call.given?.toList).map (·.2) = given.map (·.2) ++ (call.given?.map (·.2)).toList := by
      cases call.given? <;> simp
    rw [Traced.made_add, hopenings, hclosings, hgiven]
    simp only [List.count_append]
    omega
  · rw [Traced.made_add, pipesOf, List.filterMap_append, ← pipesOf, h.pipes_eq]
    cases hpipe : call.pipe? <;> simp [hpipe]
  · rw [Traced.made_add, givenOf, List.filterMap_append, ← givenOf, h.given_eq]
    cases hgiven : call.given? <;> simp [hgiven]
  · rcases List.mem_append.mp hm with hold | hnew
    · exact h.parted m hold fd hfd
    · rw [List.mem_singleton.mp hnew] at hfd ⊢
      rw [SystemCall.opened_of_mem_parted hfd, List.nil_append] at hperm
      exact ⟨(h.own fd).mpr (.inr (hperm.mem_iff.mpr (List.mem_append_left _ hfd))),
        hfresh fd (List.mem_append_left _ hfd)⟩
  · rw [List.map_append, List.mem_append]
    rcases List.mem_append.mp hm with hold | hnew
    · exact (h.reads m hold hmread fd hfd).imp_right .inl
    · rw [List.mem_singleton.mp hnew] at hfd hmread
      exact ((h.own fd).mp hfd).imp_right fun hheld => .inl (hread hmread fd hheld)
  · have hlent := (h.lent.lending call.given?).trans hmoves.lent
    cases hgiven : call.given? with
    | none =>
      rw [hgiven] at hlent
      simp only [Option.toList_none, List.append_nil]
      exact hlent
    | some entry =>
      rw [hgiven] at hlent
      rw [Option.toList_some, List.foldl_append]
      exact hlent

/-- A call that opens nothing, and gives nothing to a thread. -/
theorem lose (h : Account view base held pipes given r) {call : SystemCall} {w : W}
    (hmoves : call.Moves (view r.world) (view w)) (hopened : call.opened = []) (hpipe : call.pipe? = none)
    (hgiven : call.given? = none) (hperm : held.Perm (call.parted ++ held'))
    (hread : call.isRead → ∀ fd ∈ held, fd ∈ pipes.map (·.1)) :
    Account view base held' pipes given (r.add call w) := by
  have hadd := h.add hmoves (by rwa [hopened]) (.inl hopened) hread
  simpa only [hpipe, hgiven, Option.toList_none, List.append_nil] using hadd

/-- A call without descriptors changes nothing. -/
theorem idle (h : Account view base held pipes given r) {call : SystemCall} {w : W}
    (hmoves : call.Moves (view r.world) (view w)) (hopened : call.opened = []) (hparted : call.parted = [])
    (hpipe : call.pipe? = none) (hread : call.isRead → ∀ fd ∈ held, fd ∈ pipes.map (·.1)) :
    Account view base held pipes given (r.add call w) := by
  refine h.lose hmoves hopened hpipe ?_ (by rw [hparted, List.nil_append]) hread
  rw [SystemCall.parted, List.append_eq_nil_iff] at hparted
  cases hgiven : call.given? with
  | none => rfl
  | some entry => simp [hgiven] at hparted

section Laws

variable (os : k.Holds view)
include os

/-- A descriptor that is held is closed. -/
theorem close (fd : Fd) (h : Account view base (fd :: held) pipes given r) :
    Account view base held pipes given (k.traced.close fd r) :=
  h.lose (os.close fd r.world) rfl rfl rfl (.refl _) nofun

/-- Descriptors that are held are closed. -/
theorem closeAll (fds : List Fd) (h : Account view base (fds ++ held) pipes given r) :
    Account view base held pipes given (k.traced.closeAll fds r) := by
  induction fds generalizing r with
  | nil => exact h
  | cons fd fds ih => exact ih (close os fd h)

omit os in
/-- A call that is made again while it is interrupted changes nothing, if it does not when it is made once. -/
theorem retry {call : Traced W → Except Errno α × Traced W}
    (hcall : ∀ r, Account view base held pipes given r → Account view base held pipes given (call r).2)
    (h : Account view base held pipes given r) : Account view base held pipes given (k.traced.retry call r).2 := by
  rw [Kernel.retry]
  generalize k.traced.interruptions r = fuel
  induction fuel generalizing r with
  | zero => exact hcall r h
  | succ fuel ih =>
    have hnext := hcall r h
    rw [Kernel.retryFor]
    rcases hanswer : call r with ⟨e | a, r'⟩ <;> rw [hanswer] at hnext
    · by_cases he : e = .interrupted
      · simp only [he, if_true]
        exact ih hnext
      · simp only [he, if_false]
        exact hnext
    · exact hnext

/-- Waiting for a child changes nothing. -/
theorem await (child : Pid) (h : Account view base held pipes given r) :
    Account view base held pipes given (k.traced.await child r).2 :=
  h.idle (os.await child r.world) rfl rfl rfl nofun

/-- A step of the child changes nothing. -/
theorem perform (plan : ExecPlan) (child : Pid) (step : ChildStep) (h : Account view base held pipes given r) :
    Account view base held pipes given (plan.perform k.traced child step r).2 := by
  cases step with
  | session => exact h.stays (os.newSession child r.world)
  | mask bits => exact h.stays (os.setUmask child bits r.world)
  | stream fd target =>
    rw [ExecPlan.perform, ExecPlan.redirectFd]
    split
    · exact h.stays (os.keepOnExec child fd r.world)
    · exact retry (fun r h => h.stays (os.duplicate child fd target r.world)) h
  | directory path => exact h.stays (os.changeDirectory child path r.world)
  | program => exact h.stays (os.exec child _ _ _ r.world)

/-- What the child does up to its program changes nothing. -/
theorem run (plan : ExecPlan) (child : Pid) (report : Fd) (h : Account view base held pipes given r) :
    Account view base held pipes given (plan.run k.traced child report r) := by
  have hcourse : ∀ steps r, Account view base held pipes given r →
      Account view base held pipes given (plan.course k.traced child steps r).world := by
    intro steps
    induction steps with
    | nil => exact fun r h => h
    | cons step rest ih =>
      intro r h
      have hstep := perform os plan child step h
      rw [ExecPlan.course]
      rcases hanswer : plan.perform k.traced child step r with ⟨_ | _, r'⟩ <;> rw [hanswer] at hstep
      · exact hstep
      · exact ih r' hstep
  have hend := hcourse plan.childSteps r h
  rw [ExecPlan.run_eq, Course.concluded]
  split
  · exact hend
  · rename_i e _
    have hwritten := hend.stays (os.write child report (ExecPlan.reportOctets e) _)
    exact hwritten.stays (os.exit child execFailedExit _)

end Laws

end Account

/-- As long as streams are opened, all that was opened is held. -/
structure Opening (view : W → Holdings) (base : Holdings) (held : List Fd) (pipes : List (Fd × Fd)) (r : Traced W) :
    Prop extends Account view base held pipes [] r where
  all : (openings r.made).Perm held

namespace Opening

variable {view : W → Holdings} {base : Holdings} {held held' : List Fd} {pipes : List (Fd × Fd)} {r : Traced W}

theorem start (view : W → Holdings) (w : W) : Opening view (view w) [] [] (.start w) :=
  ⟨.start view w, .nil⟩

theorem perm (h : Opening view base held pipes r) (hperm : held.Perm held') : Opening view base held' pipes r :=
  ⟨h.toAccount.perm hperm, h.all.trans hperm⟩

/-- What a call opens is held as well. -/
theorem add (h : Opening view base held pipes r) {call : SystemCall} {w : W}
    (hmoves : call.Moves (view r.world) (view w)) (hparted : call.parted = []) (hgiven : call.given? = none)
    (hread : call.isRead = false) :
    Opening view base (call.opened ++ held) (pipes ++ call.pipe?.toList) (r.add call w) := by
  have hadd := h.toAccount.add hmoves (.of_eq (by rw [hparted, List.nil_append])) (.inr h.all)
    fun hreads => absurd hreads (by rw [hread]; decide)
  refine ⟨by simpa only [hgiven, Option.toList_none, List.append_nil] using hadd, ?_⟩
  have hopenings : openings (r.add call w).made = openings r.made ++ call.opened := by simp [openings]
  rw [hopenings]
  exact (h.all.append_right _).trans List.perm_append_comm

/-- A call that makes no pipe. -/
theorem plain (h : Opening view base held pipes r) {call : SystemCall} {w : W}
    (hmoves : call.Moves (view r.world) (view w)) (hparted : call.parted = []) (hgiven : call.given? = none)
    (hread : call.isRead = false) (hpipe : call.pipe? = none) :
    Opening view base (call.opened ++ held) pipes (r.add call w) := by
  simpa only [hpipe, Option.toList_none, List.append_nil] using h.add hmoves hparted hgiven hread

end Opening

end Offspring.Posix
