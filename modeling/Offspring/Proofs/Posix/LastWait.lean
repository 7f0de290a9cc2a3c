import Offspring.Proofs.Posix.Outcomes

/-!
# The last wait for a child

A child that has been launched is waited for again and again, until a wait comes back with what is left of it or
with an error that is no interruption. Of what has been written down behind a log, `Pending` says that all waits
were interrupted, and `Answered` that one more wait, the last one, has the given answer. The requests on a child
lead from the one to the other, and nothing is assumed of the kernel: should interruptions not come to an end, the
last of them is taken for the answer.
-/

namespace Offspring.Posix

variable {W : Type}

/-- The child that a wait is for, and its answer; a poll that finds the child running is none. -/
def SystemCall.waited? : SystemCall → Option (Pid × Except Errno Remains)
  | .await pid answer => some (pid, answer)
  | .poll pid (.ok (some remains)) => some (pid, .ok remains)
  | .poll pid (.error e) => some (pid, .error e)
  | _ => none

/-- The waits among calls, in order. -/
def waitsOf (made : List (Made W)) : List (Pid × Except Errno Remains) :=
  made.filterMap (·.call.waited?)

/-- Since the log, all waits for the child were interrupted. -/
def Pending (pid : Pid) (log : List (Made W)) (r : Traced W) : Prop :=
  ∃ later n, r.made = log ++ later ∧ waitsOf later = List.replicate n (pid, .error .interrupted)

/-- Since the log, all waits for the child were interrupted but the last, which has this answer. -/
def Answered (pid : Pid) (log : List (Made W)) (answer : Except Errno Remains) (r : Traced W) : Prop :=
  ∃ later n, r.made = log ++ later ∧
    waitsOf later = List.replicate n (pid, .error .interrupted) ++ [(pid, answer)]

section Adding

variable {pid : Pid} {log later : List (Made W)} {answer : Except Errno Remains} {r : Traced W} {call : SystemCall}
  {w : W}

theorem made_concat (hmade : r.made = log ++ later) (call : SystemCall) (w : W) :
    (r.add call w).made = log ++ (later ++ [⟨call, r.world⟩]) := by
  rw [Traced.made_add, hmade, List.append_assoc]

theorem waitsOf_concat (m : Made W) : waitsOf (later ++ [m]) = waitsOf later ++ m.call.waited?.toList := by
  cases hwaited : m.call.waited? <;> simp [waitsOf, hwaited]

theorem pending_now (pid : Pid) (r : Traced W) : Pending pid r.made r :=
  ⟨[], 0, (List.append_nil _).symm, rfl⟩

/-- A call that is no wait changes nothing. -/
theorem Pending.add (h : Pending pid log r) (hcall : call.waited? = none) : Pending pid log (r.add call w) := by
  obtain ⟨later, n, hmade, hwaits⟩ := h
  refine ⟨_, n, made_concat hmade call w, ?_⟩
  rw [waitsOf_concat, hcall, hwaits]
  exact List.append_nil _

theorem Pending.interrupted (h : Pending pid log r) (hcall : call.waited? = some (pid, .error .interrupted)) :
    Pending pid log (r.add call w) := by
  obtain ⟨later, n, hmade, hwaits⟩ := h
  refine ⟨_, n + 1, made_concat hmade call w, ?_⟩
  rw [waitsOf_concat, hcall, hwaits, List.replicate_succ']
  rfl

theorem Pending.answered (h : Pending pid log r) (hcall : call.waited? = some (pid, answer)) :
    Answered pid log answer (r.add call w) := by
  obtain ⟨later, n, hmade, hwaits⟩ := h
  refine ⟨_, n, made_concat hmade call w, ?_⟩
  rw [waitsOf_concat, hcall, hwaits]
  rfl

theorem Answered.add (h : Answered pid log answer r) (hcall : call.waited? = none) :
    Answered pid log answer (r.add call w) := by
  obtain ⟨later, n, hmade, hwaits⟩ := h
  refine ⟨_, n, made_concat hmade call w, ?_⟩
  rw [waitsOf_concat, hcall, hwaits]
  exact List.append_nil _

end Adding

namespace Child

variable {k : Kernel W} {c : Child} {log : List (Made W)} {r : Traced W}

/-- What a request that has found a child gone comes to: the outcome for the answer of the last wait, which the
child keeps. -/
structure Gone (c : Child) (log : List (Made W)) (answer : Except Errno Remains) (x : Outcome × Child × Traced W) :
    Prop where
  outcome : x.1 = outcomeOf answer
  keeps : x.2.1.exit.isSome
  answered : Answered c.pid log answer x.2.2

/-- The collecting thread is finished, and no wait is made for it. -/
theorem gone_conclude {answer : Except Errno Remains} (h : Answered c.pid log answer r) :
    Gone c log answer (c.conclude k.traced answer r) := by
  obtain ⟨w, hconclude⟩ := conclude_eq (k := k) (c := c) answer r
  have hmoved : Answered c.pid log answer (r.move w) := h
  rw [hconclude]
  refine ⟨rfl, rfl, ?_⟩
  cases hcollector : c.collector with
  | none => simpa only [finish, hcollector] using hmoved
  | some id =>
    simp only [finish, hcollector]
    exact hmoved.add rfl

/-- A wait comes back once the child has been found gone. -/
theorem gone_wait (hnew : c.exit = none) (h : Pending c.pid log r) :
    ∃ answer, Gone c log answer (c.wait k.traced r) := by
  obtain ⟨r', hpending, hretry⟩ : ∃ r', Pending c.pid log r' ∧ k.traced.retry (k.traced.await c.pid) r =
      r'.answered (.await c.pid) (k.await c.pid r'.world) :=
    Kernel.retryFor_traced (fun _ => rfl) (fun _ _ hpending => hpending.interrupted rfl) _ h
  simp only [wait, hnew, hretry]
  exact ⟨_, gone_conclude (hpending.answered rfl)⟩

/-- A poll finds the child running, or gone. -/
theorem gone_tryWait (hnew : c.exit = none) (h : Pending c.pid log r) :
    (∃ r', c.tryWait k.traced r = (none, c, r') ∧ Pending c.pid log r') ∨
      ∃ answer x, c.tryWait k.traced r = (some x.1, x.2) ∧ Gone c log answer x := by
  obtain ⟨r', hpending, hretry⟩ : ∃ r', Pending c.pid log r' ∧ k.traced.retry (k.traced.poll c.pid) r =
      r'.answered (.poll c.pid) (k.poll c.pid r'.world) :=
    Kernel.retryFor_traced (fun _ => rfl) (fun _ _ hpending => hpending.interrupted rfl) _ h
  simp only [tryWait, hnew, hretry]
  rcases k.poll c.pid r'.world with ⟨e | _ | remains, w⟩
  · exact .inr ⟨.error e, _, rfl, gone_conclude (hpending.answered rfl)⟩
  · exact .inl ⟨_, rfl, hpending.add rfl⟩
  · exact .inr ⟨.ok remains, _, rfl, gone_conclude (hpending.answered rfl)⟩

/-- A kill does not wait. -/
theorem pending_kill (h : Pending c.pid log r) : Pending c.pid log (c.kill k.traced r).2 :=
  c.kill_keeps (fun _ _ _ h => h.add rfl) (fun _ _ _ h => h.add rfl) (fun _ _ h => h) h

end Child

/-- A child that has just been launched has not been found gone. -/
theorem exit_of_launch {k : Kernel W} {spec : LaunchSpec} {options : LaunchOptions} {w w' : W} {child : Child}
    (hlaunch : launch k spec options w = (.ok child, w')) : child.exit = none := by
  have hsupervise : ∀ stdio reader pid w, supervise k spec options stdio reader pid w = (.ok child, w') →
      child.exit = none := by
    intro stdio reader pid w hdone
    rw [supervise] at hdone
    rcases hread : readReport k reader (k.interruptions w + 5) .empty w with ⟨_ | _ | _, w₁⟩ <;>
      rw [hread] at hdone <;> cases hdone
    rfl
  rw [launch] at hlaunch
  split at hlaunch
  · cases hlaunch
  · split at hlaunch
    · cases hlaunch
    · split at hlaunch
      · cases hlaunch
      · split at hlaunch
        · cases hlaunch
        · exact hsupervise _ _ _ _ hlaunch

end Offspring.Posix
