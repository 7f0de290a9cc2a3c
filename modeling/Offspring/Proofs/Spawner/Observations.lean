import Offspring.Proofs.Spawner.Chronicle

/-!
# What a spawner shows of its child

The state, the child that is held and the five observations live in different fields and change in
different calls. They agree after every call of every run, whatever the backend answers: the number shown
is the one of the child that was launched, and the peak memory shown is the one of the outcome that the
child delivered. Both are taken from the contacts of the run, not from the spawner.
-/

namespace Offspring.Spawner

variable {W C : Type}

/-- The observations of a spawner agree with its state and with the contacts that have led to it. -/
structure Shows (b : Backend W C) (log : List Contact) (s : Spawner C) : Prop where
  held : s.child.isSome ↔ s.state = .spawned
  running : s.isRunning = true ↔ s.state = .spawned
  numberless : s.state = .configuring ∨ s.state = .unspawned →
    log.filterMap Contact.number? = [] ∧ s.pid = invalidPid
  /-- One child was launched, and its number is shown from then on. -/
  number : s.state ≠ .configuring → s.state ≠ .unspawned → log.filterMap Contact.number? = [s.pid]
  peakless : (∀ status, s.state ≠ .ofStatus status) →
    log.filterMap Contact.outcome? = [] ∧ s.peakMemory = memoryUnavailable
  /-- One outcome was delivered, and its status and its peak memory are shown. -/
  peak : ∀ status, s.state = .ofStatus status →
    log.filterMap Contact.outcome? = [⟨status, s.peakMemory⟩]
  code : ∀ code, s.state = .exited code → s.exitCode = code
  codeless : (∀ code, s.state ≠ .exited code) → s.exitCode = noExitCode
  signal : b.supportsSignals → ∀ signal, s.state = .signaled signal → s.terminationSignal b = signal
  signalless : b.supportsSignals → (∀ signal, s.state ≠ .signaled signal) →
    s.terminationSignal b = noSignal
  inapplicable : b.supportsSignals = false → s.terminationSignal b = signalNotApplicable

/-- The accessors of a spawner whose contacts tell its state. -/
theorem Chronicle.shows {log : List Contact} {s : Spawner C} (b : Backend W C) (h : Chronicle log s) :
    Shows b log s where
  held := h.coherent
  running := by cases hs : s.state <;> simp [isRunning, hs, Lifecycle.isRunning]
  numberless := h.numbers.1
  number := h.numbers.2
  peakless := h.outcomes.1
  peak := h.outcomes.2
  code code hs := by simp [exitCode, hs]
  codeless hs := by
    unfold exitCode
    split
    · exact absurd ‹_› (hs _)
    · rfl
  signal hb signal hs := by simp [terminationSignal, hb, hs]
  signalless hb hs := by
    unfold terminationSignal
    rw [if_pos hb]
    split
    · exact absurd ‹_› (hs _)
    · rfl
  inapplicable hb := by simp [terminationSignal, hb]

/-- The launch settles the number that is shown. -/
theorem Step.pid_eq {b : Backend W C} {call : Call} {s s' : Spawner C} {reply : Reply}
    {made : List Contact} (h : Step b call s reply made s') (hs : s.state ≠ .configuring) :
    s'.state ≠ .configuring ∧ s'.pid = s.pid := by
  cases h with
  | settle _ _ _ _ _ _ hstate | launch _ _ hstate | refuse _ _ hstate => exact absurd hstate hs
  | observe => exact ⟨(ofStatus_ne _).1, rfl⟩
  | late | used | kill | poll | childless | mark | view => exact ⟨hs, rfl⟩

/-- After every call, a spawner shows what the contacts tell of its child, and the number of a child
that has been launched for ever. -/
theorem observations_agree (b : Backend W C) (w : W) (calls later : List Call) :
    Shows b ((Scene.fresh w).contacts b calls) ((Scene.fresh w).run b calls).spawner ∧
      (((Scene.fresh w).run b calls).spawner.state = .spawned →
        ((Scene.fresh w).run b (calls ++ later)).spawner.pid =
          ((Scene.fresh w).run b calls).spawner.pid) := by
  have hchronicle := chronicle_run b w calls
  refine ⟨hchronicle.shows b, fun hs => ?_⟩
  let x := (Scene.fresh w).run b calls
  have hkeep := run_preserves b (P := fun _ s => s.state ≠ .configuring ∧ s.pid = x.spawner.pid)
    (fun h hold => ⟨(h.pid_eq hold.1).1, (h.pid_eq hold.1).2.trans hold.2⟩) x [] later hchronicle.coherent
    ⟨by simp [x, hs], rfl⟩
  rw [Scene.run_append]
  exact hkeep.2

end Offspring.Spawner
