import Offspring.Proofs.Spawner.Contact

/-!
# What one call can do

`Step` lists the ways in which a call can go: the spawner before, the reply, the contacts, the spawner
after. Each call goes one of these ways from a spawner that holds a child exactly in the spawned state,
and every way leaves such a spawner behind. So a property of runs needs one case for each kind of step.

How a setting changes the configuration of a spawner that accepts it is left open here.
-/

namespace Offspring

variable {W C : Type}

/-- The contacts in which a wait learns the child's end. -/
def WaitPolicy.observation (delivered : Bool) (outcome : Outcome) : WaitPolicy → List Contact
  | .noHang => [.tryWait (some outcome)]
  | .infinite => [.wait outcome]
  | .needKill => [.kill delivered, .wait outcome]

namespace Spawner

/-- A child is held exactly in the spawned state. -/
def Coherent (s : Spawner C) : Prop :=
  s.child.isSome ↔ s.state = .spawned

/-- The spawner once its child has ended so. -/
def ended (s : Spawner C) (outcome : Outcome) : Spawner C :=
  { s with state := .ofStatus outcome.status, peakMemory := outcome.peakMemory, child := none }

/-- The reply to a setting that comes too late: only a redirection is refused aloud. -/
def Setting.late : Setting → Reply
  | .files .. | .buffer .. => .settled (.error .alreadySpawned)
  | .detach _ | .umask _ => .done

/-- Whether a call is for the child. -/
def Call.needsChild : Call → Bool
  | .kill | .wait _ => true
  | _ => false

/-- One call: the spawner before it, its reply, its contacts and the spawner after it. -/
inductive Step (b : Backend W C) : Call → Spawner C → Reply → List Contact → Spawner C → Prop
  | settle {s : Spawner C} (setting : Setting) (reply : Reply) (redirection : Redirection)
      (mode : ConsoleMode) (detach : Bool) (umask : Option Nat) (hs : s.state = .configuring) :
      Step b (.configure setting) s reply [] { s with redirection, mode, detach, umask }
  | late {s : Spawner C} (setting : Setting) (hs : s.state ≠ .configuring) :
      Step b (.configure setting) s setting.late [] s
  | launch {s : Spawner C} (spec : LaunchSpec) (child : C) (hs : s.state = .configuring) :
      Step b (.spawn spec) s (.number (b.pid child)) [.launch spec s.options (.ok (b.pid child))]
        { s with pid := b.pid child, child := some child, state := .spawned }
  | refuse {s : Spawner C} (spec : LaunchSpec) (cause : LaunchError) (hs : s.state = .configuring) :
      Step b (.spawn spec) s (.number invalidPid) [.launch spec s.options (.error cause)]
        { s with state := .unspawned }
  | used {s : Spawner C} (spec : LaunchSpec) (hs : s.state ≠ .configuring) :
      Step b (.spawn spec) s (.number invalidPid) [] s
  | kill {s : Spawner C} (child : C) (delivered : Bool) (hs : s.state = .spawned) :
      Step b .kill s (.flag delivered) [.kill delivered] { s with child := some child }
  | poll {s : Spawner C} (child : C) (hs : s.state = .spawned) :
      Step b (.wait .noHang) s (.flag true) [.tryWait none] { s with child := some child }
  | observe {s : Spawner C} (policy : WaitPolicy) (delivered : Bool) (outcome : Outcome)
      (hs : s.state = .spawned) :
      Step b (.wait policy) s (.flag false) (policy.observation delivered outcome ++ [.release])
        (s.ended outcome)
  | childless {s : Spawner C} (call : Call) (hcall : call.needsChild) (hs : s.state ≠ .spawned) :
      Step b call s (.flag false) [] s
  | mark {s : Spawner C} : Step b .markSignaled s .done [] s.markSignaled
  | view {s : Spawner C} (view : View) : Step b (.view view) s (view.reply b s) [] s

/-- Configuration is accepted in the first state only. -/
@[simp] theorem isConfiguring_iff (s : Spawner C) : s.isConfiguring = true ↔ s.state = .configuring := by
  simp [isConfiguring]

/-- What routing to files does to a spawner that accepts configuration. -/
theorem configureFiles_of_configuring (s : Spawner C) (files : StreamFiles) (mode : ConsoleMode)
    (hs : s.state = .configuring) :
    s.configureFiles files mode =
      if files.isEmpty then .ok s
      else (s.redirection.setFiles files).map fun redirection => { s with redirection, mode } := by
  unfold configureFiles
  rw [if_pos (s.isConfiguring_iff.mpr hs)]
  cases s.redirection.setFiles files <;> rfl

/-- What gathering in a buffer does to a spawner that accepts configuration. -/
theorem configureBuffer_of_configuring (s : Spawner C) (sink : Sink) (mode : ConsoleMode)
    (hs : s.state = .configuring) :
    s.configureBuffer sink mode =
      (s.redirection.setBuffer sink).map fun redirection => { s with redirection, mode } := by
  unfold configureBuffer
  rw [if_pos (s.isConfiguring_iff.mpr hs)]
  cases s.redirection.setBuffer sink <;> rfl

/-- A setting is taken while the spawner is configured, and refused or ignored afterwards. -/
theorem step_configure (b : Backend W C) (x : Scene W C) (setting : Setting) :
    Step b (.configure setting) x.spawner (x.perform b (.configure setting)).1
      (x.contacts b [.configure setting]) (x.perform b (.configure setting)).2.spawner := by
  obtain ⟨s, w⟩ := x
  by_cases hs : s.state = .configuring
  · have hsettle := fun reply redirection mode detach umask =>
      Step.settle (b := b) setting reply redirection mode detach umask hs
    cases setting with
    | files files mode =>
      have hsame := hsettle (.settled (.ok ())) s.redirection s.mode s.detach s.umask
      simp only [Scene.perform, Scene.configure, Scene.contacts, Scene.recording, Scene.run_cons,
        Scene.run_nil, configureFiles_of_configuring s files mode hs]
      split
      · exact hsame
      · cases s.redirection.setFiles files with
        | error cause => exact hsettle _ s.redirection s.mode s.detach s.umask
        | ok redirection => exact hsettle _ redirection mode s.detach s.umask
    | buffer sink mode =>
      simp only [Scene.perform, Scene.configure, Scene.contacts, Scene.recording, Scene.run_cons,
        Scene.run_nil, configureBuffer_of_configuring s sink mode hs]
      cases s.redirection.setBuffer sink with
      | error cause => exact hsettle _ s.redirection s.mode s.detach s.umask
      | ok redirection => exact hsettle _ redirection mode s.detach s.umask
    | detach detach =>
      simpa [Scene.perform, Scene.configure, Scene.contacts, Scene.recording, configureDetach,
        hs] using hsettle .done s.redirection s.mode detach s.umask
    | umask umask =>
      simpa [Scene.perform, Scene.configure, Scene.contacts, Scene.recording, configureUmask,
        hs] using hsettle .done s.redirection s.mode s.detach (some umask)
  · have hlate := Step.late (b := b) setting hs
    cases setting <;>
      simpa [Scene.perform, Scene.configure, Scene.contacts, Scene.recording, Scene.accept,
        configureFiles, configureBuffer, configureDetach, configureUmask, hs, Backend.recorded,
        Setting.late] using hlate

/-- Only an unused spawner launches. -/
theorem step_spawn (b : Backend W C) (x : Scene W C) (spec : LaunchSpec) :
    Step b (.spawn spec) x.spawner (x.perform b (.spawn spec)).1 (x.contacts b [.spawn spec])
      (x.perform b (.spawn spec)).2.spawner := by
  obtain ⟨s, w⟩ := x
  by_cases hs : s.state = .configuring
  · rcases hl : b.launch spec s.options w with ⟨cause | child, w'⟩
    · simpa [Scene.perform, Scene.contacts, Scene.recording, spawn, hs, hl,
        Backend.recorded, Recorded.add, Except.map] using Step.refuse (b := b) spec cause hs
    · simpa [Scene.perform, Scene.contacts, Scene.recording, spawn, hs, hl,
        Backend.recorded, Recorded.add, Except.map] using Step.launch (b := b) spec child hs
  · simpa [Scene.perform, Scene.contacts, Scene.recording, spawn, hs,
      Backend.recorded] using Step.used (b := b) spec hs

section Held

variable (b : Backend W C) (x : Scene W C) {child child' : C} {w : W} (hchild : x.spawner.child = some child)

include hchild

/-- A kill of the child that is held. -/
theorem perform_kill_of_child {delivered : Bool} (hs : x.spawner.state = .spawned)
    (hkill : b.kill child x.world = (delivered, child', w)) :
    (x.perform b .kill).1 = .flag delivered ∧ x.contacts b [.kill] = [.kill delivered] ∧
      (x.perform b .kill).2.spawner = { x.spawner with child := some child' } := by
  simp [Scene.perform, Scene.contacts, Scene.recording, kill, hchild, hs, hkill, Lifecycle.isRunning,
    Backend.recorded, Recorded.add]

/-- A poll that finds the child running. -/
theorem perform_noHang_of_running (hpoll : b.tryWait child x.world = (none, child', w)) :
    (x.perform b (.wait .noHang)).1 = .flag true ∧ x.contacts b [.wait .noHang] = [.tryWait none] ∧
      (x.perform b (.wait .noHang)).2.spawner = { x.spawner with child := some child' } := by
  simp [Scene.perform, Scene.contacts, Scene.recording, wait, hchild, hpoll, Backend.recorded, Recorded.add]

/-- A poll that finds the child's end. -/
theorem perform_noHang_of_ended {outcome : Outcome}
    (hpoll : b.tryWait child x.world = (some outcome, child', w)) :
    (x.perform b (.wait .noHang)).1 = .flag false ∧
      x.contacts b [.wait .noHang] = [.tryWait (some outcome), .release] ∧
      (x.perform b (.wait .noHang)).2.spawner = x.spawner.ended outcome := by
  simp [Scene.perform, Scene.contacts, Scene.recording, wait, hchild, hpoll, Backend.recorded,
    Recorded.add, recordExit, ended]

/-- A wait until the child's end. -/
theorem perform_infinite_of_child {outcome : Outcome}
    (hwait : (b.wait child x.world).1 = outcome) :
    (x.perform b (.wait .infinite)).1 = .flag false ∧
      x.contacts b [.wait .infinite] = [.wait outcome, .release] ∧
      (x.perform b (.wait .infinite)).2.spawner = x.spawner.ended outcome := by
  subst hwait
  simp [Scene.perform, Scene.contacts, Scene.recording, wait, hchild, Backend.recorded, Recorded.add,
    recordExit, ended]

/-- A kill and a wait until the child's end. -/
theorem perform_needKill_of_child {delivered : Bool} {outcome : Outcome}
    (hkill : b.kill child x.world = (delivered, child', w))
    (hwait : (b.wait child' (if delivered then b.note .killedBeforeWaiting w else w)).1 = outcome) :
    (x.perform b (.wait .needKill)).1 = .flag false ∧
      x.contacts b [.wait .needKill] = [.kill delivered, .wait outcome, .release] ∧
      (x.perform b (.wait .needKill)).2.spawner = x.spawner.ended outcome := by
  subst hwait
  cases delivered <;>
    simp [Scene.perform, Scene.contacts, Scene.recording, wait, hchild, hkill, Backend.recorded,
      Recorded.add, recordExit, ended]

end Held

/-- A kill reaches the child that is held, and nothing otherwise. -/
theorem step_kill (b : Backend W C) (x : Scene W C) (hx : x.spawner.Coherent) :
    Step b .kill x.spawner (x.perform b .kill).1 (x.contacts b [.kill]) (x.perform b .kill).2.spawner := by
  cases hchild : x.spawner.child with
  | none =>
    have hs : x.spawner.state ≠ .spawned := fun hs => by simpa [hchild] using hx.mpr hs
    simpa [Scene.perform, Scene.contacts, Scene.recording, kill, hchild] using
      Step.childless (b := b) .kill rfl hs
  | some child =>
    have hs : x.spawner.state = .spawned := hx.mp (by simp [hchild])
    rcases hkill : b.kill child x.world with ⟨delivered, child', w⟩
    obtain ⟨hreply, hmade, hspawner⟩ := perform_kill_of_child b x hchild hs hkill
    rw [hreply, hmade, hspawner]
    exact .kill child' delivered hs

/-- A wait asks the child that is held, and releases it with its outcome. -/
theorem step_wait (b : Backend W C) (x : Scene W C) (policy : WaitPolicy) (hx : x.spawner.Coherent) :
    Step b (.wait policy) x.spawner (x.perform b (.wait policy)).1 (x.contacts b [.wait policy])
      (x.perform b (.wait policy)).2.spawner := by
  cases hchild : x.spawner.child with
  | none =>
    have hs : x.spawner.state ≠ .spawned := fun hs => by simpa [hchild] using hx.mpr hs
    simpa [Scene.perform, Scene.contacts, Scene.recording, wait, hchild] using
      Step.childless (b := b) (.wait policy) rfl hs
  | some child =>
    have hs : x.spawner.state = .spawned := hx.mp (by simp [hchild])
    cases policy with
    | noHang =>
      rcases hpoll : b.tryWait child x.world with ⟨_ | outcome, child', w⟩
      · obtain ⟨hreply, hmade, hspawner⟩ := perform_noHang_of_running b x hchild hpoll
        rw [hreply, hmade, hspawner]
        exact .poll child' hs
      · obtain ⟨hreply, hmade, hspawner⟩ := perform_noHang_of_ended b x hchild hpoll
        rw [hreply, hmade, hspawner]
        exact .observe .noHang false outcome hs
    | infinite =>
      obtain ⟨hreply, hmade, hspawner⟩ := perform_infinite_of_child b x hchild rfl
      rw [hreply, hmade, hspawner]
      exact .observe .infinite false _ hs
    | needKill =>
      rcases hkill : b.kill child x.world with ⟨delivered, child', w⟩
      obtain ⟨hreply, hmade, hspawner⟩ := perform_needKill_of_child b x hchild hkill rfl
      rw [hreply, hmade, hspawner]
      exact .observe .needKill delivered _ hs

/-- Every call goes one of the listed ways. -/
theorem step_perform (b : Backend W C) (x : Scene W C) (call : Call) (hx : x.spawner.Coherent) :
    Step b call x.spawner (x.perform b call).1 (x.contacts b [call]) (x.perform b call).2.spawner := by
  cases call with
  | configure setting => exact step_configure b x setting
  | spawn spec => exact step_spawn b x spec
  | kill => exact step_kill b x hx
  | wait policy => exact step_wait b x policy hx
  | markSignaled => exact .mark
  | view view => exact .view view

/-- The states before a child's end differ from those after it. -/
theorem ofStatus_ne (status : ExitStatus) :
    Lifecycle.ofStatus status ≠ .configuring ∧ Lifecycle.ofStatus status ≠ .unspawned ∧
      Lifecycle.ofStatus status ≠ .spawned := by
  cases status <;> simp [Lifecycle.ofStatus]

/-- The state after a child's end tells how it ended. -/
theorem ofStatus_injective : Function.Injective Lifecycle.ofStatus := by
  intro a c h
  cases a <;> cases c <;> simp_all [Lifecycle.ofStatus]

/-- Every way a call can go keeps a child exactly in the spawned state. -/
theorem Step.coherent {b : Backend W C} {call : Call} {s s' : Spawner C} {reply : Reply}
    {made : List Contact} (h : Step b call s reply made s') (hs : s.Coherent) : s'.Coherent := by
  cases h with
  | settle => exact hs
  | launch => simp [Coherent]
  | refuse _ _ hstate => simpa [Coherent, hstate] using hs
  | kill _ _ hstate | poll _ hstate => simp [Coherent, hstate]
  | observe => simp [Coherent, ended, ofStatus_ne]
  | late | used | childless | mark | view => exact hs

/-- What every step keeps of the contacts so far and the spawner, a run keeps. -/
theorem run_preserves (b : Backend W C) {P : List Contact → Spawner C → Prop}
    (hstep : ∀ {call s reply made s' log}, Step b call s reply made s' → P log s → P (log ++ made) s')
    (x : Scene W C) (log : List Contact) (calls : List Call) (hx : x.spawner.Coherent)
    (h : P log x.spawner) : P (log ++ x.contacts b calls) (x.run b calls).spawner := by
  induction calls generalizing x log with
  | nil => simpa using h
  | cons call calls ih =>
    have hcall := step_perform b x call hx
    rw [Scene.contacts_cons, ← List.append_assoc, Scene.run_cons]
    exact ih _ _ (hcall.coherent hx) (hstep hcall h)

/-- A spawner that has not been used holds no child. -/
theorem coherent_fresh (w : W) : (Scene.fresh w : Scene W C).spawner.Coherent := by
  simp [Scene.fresh, Coherent]

/-- A run leaves a child exactly in the spawned state. -/
theorem coherent_run (b : Backend W C) (x : Scene W C) (calls : List Call) (hx : x.spawner.Coherent) :
    (x.run b calls).spawner.Coherent :=
  run_preserves b (P := fun _ s => s.Coherent) (fun h hs => h.coherent hs) x [] calls hx hx

end Spawner

end Offspring
