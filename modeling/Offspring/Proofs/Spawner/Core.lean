import Offspring.Proofs.Spawner.Step

/-!
# What calls depend on

What is told about the work goes to a listener, and a backend does not hear it. So the worlds here are
pairs, the backend's own one and the listener's, about which nothing is assumed; and the caller's flag is
nobody else's business. The `core` of a scene is what is left without the listener and that flag. Every
call works on the core alone, and so do its answer and its contacts, but for the flag itself.
-/

namespace Offspring

variable {W V L C : Type}

/-- Recording keeps a projection. -/
theorem Backend.Projects.recorded {b : Backend W C} {b' : Backend V C} {project : W → V}
    (h : b.Projects b' project) :
    b.recorded.Projects b'.recorded fun r => ⟨project r.world, r.contacts⟩ where
  name := h.name
  supportsSignals := h.supportsSignals
  launch spec options r := by simp [Backend.recorded, h.launch, h.pid, Recorded.add]
  pid := h.pid
  tryWait c r := by simp [Backend.recorded, h.tryWait, Recorded.add]
  wait c r := by simp [Backend.recorded, h.wait, Recorded.add]
  kill c r := by simp [Backend.recorded, h.kill, Recorded.add]
  release c r := by simp [Backend.recorded, h.release, Recorded.add]
  note event r := by simp [Backend.recorded, h.note]

/-- The backend of which a listener hears, and which does not hear of itself. -/
def Backend.heardBy (b : Backend W C) (listen : Event → L → L) : Backend (W × L) C where
  name := b.name
  supportsSignals := b.supportsSignals
  launch spec options w :=
    let (answer, own) := b.launch spec options w.1
    (answer, own, w.2)
  pid := b.pid
  tryWait c w :=
    let (answer, c, own) := b.tryWait c w.1
    (answer, c, own, w.2)
  wait c w :=
    let (outcome, c, own) := b.wait c w.1
    (outcome, c, own, w.2)
  kill c w :=
    let (delivered, c, own) := b.kill c w.1
    (delivered, c, own, w.2)
  release c w := (b.release c w.1, w.2)
  note event w := (w.1, listen event w.2)

/-- The backend of which nobody hears. -/
def Backend.unheard (b : Backend W C) : Backend W C :=
  { b with note := fun _ w => w }

/-- A listener has no part in what the backend does. -/
theorem Backend.heardBy_projects (b : Backend W C) (listen : Event → L → L) :
    (b.heardBy listen).Projects b.unheard Prod.fst where
  name := rfl
  supportsSignals := rfl
  launch _ _ _ := rfl
  pid := rfl
  tryWait _ _ := rfl
  wait _ _ := rfl
  kill _ _ := rfl
  release _ _ := rfl
  note _ _ := rfl

namespace Spawner

/-- A run reaches the backend alike in a projected world. -/
theorem contacts_map {b : Backend W C} {b' : Backend V C} {project : W → V} (h : b.Projects b' project)
    (x : Scene W C) (calls : List Call) : (x.map project).contacts b' calls = x.contacts b calls :=
  congrArg (fun y => y.world.contacts) (run_map h.recorded (x.recording []) calls)

/-- The spawner with the caller's flag as given. -/
def flagged (s : Spawner C) (flag : Bool) : Spawner C :=
  { s with signaled := flag }

/-- A scene with the caller's flag as given. -/
def Scene.flagged (x : Scene W C) (flag : Bool) : Scene W C :=
  { x with spawner := x.spawner.flagged flag }

/-- Routing to files has no use for the flag. -/
theorem configureFiles_flagged (s : Spawner C) (flag : Bool) (files : StreamFiles) (mode : ConsoleMode) :
    (s.flagged flag).configureFiles files mode = (s.configureFiles files mode).map (·.flagged flag) := by
  by_cases hs : s.state = .configuring
  · rw [configureFiles_of_configuring s files mode hs,
      configureFiles_of_configuring (s.flagged flag) files mode hs]
    split
    · rfl
    · change (s.redirection.setFiles files).map _ = _
      cases s.redirection.setFiles files <;> rfl
  · simp [configureFiles, flagged, hs, Except.map]

/-- Gathering in a buffer has no use for the flag. -/
theorem configureBuffer_flagged (s : Spawner C) (flag : Bool) (sink : Sink) (mode : ConsoleMode) :
    (s.flagged flag).configureBuffer sink mode = (s.configureBuffer sink mode).map (·.flagged flag) := by
  by_cases hs : s.state = .configuring
  · rw [configureBuffer_of_configuring s sink mode hs,
      configureBuffer_of_configuring (s.flagged flag) sink mode hs]
    change (s.redirection.setBuffer sink).map _ = _
    cases s.redirection.setBuffer sink <;> rfl
  · simp [configureBuffer, flagged, hs, Except.map]

/-- The caller's flag has no part in a call, but where it is written or read. -/
theorem perform_flagged (b : Backend W C) (x : Scene W C) (flag : Bool) (call : Call)
    (hcall : call ≠ .markSignaled) :
    ((x.flagged flag).perform b call).2 = (x.perform b call).2.flagged flag ∧
      (call ≠ .view .isSignaled → ((x.flagged flag).perform b call).1 = (x.perform b call).1) := by
  obtain ⟨s, w⟩ := x
  cases call with
  | configure setting =>
    cases setting with
    | files files mode =>
      have hset := configureFiles_flagged s flag files mode
      cases h : s.configureFiles files mode <;>
        simp [Scene.flagged, Scene.perform, Scene.configure, Scene.accept, hset, h, Except.map]
    | buffer sink mode =>
      have hset := configureBuffer_flagged s flag sink mode
      cases h : s.configureBuffer sink mode <;>
        simp [Scene.flagged, Scene.perform, Scene.configure, Scene.accept, hset, h, Except.map]
    | detach detach =>
      by_cases hs : s.state = .configuring <;>
        simp [Scene.flagged, flagged, Scene.perform, Scene.configure, configureDetach, hs]
    | umask umask =>
      by_cases hs : s.state = .configuring <;>
        simp [Scene.flagged, flagged, Scene.perform, Scene.configure, configureUmask, hs]
  | spawn spec =>
    by_cases hs : s.state = .configuring
    · have hoptions : (s.flagged flag).options = s.options := rfl
      have hconfiguring : (s.flagged flag).isConfiguring = true := (isConfiguring_iff _).mpr hs
      rcases hl : b.launch spec s.options w with ⟨cause | child, w'⟩ <;>
        simp [Scene.flagged, Scene.perform, spawn, hs, hconfiguring, hoptions, hl] <;> simp [flagged]
    · simp [Scene.flagged, flagged, Scene.perform, spawn, hs]
  | kill =>
    cases hchild : s.child with
    | none => simp [Scene.flagged, flagged, Scene.perform, kill, hchild]
    | some child =>
      cases hr : s.state.isRunning <;> simp [Scene.flagged, flagged, Scene.perform, kill, hchild, hr]
  | wait policy =>
    cases hchild : s.child with
    | none => simp [Scene.flagged, flagged, Scene.perform, wait, hchild]
    | some child =>
      cases policy with
      | noHang =>
        rcases ht : b.tryWait child w with ⟨_ | outcome, c, w'⟩ <;>
          simp [Scene.flagged, flagged, Scene.perform, wait, hchild, ht, recordExit]
      | infinite => simp [Scene.flagged, flagged, Scene.perform, wait, hchild, recordExit]
      | needKill =>
        rcases hk : b.kill child w with ⟨_ | _, c, w'⟩ <;>
          simp [Scene.flagged, flagged, Scene.perform, wait, hchild, hk, recordExit]
  | markSignaled => exact absurd rfl hcall
  | view view =>
    refine ⟨rfl, fun hview => ?_⟩
    cases view with
    | isSignaled => exact absurd rfl hview
    | _ => rfl

/-- Where the flag is neither written nor read, contacts are made without it. -/
theorem contacts_flagged (b : Backend W C) (x : Scene W C) (flag : Bool) (call : Call)
    (hcall : call ≠ .markSignaled) : (x.flagged flag).contacts b [call] = x.contacts b [call] :=
  congrArg (fun y => y.world.contacts) (perform_flagged b.recorded (x.recording []) flag call hcall).1

/-- A scene without the caller's flag, in the projected world. -/
def Scene.core (project : W → V) (x : Scene W C) : Scene V C :=
  (x.map project).flagged false

section Core

variable {b : Backend W C} {b' : Backend V C} {project : W → V}

/-- Nothing but the flag is read outside of the core. -/
theorem core_perform (h : b.Projects b' project) (x : Scene W C) (call : Call)
    (hcall : call ≠ .markSignaled) :
    (x.perform b call).2.core project = ((x.core project).perform b' call).2 ∧
      x.contacts b [call] = (x.core project).contacts b' [call] ∧
      (call ≠ .view .isSignaled → (x.perform b call).1 = ((x.core project).perform b' call).1) := by
  obtain ⟨hcore, hreply⟩ := perform_flagged b' (x.map project) false call hcall
  rw [perform_map h] at hcore hreply
  refine ⟨hcore.symm, ?_, fun hview => (hreply hview).symm⟩
  rw [← contacts_map h, Scene.core, contacts_flagged b' _ false call hcall]

/-- Scenes with one core answer alike, but for the flag, and keep one core. -/
theorem core_congr (h : b.Projects b' project) {x y : Scene W C} (hxy : x.core project = y.core project)
    (call : Call) :
    (x.perform b call).2.core project = (y.perform b call).2.core project ∧
      x.contacts b [call] = y.contacts b [call] ∧
      (call ≠ .view .isSignaled → (x.perform b call).1 = (y.perform b call).1) := by
  by_cases hcall : call = .markSignaled
  · subst hcall
    exact ⟨hxy, rfl, fun _ => rfl⟩
  · obtain ⟨hxcore, hxmade, hxreply⟩ := core_perform h x call hcall
    obtain ⟨hycore, hymade, hyreply⟩ := core_perform h y call hcall
    rw [hxcore, hycore, hxmade, hymade, hxy]
    exact ⟨rfl, rfl, fun hview => by rw [hxreply hview, hyreply hview, hxy]⟩

end Core

end Spawner

end Offspring
