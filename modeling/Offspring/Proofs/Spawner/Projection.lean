import Offspring.Proofs.Spawner.Call

/-!
# Backends in projected worlds

A part of the world may be of no concern: what is told to a listener, what was written down before. One
backend projects to another one if both answer alike and the worlds of the first are taken to those of the
second. Then all calls on a spawner are answered alike over both, and lead to the same spawners.
-/

namespace Offspring

variable {W V C : Type}

/-- Both backends answer alike, and `project` takes the worlds of the first to those of the second. -/
structure Backend.Projects (b : Backend W C) (b' : Backend V C) (project : W → V) : Prop where
  name : b'.name = b.name
  supportsSignals : b'.supportsSignals = b.supportsSignals
  launch : ∀ spec options w,
    b'.launch spec options (project w) = (b.launch spec options w).map id project
  pid : b'.pid = b.pid
  tryWait : ∀ c w, b'.tryWait c (project w) = (b.tryWait c w).map id (Prod.map id project)
  wait : ∀ c w, b'.wait c (project w) = (b.wait c w).map id (Prod.map id project)
  kill : ∀ c w, b'.kill c (project w) = (b.kill c w).map id (Prod.map id project)
  release : ∀ c w, b'.release c (project w) = project (b.release c w)
  note : ∀ event w, b'.note event (project w) = project (b.note event w)

namespace Spawner

/-- A scene with its world projected. -/
def Scene.map (project : W → V) (x : Scene W C) : Scene V C :=
  ⟨x.spawner, project x.world⟩

/-- A call is answered alike in a projected world. -/
theorem perform_map {b : Backend W C} {b' : Backend V C} {project : W → V} (h : b.Projects b' project)
    (x : Scene W C) (call : Call) :
    (x.map project).perform b' call = (x.perform b call).map id (Scene.map project) := by
  obtain ⟨s, w⟩ := x
  cases call with
  | configure setting =>
    cases setting with
    | files files mode =>
      cases hset : s.configureFiles files mode <;>
        simp [Scene.map, Scene.perform, Scene.configure, Scene.accept, hset]
    | buffer sink mode =>
      cases hset : s.configureBuffer sink mode <;>
        simp [Scene.map, Scene.perform, Scene.configure, Scene.accept, hset]
    | detach detach =>
      cases hs : s.isConfiguring <;>
        simp [Scene.map, Scene.perform, Scene.configure, configureDetach, hs, h.note]
    | umask umask =>
      cases hs : s.isConfiguring <;>
        simp [Scene.map, Scene.perform, Scene.configure, configureUmask, hs, h.note]
  | spawn spec =>
    cases hs : s.isConfiguring with
    | false => simp [Scene.map, Scene.perform, spawn, hs, h.note]
    | true =>
      rcases hl : b.launch spec s.options w with ⟨cause | child, w'⟩ <;>
        simp [Scene.map, Scene.perform, spawn, hs, h.launch, hl, h.note, h.pid, h.name]
  | kill =>
    cases hchild : s.child with
    | none => simp [Scene.map, Scene.perform, kill, hchild]
    | some child =>
      cases hr : s.state.isRunning <;> simp [Scene.map, Scene.perform, kill, hchild, hr, h.kill]
  | wait policy =>
    cases hchild : s.child with
    | none => simp [Scene.map, Scene.perform, wait, hchild]
    | some child =>
      cases policy with
      | noHang =>
        rcases ht : b.tryWait child w with ⟨_ | outcome, c, w'⟩ <;>
          simp [Scene.map, Scene.perform, wait, hchild, h.tryWait, ht, recordExit, h.note, h.release]
      | infinite =>
        simp [Scene.map, Scene.perform, wait, hchild, h.wait, recordExit, h.note, h.release]
      | needKill =>
        rcases hk : b.kill child w with ⟨_ | _, c, w'⟩ <;>
          simp [Scene.map, Scene.perform, wait, hchild, h.kill, hk, h.wait, recordExit, h.note, h.release]
  | markSignaled => rfl
  | view view => cases view <;> simp [Scene.map, Scene.perform, View.reply, terminationSignal, h.supportsSignals]

/-- A run goes alike in a projected world. -/
theorem run_map {b : Backend W C} {b' : Backend V C} {project : W → V} (h : b.Projects b' project)
    (x : Scene W C) (calls : List Call) : (x.map project).run b' calls = (x.run b calls).map project := by
  induction calls generalizing x with
  | nil => rfl
  | cons call calls ih =>
    rw [Scene.run_cons, perform_map h, Scene.run_cons]
    exact ih _

/-- Waiting goes alike in a projected world. -/
theorem wait_map {b : Backend W C} {b' : Backend V C} {project : W → V}
    (h : b.Projects b' project) (s : Spawner C) (policy : WaitPolicy) (w : W) :
    s.wait b' policy (project w) = (s.wait b policy w).map id (Prod.map id project) := by
  have hcall := perform_map h ⟨s, w⟩ (.wait policy)
  simp only [Scene.map, Scene.perform, Prod.map, id, Prod.mk.injEq, Reply.flag.injEq,
    Scene.mk.injEq] at hcall
  exact Prod.ext hcall.1 (Prod.ext hcall.2.1 hcall.2.2)

end Spawner

end Offspring
