import Mathlib.Data.List.Induction
import Offspring.Proofs.Spawner.Lifecycle

/-!
# While a child is out

A wait tells whether the child is out. So a child that was launched is out for exactly as long as no wait
has denied it, whatever else is called. Calls that are not for the child leave it alone.
-/

namespace Offspring.Spawner

variable {W C : Type}

/-- A call that is not for the child leaves a running one as it is, and does not reach it. -/
theorem Step.keeps_child {b : Backend W C} {call : Call} {s s' : Spawner C} {reply : Reply}
    {made : List Contact} (h : Step b call s reply made s') (hcall : call.needsChild = false)
    (hs : s.state = .spawned) : s'.state = .spawned ∧ s'.child = s.child ∧ made = [] := by
  cases h with
  | settle _ _ _ _ _ _ hstate | launch _ _ hstate | refuse _ _ hstate => simp [hs] at hstate
  | kill | poll | observe => simp [Call.needsChild] at hcall
  | childless _ hneeds => simp [hcall] at hneeds
  | late | used | mark | view => exact ⟨hs, rfl, rfl⟩

/-- Nothing is reached but by the launch of an unused spawner and by questions to a child that is out. -/
theorem Step.made_eq_nil {b : Backend W C} {call : Call} {s s' : Spawner C} {reply : Reply}
    {made : List Contact} (h : Step b call s reply made s')
    (hlaunch : ∀ spec, call = .spawn spec → s.state ≠ .configuring)
    (hask : call.needsChild → s.state ≠ .spawned) : made = [] := by
  cases h with
  | launch spec _ hs | refuse spec _ hs => exact absurd hs (hlaunch spec rfl)
  | kill _ _ hs | poll _ hs | observe _ _ _ hs => exact absurd hs (hask rfl)
  | settle | late | used | childless | mark | view => rfl

/-- A used spawner that has a child out after a call had it out before. -/
theorem Step.spawned_before {b : Backend W C} {call : Call} {s s' : Spawner C} {reply : Reply}
    {made : List Contact} (h : Step b call s reply made s') (hused : s.state ≠ .configuring)
    (hs : s'.state = .spawned) : s.state = .spawned := by
  cases h with
  | launch _ _ hstate | refuse _ _ hstate => exact absurd hstate hused
  | observe _ _ _ hstate => exact hstate
  | settle | late | used | kill | poll | childless | mark | view => exact hs

/-- No wait among the calls has denied that the child is out. -/
def Scene.Undenied (b : Backend W C) (x : Scene W C) (calls : List Call) : Prop :=
  ∀ before policy after, calls = before ++ .wait policy :: after →
    ((x.run b before).perform b (.wait policy)).1 = .flag true

/-- What no wait has denied so far, none has denied before. -/
theorem Scene.Undenied.of_append {b : Backend W C} {x : Scene W C} {calls later : List Call}
    (h : x.Undenied b (calls ++ later)) : x.Undenied b calls := by
  rintro before policy after rfl
  exact h before policy (after ++ later) (by simp)

/-- A launched child is out as long as no wait has denied it. -/
theorem spawned_of_undenied (b : Backend W C) (x : Scene W C) (calls : List Call)
    (hx : x.spawner.Coherent) (hs : x.spawner.state = .spawned) (h : x.Undenied b calls) :
    (x.run b calls).spawner.state = .spawned := by
  induction calls using List.reverseRecOn with
  | nil => exact hs
  | append_singleton calls call ih =>
    have hold := ih h.of_append
    have hstep := step_perform b (x.run b calls) call (coherent_run b x calls hx)
    rw [Scene.run_append, Scene.run_cons, Scene.run_nil]
    cases call with
    | wait policy =>
      have htrue := h calls policy [] rfl
      simpa [hstep.wait_reply.1] using htrue
    | kill =>
      rcases hstep.advances with hsame | hadv
      · rw [hsame, hold]
      · cases hadv
    | configure | spawn | markSignaled | view => exact (hstep.keeps_child rfl hold).1

/-- A used spawner that has its child out at the end of a run had it out before. -/
theorem spawned_before_run (b : Backend W C) (x : Scene W C) (calls : List Call) (hx : x.spawner.Coherent)
    (hused : x.spawner.state ≠ .configuring) (hs : (x.run b calls).spawner.state = .spawned) :
    x.spawner.state = .spawned := by
  induction calls generalizing x with
  | nil => exact hs
  | cons call calls ih =>
    have hstep := step_perform b x call hx
    exact hstep.spawned_before hused (ih _ (hstep.coherent hx) (hstep.ne_configuring hused) hs)

/-- No wait has denied a launched child that is out. -/
theorem undenied_of_spawned (b : Backend W C) (x : Scene W C) (calls : List Call)
    (hx : x.spawner.Coherent) (hused : x.spawner.state ≠ .configuring)
    (hs : (x.run b calls).spawner.state = .spawned) : x.Undenied b calls := by
  rintro before policy after rfl
  have hbefore := coherent_run b x before hx
  have hstep := step_perform b (x.run b before) (.wait policy) hbefore
  rw [Scene.run_append, Scene.run_cons] at hs
  have hout := spawned_before_run b _ after (hstep.coherent hbefore)
    (hstep.ne_configuring (ne_configuring_run b x before hx hused)) hs
  rw [hstep.wait_reply.1, hout]
  rfl

end Offspring.Spawner
