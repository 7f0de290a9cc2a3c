import Mathlib.Tactic.SplitIfs
import Offspring.Proofs.Spawner.Projection
import Offspring.Run.Execute

/-!
# Hosts in projected worlds

A host may keep something in its world that is of no concern to a run, such as what it was asked before. One host
projects to another one if their backends do so, and clocks, rests and buffers agree. Then a child is waited for
alike on both.
-/

namespace Offspring.Run

variable {W V C : Type}

/-- Both hosts answer alike, and `project` takes the worlds of the first to those of the second. -/
structure Host.Projects (h : Host W C) (h' : Host V C) (project : W → V) : Prop where
  backend : h.backend.Projects h'.backend project
  now : ∀ w, h'.now (project w) = h.now w
  rest : ∀ time w, h'.rest time (project w) = project (h.rest time w)
  looks : ∀ deadline w, h'.looks deadline (project w) = h.looks deadline w
  newSink : ∀ w, h'.newSink (project w) = (h.newSink w).map id project
  contents : ∀ sink w, h'.contents sink (project w) = h.contents sink w

variable {h : Host W C} {h' : Host V C} {project : W → V} (halike : h.Projects h' project)
include halike

/-- The kill at the end of the time goes alike in a projected world. -/
theorem killOverdue_map (s : Spawner C) (w : W) :
    killOverdue h' s (project w) = (killOverdue h s w).map id project := by
  rw [killOverdue, Spawner.wait_map halike.backend]
  rfl

/-- Watching a child goes alike in a projected world. -/
theorem waitUntil_map (deadline looks : Nat) (s : Spawner C) (w : W) :
    waitUntil h' deadline looks s (project w) =
      (waitUntil h deadline looks s w).map id (Prod.map id project) := by
  induction looks generalizing s w with
  | zero =>
    rw [waitUntil, killOverdue_map halike]
    rfl
  | succ looks ih =>
    have hpoll := s.wait_map halike.backend .noHang w
    rcases hanswer : s.wait h.backend .noHang w with ⟨isRunning, s', w'⟩
    rw [hanswer] at hpoll
    simp only [waitUntil, hpoll, hanswer, Prod.map, id, halike.now]
    split_ifs
    · rfl
    · rw [killOverdue_map halike]
      rfl
    · rw [halike.rest]
      exact ih s' (h.rest pollInterval w')

/-- Waiting for a child goes alike in a projected world. -/
theorem waitWithTimeout_map (timeout : Option Nat) (s : Spawner C) (w : W) :
    waitWithTimeout h' timeout s (project w) =
      (waitWithTimeout h timeout s w).map id (Prod.map id project) := by
  cases timeout with
  | none =>
    rw [waitWithTimeout, s.wait_map halike.backend]
    rfl
  | some time =>
    simp only [waitWithTimeout, halike.now, halike.looks]
    exact waitUntil_map halike _ _ s w

/-- A buffer is made the same way in a projected world. -/
theorem bufferOf_map (c : Config) (w : W) : bufferOf h' c (project w) = (bufferOf h c w).map id project := by
  unfold bufferOf
  split_ifs
  · rw [halike.newSink]
    rfl
  · rfl

end Offspring.Run
