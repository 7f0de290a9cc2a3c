import Offspring.Posix.Kernel

/-!
# Calls that are made again after an interruption

Interruptions that come to an end (`Kernel.Ends`) leave no trace: a call that is made again for as long as it is
interrupted comes to the answer of a call that is not, however many times it may be made.
-/

namespace Offspring.Posix.Kernel

variable {W α : Type}

/-- Interruptions of a call come to an end. -/
def Ends (k : Kernel W) (call : W → Except Errno α × W) : Prop :=
  ∀ w, (call w).1 = .error .interrupted → k.interruptions (call w).2 < k.interruptions w

variable {k : Kernel W} {call : W → Except Errno α × W} {w : W}

/-- A call that is not interrupted is made once. -/
theorem retryFor_of_done (hdone : (call w).1 ≠ .error .interrupted) (fuel : Nat) :
    retryFor call fuel w = call w := by
  cases fuel with
  | zero => rfl
  | succ fuel =>
    rw [retryFor]
    rcases hcall : call w with ⟨e | a, w'⟩
    · have he : e ≠ .interrupted := fun he => hdone (by rw [hcall, he])
      simp only [he, if_false]
    · rfl

/-- A call that is interrupted is made again. -/
theorem retryFor_of_interrupted (hinterrupted : (call w).1 = .error .interrupted) (fuel : Nat) :
    retryFor call (fuel + 1) w = retryFor call fuel (call w).2 := by
  rw [retryFor]
  rcases hcall : call w with ⟨e | a, w'⟩ <;> rw [hcall] at hinterrupted <;> cases hinterrupted
  rfl

/-- Interruptions that come to an end leave no trace of how many times a call may be made. -/
theorem retryFor_eq_retry (hends : k.Ends call) {fuel : Nat} (hfew : k.interruptions w ≤ fuel) :
    retryFor call fuel w = k.retry call w := by
  suffices hfor : ∀ fuel fuel' w, k.interruptions w ≤ fuel → k.interruptions w ≤ fuel' →
      retryFor call fuel w = retryFor call fuel' w from
    hfor fuel _ w hfew (Nat.le_refl _)
  intro fuel
  induction fuel with
  | zero =>
    intro fuel' w hnone _
    have hdone : (call w).1 ≠ .error .interrupted := fun hinterrupted => by
      have hless := hends w hinterrupted
      omega
    rw [retryFor_of_done hdone, retryFor_of_done hdone]
  | succ fuel ih =>
    intro fuel' w hfew hfew'
    by_cases hinterrupted : (call w).1 = .error .interrupted
    · have hless := hends w hinterrupted
      obtain ⟨fuel', rfl⟩ := Nat.exists_eq_succ_of_ne_zero (n := fuel') (by omega)
      rw [retryFor_of_interrupted hinterrupted, retryFor_of_interrupted hinterrupted]
      exact ih fuel' _ (by omega) (by omega)
    · rw [retryFor_of_done hinterrupted, retryFor_of_done hinterrupted]

/-- Behind an interruption everything is still to be answered. -/
theorem retry_of_interrupted (hends : k.Ends call) (hinterrupted : (call w).1 = .error .interrupted) :
    k.retry call w = k.retry call (call w).2 := by
  have hless := hends w hinterrupted
  obtain ⟨fuel, hfuel⟩ := Nat.exists_eq_succ_of_ne_zero (n := k.interruptions w) (by omega)
  rw [retry, hfuel, retryFor_of_interrupted hinterrupted]
  exact retryFor_eq_retry hends (by omega)

/-- A call that is made again for as long as it is interrupted comes to an answer that is no interruption; what
interruptions keep holds when the call is made for the last time. -/
theorem retry_reaches (hends : k.Ends call) {P : W → Prop}
    (hkeep : ∀ w, P w → (call w).1 = .error .interrupted → P (call w).2) (h : P w) :
    ∃ w', P w' ∧ (call w').1 ≠ .error .interrupted ∧ k.retry call w = call w' := by
  induction hcount : k.interruptions w using Nat.strongRecOn generalizing w with
  | ind count ih =>
    by_cases hinterrupted : (call w).1 = .error .interrupted
    · rw [retry_of_interrupted hends hinterrupted]
      exact ih _ (hcount ▸ hends w hinterrupted) (hkeep w h hinterrupted) rfl
    · exact ⟨w, h, hinterrupted, retryFor_of_done hinterrupted _⟩

end Offspring.Posix.Kernel
