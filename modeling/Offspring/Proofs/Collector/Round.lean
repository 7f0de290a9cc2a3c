import Offspring.Collector

/-!
# One round of a collector

A round waits, reads, and settles what the read has answered. `iterate_of_idle` and `iterate_of_ready`
take a round apart into these three, over any source.
-/

namespace Offspring.Collector

variable {W : Type} {p : Ports W} {stopped : Bool} {w w' : W}

/-- How long a round waits for the source. -/
def patience (stopped : Bool) : Timeout :=
  if stopped then .zero else .slice

/-- What becomes of a collector that has added octets: one that has been told to stop looks at its deadline. -/
def lookAtDeadline (p : Ports W) (stopped : Bool) (w : W) : Progress × W :=
  if stopped && p.overdue w then (.ended, p.note .captureCutOff w) else (.goesOn, w)

/-- The end of a round that has read. -/
def settle (p : Ports W) (stopped : Bool) : ReadAnswer → W → Progress × W
  | .data bytes, w => if bytes.isEmpty then (.ended, w) else lookAtDeadline p stopped (p.append bytes w)
  | .interrupted, w => (.goesOn, w)
  | .brokenPipe, w => (.ended, w)
  | .failed cause, w => (.ended, p.note (.readingFailed cause) w)
  | .panicked, w => (.panicked, w)

/-- A read that has given octets adds them before the deadline matters. -/
theorem settle_data {bytes : ByteArray} (h : bytes.isEmpty = false) :
    settle p stopped (.data bytes) w = lookAtDeadline p stopped (p.append bytes w) := by
  rw [settle, h, if_neg Bool.false_ne_true]

/-- A source that is not ready is read only in a later round, and not at all after the stop. -/
theorem iterate_of_idle (h : p.waitReadable (patience stopped) w = (false, w')) :
    iterate p stopped w = (if stopped then .ended else .goesOn, w') := by
  unfold patience at h
  simp [iterate, h]

/-- A source that is ready is read once. -/
theorem iterate_of_ready (h : p.waitReadable (patience stopped) w = (true, w')) :
    iterate p stopped w = settle p stopped (p.read w').1 (p.read w').2 := by
  unfold patience at h
  rcases hread : p.read w' with ⟨answer, w''⟩
  cases answer <;> simp [iterate, settle, lookAtDeadline, h, hread]

section Rounds

variable {pause : W → Bool} {progress : Progress} {fuel : Nat}

/-- Rounds go on behind one that does. -/
theorem rounds_of_goesOn (hpause : pause w = false) (h : iterate p stopped w = (.goesOn, w')) :
    rounds p stopped pause (fuel + 1) w = rounds p stopped pause fuel w' := by
  simp [rounds, hpause, h]

/-- Rounds end with the first that ends the collector. -/
theorem rounds_of_ended (hpause : pause w = false) (hprogress : progress ≠ .goesOn)
    (h : iterate p stopped w = (progress, w')) :
    rounds p stopped pause (fuel + 1) w = (progress, w') := by
  cases progress <;> simp_all [rounds]

/-- Rounds end before one that has to pause. -/
theorem rounds_of_pause (hpause : pause w) : rounds p stopped pause (fuel + 1) w = (.goesOn, w) := by
  simp [rounds, hpause]

end Rounds

end Offspring.Collector
