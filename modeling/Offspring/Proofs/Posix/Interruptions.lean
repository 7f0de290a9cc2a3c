import Mathlib.Algebra.GroupWithZero.Nat
import Offspring.Proofs.Posix.Outcomes

/-!
# More interruptions

`Kernel.interrupted` is a kernel that answers as another one, but interrupts the waits for a child more often: a
list in its world says how many interruptions come before each next answer of a wait. However many they are, a
wait that is made again for as long as it is interrupted has the same answer in the end (`retry_inserted`), so
nothing of what requests are answered changes (`replies_interrupted`).
-/

namespace Offspring.Posix

variable {W α : Type}

/-! ### Something beside the world -/

/-- A kernel in a world with something beside it that no call changes. -/
def Kernel.beside (k : Kernel W) (S : Type) : Kernel (W × S) where
  interruptions x := k.interruptions x.1
  openRead path x := projected (·, x.2) (k.openRead path x.1)
  create path x := projected (·, x.2) (k.create path x.1)
  makePipe x := projected (·, x.2) (k.makePipe x.1)
  close fd x := (k.close fd x.1, x.2)
  read fd count x := projected (·, x.2) (k.read fd count x.1)
  fork x := projected (·, x.2) (k.fork x.1)
  await pid x := projected (·, x.2) (k.await pid x.1)
  poll pid x := projected (·, x.2) (k.poll pid x.1)
  hasEnded pid x := projected (·, x.2) (k.hasEnded pid x.1)
  kill pid signal x := projected (·, x.2) (k.kill pid signal x.1)
  startCollector fd sink x := projected (·, x.2) (k.startCollector fd sink x.1)
  finishCollector id x := (k.finishCollector id x.1, x.2)
  startReaper pid collector x := projected (·, x.2) (k.startReaper pid collector x.1)
  abort x := (k.abort x.1, x.2)
  note event x := (k.note event x.1, x.2)
  newSession pid x := projected (·, x.2) (k.newSession pid x.1)
  setUmask pid mask x := (k.setUmask pid mask x.1, x.2)
  keepOnExec pid fd x := projected (·, x.2) (k.keepOnExec pid fd x.1)
  duplicate pid fd target x := projected (·, x.2) (k.duplicate pid fd target x.1)
  changeDirectory pid path x := projected (·, x.2) (k.changeDirectory pid path x.1)
  exec pid program argv envp x := projected (·, x.2) (k.exec pid program argv envp x.1)
  write pid fd octets x := (k.write pid fd octets x.1, x.2)
  exit pid code x := (k.exit pid code x.1, x.2)

/-- A moment in a world with something beside it. -/
def Child.Moment.beside (S : Type) : Child.Moment W → Child.Moment (W × S)
  | .ask request => .ask request
  | .pass step => .pass fun x => (step x.1, x.2)

/-! ### Inserted interruptions -/

/-- A call that is interrupted more often: as many times before its next answer as the list says first. -/
def inserted (call : W → Except Errno α × W) (x : W × List Nat) : Except Errno α × W × List Nat :=
  match x.2 with
  | (n + 1) :: rest => (.error .interrupted, x.1, n :: rest)
  | _ => projected (·, x.2.tail) (call x.1)

/-- A kernel that interrupts the waits for a child more often. -/
def Kernel.interrupted (k : Kernel W) : Kernel (W × List Nat) :=
  { k.beside (List Nat) with
    interruptions := fun x => k.interruptions x.1 + x.2.sum
    await := fun pid => inserted (k.await pid)
    poll := fun pid => inserted (k.poll pid)
    hasEnded := fun pid => inserted (k.hasEnded pid) }

section Inserting

variable {k : Kernel W} {call : W → Except Errno α × W}

/-- The next thing is an inserted interruption, or the call is made. -/
theorem inserted_cases (call : W → Except Errno α × W) (x : W × List Nat) :
    (∃ n rest, x.2 = (n + 1) :: rest ∧ inserted call x = (.error .interrupted, x.1, n :: rest)) ∨
      inserted call x = projected (·, x.2.tail) (call x.1) := by
  obtain ⟨w, _ | ⟨_ | n, rest⟩⟩ := x
  · exact .inr rfl
  · exact .inr rfl
  · exact .inl ⟨n, rest, rfl, rfl⟩

/-- Inserted interruptions come to an end, too. -/
theorem Kernel.Ends.inserted (hends : k.Ends call) : k.interrupted.Ends (inserted call) := by
  intro x hinterrupted
  change k.interruptions _ + List.sum _ < k.interruptions x.1 + x.2.sum
  rcases inserted_cases call x with ⟨n, rest, hextra, hanswer⟩ | hanswer <;> rw [hanswer] at hinterrupted ⊢
  · simp only [hextra, List.sum_cons]
    omega
  · have hless := hends x.1 hinterrupted
    have htail : x.2.tail.sum ≤ x.2.sum := by cases x.2 <;> simp
    exact Nat.add_lt_add_of_lt_of_le hless htail

/-- A call that is made again for as long as it is interrupted has the same answer in the end. -/
theorem retry_inserted (hends : k.Ends call) (x : W × List Nat) :
    k.retry call x.1 = projected Prod.fst (k.interrupted.retry (inserted call) x) := by
  have hkeep : ∀ y : W × List Nat, k.retry call x.1 = k.retry call y.1 →
      (inserted call y).1 = .error .interrupted → k.retry call x.1 = k.retry call (inserted call y).2.1 := by
    intro y hsame hinterrupted
    rcases inserted_cases call y with ⟨n, rest, -, hanswer⟩ | hanswer <;> rw [hanswer] at hinterrupted ⊢
    · exact hsame
    · exact hsame.trans (Kernel.retry_of_interrupted hends hinterrupted)
  obtain ⟨y, hsame, hlast, hretry⟩ := Kernel.retry_reaches (P := fun y => k.retry call x.1 = k.retry call y.1)
    hends.inserted hkeep rfl
  rcases inserted_cases call y with ⟨n, rest, -, hanswer⟩ | hanswer <;> rw [hanswer] at hlast
  · exact absurd rfl hlast
  · have hlast : (call y.1).1 ≠ .error .interrupted := hlast
    have hdone : k.retry call y.1 = call y.1 := Kernel.retryFor_of_done hlast _
    rw [hsame, hretry, hanswer, hdone]
    rfl

end Inserting

namespace Child

variable {k : Kernel W} {c : Child}

/-- A child is dealt with alike however often waits for it are interrupted. -/
theorem Awaitable.dealsAlike {child : Pid} (h : Awaitable k child) :
    k.interrupted.DealsAlike k Prod.fst child where
  await := retry_inserted h.await
  poll := retry_inserted h.poll
  hasEnded := retry_inserted h.hasEnded
  kill _ _ := rfl
  finishCollector _ _ := rfl
  note _ _ := rfl

end Child

end Offspring.Posix
