import Offspring.Proofs.Collector.Interleaving
import Offspring.Proofs.Posix.Interruptions

/-!
# Captured output is complete once an outcome is told

A collecting thread goes on by itself between the requests on its child, and during the calls for it. It is a
part of the world, and `Gathers` says what the operating system sees to: the thread alone adds to its buffer, and
finishing it comes back when it has ended. A child finishes the thread before it tells an outcome for the first
time and asks nothing of the operating system any more behind that, so from then on the thread is over and its
buffer stays as it is.
-/

namespace Offspring.Posix

open Collector (Ports Session)

variable {W V : Type}

namespace Child

/-- What is known of the thread that gathers a child's output, which is seen in the worlds of a kernel as a
session with a buffer. -/
structure Gathers (k : Kernel W) (c : Child) (moments : List (Moment W)) (p : Ports V) (lapse : V → V)
    (session : W → Session V) (gathered : V → ByteArray) : Prop where
  /-- Finishing the thread tells it to stop and comes back when it has ended. -/
  joins : ∀ id, c.collector = some id → ∀ w, (session (k.finishCollector id w)).hasReturned
  /-- While the world goes on the thread makes steps, and the deadline may come. -/
  goesOn : ∀ step, .pass step ∈ moments → ∀ w, ∃ moves, session (step w) = (session w).run p lapse moves
  /-- The deadline adds nothing. -/
  lapses : ∀ v, gathered (lapse v) = gathered v

section Gathering

variable {k : Kernel W} {c : Child} {moments : List (Moment W)} {p : Ports V} {lapse : V → V}
  {session : W → Session V} {gathered : V → ByteArray} {w : W}

theorem Gathers.of_cons {moment : Moment W} (h : Gathers k c (moment :: moments) p lapse session gathered) :
    Gathers k c moments p lapse session gathered :=
  ⟨h.joins, fun step hstep => h.goesOn step (List.mem_cons_of_mem _ hstep), h.lapses⟩

theorem Gathers.append {later : List (Moment W)} (h : Gathers k c (moments ++ later) p lapse session gathered) :
    Gathers k c moments p lapse session gathered ∧ Gathers k c later p lapse session gathered :=
  ⟨⟨h.joins, fun step hstep => h.goesOn step (List.mem_append_left _ hstep), h.lapses⟩,
    ⟨h.joins, fun step hstep => h.goesOn step (List.mem_append_right _ hstep), h.lapses⟩⟩

/-- The child keeps its outcome, and its collecting thread is over. -/
structure Closed (outcome : Outcome) (session : W → Session V) (x : Child × W) : Prop where
  kept : x.1.exit = some outcome
  ended : (session x.2).hasReturned

/-- Behind an outcome the thread stays over, and its buffer as it is. -/
theorem Closed.lives {outcome : Outcome} {x : Child × W} (hclosed : Closed outcome session x)
    (h : Gathers k c moments p lapse session gathered) :
    Closed outcome session (lives k x moments) ∧
      gathered (session (Child.lives k x moments).2).world = gathered (session x.2).world := by
  induction moments generalizing x with
  | nil => exact ⟨hclosed, rfl⟩
  | cons moment rest ih =>
    rw [lives_cons]
    cases moment with
    | ask request =>
      have hsame : live k x (.ask request) = x := (exchange_of_exit hclosed.kept x.2 request).2
      rw [hsame]
      exact ih hclosed h.of_cons
    | pass step =>
      obtain ⟨moves, hmoves⟩ := h.goesOn step List.mem_cons_self x.2
      obtain ⟨hover, hsame⟩ := Session.run_of_returned (p := p) h.lapses hclosed.ended moves
      rw [← hmoves] at hover hsame
      obtain ⟨hlater, hgathered⟩ := ih (x := (x.1, step x.2)) ⟨hclosed.kept, hover⟩ h.of_cons
      exact ⟨hlater, hgathered.trans hsame⟩

end Gathering

end Child

/-! ### A bench with a collecting thread -/

open Collector (Feed)

/-- Tells a thread on a feed to stop, and lets it make the steps that are left. -/
def joined (x : Session Feed) : Session Feed :=
  Feed.run { x with told := true } (List.replicate (Feed.stepsLeft { x with told := true }) .thread)

/-- The calls on a bench with one collecting thread beside it. -/
def Bench.gathering : Kernel (Bench × Session Feed) :=
  { Bench.kernel.beside (Session Feed) with finishCollector := fun _ x => (x.1, joined x.2) }

/-- The child is polled, ends, and is waited for; in between and behind its collecting thread goes on. -/
def watched : List (Child.Moment (Bench × Session Feed)) :=
  [.ask .tryWait, .pass fun x => (x.1.exit 3, Feed.run x.2 [.thread, .thread]), .ask .kill, .ask .wait,
    .pass fun x => (x.1, Feed.run x.2 [.thread, .lapse, .thread]), .ask .tryWait]

end Offspring.Posix
