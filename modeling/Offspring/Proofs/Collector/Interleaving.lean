import Offspring.Proofs.Collector.Round

/-!
# Stopping a collector at any moment

A collector's thread looks once a round whether it has been told to stop, and goes through the round with
what it has seen. Here a round is taken apart into its steps, so that the caller who tells the thread to stop
and the deadline can come between any two of them; `run_round` says that the steps of one round, undisturbed,
are `iterate`.

A `Feed` is a source that is ready as long as it has octets left. Over a feed all interleavings lead to the
same sink: whatever the thread had seen when the stop came, it ends only once everything is copied, unless
the deadline comes first. And it does end, after a number of its own steps that the feed bounds.
-/

namespace Offspring.Collector

variable {W : Type}

/-- Where a collector's thread stands. -/
inductive Stage where
  /-- It is about to look whether it has been told to stop. -/
  | sampling
  /-- It is about to wait for the source; `stopped` is what it has seen. -/
  | waiting (stopped : Bool)
  | reading (stopped : Bool)
  /-- It has octets in hand. -/
  | adding (stopped : Bool) (bytes : ByteArray)
  /-- It has added octets and is about to look at the deadline. -/
  | deciding (stopped : Bool)
  | ended
  | panicked

/-- Where a thread stands after a round. -/
def Stage.ofProgress : Progress → Stage
  | .goesOn => .sampling
  | .ended => .ended
  | .panicked => .panicked

/-- Whether the thread is over. -/
def Stage.isOver : Stage → Bool
  | .ended | .panicked => true
  | _ => false

/-- The octets in hand. -/
def Stage.inHand : Stage → ByteArray
  | .adding _ bytes => bytes
  | _ => .empty

/-- The steps that a thread which is told to stop here makes at most, if no more octets come. -/
def Stage.stepsLeft : Stage → Nat
  | .sampling => 3
  | .waiting stopped => if stopped then 2 else 4
  | .reading _ => 1
  | .adding _ _ => 5
  | .deciding _ => 4
  | .ended | .panicked => 0

/-- A thread that is not over has a step left, and in a round it has five at most. -/
theorem Stage.stepsLeft_bounds (stage : Stage) (hover : ¬stage.isOver) :
    0 < stage.stepsLeft ∧ stage.stepsLeft ≤ 5 := by
  cases stage with
  | waiting stopped => cases stopped <;> simp [stepsLeft]
  | sampling | reading | adding | deciding => simp [stepsLeft]
  | ended | panicked => exact absurd rfl hover

/-- One step of the thread; `told` is whether it has been told to stop by now. -/
def advance (p : Ports W) (told : Bool) : Stage → W → Stage × W
  | .sampling, w => (.waiting told, w)
  | .waiting stopped, w =>
    let (ready, w) := p.waitReadable (patience stopped) w
    (if ready then .reading stopped else if stopped then .ended else .sampling, w)
  | .reading stopped, w =>
    match p.read w with
    | (.data bytes, w) => (if bytes.isEmpty then .ended else .adding stopped bytes, w)
    | (answer, w) =>
      let (progress, w) := settle p stopped answer w
      (.ofProgress progress, w)
  | .adding stopped bytes, w => (.deciding stopped, p.append bytes w)
  | .deciding stopped, w =>
    let (progress, w) := lookAtDeadline p stopped w
    (.ofProgress progress, w)
  | .ended, w => (.ended, w)
  | .panicked, w => (.panicked, w)

/-- What can happen next. -/
inductive Move where
  /-- The thread makes a step. -/
  | thread
  /-- The caller tells the thread to stop, and begins to wait for its end. -/
  | tell
  /-- The deadline comes. -/
  | lapse
  deriving DecidableEq

/-- A collector's thread and the caller who finishes it. -/
structure Session (W : Type) where
  told : Bool
  stage : Stage
  world : W

namespace Session

variable (p : Ports W) (lapse : W → W)

/-- What one move leads to. -/
def move (x : Session W) : Move → Session W
  | .thread =>
    let (stage, world) := advance p x.told x.stage x.world
    { x with stage, world }
  | .tell => { x with told := true }
  | .lapse => { x with world := lapse x.world }

/-- What moves lead to, in order. -/
def run (x : Session W) (moves : List Move) : Session W :=
  moves.foldl (·.move p lapse ·) x

/-- Whether the caller has come back from finishing the collector. -/
def hasReturned (x : Session W) : Bool :=
  x.told && x.stage.isOver

@[simp] theorem run_nil (x : Session W) : x.run p lapse [] = x := rfl

@[simp] theorem run_cons (x : Session W) (m : Move) (moves : List Move) :
    x.run p lapse (m :: moves) = (x.move p lapse m).run p lapse moves := rfl

theorem run_append (x : Session W) (moves later : List Move) :
    x.run p lapse (moves ++ later) = (x.run p lapse moves).run p lapse later :=
  List.foldl_append

section Over

variable {p lapse} {x : Session W}

/-- A thread that is over makes no step. -/
theorem move_thread_of_over (hover : x.stage.isOver) : x.move p lapse .thread = x := by
  obtain ⟨told, stage, w⟩ := x
  cases stage <;> first | rfl | cases hover

/-- Whatever comes behind its end, a thread stays where it is. -/
theorem stage_move_of_over (hover : x.stage.isOver) (m : Move) : (x.move p lapse m).stage = x.stage := by
  cases m with
  | thread => rw [move_thread_of_over hover]
  | tell | lapse => rfl

/-- A caller who has come back has come back for ever, and the thread that is over then adds nothing more. -/
theorem run_of_returned {α : Type} {gathered : W → α} (hlapse : ∀ w, gathered (lapse w) = gathered w)
    (hreturned : x.hasReturned) (moves : List Move) :
    (x.run p lapse moves).hasReturned ∧ gathered (x.run p lapse moves).world = gathered x.world := by
  induction moves generalizing x with
  | nil => exact ⟨hreturned, rfl⟩
  | cons m moves ih =>
    obtain ⟨htold, hover⟩ := Bool.and_eq_true_iff.mp hreturned
    have hsame : gathered (x.move p lapse m).world = gathered x.world := by
      cases m with
      | thread => rw [move_thread_of_over hover]
      | tell => rfl
      | lapse => exact hlapse x.world
    have hstays : (x.move p lapse m).hasReturned := by
      refine Bool.and_eq_true_iff.mpr ⟨?_, by rw [stage_move_of_over hover]; exact hover⟩
      cases m with
      | thread | lapse => exact htold
      | tell => rfl
    obtain ⟨hend, hgathered⟩ := ih hstays
    exact ⟨hend, hgathered.trans hsame⟩

/-- A thread that has been told to stop ends with the steps that are left, whatever comes between them, if each of
them leaves fewer and no other move adds to them. -/
theorem hasReturned_run (left : Session W → Nat)
    (hthread : ∀ {x : Session W}, x.told → ¬x.stage.isOver → left (x.move p lapse .thread) < left x)
    (hother : ∀ (x : Session W) (m : Move), m ≠ .thread → left (x.move p lapse m) ≤ left x) {moves : List Move}
    (htold : x.told) (hsteps : x.stage.isOver ∨ left x ≤ moves.count .thread) :
    (x.run p lapse moves).hasReturned := by
  induction moves generalizing x with
  | nil =>
    have hover : x.stage.isOver := hsteps.elim id fun hnone =>
      Decidable.byContradiction fun hover => Nat.not_lt_of_le hnone (Nat.zero_lt_of_lt (hthread htold hover))
    exact Bool.and_eq_true_iff.mpr ⟨htold, hover⟩
  | cons m moves ih =>
    have htold' : (x.move p lapse m).told := by
      cases m with
      | thread | lapse => exact htold
      | tell => rfl
    refine ih htold' ?_
    by_cases hover : x.stage.isOver
    · refine .inl ?_
      rw [stage_move_of_over hover]
      exact hover
    · have hsteps := hsteps.resolve_left hover
      rw [List.count_cons] at hsteps
      cases m with
      | thread =>
        rw [if_pos (by decide)] at hsteps
        exact .inr (Nat.le_of_lt_succ (Nat.lt_of_lt_of_le (hthread htold hover) hsteps))
      | tell | lapse => exact .inr (Nat.le_trans (hother x _ nofun) hsteps)

end Over

/-- The steps of a thread from a look at the stop on, if nothing comes between them, are a round. -/
theorem run_round (told stopped : Bool) (w : W) :
    ∃ count, run p lapse ⟨told, .waiting stopped, w⟩ (List.replicate count .thread) =
      ⟨told, .ofProgress (iterate p stopped w).1, (iterate p stopped w).2⟩ := by
  rcases hwait : p.waitReadable (patience stopped) w with ⟨ready, w₁⟩
  cases ready with
  | false =>
    rw [iterate_of_idle hwait]
    refine ⟨1, ?_⟩
    cases stopped <;> simp [move, advance, hwait, Stage.ofProgress]
  | true =>
    rw [iterate_of_ready hwait]
    rcases hread : p.read w₁ with ⟨answer, w₂⟩
    cases answer with
    | data bytes =>
      cases hempty : bytes.isEmpty with
      | true => exact ⟨2, by simp [List.replicate, move, advance, hwait, hread, settle, hempty, Stage.ofProgress]⟩
      | false => exact ⟨4, by simp [List.replicate, move, advance, hwait, hread, settle, hempty]⟩
    | interrupted | brokenPipe | failed | panicked =>
      exact ⟨2, by simp [List.replicate, move, advance, hwait, hread]⟩

end Session

/-- What one read of a source with octets left gives. -/
inductive Delivery where
  | interrupted
  /-- Octets, as many as a read can take. -/
  | octets (bytes : ByteArray) (some : 0 < bytes.size) (fits : bytes.size ≤ chunkSize)

/-- The octets of a delivery. -/
def Delivery.bytes : Delivery → ByteArray
  | .interrupted => .empty
  | .octets bytes _ _ => bytes

/-- The octets of deliveries, in order. -/
def delivered (deliveries : List Delivery) : ByteArray :=
  deliveries.foldr (fun delivery octets => delivery.bytes ++ octets) .empty

/-- A source that is ready as long as it has octets left, with the sink and the deadline. -/
structure Feed where
  deliveries : List Delivery
  /-- Whether the source is at its end behind its octets; otherwise it is never ready again. -/
  ends : Bool
  sink : ByteArray
  /-- Whether the deadline has come. -/
  late : Bool

namespace Feed

/-- Whether a feed is ready to be read: it has octets left, or is at its end. -/
def isReady (f : Feed) : Bool :=
  f.ends || decide (0 < (delivered f.deliveries).size)

/-- One read of a feed. -/
def read (f : Feed) : ReadAnswer × Feed :=
  match f.deliveries with
  | [] => (.data .empty, f)
  | .interrupted :: rest => (.interrupted, { f with deliveries := rest })
  | .octets bytes _ _ :: rest => (.data bytes, { f with deliveries := rest })

/-- The world of a collector on a feed. -/
def ports : Ports Feed where
  waitReadable _ f := (f.isReady, f)
  read := read
  append bytes f := { f with sink := f.sink ++ bytes }
  overdue f := f.late
  note _ f := f

/-- The deadline comes. -/
def lapse (f : Feed) : Feed :=
  { f with late := true }

/-- A collector that has just been started on a source with a sink. -/
def started (deliveries : List Delivery) (ends : Bool) (sink : ByteArray) : Session Feed :=
  ⟨false, .sampling, ⟨deliveries, ends, sink, false⟩⟩

/-- What moves lead to on a feed. -/
abbrev run (x : Session Feed) (moves : List Move) : Session Feed :=
  x.run ports lapse moves

section Steps

variable (told stopped : Bool) (f : Feed)

/-- A feed that is ready is read next, and one that is not has nothing left. -/
theorem advance_waiting : advance ports told (.waiting stopped) f =
    (if f.isReady then .reading stopped else if stopped then .ended else .sampling, f) := rfl

/-- A delivery is taken in hand, or was an interruption; behind the last one the feed is at its end. -/
theorem advance_reading : advance ports told (.reading stopped) f =
    match f.deliveries with
    | [] => (.ended, f)
    | .interrupted :: rest => (.sampling, { f with deliveries := rest })
    | .octets bytes _ _ :: rest => (.adding stopped bytes, { f with deliveries := rest }) := by
  rcases hdeliveries : f.deliveries with _ | ⟨_ | ⟨bytes, some, fits⟩, rest⟩
  · have hempty : ByteArray.empty.isEmpty := rfl
    simp [advance, ports, read, hdeliveries, hempty]
  · simp [advance, ports, read, hdeliveries, settle, Stage.ofProgress]
  · have hfull : bytes.isEmpty = false := beq_eq_false_iff_ne.mpr (Nat.ne_of_gt some)
    simp [advance, ports, read, hdeliveries, hfull]

/-- Only a thread that has seen the stop ends at the deadline. -/
theorem advance_deciding : advance ports told (.deciding stopped) f =
    (if stopped && f.late then .ended else .sampling, f) := by
  cases hcut : stopped && f.late <;> simp [advance, lookAtDeadline, ports, hcut, Stage.ofProgress]

end Steps

/-- The octets that are not in the sink yet. -/
def left (x : Session Feed) : ByteArray :=
  x.stage.inHand ++ delivered x.world.deliveries

/-- What moves keep: with what is left the sink is whole, and neither the deadline nor the end of the thread
comes before it is. -/
structure Whole (total : ByteArray) (x : Session Feed) : Prop where
  total : x.world.sink ++ left x = total
  late : x.world.late → (left x).size = 0
  ended : x.stage.isOver → (left x).size = 0

/-- A whole sink holds all octets once none are left. -/
theorem Whole.sink_eq {total : ByteArray} {x : Session Feed} (h : Whole total x) (hnone : (left x).size = 0) :
    x.world.sink = total := by
  rw [← h.total, ByteArray.size_eq_zero_iff.mp hnone, ByteArray.append_empty]

/-- None are left once the sink holds all octets. -/
theorem Whole.left_size_eq {total : ByteArray} {x : Session Feed} (h : Whole total x)
    (hsink : x.world.sink = total) : (left x).size = 0 := by
  have hsize := congrArg ByteArray.size h.total
  rw [ByteArray.size_append, hsink] at hsize
  omega

/-- A sink stays whole if nothing is lost, nothing more is left, and the thread goes on. -/
theorem Whole.step {total : ByteArray} {x y : Session Feed} (h : Whole total x)
    (hsum : y.world.sink ++ left y = x.world.sink ++ left x) (hlate : y.world.late = x.world.late)
    (hleft : (left y).size ≤ (left x).size) (hover : y.stage.isOver → (left y).size = 0) : Whole total y := by
  refine ⟨hsum.trans h.total, fun hy => ?_, hover⟩
  have hnone := h.late (hlate ▸ hy)
  omega

/-- A step of the thread keeps the sink whole. -/
theorem Whole.thread {total : ByteArray} {x : Session Feed} (h : Whole total x) :
    Whole total (x.move ports lapse .thread) := by
  obtain ⟨told, stage, ⟨deliveries, ends, sink, late⟩⟩ := x
  rw [Session.move]
  cases stage with
  | sampling => exact h.step rfl rfl (Nat.le_refl _) nofun
  | waiting stopped =>
    rw [advance_waiting]
    cases hready : isReady ⟨deliveries, ends, sink, late⟩ with
    | true => exact h.step rfl rfl (Nat.le_refl _) nofun
    | false =>
      -- A feed that is not ready has nothing left.
      have hnone : (delivered deliveries).size = 0 := by
        simp only [isReady, Bool.or_eq_false_iff, decide_eq_false_iff_not] at hready
        omega
      cases stopped with
      | true =>
        refine h.step rfl rfl (Nat.le_refl _) fun _ => ?_
        rw [left, ByteArray.size_append]
        exact (Nat.zero_add _).trans hnone
      | false => exact h.step rfl rfl (Nat.le_refl _) nofun
  | reading stopped =>
    rw [advance_reading]
    rcases deliveries with _ | ⟨_ | ⟨bytes, some, fits⟩, rest⟩
    · exact h.step rfl rfl (Nat.le_refl _) fun _ => rfl
    · have hsame : left ⟨told, .sampling, ⟨rest, ends, sink, late⟩⟩ =
          left ⟨told, .reading stopped, ⟨.interrupted :: rest, ends, sink, late⟩⟩ := by
        simp [left, Stage.inHand, delivered, Delivery.bytes]
      exact h.step (congrArg (sink ++ ·) hsame) rfl (Nat.le_of_eq (congrArg ByteArray.size hsame)) nofun
    · have hsame : left ⟨told, .adding stopped bytes, ⟨rest, ends, sink, late⟩⟩ =
          left ⟨told, .reading stopped, ⟨.octets bytes some fits :: rest, ends, sink, late⟩⟩ := by
        simp [left, Stage.inHand, delivered, Delivery.bytes]
      exact h.step (congrArg (sink ++ ·) hsame) rfl (Nat.le_of_eq (congrArg ByteArray.size hsame)) nofun
  | adding stopped bytes =>
    refine h.step ?_ rfl ?_ nofun
    · simp [left, Stage.inHand, advance, ports, ByteArray.append_assoc]
    · simp [left, Stage.inHand, advance, ports, ByteArray.size_append]
  | deciding stopped =>
    rw [advance_deciding]
    cases hcut : stopped && late with
    | true =>
      rw [Bool.and_eq_true] at hcut
      exact h.step rfl rfl (Nat.le_refl _) fun _ => h.late hcut.2
    | false => exact h.step rfl rfl (Nat.le_refl _) nofun
  | ended | panicked => exact h

/-- The deadline comes only once all octets are in the sink. -/
def InTime (total : ByteArray) : Session Feed → List Move → Prop
  | _, [] => True
  | x, m :: moves => (m = .lapse → x.world.sink = total) ∧ InTime total (x.move ports lapse m) moves

/-- Whether the deadline comes in time can be run. -/
instance InTime.decidable (total : ByteArray) :
    (x : Session Feed) → (moves : List Move) → Decidable (InTime total x moves)
  | _, [] => .isTrue trivial
  | x, m :: moves =>
    have := InTime.decidable total (x.move ports lapse m) moves
    inferInstanceAs (Decidable ((m = .lapse → x.world.sink = total) ∧ _))

/-- Moves in time keep the sink whole. -/
theorem Whole.run {total : ByteArray} {x : Session Feed} {moves : List Move} (h : Whole total x)
    (hmoves : InTime total x moves) : Whole total (run x moves) := by
  induction moves generalizing x with
  | nil => exact h
  | cons m moves ih =>
    obtain ⟨hlapse, hmoves⟩ := hmoves
    refine ih ?_ hmoves
    cases m with
    | thread => exact h.thread
    | tell => exact h.step rfl rfl (Nat.le_refl _) h.ended
    | lapse => exact ⟨h.total, fun _ => h.left_size_eq (hlapse rfl), h.ended⟩

/-- The steps that a thread makes at most before it ends, once it has been told to stop. Each delivery takes
five; one more round may have begun without a look at the stop. -/
def stepsLeft (x : Session Feed) : Nat :=
  5 * x.world.deliveries.length + x.stage.stepsLeft

/-- A thread that has been told to stop comes closer to its end with each step. -/
theorem stepsLeft_thread {x : Session Feed} (htold : x.told) (hover : ¬x.stage.isOver) :
    stepsLeft (x.move ports lapse .thread) < stepsLeft x := by
  obtain ⟨told, stage, f⟩ := x
  cases htold
  rw [Session.move]
  cases stage with
  | sampling => exact Nat.lt_succ_self _
  | waiting stopped =>
    rw [advance_waiting]
    cases f.isReady <;> cases stopped <;> simp [stepsLeft, Stage.stepsLeft]
  | reading stopped =>
    rw [advance_reading]
    rcases hdeliveries : f.deliveries with _ | ⟨_ | ⟨bytes, some, fits⟩, rest⟩ <;>
      simp only [stepsLeft, Stage.stepsLeft, hdeliveries, List.length_cons, List.length_nil] <;> omega
  | adding stopped bytes => exact Nat.lt_succ_self _
  | deciding stopped =>
    rw [advance_deciding]
    cases stopped && f.late <;> simp [stepsLeft, Stage.stepsLeft]
  | ended | panicked => exact absurd rfl hover

/-- A thread that has been told to stop ends with the steps that are left, whatever comes between them. -/
theorem isOver_run {x : Session Feed} {moves : List Move} (htold : x.told)
    (hsteps : x.stage.isOver ∨ stepsLeft x ≤ moves.count .thread) : (run x moves).hasReturned := by
  refine Session.hasReturned_run stepsLeft stepsLeft_thread (fun x m hm => ?_) htold hsteps
  cases m with
  | thread => exact absurd rfl hm
  | tell | lapse => exact Nat.le_refl _

/-- No move adds deliveries. -/
theorem deliveries_move (x : Session Feed) (m : Move) :
    (x.move ports lapse m).world.deliveries.length ≤ x.world.deliveries.length := by
  obtain ⟨told, stage, f⟩ := x
  cases m with
  | thread =>
    rw [Session.move]
    cases stage with
    | reading stopped =>
      rw [advance_reading]
      rcases hdeliveries : f.deliveries with _ | ⟨_ | ⟨bytes, some, fits⟩, rest⟩ <;> simp [hdeliveries]
    | deciding stopped =>
      have hworld : (advance ports told (.deciding stopped) f).2 = f := by rw [advance_deciding]
      exact Nat.le_of_eq (congrArg (·.deliveries.length) hworld)
    | sampling | waiting | adding | ended | panicked => exact Nat.le_refl _
  | tell | lapse => exact Nat.le_refl _

theorem deliveries_run (x : Session Feed) (moves : List Move) :
    (run x moves).world.deliveries.length ≤ x.world.deliveries.length := by
  induction moves generalizing x with
  | nil => exact Nat.le_refl _
  | cons m moves ih => exact Nat.le_trans (ih _) (deliveries_move x m)

/-- Finishing a collector loses nothing and comes to an end, whenever the stop finds the thread: between two
rounds, within one, or before the first. -/
theorem finish_takes_all (deliveries : List Delivery) (ends : Bool) (sink : ByteArray) (moves : List Move)
    (hmoves : InTime (sink ++ delivered deliveries) (started deliveries ends sink) moves) :
    ((run (started deliveries ends sink) moves).hasReturned →
      (run (started deliveries ends sink) moves).world.sink = sink ++ delivered deliveries) ∧
    ∀ before after, moves = before ++ .tell :: after → 5 * deliveries.length + 5 ≤ after.count .thread →
      (run (started deliveries ends sink) moves).hasReturned := by
  have hstart : Whole (sink ++ delivered deliveries) (started deliveries ends sink) :=
    ⟨congrArg (sink ++ ·) ByteArray.empty_append, nofun, nofun⟩
  refine ⟨fun hreturned => ?_, fun before after hsplit hsteps => ?_⟩
  · have hwhole := hstart.run hmoves
    exact hwhole.sink_eq (hwhole.ended (Bool.and_eq_true_iff.mp hreturned).2)
  · rw [hsplit, run, Session.run_append, Session.run_cons]
    refine isOver_run rfl (Decidable.or_iff_not_imp_left.mpr fun hover => ?_)
    have hfew : (run (started deliveries ends sink) before).world.deliveries.length ≤ deliveries.length :=
      deliveries_run _ before
    have hround := (Stage.stepsLeft_bounds _ hover).2
    rw [stepsLeft]
    exact Nat.le_trans (Nat.add_le_add (Nat.mul_le_mul_left 5 hfew) hround) hsteps

/-- Three octets in two reads, with an interrupted one between them. -/
def twoPieces : List Delivery :=
  [.octets ⟨#[97, 98]⟩ (by decide) (by decide), .interrupted, .octets ⟨#[99]⟩ (by decide) (by decide)]

/-- The stop comes between the first look at it and the first wait, the deadline when all is copied. -/
def midRound : List Move :=
  .thread :: .tell :: (List.replicate 14 .thread ++ .lapse :: List.replicate 6 .thread)

theorem finish_takes_all_mid_round :
    InTime (⟨#[120]⟩ ++ delivered twoPieces) (started twoPieces false ⟨#[120]⟩) midRound ∧
      (run (started twoPieces false ⟨#[120]⟩) midRound).hasReturned ∧
      (run (started twoPieces false ⟨#[120]⟩) midRound).world.sink = ⟨#[120]⟩ ++ delivered twoPieces := by
  have hmoves : InTime (⟨#[120]⟩ ++ delivered twoPieces) (started twoPieces false ⟨#[120]⟩) midRound := by
    decide +kernel
  obtain ⟨hsink, hreturns⟩ := finish_takes_all twoPieces false ⟨#[120]⟩ midRound hmoves
  have hreturned := hreturns [.thread] _ rfl (by decide)
  exact ⟨hmoves, hreturned, hsink hreturned⟩

end Feed

end Offspring.Collector
