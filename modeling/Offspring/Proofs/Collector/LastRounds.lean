import Offspring.Proofs.Collector.Capture
import Offspring.Proofs.Collector.Conduct

/-!
# How long a stopped collector goes on

A collector that has been told to stop goes on as long as its source gives octets or is interrupted, and no counter
bounds its rounds. What bounds them is the script: each round takes an event, or a chunk of one, and one more round
finds that nothing is left. `Step` says once what a step of the thread can do on a script; the bounds are read off it.
The stop may come between any two steps, and so may the deadline, behind which no more than one read gives octets.
-/

namespace Offspring.Collector

/-- How many chunks so many octets fill, the last one in part. -/
def chunks (count : Nat) : Nat :=
  (count + chunkSize - 1) / chunkSize

/-- Octets that one read takes are one chunk. -/
theorem chunks_of_le {count : Nat} (hsome : 0 < count) (hfits : count ≤ chunkSize) : chunks count = 1 := by
  unfold chunks chunkSize at *
  omega

/-- A read that leaves octets takes one chunk of them. -/
theorem chunks_of_lt {count : Nat} (h : chunkSize < count) : chunks count = chunks (count - chunkSize) + 1 := by
  unfold chunks chunkSize at *
  omega

/-- The rounds that an event takes a collector at most: as many as it has chunks, or one if it is no data. -/
def SourceEvent.roundsNeeded : SourceEvent → Nat
  | .data bytes => chunks bytes.size
  | _ => 1

/-- The rounds that a thread begins with its next step. -/
def Stage.begins : Stage → Nat
  | .sampling => 1
  | _ => 0

theorem Stage.begins_of_over {stage : Stage} (hover : stage.isOver) : stage.begins = 0 := by
  cases stage with
  | ended | panicked => rfl
  | sampling | waiting | reading | adding | deciding => cases hover

/-- The rounds that a thread begins while moves are made. -/
def Session.roundsBegun {W : Type} (p : Ports W) (lapse : W → W) (x : Session W) : List Move → Nat
  | [] => 0
  | .thread :: moves => x.stage.begins + (x.move p lapse .thread).roundsBegun p lapse moves
  | m :: moves => (x.move p lapse m).roundsBegun p lapse moves

/-- Whether a thread is still to read in a round that it has begun without knowing of the stop. -/
def Stage.isUnaware : Stage → Bool
  | .waiting stopped | .reading stopped => !stopped
  | _ => false

/-- The rounds that a thread which has been told to stop begins at most, by those that its events need. -/
def Stage.roundsLeft (needed : Nat) : Stage → Nat
  | .waiting true | .reading true => needed
  | .ended | .panicked => 0
  | _ => needed + 1

/-- The steps to the end of a round. -/
def Stage.stepsOfRound : Stage → Nat
  | .waiting _ => 4
  | .reading _ => 3
  | .adding _ _ => 2
  | .deciding _ => 1
  | .sampling | .ended | .panicked => 0

/-- The reads that give octets at most, once the deadline is past and the thread knows of the stop. -/
def Stage.readsLeft : Stage → Nat
  | .adding true _ | .deciding true | .ended | .panicked => 0
  | _ => 1

theorem Stage.readsLeft_le (stage : Stage) : stage.readsLeft ≤ 1 := by
  unfold readsLeft
  split <;> decide

namespace Script

/-- The rounds that events take a collector at most. -/
def roundsNeeded : List SourceEvent → Nat
  | [] => 0
  | event :: events => event.roundsNeeded + roundsNeeded events

theorem roundsNeeded_cons (event : SourceEvent) (events : List SourceEvent) :
    roundsNeeded (event :: events) = event.roundsNeeded + roundsNeeded events := rfl

/-- What is left of events needs no more rounds than all of them. -/
theorem roundsNeeded_append_le (taken events : List SourceEvent) :
    roundsNeeded events ≤ roundsNeeded (taken ++ events) := by
  induction taken with
  | nil => exact Nat.le_refl _
  | cons event taken ih => exact Nat.le_trans ih (Nat.le_add_left _ _)

/-- A read of octets takes one of the rounds that they need. -/
theorem roundsNeeded_behind {bytes : ByteArray} (rest : List SourceEvent) (hfull : 0 < bytes.size) :
    roundsNeeded (behind bytes rest) + 1 = roundsNeeded (.data bytes :: rest) := by
  rcases behind_cases rest bytes with ⟨hshort, hbehind⟩ | ⟨hlong, hbehind⟩
  · rw [hbehind, roundsNeeded_cons, SourceEvent.roundsNeeded, chunks_of_le hfull hshort, Nat.add_comm]
  · rw [hbehind, roundsNeeded_cons, roundsNeeded_cons, SourceEvent.roundsNeeded, SourceEvent.roundsNeeded,
      chunks_of_lt hlong, ByteArray.size_extract, Nat.min_self]
    omega

/-- The deadline comes. -/
def lapse (s : Script) : Script :=
  { s with overdue := true }

/-- A collector that has just been started on a script. -/
def started (s : Script) : Session Script :=
  ⟨false, .sampling, s⟩

/-- What moves lead to on a script. -/
abbrev run (x : Session Script) (moves : List Move) : Session Script :=
  x.run ports lapse moves

/-- What a step leaves of a script: it takes so many of the rounds that the events need, and reads of these sizes. -/
structure Leaves (s : Script) (rounds : Nat) (sizes : List Nat) (s' : Script) : Prop where
  needed : roundsNeeded s'.events + rounds ≤ roundsNeeded s.events
  reads : s'.reads = s.reads ++ sizes
  overdue : s'.overdue = s.overdue
  panics : .panic ∈ s'.events → .panic ∈ s.events

/-- A step that takes events away and reads nothing. -/
theorem Leaves.of_suffix {s s' : Script} (hevents : s'.events <:+ s.events) (hgave : Gave s .empty [] s') :
    Leaves s 0 [] s' := by
  refine ⟨?_, hgave.reads, hgave.overdue, fun h => hevents.mem h⟩
  obtain ⟨taken, htaken⟩ := hevents
  rw [← htaken]
  exact roundsNeeded_append_le taken s'.events

theorem pastStop_suffix (events : List SourceEvent) : pastStop events <:+ events := by
  fun_induction pastStop events with
  | case1 rest ih => exact ih.trans (List.suffix_cons _ _)
  | case2 events hevents => exact List.suffix_refl _

theorem found_suffix (stopped : Bool) (s : Script) : found stopped s <:+ s.events := by
  cases stopped with
  | true => exact pastStop_suffix s.events
  | false => exact List.suffix_refl _

/-- A source that waits for the stop is left as it is until the stop is seen. -/
theorem waitReadable_of_awaitsStop {s : Script} (h : s.awaitsStop) : s.waitReadable .slice = (false, s) := by
  obtain ⟨events, sink, overdue, trace, log⟩ := s
  rcases events with _ | ⟨event, rest⟩
  · cases h
  · cases event with
    | untilStop | hold => rfl
    | _ => cases h

/-- A wait takes away at most what is not there to be read. -/
theorem waitReadable_leaves (stopped : Bool) (s : Script) :
    Leaves s 0 [] (s.waitReadable (patience stopped)).2 := by
  by_cases hheld : stopped = false ∧ s.awaitsStop
  · obtain ⟨rfl, hawaits⟩ := hheld
    have hsame : s.waitReadable (patience false) = (false, s) := waitReadable_of_awaitsStop hawaits
    rw [hsame]
    exact .of_suffix (List.suffix_refl _) (.nothing rfl rfl rfl)
  · have hfree : ∀ event ∈ (found stopped s).head?, event.waitsForStop → stopped := by
      intro event hevent hwaits
      refine Decidable.byContradiction fun hunseen => hheld ?_
      rw [Bool.not_eq_true] at hunseen
      subst hunseen
      refine ⟨rfl, ?_⟩
      have hfirst : s.events.head? = some event := hevent
      rw [awaitsStop_eq, hfirst]
      exact hwaits
    have hsuffix := found_suffix stopped s
    rw [waitReadable_eq hfree]
    split
    · rename_i rest hfound
      rw [hfound] at hsuffix
      exact .of_suffix ((List.suffix_cons _ _).trans hsuffix) (gave_waited ..)
    · rename_i rest hfound
      rw [hfound] at hsuffix
      exact .of_suffix hsuffix (gave_waited ..)
    · exact .of_suffix hsuffix (gave_waited ..)

/-- The sizes of the reads that give octets, for a read with an answer. -/
def sizesOf : ReadAnswer → List Nat
  | .data bytes => if bytes.isEmpty then [] else [bytes.size]
  | _ => []

/-- The rounds that a read takes from those needed, if it does not end the work. -/
def roundsOfRead : ReadAnswer → Nat
  | .data bytes => if bytes.isEmpty then 0 else 1
  | .interrupted => 1
  | _ => 0

/-- What is left behind a read of octets holds no panic that was not there before. -/
theorem panic_mem_of_behind {bytes : ByteArray} {rest : List SourceEvent} (h : .panic ∈ behind bytes rest) :
    .panic ∈ rest := by
  rcases behind_cases rest bytes with ⟨-, hbehind⟩ | ⟨-, hbehind⟩ <;> rw [hbehind] at h
  · exact h
  · exact (List.mem_cons.mp h).resolve_left nofun

/-- A read that gave octets took one of the rounds that the events need. -/
theorem leaves_gave {s : Script} {events : List SourceEvent} {count : Nat} (hcount : count ≠ 0)
    (hneeded : roundsNeeded events + 1 ≤ roundsNeeded s.events) (hpanics : .panic ∈ events → .panic ∈ s.events) :
    Leaves s 1 [count] ({ s with events }.record (.gave count)) := by
  refine ⟨hneeded, ?_, rfl, hpanics⟩
  rw [reads_record, Call.given?, if_neg hcount]
  rfl

/-- A read takes an event, or a chunk of one. -/
theorem read_leaves (s : Script) : Leaves s (roundsOfRead s.read.1) (sizesOf s.read.1) s.read.2 ∧
    (s.read.1 = .panicked → .panic ∈ s.events) := by
  rcases hevents : s.events with _ | ⟨event, rest⟩
  · have hread : s.read = (.data .empty, s.record (.gave 0)) := by simp only [read, hevents]
    rw [hread]
    exact ⟨.of_suffix (List.suffix_refl _) (gave_record s s.events rfl), fun h => by cases h⟩
  · have hrest : rest <:+ s.events := hevents ▸ List.suffix_cons event rest
    cases event with
    | data bytes =>
      rw [read_data hevents]
      refine ⟨?_, fun h => by cases h⟩
      have hsize : (bytes.extract 0 chunkSize).size = min chunkSize bytes.size := by
        rw [ByteArray.size_extract, Nat.sub_zero]
      rcases Nat.eq_zero_or_pos bytes.size with hnone | hfull
      · have hpiece : (bytes.extract 0 chunkSize).size = 0 := by rw [hsize, hnone, Nat.min_zero]
        have hbehind : behind bytes rest = rest :=
          (behind_cases rest bytes).elim (·.2) fun hlong => absurd hlong.1 (by rw [hnone]; exact Nat.not_lt_zero _)
        rw [ByteArray.size_eq_zero_iff.mp hpiece, hbehind]
        exact .of_suffix hrest (gave_record s rest rfl)
      · have hpiece : 0 < (bytes.extract 0 chunkSize).size := by
          rw [hsize]
          exact Nat.lt_min.mpr ⟨by decide, hfull⟩
        rw [roundsOfRead, sizesOf, (isEmpty_eq_false_iff _).mpr hpiece, if_neg Bool.false_ne_true,
          if_neg Bool.false_ne_true]
        refine leaves_gave (Nat.ne_of_gt hpiece) ?_ fun hpanic => hrest.mem (panic_mem_of_behind hpanic)
        rw [hevents, roundsNeeded_behind rest hfull]
    | interrupted =>
      have hread : s.read = (.interrupted, { s with events := rest }.record (.failed "Interrupted")) := by
        simp only [read, hevents]
      have hgave : Gave s .empty [] ({ s with events := rest }.record (.failed "Interrupted")) :=
        gave_record s rest rfl
      rw [hread]
      refine ⟨⟨?_, hgave.reads, rfl, fun h => hrest.mem h⟩, fun h => by cases h⟩
      rw [hevents, roundsNeeded_cons, Nat.add_comm]
      rfl
    | notReady | untilStop | hold =>
      simp only [read, hevents]
      exact ⟨.of_suffix (List.suffix_refl _) (gave_record s s.events rfl), fun h => by cases h⟩
    | panic =>
      simp only [read, hevents]
      exact ⟨.of_suffix hrest (gave_record s rest rfl), fun _ => List.mem_cons_self⟩
    | eof | brokenPipe | wouldBlock | other =>
      simp only [read, hevents]
      exact ⟨.of_suffix hrest (gave_record s rest rfl), fun h => by cases h⟩

/-! ### The steps of the thread -/

/-- What a step of the thread can do on a script; `told` is whether it has been told to stop by now. -/
inductive Step (told : Bool) : Stage → Script → Stage → Script → Prop where
  | looks {s : Script} : Step told .sampling s (.waiting told) s
  | finds {s s' : Script} (stopped : Bool) (h : Leaves s 0 [] s') :
    Step told (.waiting stopped) s (.reading stopped) s'
  | waits {s s' : Script} (h : Leaves s 0 [] s') : Step told (.waiting false) s .sampling s'
  | leavesOff {s s' : Script} (h : Leaves s 0 [] s') : Step told (.waiting true) s .ended s'
  | takes {s s' : Script} (stopped : Bool) (bytes : ByteArray) (h : Leaves s 1 [bytes.size] s') :
    Step told (.reading stopped) s (.adding stopped bytes) s'
  | isInterrupted {s s' : Script} (stopped : Bool) (h : Leaves s 1 [] s') :
    Step told (.reading stopped) s .sampling s'
  | ends {s s' : Script} (stopped : Bool) (h : Leaves s 0 [] s') : Step told (.reading stopped) s .ended s'
  | panics {s s' : Script} (stopped : Bool) (h : Leaves s 0 [] s') (hpanic : .panic ∈ s.events) :
    Step told (.reading stopped) s .panicked s'
  | adds {s s' : Script} (stopped : Bool) (bytes : ByteArray) (h : Leaves s 0 [] s') :
    Step told (.adding stopped bytes) s (.deciding stopped) s'
  | goesOn {s : Script} (stopped : Bool) (h : (stopped && s.overdue) = false) :
    Step told (.deciding stopped) s .sampling s
  | cutsOff {s s' : Script} (h : Leaves s 0 [] s') : Step told (.deciding true) s .ended s'
  | rests {stage : Stage} {s : Script} (hover : stage.isOver) : Step told stage s stage s

/-- What is told of a step leaves the script as it is. -/
theorem Leaves.noted {s s' : Script} {rounds : Nat} {sizes : List Nat} (h : Leaves s rounds sizes s')
    (event : Event) : Leaves s rounds sizes (ports.note event s') :=
  ⟨h.needed, h.reads, h.overdue, h.panics⟩

theorem Leaves.refl (s : Script) : Leaves s 0 [] s :=
  .of_suffix (List.suffix_refl _) (.nothing rfl rfl rfl)

theorem step_reading (told stopped : Bool) (s : Script) :
    Step told (.reading stopped) s (advance ports told (.reading stopped) s).1
      (advance ports told (.reading stopped) s).2 := by
  obtain ⟨hleaves, hpanic⟩ := read_leaves s
  rcases hread : s.read with ⟨answer, s'⟩
  have hports : ports.read s = (answer, s') := hread
  rw [hread] at hleaves hpanic
  simp only [advance, hports]
  cases answer with
  | data bytes =>
    rw [roundsOfRead, sizesOf] at hleaves
    cases hempty : bytes.isEmpty with
    | true =>
      rw [hempty] at hleaves
      simp only [hempty]
      exact .ends _ hleaves
    | false =>
      rw [hempty] at hleaves
      simp only [hempty]
      exact .takes _ _ hleaves
  | interrupted => exact .isInterrupted _ hleaves
  | brokenPipe => exact .ends _ hleaves
  | failed cause => exact .ends _ (hleaves.noted _)
  | panicked => exact .panics _ hleaves (hpanic rfl)

/-- Each step of the thread is one of these. -/
theorem step_advance (told : Bool) (stage : Stage) (s : Script) :
    Step told stage s (advance ports told stage s).1 (advance ports told stage s).2 := by
  cases stage with
  | sampling => exact .looks
  | waiting stopped =>
    have hleaves := waitReadable_leaves stopped s
    rcases hwait : s.waitReadable (patience stopped) with ⟨ready, s'⟩
    have hports : ports.waitReadable (patience stopped) s = (ready, s') := hwait
    rw [hwait] at hleaves
    simp only [advance, hports]
    cases ready with
    | true => exact .finds _ hleaves
    | false =>
      cases stopped with
      | true => exact .leavesOff hleaves
      | false => exact .waits hleaves
  | reading stopped => exact step_reading told stopped s
  | adding stopped bytes => exact .adds _ _ ⟨Nat.le_refl _, (List.append_nil _).symm, rfl, id⟩
  | deciding stopped =>
    simp only [advance, lookAtDeadline]
    cases hcut : stopped && ports.overdue s with
    | true =>
      obtain ⟨rfl, -⟩ := Bool.and_eq_true_iff.mp hcut
      exact .cutsOff ((Leaves.refl s).noted _)
    | false => exact .goesOn _ hcut
  | ended | panicked => exact .rests rfl

namespace Step

variable {told : Bool} {stage stage' : Stage} {s s' : Script}

/-- A round that a stopped thread begins is one of those left. -/
theorem begins_add_roundsLeft (h : Step true stage s stage' s') :
    stage.begins + stage'.roundsLeft (roundsNeeded s'.events) ≤ stage.roundsLeft (roundsNeeded s.events) := by
  cases h with
  | looks => exact Nat.le_of_eq (Nat.add_comm _ _)
  | goesOn stopped => exact Nat.le_of_eq (Nat.zero_add _)
  | finds stopped h =>
    have hneeded := h.needed
    cases stopped <;> simp only [Stage.begins, Stage.roundsLeft] <;> omega
  | takes stopped bytes h =>
    have hneeded := h.needed
    cases stopped <;> simp only [Stage.begins, Stage.roundsLeft] <;> omega
  | isInterrupted stopped h =>
    have hneeded := h.needed
    cases stopped <;> simp only [Stage.begins, Stage.roundsLeft] <;> omega
  | waits h | adds _ _ h =>
    have hneeded := h.needed
    simp only [Stage.begins, Stage.roundsLeft]
    omega
  | leavesOff | ends | panics | cutsOff => exact Nat.zero_le _
  | rests hover => rw [Stage.begins_of_over hover, Nat.zero_add]

/-- A stopped thread comes nearer to its end with each step. -/
theorem steps_lt (h : Step true stage s stage' s') (hover : ¬stage.isOver) :
    5 * stage'.roundsLeft (roundsNeeded s'.events) + stage'.stepsOfRound <
      5 * stage.roundsLeft (roundsNeeded s.events) + stage.stepsOfRound := by
  have hrounds := h.begins_add_roundsLeft
  cases h with
  | rests h => exact absurd h hover
  | _ => simp only [Stage.begins, Stage.stepsOfRound] at hrounds ⊢; omega

/-- A stopped thread reads only in rounds that it has begun knowing of the stop, once it does. -/
theorem aware (h : Step true stage s stage' s') (haware : stage.isUnaware = false) : stage'.isUnaware = false := by
  cases h with
  | finds => exact haware
  | rests => exact haware
  | _ => rfl

/-- Once the deadline is past, a stopped thread adds what one read gave and ends. -/
theorem reads_le (h : Step true stage s stage' s') (haware : stage.isUnaware = false) (hlate : s.overdue) :
    s'.reads.length + stage'.readsLeft ≤ s.reads.length + stage.readsLeft := by
  cases h with
  | looks | rests => exact Nat.le_refl _
  | finds _ h | isInterrupted _ h | waits h =>
    rw [h.reads, List.append_nil]
    exact Nat.le_refl _
  | leavesOff h | ends _ h | panics _ h | cutsOff h =>
    rw [h.reads, List.append_nil]
    exact Nat.le_add_right _ _
  | takes stopped bytes h =>
    cases stopped with
    | true =>
      rw [h.reads, List.length_append]
      exact Nat.le_refl _
    | false => cases haware
  | adds stopped bytes h =>
    rw [h.reads, List.append_nil]
    cases stopped <;> exact Nat.le_refl _
  | goesOn stopped h =>
    rw [hlate, Bool.and_true] at h
    rw [h]
    exact Nat.le_refl _

/-- The deadline stays past. -/
theorem overdue_eq {told : Bool} (h : Step told stage s stage' s') : s'.overdue = s.overdue := by
  cases h with
  | looks | goesOn | rests => rfl
  | finds _ h | waits h | leavesOff h | takes _ _ h | isInterrupted _ h | ends _ h | panics _ h | adds _ _ h
  | cutsOff h => exact h.overdue

/-- A thread panics only on an event that is a panic. -/
theorem panic_mem {told : Bool} (h : Step told stage s stage' s') :
    (.panic ∈ s'.events → .panic ∈ s.events) ∧ (stage' = .panicked → stage = .panicked ∨ .panic ∈ s.events) := by
  cases h with
  | panics _ h hpanic => exact ⟨h.panics, fun _ => .inr hpanic⟩
  | rests => exact ⟨id, .inl⟩
  | looks | goesOn => exact ⟨id, nofun⟩
  | finds _ h | waits h | leavesOff h | takes _ _ h | isInterrupted _ h | ends _ h | adds _ _ h
  | cutsOff h => exact ⟨h.panics, nofun⟩

end Step

/-! ### Whole runs -/

section Runs

variable {x : Session Script}

/-- The rounds that a stopped thread begins at most. -/
def roundsLeft (x : Session Script) : Nat :=
  x.stage.roundsLeft (roundsNeeded x.world.events)

/-- The steps that it makes at most. -/
def stepsLeft (x : Session Script) : Nat :=
  5 * roundsLeft x + x.stage.stepsOfRound

theorem roundsLeft_le (x : Session Script) : roundsLeft x ≤ roundsNeeded x.world.events + 1 := by
  obtain ⟨told, stage, s⟩ := x
  cases stage with
  | waiting stopped | reading stopped => cases stopped <;> simp [roundsLeft, Stage.roundsLeft]
  | sampling | adding | deciding => exact Nat.le_refl _
  | ended | panicked => exact Nat.zero_le _

theorem stepsLeft_le (x : Session Script) : stepsLeft x ≤ 5 * (roundsNeeded x.world.events + 1) + 4 := by
  have hround : x.stage.stepsOfRound ≤ 4 := by cases x.stage <;> simp [Stage.stepsOfRound]
  exact Nat.add_le_add (Nat.mul_le_mul_left 5 (roundsLeft_le x)) hround

/-- A step of a thread that has been told to stop. -/
theorem step_move (htold : x.told) :
    Step true x.stage x.world (x.move ports lapse .thread).stage (x.move ports lapse .thread).world := by
  obtain ⟨told, stage, s⟩ := x
  cases htold
  exact step_advance true stage s

/-- A thread that has been told to stop does not forget it. -/
theorem told_move (htold : x.told) (m : Move) : (x.move ports lapse m).told := by
  cases m with
  | thread | lapse => exact htold
  | tell => rfl

theorem told_run (htold : x.told) (moves : List Move) : (run x moves).told := by
  induction moves generalizing x with
  | nil => exact htold
  | cons m moves ih => exact ih (told_move htold m)

/-- The rounds that a stopped thread begins are among those left. -/
theorem roundsBegun_add_roundsLeft (htold : x.told) (moves : List Move) :
    x.roundsBegun ports lapse moves + roundsLeft (run x moves) ≤ roundsLeft x := by
  induction moves generalizing x with
  | nil => exact Nat.le_of_eq (Nat.zero_add _)
  | cons m moves ih =>
    have hlater := ih (told_move htold m)
    cases m with
    | thread =>
      have hstep : x.stage.begins + roundsLeft (x.move ports lapse .thread) ≤ roundsLeft x :=
        (step_move htold).begins_add_roundsLeft
      rw [Session.roundsBegun, Nat.add_assoc]
      exact Nat.le_trans (Nat.add_le_add_left hlater _) hstep
    | tell | lapse => exact hlater

/-- Once the deadline is past, one read at most gives octets to a stopped thread. -/
theorem reads_run_le (htold : x.told) (haware : x.stage.isUnaware = false) (hlate : x.world.overdue)
    (moves : List Move) :
    (run x moves).world.reads.length + (run x moves).stage.readsLeft ≤ x.world.reads.length + x.stage.readsLeft := by
  induction moves generalizing x with
  | nil => exact Nat.le_refl _
  | cons m moves ih =>
    cases m with
    | thread =>
      have hstep := step_move htold
      exact Nat.le_trans (ih (told_move htold .thread) (hstep.aware haware) (hstep.overdue_eq.trans hlate))
        (hstep.reads_le haware hlate)
    | tell => exact ih (x := x.move ports lapse .tell) rfl haware hlate
    | lapse => exact ih (x := x.move ports lapse .lapse) htold haware rfl

/-- A thread panics only if its script has a panic. -/
theorem panic_mem_of_run {events : List SourceEvent} (hevents : .panic ∈ x.world.events → .panic ∈ events)
    (hstage : x.stage = .panicked → .panic ∈ events) (moves : List Move) :
    (run x moves).stage = .panicked → .panic ∈ events := by
  induction moves generalizing x with
  | nil => exact hstage
  | cons m moves ih =>
    cases m with
    | thread =>
      obtain ⟨hkept, hpanics⟩ := (step_advance x.told x.stage x.world).panic_mem
      exact ih (fun h => hevents (hkept h)) fun h => (hpanics h).elim hstage hevents
    | tell | lapse => exact ih hevents hstage

end Runs

/-- However far a collector has come with a script when it is told to stop, it comes to an end: it begins one round
for each event that is left and is no data, one for each chunk of the data that is left, and one more, at most; it
ends otherwise than by a panic of the source unless the script has one. From when on the deadline is past and it is in
no round that it began without knowing of the stop, at most one read gives octets. -/
theorem stopped_rounds_bounded (s : Script) (earlier later : List Move) :
    let x := run (started s) (earlier ++ [.tell])
    x.roundsBegun ports lapse later ≤ roundsNeeded x.world.events + 1 ∧
    (5 * (roundsNeeded x.world.events + 1) + 4 ≤ later.count .thread → (run x later).hasReturned) ∧
    ((run x later).stage = .panicked → .panic ∈ s.events) ∧
    ∀ before behind, later = before ++ behind →
      (run x before).world.overdue → (run x before).stage.isUnaware = false →
      (run x later).world.reads.length ≤ (run x before).world.reads.length + 1 := by
  intro x
  have htold : x.told := by
    change (run (started s) (earlier ++ [.tell])).told
    rw [run, Session.run_append]
    rfl
  refine ⟨?_, fun hsteps => ?_, ?_, ?_⟩
  · exact Nat.le_trans (Nat.le_trans (Nat.le_add_right _ _) (roundsBegun_add_roundsLeft htold later))
      (roundsLeft_le x)
  · refine Session.hasReturned_run stepsLeft (fun htold hover => (step_move htold).steps_lt hover) (fun y m hm => ?_)
      htold (.inr (Nat.le_trans (stepsLeft_le x) hsteps))
    cases m with
    | thread => exact absurd rfl hm
    | tell | lapse => exact Nat.le_refl _
  · have hrun : run x later = run (started s) (earlier ++ [.tell] ++ later) := (Session.run_append ..).symm
    rw [hrun]
    exact panic_mem_of_run id (by rintro ⟨⟩) _
  · rintro before behind rfl hlate haware
    have hreads := reads_run_le (told_run htold before) haware hlate behind
    have hone := (run x before).stage.readsLeft_le
    have hrun : run x (before ++ behind) = run (run x before) behind := Session.run_append ..
    rw [hrun]
    omega

/-- Three octets in three events, with an interruption between them. -/
def threeOctets : Script :=
  { events := [.data ⟨#[97]⟩, .interrupted, .data ⟨#[98]⟩, .data ⟨#[99]⟩], sink := .empty, overdue := false }

/-- The thread has added the first octet when the deadline comes. -/
def firstOctet : List Move :=
  List.replicate 4 .thread ++ [.lapse]

/-- Behind the deadline the second octet is taken and the third one is not. -/
theorem stopped_rounds_bounded_late :
    let x := run (started threeOctets) (firstOctet ++ [.tell])
    x.world.overdue ∧ x.stage.isUnaware = false ∧ roundsNeeded x.world.events = 3 ∧
      x.roundsBegun ports lapse (.replicate 24 .thread) ≤ 4 ∧ (run x (.replicate 24 .thread)).hasReturned ∧
      (run x (.replicate 24 .thread)).world.reads.length ≤ x.world.reads.length + 1 := by
  intro x
  have hlate : x.world.overdue := by decide +kernel
  have haware : x.stage.isUnaware = false := by decide +kernel
  have hneeded : roundsNeeded x.world.events = 3 := by decide +kernel
  obtain ⟨hrounds, hends, -, hreads⟩ := stopped_rounds_bounded threeOctets firstOctet (.replicate 24 .thread)
  change x.roundsBegun ports lapse _ ≤ roundsNeeded x.world.events + 1 at hrounds
  change 5 * (roundsNeeded x.world.events + 1) + 4 ≤ _ → _ at hends
  rw [hneeded] at hrounds hends
  exact ⟨hlate, haware, hneeded, hrounds, hends (by decide), hreads [] _ rfl hlate haware⟩

end Script

end Offspring.Collector
