import Offspring.Proofs.Collector.Interleaving

/-!
# How a collector deals with its source

What a collector's thread does is written down, deed by deed: its looks whether it has been told to stop, its
waits for the source, its reads, and what it adds to the sink. The source may answer anything, and the stop and
the deadline may come between any two steps. Still each deed is lawful behind those before it (`Lawful`): a source
is read only when it has just said it is ready, a thread that has seen the stop never waits again, and none calls
a source behind an answer that ends its work. So a caller who joins the thread waits for no source.

Where the thread stands says what its next deed may be (`Standing`), and each move keeps that.
-/

namespace Offspring.Collector

variable {W : Type}

/-- A source, with whatever answers. -/
structure Source (W : Type) where
  waitReadable : Timeout → W → Bool × W
  read : W → ReadAnswer × W

/-- What a collector's thread does. -/
inductive Deed where
  /-- It looks whether it has been told to stop. -/
  | looked (told : Bool)
  | waited (timeout : Timeout) (ready : Bool)
  /-- It reads; `late` is whether the deadline had come when the read ended. -/
  | read (answer : ReadAnswer) (late : Bool)
  /-- It adds octets to the sink. -/
  | added (bytes : ByteArray)

namespace Deed

/-- Whether a deed is a call of the source. -/
def isCall : Deed → Bool
  | .waited _ _ | .read _ _ => true
  | .looked _ | .added _ => false

/-- Whether a deed is a look. -/
def isLook : Deed → Bool
  | .looked _ => true
  | .waited _ _ | .read _ _ | .added _ => false

/-- Whether a deed ends the work; `seen` is whether the thread knows of the stop. -/
def isLast (seen : Bool) : Deed → Bool
  | .waited timeout ready => timeout = .zero && !ready
  | .read (.data bytes) late => bytes.isEmpty || seen && late
  | .read .interrupted _ => false
  | .read .brokenPipe _ | .read (.failed _) _ | .read .panicked _ => true
  | .looked _ | .added _ => false

/-- The octets that a deed has read. -/
def octetsRead : Deed → ByteArray
  | .read (.data bytes) _ => bytes
  | _ => .empty

/-- The octets that a deed has added to the sink. -/
def octetsAdded : Deed → ByteArray
  | .added bytes => bytes
  | _ => .empty

end Deed

/-- The octets that deeds have to do with, in order. -/
def octetsOf (part : Deed → ByteArray) (deeds : List Deed) : ByteArray :=
  deeds.foldr (fun d octets => part d ++ octets) .empty

/-- Whether a look among deeds has found that the thread was told to stop. -/
def seenStop (deeds : List Deed) : Bool :=
  deeds.any fun d =>
    match d with
    | .looked told => told
    | _ => false

/-- A deed has ended the work. -/
def Closed (deeds : List Deed) : Prop :=
  ∃ before last after, deeds = before ++ last :: after ∧ last.isLast (seenStop before)

/-- All octets that were read have been added to the sink. -/
def Settled (deeds : List Deed) : Prop :=
  octetsOf Deed.octetsAdded deeds = octetsOf Deed.octetsRead deeds

/-- What a deed needs of those before it. -/
structure Lawful (before : List Deed) (d : Deed) : Prop where
  /-- A source is read right behind a wait that has found it ready. -/
  ready : ∀ answer late, d = .read answer late → ∃ earlier timeout, before = earlier ++ [.waited timeout true]
  /-- A thread waits for a slice until it has seen the stop, and not at all from then on. -/
  patient : ∀ timeout ready, d = .waited timeout ready → timeout = patience (seenStop before)
  unclosed : d.isCall → ¬Closed before
  settled : d.isCall → Settled before

section Deeds

variable {deeds : List Deed} {last : Deed}

/-- A place in a list with one more deed is the last one, or is in the list. -/
theorem place_of_concat {before after : List Deed} {d : Deed} (h : deeds ++ [last] = before ++ d :: after) :
    before = deeds ∧ d = last ∨ ∃ rest, after = rest ++ [last] ∧ deeds = before ++ d :: rest := by
  rcases List.eq_nil_or_concat after with rfl | ⟨rest, other, rfl⟩
  · obtain ⟨hdeeds, hlast⟩ := List.append_inj' h rfl
    exact .inl ⟨hdeeds.symm, (List.singleton_inj.mp hlast).symm⟩
  · rw [List.concat_eq_append] at h ⊢
    rw [← List.cons_append, ← List.append_assoc] at h
    obtain ⟨hdeeds, hlast⟩ := List.append_inj' h rfl
    exact .inr ⟨rest, by rw [hlast], hdeeds⟩

theorem octetsOf_concat (part : Deed → ByteArray) :
    octetsOf part (deeds ++ [last]) = octetsOf part deeds ++ part last := by
  induction deeds with
  | nil => simp [octetsOf]
  | cons first deeds ih =>
    change part first ++ octetsOf part (deeds ++ [last]) = part first ++ octetsOf part deeds ++ part last
    rw [ih, ByteArray.append_assoc]

theorem seenStop_concat (hlast : ∀ told, last ≠ .looked told) : seenStop (deeds ++ [last]) = seenStop deeds := by
  cases last with
  | looked told => exact absurd rfl (hlast told)
  | waited | read | added => simp [seenStop]

theorem seenStop_concat_looked (told : Bool) : seenStop (deeds ++ [.looked told]) = (seenStop deeds || told) := by
  simp [seenStop]

/-- One more deed ends the work if it is a last one. -/
theorem closed_concat (h : Closed (deeds ++ [last])) : Closed deeds ∨ last.isLast (seenStop deeds) := by
  obtain ⟨before, d, after, hdeeds, hd⟩ := h
  rcases place_of_concat hdeeds with ⟨rfl, rfl⟩ | ⟨rest, -, hold⟩
  · exact .inr hd
  · exact .inl ⟨before, d, rest, hold, hd⟩

/-- A deed that neither reads nor adds octets leaves them settled. -/
theorem Settled.concat (h : Settled deeds) (hread : last.octetsRead = .empty) (hadded : last.octetsAdded = .empty) :
    Settled (deeds ++ [last]) := by
  rw [Settled, octetsOf_concat, octetsOf_concat, hread, hadded, ByteArray.append_empty, ByteArray.append_empty]
  exact h

/-- A deed that is no call needs nothing of those before it. -/
theorem Lawful.of_not_call (h : last.isCall = false) : Lawful deeds last := by
  refine ⟨?_, ?_, fun hcall => ?_, fun hcall => ?_⟩
  · rintro answer late rfl
    cases h
  · rintro timeout ready rfl
    cases h
  · rw [h] at hcall
    cases hcall
  · rw [h] at hcall
    cases hcall

end Deeds

/-- A source with the sink and the deadline, and what the thread has done so far, the first deed first. -/
structure Witnessed (W : Type) where
  source : W
  sink : ByteArray
  /-- Whether the deadline has come. -/
  late : Bool
  deeds : List Deed

namespace Witnessed

/-- Adds a deed. -/
def add (x : Witnessed W) (d : Deed) : Witnessed W :=
  { x with deeds := x.deeds ++ [d] }

/-- The deadline comes. -/
def lapse (x : Witnessed W) : Witnessed W :=
  { x with late := true }

/-- Forgets the looks. -/
def unnoticed (x : Witnessed W) : Witnessed W :=
  { x with deeds := x.deeds.filter fun d => !d.isLook }

theorem unnoticed_add_looked (x : Witnessed W) (told : Bool) : (x.add (.looked told)).unnoticed = x.unnoticed := by
  simp [add, unnoticed, Deed.isLook]

theorem unnoticed_add (x : Witnessed W) {d : Deed} (hlook : d.isLook = false) :
    (x.add d).unnoticed = x.unnoticed.add d := by
  simp [add, unnoticed, hlook]

end Witnessed

namespace Source

variable (s : Source W)

/-- The world of a collector on a source, in which what it does is written down. -/
def ports : Ports (Witnessed W) where
  waitReadable timeout x :=
    let (ready, source) := s.waitReadable timeout x.source
    (ready, { x with source }.add (.waited timeout ready))
  read x :=
    let (answer, source) := s.read x.source
    (answer, { x with source }.add (.read answer x.late))
  append bytes x := { x with sink := x.sink ++ bytes }.add (.added bytes)
  overdue x := x.late
  note _ x := x

/-- A collector that has just been started on a source with a sink. -/
def started (start : W) (sink : ByteArray) : Session (Witnessed W) :=
  ⟨false, .sampling, ⟨start, sink, false, []⟩⟩

/-- Writes down the look that a move is, if it is one. -/
def noticed (x : Session (Witnessed W)) : Move → Session (Witnessed W)
  | .thread =>
    match x.stage with
    | .sampling => { x with world := x.world.add (.looked x.told) }
    | _ => x
  | .tell | .lapse => x

/-- What one move leads to. -/
def move (x : Session (Witnessed W)) (m : Move) : Session (Witnessed W) :=
  (noticed x m).move s.ports Witnessed.lapse m

/-- What moves lead to, in order. -/
def run (x : Session (Witnessed W)) (moves : List Move) : Session (Witnessed W) :=
  moves.foldl s.move x

end Source

/-- Where a thread stands behind a read. -/
def Stage.behindRead (stopped : Bool) : ReadAnswer → Stage
  | .data bytes => if bytes.isEmpty then .ended else .adding stopped bytes
  | .interrupted => .sampling
  | .brokenPipe | .failed _ => .ended
  | .panicked => .panicked

namespace Source

variable (s : Source W)

section Steps

variable (told stopped : Bool) (w : Witnessed W)

/-- A wait goes by the look before it. -/
theorem move_waiting : s.move ⟨told, .waiting stopped, w⟩ .thread =
    ⟨told, if (s.waitReadable (patience stopped) w.source).1 then .reading stopped
        else if stopped then .ended else .sampling,
      { w with source := (s.waitReadable (patience stopped) w.source).2 }.add
        (.waited (patience stopped) (s.waitReadable (patience stopped) w.source).1)⟩ := rfl

/-- Only octets are worked on. -/
theorem move_reading : s.move ⟨told, .reading stopped, w⟩ .thread =
    ⟨told, .behindRead stopped (s.read w.source).1,
      { w with source := (s.read w.source).2 }.add (.read (s.read w.source).1 w.late)⟩ := by
  rcases hread : s.read w.source with ⟨answer, source⟩
  cases answer <;>
    simp [move, noticed, Session.move, advance, ports, hread, settle, Stage.ofProgress, Stage.behindRead]

/-- Only a thread that has seen the stop ends at the deadline. -/
theorem move_deciding : s.move ⟨told, .deciding stopped, w⟩ .thread =
    ⟨told, if stopped && w.late then .ended else .sampling, w⟩ := by
  cases hcut : stopped && w.late <;>
    simp [move, noticed, Session.move, advance, ports, lookAtDeadline, Stage.ofProgress, hcut]

end Steps

/-- Writing down the looks changes nothing else. -/
theorem unnoticed_move (x : Session (Witnessed W)) (m : Move) :
    { s.move x m with world := (s.move x m).world.unnoticed } =
      { x with world := x.world.unnoticed }.move s.ports Witnessed.lapse m := by
  obtain ⟨told, stage, w⟩ := x
  cases m with
  | tell | lapse => rfl
  | thread =>
    cases stage with
    | sampling => exact congrArg (Session.mk told (.waiting told)) (w.unnoticed_add_looked told)
    | waiting stopped => exact congrArg (Session.mk told _) (Witnessed.unnoticed_add _ rfl)
    | reading stopped =>
      change _ = s.move ⟨told, .reading stopped, w.unnoticed⟩ .thread
      rw [s.move_reading, s.move_reading]
      exact congrArg (Session.mk told _) (Witnessed.unnoticed_add _ rfl)
    | adding stopped bytes => exact congrArg (Session.mk told _) (Witnessed.unnoticed_add _ rfl)
    | deciding stopped =>
      change _ = s.move ⟨told, .deciding stopped, w.unnoticed⟩ .thread
      rw [s.move_deciding, s.move_deciding]
      rfl
    | ended | panicked => rfl

theorem unnoticed_run (x : Session (Witnessed W)) (moves : List Move) :
    { s.run x moves with world := (s.run x moves).world.unnoticed } =
      { x with world := x.world.unnoticed }.run s.ports Witnessed.lapse moves := by
  induction moves generalizing x with
  | nil => rfl
  | cons m moves ih =>
    rw [Session.run_cons, ← unnoticed_move]
    exact ih (s.move x m)

end Source

/-- What is known where the thread stands. -/
def Standing (deeds : List Deed) (late : Bool) : Stage → Prop
  | .sampling => ¬Closed deeds ∧ Settled deeds
  | .waiting stopped => seenStop deeds = stopped ∧ ¬Closed deeds ∧ Settled deeds
  | .reading stopped => seenStop deeds = stopped ∧ ¬Closed deeds ∧ Settled deeds ∧
      ∃ earlier timeout, deeds = earlier ++ [.waited timeout true]
  | .adding stopped bytes => seenStop deeds = stopped ∧ (Closed deeds → stopped && late) ∧
      octetsOf Deed.octetsRead deeds = octetsOf Deed.octetsAdded deeds ++ bytes
  | .deciding stopped => seenStop deeds = stopped ∧ (Closed deeds → stopped && late) ∧ Settled deeds
  | .ended | .panicked => True

/-- What moves keep: each deed so far was lawful, the sink has grown by what was added, the stop has been seen only
if it was told, and the thread stands where its deeds have led it. -/
structure Kept (sink : ByteArray) (x : Session (Witnessed W)) : Prop where
  lawful : ∀ before d after, x.world.deeds = before ++ d :: after → Lawful before d
  sink : x.world.sink = sink ++ octetsOf Deed.octetsAdded x.world.deeds
  told : seenStop x.world.deeds → x.told
  standing : Standing x.world.deeds x.world.late x.stage

namespace Kept

variable {sink : ByteArray} {s : Source W} {told stopped : Bool} {w : Witnessed W}

/-- A further deed is lawful. -/
theorem concat {x : Session (Witnessed W)} (h : Kept sink x) {last : Deed} (hlast : Lawful x.world.deeds last)
    (before : List Deed) (d : Deed) (after : List Deed) (hdeeds : x.world.deeds ++ [last] = before ++ d :: after) :
    Lawful before d := by
  rcases place_of_concat hdeeds with ⟨rfl, rfl⟩ | ⟨rest, -, hold⟩
  · exact hlast
  · exact h.lawful before d rest hold

/-- A lawful deed that adds no octets. -/
theorem add {stage stage' : Stage} (h : Kept sink ⟨told, stage, w⟩) {d : Deed} (source : W)
    (hlawful : Lawful w.deeds d) (hadded : d.octetsAdded = .empty) (htold : seenStop (w.deeds ++ [d]) → told)
    (hstanding : Standing (w.deeds ++ [d]) w.late stage') :
    Kept sink ⟨told, stage', { w with source }.add d⟩ where
  lawful := h.concat hlawful
  sink := by
    change w.sink = sink ++ octetsOf Deed.octetsAdded (w.deeds ++ [d])
    rw [octetsOf_concat, hadded, ByteArray.append_empty]
    exact h.sink
  told := htold
  standing := hstanding

/-- A thread looks once a round whether it has been told to stop. -/
theorem sampling (h : Kept sink ⟨told, .sampling, w⟩) : Kept sink (s.move ⟨told, .sampling, w⟩ .thread) := by
  obtain ⟨hopen, hsettled⟩ := h.standing
  have hseen : seenStop (w.deeds ++ [.looked told]) = told := by
    rw [seenStop_concat_looked, Bool.or_eq_right_iff_imp]
    exact h.told
  refine h.add w.source (d := .looked told) (.of_not_call rfl) rfl (fun hlook => hseen ▸ hlook)
    ⟨hseen, fun hclosed => ?_, hsettled.concat rfl rfl⟩
  exact (closed_concat hclosed).elim hopen Bool.false_ne_true

/-- A wait finds the source ready, or ends the work if the stop has been seen. -/
theorem waiting (h : Kept sink ⟨told, .waiting stopped, w⟩) :
    Kept sink (s.move ⟨told, .waiting stopped, w⟩ .thread) := by
  obtain ⟨hstopped, hopen, hsettled⟩ := h.standing
  rw [s.move_waiting]
  rcases s.waitReadable (patience stopped) w.source with ⟨ready, source⟩
  have hseen : seenStop (w.deeds ++ [.waited (patience stopped) ready]) = seenStop w.deeds :=
    seenStop_concat nofun
  have hlawful : Lawful w.deeds (.waited (patience stopped) ready) := by
    refine ⟨nofun, ?_, fun _ => hopen, fun _ => hsettled⟩
    rintro _ _ ⟨⟩
    rw [hstopped]
  refine h.add source hlawful rfl (fun hlook => h.told (hseen ▸ hlook)) ?_
  cases ready with
  | true =>
    refine ⟨hseen.trans hstopped, fun hclosed => ?_, hsettled.concat rfl rfl, w.deeds, _, rfl⟩
    exact (closed_concat hclosed).elim hopen (by simp [Deed.isLast])
  | false =>
    cases stopped with
    | true => exact trivial
    | false =>
      refine ⟨fun hclosed => ?_, hsettled.concat rfl rfl⟩
      exact (closed_concat hclosed).elim hopen Bool.false_ne_true

/-- A read is made only of a source that has just been found ready. -/
theorem reading (h : Kept sink ⟨told, .reading stopped, w⟩) :
    Kept sink (s.move ⟨told, .reading stopped, w⟩ .thread) := by
  obtain ⟨hstopped, hopen, hsettled, hready⟩ := h.standing
  rw [s.move_reading]
  rcases s.read w.source with ⟨answer, source⟩
  have hseen : seenStop (w.deeds ++ [.read answer w.late]) = seenStop w.deeds := seenStop_concat nofun
  have hlawful : Lawful w.deeds (.read answer w.late) :=
    ⟨fun _ _ _ => hready, nofun, fun _ => hopen, fun _ => hsettled⟩
  refine h.add source hlawful rfl (fun hlook => h.told (hseen ▸ hlook)) ?_
  cases answer with
  | data bytes =>
    cases hempty : bytes.isEmpty with
    | true =>
      rw [Stage.behindRead, hempty, if_pos rfl]
      exact trivial
    | false =>
      rw [Stage.behindRead, hempty, if_neg Bool.false_ne_true]
      refine ⟨hseen.trans hstopped, fun hclosed => ?_, ?_⟩
      · have hlast := (closed_concat hclosed).resolve_left hopen
        rwa [Deed.isLast, hempty, Bool.false_or, hstopped] at hlast
      · rw [octetsOf_concat, octetsOf_concat, hsettled]
        simp [Deed.octetsAdded, Deed.octetsRead]
  | interrupted =>
    refine ⟨fun hclosed => ?_, hsettled.concat rfl rfl⟩
    exact (closed_concat hclosed).elim hopen Bool.false_ne_true
  | brokenPipe | failed | panicked => exact trivial

/-- Octets are added before anything else is done. -/
theorem adding {bytes : ByteArray} (h : Kept sink ⟨told, .adding stopped bytes, w⟩) :
    Kept sink (s.move ⟨told, .adding stopped bytes, w⟩ .thread) := by
  obtain ⟨hstopped, hclosed, hoctets⟩ := h.standing
  have hseen : seenStop (w.deeds ++ [.added bytes]) = seenStop w.deeds := seenStop_concat nofun
  have hadded : octetsOf Deed.octetsAdded (w.deeds ++ [.added bytes]) =
      octetsOf Deed.octetsAdded w.deeds ++ bytes := octetsOf_concat _
  have hlawful : Lawful w.deeds (.added bytes) := .of_not_call rfl
  refine ⟨h.concat hlawful, ?_, fun hlook => h.told (hseen ▸ hlook),
    hseen.trans hstopped, fun hlater => ?_, ?_⟩
  · change w.sink ++ bytes = sink ++ octetsOf Deed.octetsAdded (w.deeds ++ [.added bytes])
    rw [hadded, ← ByteArray.append_assoc]
    exact congrArg (· ++ bytes) h.sink
  · exact (closed_concat hlater).elim hclosed (fun hlast => absurd hlast Bool.false_ne_true)
  · change octetsOf Deed.octetsAdded (w.deeds ++ [.added bytes]) =
      octetsOf Deed.octetsRead (w.deeds ++ [.added bytes])
    rw [hadded, octetsOf_concat, hoctets]
    simp [Deed.octetsRead]

/-- A thread that goes on past the deadline has not seen the stop. -/
theorem deciding (h : Kept sink ⟨told, .deciding stopped, w⟩) :
    Kept sink (s.move ⟨told, .deciding stopped, w⟩ .thread) := by
  obtain ⟨hstopped, hclosed, hsettled⟩ := h.standing
  rw [s.move_deciding]
  refine ⟨h.lawful, h.sink, h.told, ?_⟩
  cases hcut : stopped && w.late with
  | true => exact trivial
  | false =>
    refine ⟨fun hlater => ?_, hsettled⟩
    have hover : (stopped && w.late) = true := hclosed hlater
    rw [hcut] at hover
    cases hover

/-- The deadline comes, and does not go away. -/
theorem lapse {stage : Stage} (h : Kept sink ⟨told, stage, w⟩) : Kept sink ⟨told, stage, w.lapse⟩ := by
  refine ⟨h.lawful, h.sink, h.told, ?_⟩
  have hstanding := h.standing
  have hlate {stopped : Bool} (hcut : (stopped && w.late) = true) : (stopped && true) = true := by
    rw [Bool.and_true]
    exact (Bool.and_eq_true_iff.mp hcut).1
  cases stage with
  | adding => exact ⟨hstanding.1, fun hclosed => hlate (hstanding.2.1 hclosed), hstanding.2.2⟩
  | deciding => exact ⟨hstanding.1, fun hclosed => hlate (hstanding.2.1 hclosed), hstanding.2.2⟩
  | sampling | waiting | reading | ended | panicked => exact hstanding

/-- Every move keeps what is known. -/
theorem move {x : Session (Witnessed W)} (h : Kept sink x) (m : Move) : Kept sink (s.move x m) := by
  obtain ⟨told, stage, w⟩ := x
  cases m with
  | thread =>
    cases stage with
    | sampling => exact h.sampling
    | waiting => exact h.waiting
    | reading => exact h.reading
    | adding => exact h.adding
    | deciding => exact h.deciding
    | ended | panicked => exact h
  | tell => exact ⟨h.lawful, h.sink, fun _ => rfl, h.standing⟩
  | lapse => exact h.lapse

theorem run {x : Session (Witnessed W)} (h : Kept sink x) (moves : List Move) : Kept sink (s.run x moves) := by
  induction moves generalizing x with
  | nil => exact h
  | cons m moves ih => exact ih (h.move m)

theorem started (start : W) : Kept sink (Source.started start sink) := by
  have hnone : ¬Closed [] := by
    rintro ⟨before, last, after, hdeeds, -⟩
    exact List.append_ne_nil_of_right_ne_nil before (List.cons_ne_nil last after) hdeeds.symm
  refine ⟨fun before d after hdeeds => ?_, ByteArray.append_empty.symm, nofun, hnone, rfl⟩
  exact absurd hdeeds.symm (List.append_ne_nil_of_right_ne_nil before (List.cons_ne_nil d after))

end Kept

/-- A call behind which the work is over is the last one. -/
theorem Kept.no_call_behind {sink : ByteArray} {x : Session (Witnessed W)} (h : Kept sink x) {before after : List Deed}
    {last : Deed} (hdeeds : x.world.deeds = before ++ last :: after) (hlast : last.isLast (seenStop before))
    {d : Deed} (hd : d ∈ after) : d.isCall = false := by
  obtain ⟨between, later, rfl⟩ := List.append_of_mem hd
  rw [← Bool.not_eq_true]
  intro hcall
  have hplace : x.world.deeds = (before ++ last :: between) ++ d :: later := by
    rw [hdeeds, List.append_assoc, List.cons_append]
  exact (h.lawful _ d later hplace).unclosed hcall ⟨before, last, between, rfl, hlast⟩

/-- However a source answers, and whenever the thread is told to stop and the deadline comes, the thread keeps to
these: it reads a source only right behind a wait that has found it ready; it waits for a slice as long as no look
has found that it was told to stop, and not at all from then on; it calls the source no more behind an answer that
ends the work; and at each call it has added to the sink what it has read, and nothing else. -/
theorem thread_conduct (s : Source W) (start : W) (sink : ByteArray) (moves : List Move) :
    let deeds := (s.run (Source.started start sink) moves).world.deeds
    (∀ before answer late after, deeds = before ++ .read answer late :: after →
      ∃ earlier timeout, before = earlier ++ [.waited timeout true]) ∧
    (∀ before timeout ready after, deeds = before ++ .waited timeout ready :: after →
      timeout = if seenStop before then .zero else .slice) ∧
    (∀ before last after, deeds = before ++ last :: after → last.isLast (seenStop before) →
      ∀ d ∈ after, d.isCall = false) ∧
    (∀ before d after, deeds = before ++ d :: after → d.isCall →
      octetsOf Deed.octetsAdded before = octetsOf Deed.octetsRead before) ∧
    ((Source.started start sink).run s.ports Witnessed.lapse moves).world.sink =
      sink ++ octetsOf Deed.octetsAdded deeds := by
  have hkept : Kept sink (s.run (Source.started start sink) moves) := (Kept.started start).run moves
  refine ⟨?_, ?_, ?_, ?_, ?_⟩
  · intro before answer late after hdeeds
    exact (hkept.lawful before _ after hdeeds).ready answer late rfl
  · intro before timeout ready after hdeeds
    exact (hkept.lawful before _ after hdeeds).patient timeout ready rfl
  · intro before last after hdeeds hlast d hd
    exact hkept.no_call_behind hdeeds hlast hd
  · intro before d after hdeeds hcall
    exact (hkept.lawful before d after hdeeds).settled hcall
  · have hplain := s.unnoticed_run (Source.started start sink) moves
    exact (congrArg (fun x => x.world.sink) hplain).symm.trans hkept.sink

/-- A source that is never ready is looked at once more when the thread is told to stop, without a wait. -/
example :
    let quiet : Source Unit := ⟨fun _ w => (false, w), fun w => (.interrupted, w)⟩
    (quiet.run (Source.started () .empty) [.thread, .thread, .tell, .thread, .thread, .thread]).world.deeds =
      [.looked false, .waited .slice false, .looked true, .waited .zero false] := rfl

end Offspring.Collector
