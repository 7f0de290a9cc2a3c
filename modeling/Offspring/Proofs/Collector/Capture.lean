import Offspring.Proofs.Collector.Gathered
import Offspring.Proofs.Collector.Round

/-!
# Capturing from a scripted source

A round on a script adds one read of octets to the sink, or nothing (`Gave`). The rounds before the stop and those
after it are each followed by induction on how many the events that are left can take: `takesBefore_of_lt` and
`takesDue_of_lt` say which events have been taken in the end. `capture_gathers` puts both together.
-/

namespace Offspring.Collector

open SourceEvent

namespace Script

/-- Octets were added to the sink since an earlier state, in reads of these sizes. -/
structure Gave (s : Script) (octets : ByteArray) (sizes : List Nat) (s' : Script) : Prop where
  sink : s'.sink = s.sink ++ octets
  reads : s'.reads = s.reads ++ sizes
  overdue : s'.overdue = s.overdue

/-- Nothing was added. -/
theorem Gave.nothing {s s' : Script} (hsink : s'.sink = s.sink) (hreads : s'.reads = s.reads)
    (hoverdue : s'.overdue = s.overdue) : Gave s .empty [] s' :=
  ⟨by rw [hsink, ByteArray.append_empty], by rw [hreads, List.append_nil], hoverdue⟩

/-- What was added first comes first. -/
theorem Gave.trans {s s' s'' : Script} {octets octets' : ByteArray} {sizes sizes' : List Nat}
    (h : Gave s octets sizes s') (h' : Gave s' octets' sizes' s'') :
    Gave s (octets ++ octets') (sizes ++ sizes') s'' :=
  ⟨by rw [h'.sink, h.sink, ByteArray.append_assoc], by rw [h'.reads, h.reads, List.append_assoc],
    h'.overdue.trans h.overdue⟩

section Rounds

/-- The events of the source as a round finds them: one that has been told to stop skips the waits for it. -/
def found (stopped : Bool) (s : Script) : List SourceEvent :=
  if stopped then pastStop s.events else s.events

/-- A call that gave octets adds its count to the reads, whatever events are left. -/
theorem reads_record (s : Script) (events : List SourceEvent) (call : Call) :
    ({ s with events }.record call).reads = s.reads ++ call.given?.toList := by
  cases hgiven : call.given? <;> simp [reads, record, List.filterMap_append, hgiven]

/-- A call that gave no octets adds nothing. -/
theorem gave_record (s : Script) (events : List SourceEvent) {call : Call} (h : call.given? = none) :
    Gave s .empty [] ({ s with events }.record call) :=
  .nothing rfl (by rw [reads_record, h]; exact List.append_nil _) rfl

variable {s : Script} {stopped : Bool} {event : SourceEvent} {rest : List SourceEvent}

/-- The state after a wait that has left so many events. -/
def waited (stopped ready : Bool) (events : List SourceEvent) (s : Script) : Script :=
  { s with events }.record (.waited (patience stopped) ready)

/-- Behind the waits for the stop there is none. -/
theorem untilStop_ne_head?_pastStop (events : List SourceEvent) :
    (pastStop events).head? ≠ some .untilStop := by
  fun_induction pastStop events with
  | case1 rest ih => exact ih
  | case2 events hevents =>
    intro h
    obtain ⟨rest, rfl⟩ := List.head?_eq_some_iff.mp h
    exact hevents rest rfl

/-- A source that has not to wait for the stop answers by its first event whether it is ready. -/
theorem waitReadable_eq (h : ∀ event ∈ (found stopped s).head?, event.waitsForStop → stopped) :
    s.waitReadable (patience stopped) =
      match found stopped s with
      | .notReady :: rest => (false, waited stopped false rest s)
      | .hold :: rest => (false, waited stopped false (.hold :: rest) s)
      | events => (true, waited stopped true events s) := by
  obtain ⟨events, sink, overdue, trace, log⟩ := s
  cases stopped with
  | false =>
    change ∀ event ∈ events.head?, _ at h
    rcases events with _ | ⟨event, rest⟩
    · rfl
    · cases event <;> first | rfl | exact absurd (h _ rfl rfl) Bool.false_ne_true
  | true =>
    have hhead := untilStop_ne_head?_pastStop events
    unfold waitReadable
    simp only [found, if_true, patience]
    rcases hpast : pastStop events with _ | ⟨event, rest⟩
    · rfl
    · rw [hpast] at hhead
      cases event <;> first | rfl | exact absurd rfl hhead

/-- Waiting adds nothing. -/
theorem gave_waited (stopped ready : Bool) (events : List SourceEvent) (s : Script) :
    Gave s .empty [] (waited stopped ready events s) :=
  gave_record s events rfl

/-- A source that neither idles nor waits for the stop is read. -/
theorem iterate_of_found (hidle : ∀ event ∈ (found stopped s).head?, ¬event.isIdle ∧ ¬event.waitsForStop) :
    iterate ports stopped s = settle ports stopped (read (waited stopped true (found stopped s) s)).1
      (read (waited stopped true (found stopped s) s)).2 := by
  apply iterate_of_ready
  have hwait := waitReadable_eq (s := s) fun event hevent hwaits => absurd hwaits (hidle event hevent).2
  refine Eq.trans hwait ?_
  split
  · rename_i rest hfound
    exact absurd rfl (hidle .notReady (by rw [hfound]; rfl)).1
  · rename_i rest hfound
    exact absurd rfl (hidle .hold (by rw [hfound]; rfl)).1
  · rfl

/-- A read of octets leaves what is behind a chunk of them. -/
theorem read_data {bytes : ByteArray} (h : s.events = .data bytes :: rest) :
    s.read = (.data (bytes.extract 0 chunkSize),
      { s with events := behind bytes rest }.record (.gave (bytes.extract 0 chunkSize).size)) := by
  simp only [read, h, behind]

/-- A read that finds no octets adds nothing. -/
theorem gave_read (h : ∀ bytes rest, s.events = .data bytes :: rest → bytes.size = 0) :
    Gave s .empty [] s.read.2 := by
  rcases hevents : s.events with _ | ⟨event, rest⟩
  · simp only [read, hevents]
    exact gave_record s s.events rfl
  · cases event with
    | data bytes =>
      have hnone : (bytes.extract 0 chunkSize).size = 0 := by
        rw [ByteArray.size_extract, h bytes rest hevents]
        simp
      rw [read_data hevents]
      exact gave_record s _ (by rw [hnone]; rfl)
    | notReady | untilStop | hold =>
      simp only [read, hevents]
      exact gave_record s s.events rfl
    | eof | interrupted | brokenPipe | wouldBlock | other | panic =>
      simp only [read, hevents]
      exact gave_record s rest rfl

/-- A round that finds octets adds one read of them. -/
theorem iterate_data (stopped : Bool) {bytes : ByteArray} (hfull : 0 < bytes.size)
    (h : found stopped s = .data bytes :: rest) :
    ∃ s', iterate ports stopped s = (if stopped && s.overdue then .ended else .goesOn, s') ∧
      Gave s (bytes.extract 0 chunkSize) [min chunkSize bytes.size] s' ∧ s'.events = behind bytes rest := by
  have hpiece : (bytes.extract 0 chunkSize).isEmpty = false := by
    rw [isEmpty_eq_false_iff, ByteArray.size_extract, Nat.sub_zero]
    exact Nat.lt_min.mpr ⟨by decide, hfull⟩
  have hsize : Call.given? (.gave (bytes.extract 0 chunkSize).size) = some (min chunkSize bytes.size) := by
    rw [ByteArray.size_extract, Nat.sub_zero, Call.given?, if_neg]
    exact Nat.ne_zero_iff_zero_lt.mpr (Nat.lt_min.mpr ⟨by decide, hfull⟩)
  rw [iterate_of_found (by simp [h, isIdle, waitsForStop]), h, read_data rfl, settle_data hpiece, lookAtDeadline]
  have hwaited := gave_waited stopped true (.data bytes :: rest) s
  generalize waited stopped true (.data bytes :: rest) s = s₁ at hwaited ⊢
  generalize behind bytes rest = left
  have hgave : Gave s (bytes.extract 0 chunkSize) [min chunkSize bytes.size]
      (ports.append (bytes.extract 0 chunkSize)
        ({ s₁ with events := left }.record (.gave (bytes.extract 0 chunkSize).size))) := by
    refine ⟨?_, ?_, hwaited.overdue⟩
    · change s₁.sink ++ _ = _
      rw [hwaited.sink, ByteArray.append_empty]
    · refine (reads_record s₁ left _).trans ?_
      rw [hwaited.reads, hsize, List.append_nil]
      rfl
  have hdue : ports.overdue (ports.append (bytes.extract 0 chunkSize)
      ({ s₁ with events := left }.record (.gave (bytes.extract 0 chunkSize).size))) = s.overdue := hgave.overdue
  rw [hdue]
  cases stopped && s.overdue with
  | true => exact ⟨_, rfl, ⟨hgave.sink, hgave.reads, hgave.overdue⟩, rfl⟩
  | false => exact ⟨_, rfl, hgave, rfl⟩

/-- A round whose read is interrupted adds nothing. -/
theorem iterate_interrupted (stopped : Bool) (h : found stopped s = .interrupted :: rest) :
    ∃ s', iterate ports stopped s = (.goesOn, s') ∧ Gave s .empty [] s' ∧ s'.events = rest := by
  rw [iterate_of_found (by simp [h, isIdle, waitsForStop]), h]
  refine ⟨_, rfl, ?_, rfl⟩
  have hread := gave_read (s := waited stopped true (.interrupted :: rest) s) (by simp [waited, record])
  exact (gave_waited stopped true (.interrupted :: rest) s).trans hread

/-- A round that finds the source not ready is the last one of a collector that has been told to stop. -/
theorem iterate_notReady (stopped : Bool) (h : found stopped s = .notReady :: rest) :
    ∃ s', iterate ports stopped s = (if stopped then .ended else .goesOn, s') ∧
      Gave s .empty [] s' ∧ s'.events = rest := by
  refine ⟨waited stopped false rest s, iterate_of_idle ?_, gave_waited .., rfl⟩
  refine (waitReadable_eq (by simp [h, waitsForStop])).trans ?_
  rw [h]

/-- A round that finds the source held is the last one of a collector that has been told to stop. -/
theorem iterate_hold (h : found true s = .hold :: rest) :
    ∃ s', iterate ports true s = (.ended, s') ∧ Gave s .empty [] s' := by
  refine ⟨waited true false (.hold :: rest) s, iterate_of_idle ?_, gave_waited ..⟩
  refine (waitReadable_eq fun _ _ _ => rfl).trans ?_
  rw [h]

/-- A round that finds the source at its end, or cannot read it, is the last one. -/
theorem iterate_final (stopped : Bool) (h : ∀ event ∈ (found stopped s).head?, event.isFinal) :
    ∃ progress s', progress ≠ .goesOn ∧ iterate ports stopped s = (progress, s') ∧ Gave s .empty [] s' := by
  have hready : ∀ event ∈ (found stopped s).head?, ¬event.isIdle ∧ ¬event.waitsForStop := by
    intro event hevent
    have hfinal := h event hevent
    cases event <;> simp_all [isFinal, isIdle, waitsForStop]
  have hread : Gave s .empty [] (read (waited stopped true (found stopped s) s)).2 := by
    refine (gave_waited stopped true (found stopped s) s).trans (gave_read fun bytes rest hevents => ?_)
    have hfinal : bytes.isEmpty := h (.data bytes) (by rw [show found stopped s = _ from hevents]; rfl)
    exact beq_iff_eq.mp hfinal
  rw [iterate_of_found hready]
  rcases hfound : found stopped s with _ | ⟨event, rest⟩ <;> rw [hfound] at hread
  · exact ⟨.ended, _, by decide, rfl, hread⟩
  · rw [hfound] at h
    have hfinal : event.isFinal := h event rfl
    cases event with
    | data bytes =>
      have hsize : bytes.size = 0 := beq_iff_eq.mp hfinal
      have hnone : (bytes.extract 0 chunkSize).isEmpty := by
        rw [ByteArray.isEmpty, ByteArray.size_extract, hsize]
        simp
      rw [read_data rfl] at hread ⊢
      exact ⟨.ended, _, by decide, if_pos hnone, hread⟩
    | eof => exact ⟨.ended, _, by decide, rfl, hread⟩
    | brokenPipe => exact ⟨.ended, _, by decide, rfl, hread⟩
    | wouldBlock => exact ⟨.ended, _, by decide, rfl, ⟨hread.sink, hread.reads, hread.overdue⟩⟩
    | other => exact ⟨.ended, _, by decide, rfl, ⟨hread.sink, hread.reads, hread.overdue⟩⟩
    | panic => exact ⟨.panicked, _, by decide, rfl, hread⟩
    | interrupted | notReady | untilStop | hold => cases hfinal

end Rounds

section Unstopped

/-- What the rounds before the stop lead to: the events before the first that ends the source or waits for
the stop were taken, and only such a wait keeps the collector. -/
structure TookBefore (s : Script) (progress : Progress) (s' : Script) : Prop where
  gave : Gave s (gathered (beforeStop s.events)) (readsOf (beforeStop s.events)) s'
  kept : reachesStop s.events → progress = .goesOn ∧ s'.events = s.events.dropWhile isPassed
  ended : ¬reachesStop s.events → progress ≠ .goesOn

variable {s s₁ s' : Script} {progress : Progress}

/-- One round more, which takes its part of what is taken before the stop. -/
theorem TookBefore.round {octets : ByteArray} {sizes : List Nat} (h : TookBefore s₁ progress s')
    (hgave : Gave s octets sizes s₁)
    (hoctets : gathered (beforeStop s.events) = octets ++ gathered (beforeStop s₁.events))
    (hsizes : readsOf (beforeStop s.events) = sizes ++ readsOf (beforeStop s₁.events))
    (hlater : s₁.events.dropWhile isPassed = s.events.dropWhile isPassed) : TookBefore s progress s' := by
  have hreaches : reachesStop s.events = reachesStop s₁.events := by
    rw [reachesStop, reachesStop, hlater]
  refine ⟨?_, ?_, ?_⟩
  · rw [hoctets, hsizes]
    exact hgave.trans h.gave
  · rw [hreaches, ← hlater]
    exact h.kept
  · rw [hreaches]
    exact h.ended

/-- A round that passes an event without octets. -/
theorem TookBefore.bare {event : SourceEvent} {rest : List SourceEvent} (h : TookBefore s₁ progress s')
    (hgave : Gave s .empty [] s₁) (hevents : s.events = event :: rest) (hrest : s₁.events = rest)
    (hpassed : event.isPassed) (hbare : event.octets = .empty) : TookBefore s progress s' := by
  refine h.round hgave ?_ ?_ ?_
  · rw [hevents, hrest, beforeStop, List.takeWhile_cons_of_pos hpassed, gathered_cons, hbare]
    rfl
  · rw [hevents, hrest, beforeStop, List.takeWhile_cons_of_pos hpassed, readsOf_cons, hbare]
    rfl
  · rw [hevents, hrest, List.dropWhile_cons_of_pos hpassed]

/-- The source waits for the stop if its first event does. -/
theorem awaitsStop_eq (s : Script) : s.awaitsStop = s.events.head?.any waitsForStop := by
  rw [awaitsStop]
  rcases s.events with _ | ⟨event, rest⟩
  · rfl
  · cases event <;> rfl

/-- Nothing is taken from a source that is at its end. -/
theorem TookBefore.of_final (hfinal : ∀ event ∈ s.events.head?, event.isFinal) (hgave : Gave s .empty [] s')
    (hprogress : progress ≠ .goesOn) : TookBefore s progress s' := by
  have hnone : beforeStop s.events = [] ∧ reachesStop s.events = false := by
    rcases hevents : s.events with _ | ⟨event, rest⟩
    · exact ⟨rfl, rfl⟩
    · have hend : event.isFinal := hfinal event (by rw [hevents]; rfl)
      have hnot : ¬event.isPassed := by simp [isPassed, hend]
      have hfree : event.waitsForStop = false := by cases event <;> first | rfl | cases hend
      rw [beforeStop, reachesStop, List.takeWhile_cons_of_neg hnot, List.dropWhile_cons_of_neg hnot]
      exact ⟨rfl, hfree⟩
  refine ⟨?_, ?_, fun _ => hprogress⟩
  · rw [hnone.1]
    exact hgave
  · rw [hnone.2]
    exact fun hreached => absurd hreached Bool.false_ne_true

/-- Nothing is taken from a source that waits for the stop. -/
theorem TookBefore.of_wait (hwaits : s.awaitsStop) : TookBefore s .goesOn s := by
  rw [awaitsStop_eq] at hwaits
  rcases hevents : s.events with _ | ⟨event, rest⟩
  · rw [hevents] at hwaits
    cases hwaits
  · rw [hevents] at hwaits
    have hevent : event.waitsForStop := hwaits
    have hnot : ¬event.isPassed := by simp [isPassed, hevent]
    refine ⟨?_, fun _ => ⟨rfl, ?_⟩, fun hends => absurd ?_ hends⟩
    · rw [hevents, beforeStop, List.takeWhile_cons_of_neg hnot]
      exact .nothing rfl rfl rfl
    · rw [hevents, List.dropWhile_cons_of_neg hnot]
    · rw [hevents, reachesStop, List.dropWhile_cons_of_neg hnot]
      exact hevent

/-- So many rounds before the stop take what they have to. -/
def TakesBefore (fuel : Nat) (s : Script) : Prop :=
  ∃ progress s', rounds ports false awaitsStop fuel s = (progress, s') ∧ TookBefore s progress s'

/-- One round that goes on, and the rounds behind it. -/
theorem TakesBefore.goesOn {fuel : Nat} (h : TakesBefore fuel s₁) (hpause : s.awaitsStop = false)
    (hround : iterate ports false s = (.goesOn, s₁))
    (htook : ∀ progress s', TookBefore s₁ progress s' → TookBefore s progress s') :
    TakesBefore (fuel + 1) s := by
  obtain ⟨progress, s', hrun, hlater⟩ := h
  exact ⟨progress, s', (rounds_of_goesOn hpause hround).trans hrun, htook progress s' hlater⟩

/-- Before the stop a collector takes what comes before the first end or wait for the stop. -/
theorem takesBefore_of_lt {fuel : Nat} (hfuel : roundsOf s.events < fuel) : TakesBefore fuel s := by
  induction fuel generalizing s with
  | zero => exact absurd hfuel (Nat.not_lt_zero _)
  | succ fuel ih =>
    by_cases hwaits : s.awaitsStop
    · exact ⟨.goesOn, s, rounds_of_pause hwaits, .of_wait hwaits⟩
    rw [Bool.not_eq_true] at hwaits
    have hends : (∀ event ∈ s.events.head?, event.isFinal) → TakesBefore (fuel + 1) s := by
      intro hfinal
      obtain ⟨progress, s', hprogress, hround, hgave⟩ := iterate_final false hfinal
      exact ⟨progress, s', rounds_of_ended hwaits hprogress hround, .of_final hfinal hgave hprogress⟩
    have hshorter : ∀ {s₁ : Script}, roundsOf s₁.events < roundsOf s.events → TakesBefore fuel s₁ :=
      fun hless => ih (Nat.lt_of_lt_of_le hless (Nat.le_of_lt_succ hfuel))
    rcases hevents : s.events with _ | ⟨event, rest⟩
    · exact hends (by rw [hevents]; nofun)
    have hfirst : event.isFinal → TakesBefore (fuel + 1) s := by
      intro hfinal
      refine hends ?_
      rw [hevents]
      rintro _ ⟨⟩
      exact hfinal
    cases event with
    | data bytes =>
      cases hempty : bytes.isEmpty with
      | true => exact hfirst hempty
      | false =>
        have hfull : 0 < bytes.size := (isEmpty_eq_false_iff bytes).mp hempty
        have hpassed : ∀ bytes : ByteArray, 0 < bytes.size → (SourceEvent.data bytes).isPassed := by
          intro bytes hsome
          simp [isPassed, isFinal, waitsForStop, (isEmpty_eq_false_iff bytes).mpr hsome]
        obtain ⟨s₁, hround, hgave, hrest⟩ := iterate_data false hfull hevents
        have htakes := takeWhile_behind rest hpassed hfull
        refine (hshorter ?_).goesOn hwaits hround fun _ _ htook => htook.round hgave ?_ ?_ ?_
        · rw [hrest, hevents]
          exact roundsOf_behind rest
        · rw [hevents, hrest]
          exact htakes.1
        · rw [hevents, hrest, List.singleton_append]
          exact htakes.2
        · rw [hevents, hrest]
          exact dropWhile_behind rest hpassed hfull
    | interrupted =>
      obtain ⟨s₁, hround, hgave, hrest⟩ := iterate_interrupted false hevents
      have hless : roundsOf s₁.events < roundsOf s.events := by
        rw [hrest, hevents]
        exact Nat.lt_add_of_pos_left Nat.one_pos
      exact (hshorter hless).goesOn hwaits hround fun _ _ htook => htook.bare hgave hevents hrest rfl rfl
    | notReady =>
      obtain ⟨s₁, hround, hgave, hrest⟩ := iterate_notReady false hevents
      have hless : roundsOf s₁.events < roundsOf s.events := by
        rw [hrest, hevents]
        exact Nat.lt_add_of_pos_left Nat.one_pos
      exact (hshorter hless).goesOn hwaits hround fun _ _ htook => htook.bare hgave hevents hrest rfl rfl
    | eof | brokenPipe | wouldBlock | other | panic => exact hfirst rfl
    | untilStop | hold =>
      rw [awaitsStop_eq, hevents] at hwaits
      cases hwaits

end Unstopped

section Stopped

variable {s s₁ s' : Script}

/-- So many rounds after the stop take what is due, and end the collector. -/
def TakesDue (fuel : Nat) (s : Script) : Prop :=
  ∃ progress s', rounds ports true (fun _ => false) fuel s = (progress, s') ∧ progress ≠ .goesOn ∧
    Gave s (due s.overdue (s.events.takeWhile isDrained)) (dueReads s.overdue (s.events.takeWhile isDrained)) s'

/-- The last round. -/
theorem TakesDue.of_ended {fuel : Nat} {progress : Progress} {octets : ByteArray} {sizes : List Nat}
    (hprogress : progress ≠ .goesOn) (hround : iterate ports true s = (progress, s'))
    (hgave : Gave s octets sizes s') (hoctets : due s.overdue (s.events.takeWhile isDrained) = octets)
    (hsizes : dueReads s.overdue (s.events.takeWhile isDrained) = sizes) : TakesDue (fuel + 1) s :=
  ⟨progress, s', rounds_of_ended rfl hprogress hround, hprogress, by rw [hoctets, hsizes]; exact hgave⟩

/-- One round that goes on, and the rounds behind it. -/
theorem TakesDue.goesOn {fuel : Nat} {octets : ByteArray} {sizes : List Nat} (h : TakesDue fuel s₁)
    (hround : iterate ports true s = (.goesOn, s₁)) (hgave : Gave s octets sizes s₁)
    (hoctets : due s.overdue (s.events.takeWhile isDrained) =
      octets ++ due s.overdue (s₁.events.takeWhile isDrained))
    (hsizes : dueReads s.overdue (s.events.takeWhile isDrained) =
      sizes ++ dueReads s.overdue (s₁.events.takeWhile isDrained)) : TakesDue (fuel + 1) s := by
  obtain ⟨progress, s', hrun, hprogress, hrest⟩ := h
  rw [hgave.overdue] at hrest
  refine ⟨progress, s', (rounds_of_goesOn rfl hround).trans hrun, hprogress, ?_⟩
  rw [hoctets, hsizes]
  exact hgave.trans hrest

/-- After the stop a collector takes what is ready, or one read of it if it is late. -/
theorem takesDue_of_lt {fuel : Nat} (hfuel : roundsOf s.events < fuel) : TakesDue fuel s := by
  induction fuel generalizing s with
  | zero => exact absurd hfuel (Nat.not_lt_zero _)
  | succ fuel ih =>
    obtain ⟨hdue, hreads, hrounds⟩ := due_pastStop s.overdue s.events
    have hshorter : ∀ {s₁ : Script}, roundsOf s₁.events < roundsOf (pastStop s.events) → TakesDue fuel s₁ :=
      fun hless => ih (Nat.lt_of_lt_of_le hless (Nat.le_trans hrounds (Nat.le_of_lt_succ hfuel)))
    have hstuck : ∀ {progress s'}, (pastStop s.events).takeWhile isDrained = [] → progress ≠ .goesOn →
        iterate ports true s = (progress, s') → Gave s .empty [] s' → TakesDue (fuel + 1) s := by
      intro progress s' hnone hprogress hround hgave
      refine .of_ended hprogress hround hgave ?_ ?_
      · rw [hdue, hnone]
        cases s.overdue <;> rfl
      · rw [hreads, hnone]
        cases s.overdue <;> rfl
    have hhead := untilStop_ne_head?_pastStop s.events
    rcases hfound : pastStop s.events with _ | ⟨event, rest⟩
    · obtain ⟨progress, s', hprogress, hround, hgave⟩ :=
        iterate_final (s := s) true (by rw [found, if_pos rfl, hfound]; nofun)
      exact hstuck (by rw [hfound]; rfl) hprogress hround hgave
    have hfinal : event.isFinal → TakesDue (fuel + 1) s := by
      intro hfinal
      obtain ⟨progress, s', hprogress, hround, hgave⟩ :=
        iterate_final (s := s) true (by rw [found, if_pos rfl, hfound]; rintro _ ⟨⟩; exact hfinal)
      refine hstuck ?_ hprogress hround hgave
      rw [hfound, List.takeWhile_cons_of_neg (by simp [isDrained, hfinal])]
    cases event with
    | data bytes =>
      cases hempty : bytes.isEmpty with
      | true => exact hfinal hempty
      | false =>
        have hfull : 0 < bytes.size := (isEmpty_eq_false_iff bytes).mp hempty
        have hdrained : ∀ bytes : ByteArray, 0 < bytes.size → (SourceEvent.data bytes).isDrained := by
          intro bytes hsome
          simp [isDrained, isFinal, isIdle, (isEmpty_eq_false_iff bytes).mpr hsome]
        obtain ⟨s₁, hround, hgave, hrest⟩ := iterate_data true hfull hfound
        rw [hfound] at hdue hreads
        cases hlate : s.overdue with
        | true =>
          rw [hlate] at hround
          rw [List.takeWhile_cons_of_pos (hdrained bytes hfull)] at hdue hreads
          have hfirst := due_data_of_overdue hfull (rest.takeWhile isDrained)
          refine .of_ended (by decide) hround hgave ?_ ?_
          · rw [hdue, hlate, hfirst.1]
          · rw [hreads, hlate, hfirst.2]
        | false =>
          rw [hlate] at hround
          have htakes := takeWhile_behind rest hdrained hfull
          refine (hshorter ?_).goesOn hround hgave ?_ ?_
          · rw [hrest, hfound]
            exact roundsOf_behind rest
          · rw [hdue, hlate, hrest, due_false, due_false]
            exact htakes.1
          · rw [hreads, hlate, hrest, dueReads_false, dueReads_false, List.singleton_append]
            exact htakes.2
    | interrupted =>
      obtain ⟨s₁, hround, hgave, hrest⟩ := iterate_interrupted true hfound
      have hbare := due_of_bare s.overdue (rfl : interrupted.octets = .empty) (rest.takeWhile isDrained)
      rw [hfound, List.takeWhile_cons_of_pos rfl] at hdue hreads
      refine (hshorter ?_).goesOn hround hgave ?_ ?_
      · rw [hrest, hfound]
        exact Nat.lt_add_of_pos_left Nat.one_pos
      · rw [hdue, hbare.1, hrest, ByteArray.empty_append]
      · rw [hreads, hbare.2, hrest, List.nil_append]
    | notReady =>
      obtain ⟨s₁, hround, hgave, -⟩ := iterate_notReady true hfound
      exact hstuck (by rw [hfound]; rfl) (by decide) hround hgave
    | hold =>
      obtain ⟨s₁, hround, hgave⟩ := iterate_hold hfound
      exact hstuck (by rw [hfound]; rfl) (by decide) hround hgave
    | untilStop =>
      rw [hfound] at hhead
      exact absurd rfl hhead
    | eof | brokenPipe | wouldBlock | other | panic => exact hfinal rfl

end Stopped

/-- The end of a collector: a panic is told of. -/
def reported (progress : Progress) (s : Script) : Script :=
  match progress with
  | .panicked => { s with log := s.log.push .collectorPanicked }
  | _ => s

/-- How a collector has ended has no part in what is in the sink. -/
theorem gave_reported {s s' : Script} {octets : ByteArray} {sizes : List Nat} (progress : Progress)
    (h : Gave s octets sizes s') : Gave s octets sizes (reported progress s') := by
  cases progress with
  | panicked => exact ⟨h.sink, h.reads, h.overdue⟩
  | goesOn | ended => exact h

/-- What a capture gathers from a scripted source: the octets of the events before the stop, and behind
them those that are due after it. No read takes more than a chunk of an event. -/
theorem capture_gathers (s : Script) :
    s.capture.sink = s.sink ++ gathered (beforeStop s.events) ++ due s.overdue (afterStop s.events) ∧
      s.capture.reads =
        s.reads ++ readsOf (beforeStop s.events) ++ dueReads s.overdue (afterStop s.events) := by
  obtain ⟨progress, s₁, hbefore, htook⟩ := takesBefore_of_lt (Nat.lt_succ_self (roundsOf s.events))
  have hbound : ∀ s : Script, s.roundBound = (roundsOf s.events).succ := fun _ => rfl
  suffices hall : Gave s (gathered (beforeStop s.events) ++ due s.overdue (afterStop s.events))
      (readsOf (beforeStop s.events) ++ dueReads s.overdue (afterStop s.events)) s.capture by
    rw [ByteArray.append_assoc, List.append_assoc]
    exact ⟨hall.sink, hall.reads⟩
  cases hreaches : reachesStop s.events with
  | true =>
    obtain ⟨rfl, hevents⟩ := htook.kept hreaches
    obtain ⟨progress, s₂, hafter, -, hdue⟩ := takesDue_of_lt (Nat.lt_succ_self (roundsOf s₁.events))
    have hcapture : s.capture = reported progress s₂ := by
      simp only [capture, hbound, hbefore, hafter]
      rfl
    rw [hcapture, afterStop, hreaches, if_pos rfl]
    rw [htook.gave.overdue, hevents] at hdue
    exact gave_reported progress (htook.gave.trans hdue)
  | false =>
    have hended := htook.ended (by rw [hreaches]; exact Bool.false_ne_true)
    have hcapture : s.capture = reported progress s₁ := by
      simp only [capture, hbound, hbefore]
      cases progress with
      | goesOn => exact absurd rfl hended
      | ended | panicked => rfl
    have hnone : due s.overdue [] = .empty ∧ dueReads s.overdue [] = [] := by
      cases s.overdue <;> exact ⟨rfl, rfl⟩
    rw [hcapture, afterStop, hreaches, if_neg Bool.false_ne_true, hnone.1, hnone.2, ByteArray.append_empty,
      List.append_nil]
    exact gave_reported progress htook.gave

end Script

end Offspring.Collector
