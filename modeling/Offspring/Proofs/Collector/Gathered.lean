import Offspring.Collector.Script
import Mathlib.Data.Nat.Basic

/-!
# What a collector gathers

Which events of a scripted source end up in the sink can be read off the list of events. Until the
collector is told to stop it takes the events before the first one that ends the source or waits for the
stop. Then, if it has come to such a wait, it takes those before the first one that ends the source or is
not ready; with its deadline past, no more than one read of them. Nothing else is added, nothing is lost,
and a long event is taken in as many reads as it has chunks.
-/

namespace Offspring.Collector

namespace SourceEvent

/-- The octets of an event. -/
def octets : SourceEvent → ByteArray
  | .data bytes => bytes
  | _ => .empty

/-- Whether an event ends the work of any collector: the source is at its end, or cannot be read. -/
def isFinal : SourceEvent → Bool
  | .data bytes => bytes.isEmpty
  | .eof | .brokenPipe | .wouldBlock | .other | .panic => true
  | .interrupted | .notReady | .untilStop | .hold => false

/-- Whether an event makes the source wait until the collector is told to stop. -/
def waitsForStop : SourceEvent → Bool
  | .untilStop | .hold => true
  | _ => false

/-- Whether the source is not ready even for a collector that has been told to stop. -/
def isIdle : SourceEvent → Bool
  | .notReady | .hold => true
  | _ => false

/-- Whether a collector that has not been told to stop goes on behind an event. -/
def isPassed (event : SourceEvent) : Bool :=
  !event.isFinal && !event.waitsForStop

/-- Whether a collector that has been told to stop goes on behind an event. -/
def isDrained (event : SourceEvent) : Bool :=
  !event.isFinal && !event.isIdle

/-- The sizes of the reads that take so many octets: full chunks, and what is left over. -/
def readSizes (count : Nat) : List Nat :=
  List.replicate (count / chunkSize) chunkSize ++
    if count % chunkSize = 0 then [] else [count % chunkSize]

end SourceEvent

open SourceEvent

/-- The octets of events, in order. -/
def gathered (events : List SourceEvent) : ByteArray :=
  events.foldr (fun event octets => event.octets ++ octets) .empty

/-- The sizes of the reads that take events. -/
def readsOf (events : List SourceEvent) : List Nat :=
  events.flatMap fun event => readSizes event.octets.size

/-- How many octets a call gave, if it gave any. -/
def Call.given? : Call → Option Nat
  | .gave count => if count = 0 then none else some count
  | _ => none

@[simp] theorem gathered_cons (event : SourceEvent) (events : List SourceEvent) :
    gathered (event :: events) = event.octets ++ gathered events := rfl

@[simp] theorem readsOf_cons (event : SourceEvent) (events : List SourceEvent) :
    readsOf (event :: events) = readSizes event.octets.size ++ readsOf events := rfl

@[simp] theorem readSizes_zero : readSizes 0 = [] := rfl

/-- The first read takes a chunk, or what there is. -/
theorem readSizes_eq {count : Nat} (h : 0 < count) :
    readSizes count = min chunkSize count :: readSizes (count - chunkSize) := by
  rcases Nat.lt_or_ge count chunkSize with hsmall | hlarge
  · have hdiv : count / chunkSize = 0 := Nat.div_eq_of_lt hsmall
    have hmod : count % chunkSize = count := Nat.mod_eq_of_lt hsmall
    have hrest : count - chunkSize = 0 := Nat.sub_eq_zero_of_le (Nat.le_of_lt hsmall)
    rw [hrest, readSizes_zero, Nat.min_eq_right (Nat.le_of_lt hsmall), readSizes, hdiv, hmod,
      if_neg (Nat.ne_of_gt h)]
    rfl
  · have hdiv : count / chunkSize = (count - chunkSize) / chunkSize + 1 :=
      Nat.div_eq_sub_div (by decide) hlarge
    have hmod : count % chunkSize = (count - chunkSize) % chunkSize := Nat.mod_eq_sub_mod hlarge
    rw [Nat.min_eq_left hlarge, readSizes, hdiv, hmod, List.replicate_succ, List.cons_append, readSizes]

/-- Octets are not empty when there is at least one. -/
theorem isEmpty_eq_false_iff (bytes : ByteArray) : bytes.isEmpty = false ↔ 0 < bytes.size := by
  rw [ByteArray.isEmpty, beq_eq_false_iff_ne, Nat.pos_iff_ne_zero]

namespace Script

/-- The sizes of the reads so far. -/
def reads (s : Script) : List Nat :=
  s.trace.toList.filterMap Call.given?

/-- The events that are taken before the collector is told to stop. -/
def beforeStop (events : List SourceEvent) : List SourceEvent :=
  events.takeWhile isPassed

/-- Whether the collector comes to be told to stop before the source ends. -/
def reachesStop (events : List SourceEvent) : Bool :=
  (events.dropWhile isPassed).head?.any waitsForStop

/-- The events that are taken after that. -/
def afterStop (events : List SourceEvent) : List SourceEvent :=
  if reachesStop events then (events.dropWhile isPassed).takeWhile isDrained else []

/-- The octets of the first event that has any, as far as one read takes them. -/
def firstRead (events : List SourceEvent) : ByteArray :=
  (((events.map octets).find? (!·.isEmpty)).getD .empty).extract 0 chunkSize

/-- The octets that are taken from events after the stop. -/
def due (overdue : Bool) (events : List SourceEvent) : ByteArray :=
  if overdue then firstRead events else gathered events

/-- The sizes of the reads that take them. -/
def dueReads (overdue : Bool) (events : List SourceEvent) : List Nat :=
  if overdue then readSizes (firstRead events).size else readsOf events

@[simp] theorem due_false (events : List SourceEvent) : due false events = gathered events := rfl

@[simp] theorem dueReads_false (events : List SourceEvent) : dueReads false events = readsOf events := rfl

/-- What is left behind one read of octets. -/
def behind (bytes : ByteArray) (rest : List SourceEvent) : List SourceEvent :=
  if (bytes.extract chunkSize bytes.size).isEmpty then rest
  else .data (bytes.extract chunkSize bytes.size) :: rest

/-- The rounds that events can take. -/
def roundsOf (events : List SourceEvent) : Nat :=
  (events.map SourceEvent.rounds).foldr (· + ·) 0

section Behind

variable {q : SourceEvent → Bool} {bytes : ByteArray} (rest : List SourceEvent)

/-- A chunk and what is behind it are all octets. -/
theorem extract_chunk_append (bytes : ByteArray) :
    bytes.extract 0 chunkSize ++ bytes.extract chunkSize bytes.size = bytes := by
  rw [ByteArray.extract_append_extract, Nat.zero_min, ByteArray.extract_zero_max_size]

/-- What is behind one read is its own event, unless there is nothing. -/
theorem behind_cases (bytes : ByteArray) :
    bytes.size ≤ chunkSize ∧ behind bytes rest = rest ∨
      chunkSize < bytes.size ∧ behind bytes rest = .data (bytes.extract chunkSize bytes.size) :: rest := by
  have hleft : (bytes.extract chunkSize bytes.size).size = bytes.size - chunkSize := by
    rw [ByteArray.size_extract, Nat.min_self]
  rcases Nat.lt_or_ge chunkSize bytes.size with hlong | hshort
  · have hsome : (bytes.extract chunkSize bytes.size).isEmpty = false := by
      rw [isEmpty_eq_false_iff, hleft]
      exact Nat.sub_pos_of_lt hlong
    exact .inr ⟨hlong, by rw [behind, hsome, if_neg Bool.false_ne_true]⟩
  · have hnone : (bytes.extract chunkSize bytes.size).isEmpty = true := by
      rw [ByteArray.isEmpty, hleft, Nat.sub_eq_zero_of_le hshort]
      rfl
    exact .inl ⟨hshort, by rw [behind, hnone, if_pos rfl]⟩

/-- One read and what is taken behind it are all that is taken. -/
theorem takeWhile_behind (hq : ∀ bytes, 0 < bytes.size → q (.data bytes)) (hfull : 0 < bytes.size) :
    gathered ((.data bytes :: rest).takeWhile q) =
        bytes.extract 0 chunkSize ++ gathered ((behind bytes rest).takeWhile q) ∧
      readsOf ((.data bytes :: rest).takeWhile q) =
        min chunkSize bytes.size :: readsOf ((behind bytes rest).takeWhile q) := by
  have hleft : (bytes.extract chunkSize bytes.size).size = bytes.size - chunkSize := by
    rw [ByteArray.size_extract, Nat.min_self]
  rw [List.takeWhile_cons_of_pos (hq bytes hfull), gathered_cons, readsOf_cons, octets, readSizes_eq hfull]
  rcases behind_cases rest bytes with ⟨hshort, hbehind⟩ | ⟨hlong, hbehind⟩
  · have hall : bytes.extract 0 chunkSize = bytes := by
      have hmax := ByteArray.extract_zero_max_size (a := bytes) (i := chunkSize)
      rwa [Nat.max_eq_left hshort] at hmax
    rw [hbehind, hall, Nat.sub_eq_zero_of_le hshort, readSizes_zero, List.cons_append, List.nil_append]
    exact ⟨rfl, rfl⟩
  · have hrest : q (.data (bytes.extract chunkSize bytes.size)) :=
      hq _ (by rw [hleft]; exact Nat.sub_pos_of_lt hlong)
    rw [hbehind, List.takeWhile_cons_of_pos hrest, gathered_cons, readsOf_cons, octets, hleft,
      ← ByteArray.append_assoc, extract_chunk_append, List.cons_append]
    exact ⟨rfl, rfl⟩

/-- A collector that passes octets passes what is left of them. -/
theorem dropWhile_behind (hq : ∀ bytes, 0 < bytes.size → q (.data bytes)) (hfull : 0 < bytes.size) :
    (behind bytes rest).dropWhile q = (.data bytes :: rest).dropWhile q := by
  rw [List.dropWhile_cons_of_pos (hq bytes hfull)]
  rcases behind_cases rest bytes with ⟨-, hbehind⟩ | ⟨hlong, hbehind⟩
  · rw [hbehind]
  · rw [hbehind, List.dropWhile_cons_of_pos]
    exact hq _ (by rw [ByteArray.size_extract, Nat.min_self]; exact Nat.sub_pos_of_lt hlong)

/-- A read of octets leaves fewer rounds. -/
theorem roundsOf_behind : roundsOf (behind bytes rest) < roundsOf (.data bytes :: rest) := by
  have hcons : ∀ bytes, roundsOf (.data bytes :: rest) = bytes.size / chunkSize + 1 + roundsOf rest := fun _ => rfl
  rcases behind_cases rest bytes with ⟨-, hbehind⟩ | ⟨hlong, hbehind⟩
  · rw [hbehind, hcons]
    exact Nat.lt_add_of_pos_left (Nat.succ_pos _)
  · have hdiv : bytes.size / chunkSize = (bytes.size - chunkSize) / chunkSize + 1 :=
      Nat.div_eq_sub_div (by decide) (Nat.le_of_lt hlong)
    rw [hbehind, hcons, hcons, ByteArray.size_extract, Nat.min_self, hdiv]
    exact Nat.add_lt_add_right (Nat.lt_succ_self _) _

end Behind

section Bare

/-- Only one read of octets is due to a collector that is late. -/
theorem due_data_of_overdue {bytes : ByteArray} (hfull : 0 < bytes.size) (events : List SourceEvent) :
    due true (.data bytes :: events) = bytes.extract 0 chunkSize ∧
      dueReads true (.data bytes :: events) = [min chunkSize bytes.size] := by
  have hsome : bytes.isEmpty = false := (isEmpty_eq_false_iff bytes).mpr hfull
  have hfirst : firstRead (.data bytes :: events) = bytes.extract 0 chunkSize := by
    simp [firstRead, octets, hsome]
  have hsize : (bytes.extract 0 chunkSize).size = min chunkSize bytes.size := by
    rw [ByteArray.size_extract, Nat.sub_zero]
  have hpos : 0 < min chunkSize bytes.size := Nat.lt_min.mpr ⟨by decide, hfull⟩
  refine ⟨by rw [due, if_pos rfl, hfirst], ?_⟩
  rw [dueReads, if_pos rfl, hfirst, hsize, readSizes_eq hpos, Nat.min_eq_right (Nat.min_le_left _ _),
    Nat.sub_eq_zero_of_le (Nat.min_le_left _ _), readSizes_zero]

/-- An event without octets adds nothing. -/
theorem due_of_bare (overdue : Bool) {event : SourceEvent} (h : event.octets = .empty)
    (events : List SourceEvent) :
    due overdue (event :: events) = due overdue events ∧
      dueReads overdue (event :: events) = dueReads overdue events := by
  have hfirst : firstRead (event :: events) = firstRead events := by
    have hempty : ByteArray.empty.isEmpty := rfl
    simp [firstRead, h, hempty]
  cases overdue
  · simp [due, dueReads, h]
  · simp [due, dueReads, hfirst]

/-- The waits for the stop give nothing, and take no rounds after it. -/
theorem due_pastStop (overdue : Bool) (events : List SourceEvent) :
    due overdue (events.takeWhile isDrained) = due overdue ((pastStop events).takeWhile isDrained) ∧
      dueReads overdue (events.takeWhile isDrained) =
        dueReads overdue ((pastStop events).takeWhile isDrained) ∧
      roundsOf (pastStop events) ≤ roundsOf events := by
  fun_induction pastStop events with
  | case1 rest ih =>
    have hbare := due_of_bare overdue (rfl : untilStop.octets = .empty) (rest.takeWhile isDrained)
    rw [List.takeWhile_cons_of_pos rfl, hbare.1, hbare.2]
    exact ⟨ih.1, ih.2.1, Nat.le_trans ih.2.2 (Nat.le_add_left _ _)⟩
  | case2 events hevents => exact ⟨rfl, rfl, Nat.le_refl _⟩

end Bare

end Script

end Offspring.Collector
