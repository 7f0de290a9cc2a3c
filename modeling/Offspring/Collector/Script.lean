import Offspring.Collector

/-!
# Collecting from a scripted source

The source follows a list of events and keeps a trace of the calls made to it. `Script.capture` runs a
collector on it: unstopped until the source first waits for the stop, then stopped, with a deadline that
is either past or never comes.
-/

namespace Offspring.Collector

/-- One thing a scripted source does. -/
inductive SourceEvent where
  /-- It gives octets, as many at a time as a read can take. -/
  | data (bytes : ByteArray)
  | eof
  | interrupted
  | brokenPipe
  | wouldBlock
  | other
  | panic
  /-- It is not ready, once. -/
  | notReady
  /-- It is not ready until the collector is stopped. -/
  | untilStop
  /-- It is never ready. -/
  | hold

/-- A call made to the source, with its answer. -/
inductive Call where
  | waited (timeout : Timeout) (ready : Bool)
  | gave (count : Nat)
  | failed (name : String)
  | panicked

/-- How a call is shown. -/
def Call.shown : Call → String
  | .waited timeout ready =>
    "wait " ++ (match timeout with | .slice => "slice" | .zero => "zero") ++
      (if ready then " ready" else " idle")
  | .gave count => "read " ++ toString count
  | .failed name => "read " ++ name
  | .panicked => "panic"

/-- A scripted source with the sink and the trace. -/
structure Script where
  events : List SourceEvent
  sink : ByteArray
  /-- The deadline for what is left after the stop is past. -/
  overdue : Bool
  trace : Array Call := #[]
  log : Array Event := #[]

namespace Script

/-- The events without those that wait for the stop at their front. -/
def pastStop : List SourceEvent → List SourceEvent
  | .untilStop :: rest => pastStop rest
  | events => events

/-- Adds a call to the trace. -/
def record (s : Script) (call : Call) : Script :=
  { s with trace := s.trace.push call }

/-- The readiness of the source. -/
def waitReadable (timeout : Timeout) (s : Script) : Bool × Script :=
  let s := match timeout with
    | .zero => { s with events := pastStop s.events }
    | .slice => s
  match s.events, timeout with
  | .untilStop :: _, _ => (false, s)
  | .hold :: _, .slice => (false, s)
  | .hold :: _, .zero => (false, s.record (.waited timeout false))
  | .notReady :: rest, _ => (false, { s with events := rest }.record (.waited timeout false))
  | _, _ => (true, s.record (.waited timeout true))

/-- One read of the source. -/
def read (s : Script) : ReadAnswer × Script :=
  match s.events with
  | .data bytes :: rest =>
    let given := bytes.extract 0 chunkSize
    let left := bytes.extract chunkSize bytes.size
    let events := if left.isEmpty then rest else .data left :: rest
    (.data given, { s with events }.record (.gave given.size))
  | .interrupted :: rest => (.interrupted, { s with events := rest }.record (.failed "Interrupted"))
  | .brokenPipe :: rest => (.brokenPipe, { s with events := rest }.record (.failed "BrokenPipe"))
  | .wouldBlock :: rest =>
    (.failed (.kind .wouldBlock), { s with events := rest }.record (.failed "WouldBlock"))
  | .other :: rest => (.failed (.kind .other), { s with events := rest }.record (.failed "Other"))
  | .panic :: rest => (.panicked, { s with events := rest }.record .panicked)
  | .eof :: rest => (.data .empty, { s with events := rest }.record (.gave 0))
  | .notReady :: _ | .untilStop :: _ | .hold :: _ | [] => (.data .empty, s.record (.gave 0))

/-- The world of a collector on a scripted source. -/
def ports : Ports Script where
  waitReadable := waitReadable
  read := read
  append bytes s := { s with sink := s.sink ++ bytes }
  overdue s := s.overdue
  note event s := { s with log := s.log.push event }

/-- Whether the source waits for the stop. -/
def awaitsStop (s : Script) : Bool :=
  match s.events with
  | .untilStop :: _ | .hold :: _ => true
  | _ => false

/-- How many rounds one event can take. -/
def SourceEvent.rounds : SourceEvent → Nat
  | .data bytes => bytes.size / chunkSize + 1
  | _ => 1

/-- How many rounds the events can take, with the last one that finds nothing. -/
def roundBound (s : Script) : Nat :=
  (s.events.map SourceEvent.rounds).foldr (· + ·) 0 + 1

/-- Runs a collector on the source: unstopped until the source waits for the stop, then stopped. -/
def capture (s : Script) : Script :=
  let (progress, s) := rounds ports false awaitsStop s.roundBound s
  let (progress, s) :=
    match progress with
    | .goesOn => rounds ports true (fun _ => false) s.roundBound s
    | _ => (progress, s)
  match progress with
  | .panicked => { s with log := s.log.push .collectorPanicked }
  | _ => s

end Script

end Offspring.Collector
