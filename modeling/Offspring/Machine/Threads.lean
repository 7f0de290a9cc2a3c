import Offspring.Collector
import Offspring.Machine.Processes
import Offspring.Posix.Reaper

/-!
# Threads of the client

A collecting thread makes the rounds of `Collector.iterate` on a descriptor of the client. A reaping thread
waits for a child as in `Posix.Reaper` and then tells a collecting thread to stop. A thread fails in the calls in which the
client failed when it was started.
-/

namespace Offspring.Machine

open Posix (Fd Pid)

variable {T : Type}

/-- How long a collector that has been told to stop copies output that keeps coming, in microseconds. -/
def grace : Nat := 500000

/-- A call of the client that fails in certain calls only. -/
def refusing {α : Type} (refusals : Refusals) (call : Machine T → α × Machine T) (m : Machine T) :
    α × Machine T :=
  let before := ((m.process? client).map (·.refusals)).getD []
  let set (refusals : Refusals) (m : Machine T) : Machine T :=
    m.modifyProcess client fun p => { p with refusals }
  let (answer, m) := call (set refusals m)
  (answer, set before m)

/-- Whether a descriptor of the client can be read without waiting. -/
def clientCanRead (m : Machine T) (fd : Fd) : Bool :=
  match m.fileOf? client fd with
  | some (_, f) => m.isReadable f.channel
  | none => true

/-- Whether waiting for input tells a collector to read. A wait that fails does, since the read will tell
what is wrong; one that is interrupted does not. -/
def tellsToRead (m : Machine T) (refusals : Refusals) (fd : Fd) : Bool :=
  match refusals.lookup .awaitInput with
  | some e => e ≠ .interrupted
  | none => m.clientCanRead fd

/-- What a read of a descriptor of the client gives a collector. -/
def collectorRead (fd : Fd) (m : Machine T) : Collector.ReadAnswer × Machine T :=
  match m.read client fd Collector.chunkSize with
  | (.done octets, m) => (.data octets, m)
  | (.blocked, m) => (.interrupted, m)
  | (.failed e, m) =>
    (if e = .interrupted then .interrupted
     else if e = .brokenPipe then .brokenPipe
     else .failed (.os e), m)

/-- The world of a collecting thread. -/
def ports (refusals : Refusals) (fd : Fd) (sink : Sink) (deadline : Option Nat) :
    Collector.Ports (Machine T) where
  waitReadable _ m := (m.tellsToRead refusals fd, m)
  read m := collectorRead fd m
  append octets m := { m with sinks := m.sinks.append sink octets }
  overdue m := deadline.any (· ≤ m.now)
  note := note

/-- The thread with a number. -/
def thread? (m : Machine T) (id : Nat) : Option Thread :=
  (m.threads[id]?).map (·.1)

/-- Changes the thread with a number. -/
def setThread (m : Machine T) (id : Nat) (t : Thread) : Machine T :=
  { m with threads := m.threads.modify id fun (_, refusals) => (t, refusals) }

/-- Whether a thread has ended. -/
def threadHasEnded (m : Machine T) (id : Nat) : Bool :=
  match m.thread? id with
  | some .ended | none => true
  | _ => false

/-- Tells a collecting thread to stop. -/
def tellToStop (id : Nat) (m : Machine T) : Machine T :=
  match m.thread? id with
  | some (.collector fd sink none) => m.setThread id (.collector fd sink (some (m.now + grace)))
  | _ => m

/-- Makes one round of a thread; the answer is whether it had anything to do. -/
def runThread (id : Nat) (m : Machine T) : Bool × Machine T :=
  match m.threads[id]? with
  | none | some (.ended, _) => (false, m)
  | some (.collector fd sink deadline, refusals) =>
    let told := m.tellsToRead refusals fd
    if told && !m.clientCanRead fd then (false, m)
    else if !told && deadline.isNone then (false, m)
    else
      let p := ports refusals fd sink deadline
      match Collector.iterate p deadline.isSome m with
      | (.goesOn, m) => (true, m)
      | (_, m) => (true, (m.close client fd).setThread id .ended)
  | some (.reaper child collector, refusals) =>
    let settle (answer : Except Errno Posix.Remains) (m : Machine T) : Bool × Machine T :=
      match Posix.Reaper.settle tellToStop collector answer m with
      | (true, m) => (true, m.setThread id .ended)
      | (false, m) => (false, m)
    match refusing refusals (reap client child) m with
    | (.blocked, m) => (false, m)
    | (.done remains, m) => settle (.ok remains) m
    | (.failed e, m) => settle (.error e) m

/-- Starts a thread that fails in the calls in which the client fails now. -/
def startThread (t : Thread) (m : Machine T) : Except IoError Nat × Machine T :=
  match m.refusal? client .startThread with
  | some _ => (.error (.os .tryAgain), m)
  | none =>
    let refusals := ((m.process? client).map (·.refusals)).getD []
    (.ok m.threads.size, { m with threads := m.threads.push (t, refusals) })

end Offspring.Machine
