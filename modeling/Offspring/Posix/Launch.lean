import Offspring.Posix.Child
import Offspring.Posix.ExecPlan

/-!
# Launching a child

The parent opens the streams' targets, prepares the plan, makes a pipe for the child's report, and forks.
The pipe is closed on exec, so its end without an octet says that the program runs; four octets are the
number of the error that stopped the child. Until the fork every failure leaves nothing behind; after it a
reported failure is answered once the child has been reaped. A parent that loses track of a forked child
ends itself, since a child that nobody can wait for or kill is worse.
-/

namespace Offspring.Posix

variable {W : Type}

/-- What the parent learns from the report. -/
inductive Report where
  /-- The program runs. -/
  | running
  /-- A step of the child failed. -/
  | failed (e : Errno)
  /-- The report cannot be read, or is too short. -/
  | unreadable

/-- The number that four octets report. -/
def Report.number (octets : ByteArray) : Int :=
  let n : Nat := octets.toList.foldr (fun b n => b.toNat + 0x100 * n) 0
  if n < 0x80000000 then n else (n : Int) - 0x100000000

/-- What the octets of a whole report say. -/
def Report.ofOctets (octets : ByteArray) : Report :=
  if octets.size = 0 then .running
  else if octets.size = 4 then .failed ⟨Report.number octets⟩
  else .unreadable

/-- Reads the report up to its fourth octet or its end, in so many reads at most. -/
def readReport (k : Kernel W) (fd : Fd) : Nat → ByteArray → W → Report × W
  | 0, octets, w => (.ofOctets octets, w)
  | fuel + 1, octets, w =>
    if 4 ≤ octets.size then (.ofOctets octets, w)
    else
      match k.read fd (4 - octets.size) w with
      | (.ok more, w) =>
        if more.isEmpty then (.ofOctets octets, w) else readReport k fd fuel (octets ++ more) w
      | (.error e, w) =>
        if e = .interrupted then readReport k fd fuel octets w else (.unreadable, w)

/-- Starts the thread that gathers the child's output. Without one the child goes on, and finds nobody
reading. -/
def startCapture (k : Kernel W) (capture : Option Capture) (w : W) : Option Nat × W :=
  match capture with
  | none => (none, w)
  | some capture =>
    match k.startCollector capture.reader capture.sink w with
    | (.ok collector, w) => (some collector, w)
    | (.error cause, w) => (none, k.note (.collectorRefused cause) w)

/-- The parent's work after the fork. -/
def supervise (k : Kernel W) (spec : LaunchSpec) (options : LaunchOptions) (stdio : Stdio)
    (reportReader : Fd) (child : Pid) (w : W) : Except LaunchError Child × W :=
  let (report, w) := readReport k reportReader (k.interruptions w + 5) .empty w
  let w := k.close reportReader w
  match report with
  | .running =>
    let (collector, w) := startCapture k stdio.capture w
    (.ok ⟨child, options.detach, collector, none⟩, k.note (.execSucceeded spec.program) w)
  | .failed e =>
    let (reaped, w) := k.retry (k.await child) w
    let w := k.closeAll (stdio.capture.map (·.reader)).toList w
    (.error (.launch (.os e)),
      match reaped with
      | .ok _ => w
      | .error _ => k.abort w)
  | .unreadable =>
    let (_, w) := k.kill child sigkill w
    (.error (.launch (.kind .other)), k.abort w)

/-- Launches a child. -/
def launch (k : Kernel W) (spec : LaunchSpec) (options : LaunchOptions) (w : W) :
    Except LaunchError Child × W :=
  match Stdio.openPlan k options.stdio w with
  | (.error cause, w) => (.error cause, w)
  | (.ok stdio, w) =>
    match ExecPlan.ofSpec spec options stdio with
    | .error cause => (.error cause, k.closeAll stdio.allFds w)
    | .ok plan =>
      match k.makePipe w with
      | (.error e, w) => (.error (.io (.os e)), k.closeAll stdio.allFds w)
      | (.ok (reader, writer), w) =>
        match k.fork w with
        | (.error e, w) =>
          (.error (.launch (.os e)), k.closeAll (reader :: writer :: stdio.allFds) w)
        | (.ok child, w) =>
          let w := plan.run k child writer w
          let w := k.closeAll (writer :: stdio.childFds) w
          supervise k spec options stdio reader child w

/-- The backend over the calls of an operating system. -/
def backend (k : Kernel W) : Backend W Child where
  name := "posix"
  supportsSignals := true
  launch := launch k
  pid c := c.pid
  tryWait c w := c.tryWait k w
  wait c w := c.wait k w
  kill c w :=
    let (delivered, w) := c.kill k w
    (delivered, c, w)
  release c w := c.release k w
  note := k.note

end Offspring.Posix
