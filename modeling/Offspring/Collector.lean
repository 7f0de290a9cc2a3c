import Offspring.Event

/-!
# Gathering a child's output

A collector copies what a source gives into a sink until the source ends. When the child is gone others
may still hold the source open, so the collector is then told to stop: from then on it copies only what
is ready, and gives up at a deadline even if more keeps coming.

`iterate` is one round: it learns whether it has been told to stop, waits until the source is ready, and
reads once. It never reads a source that has not just said it is ready.
-/

namespace Offspring.Collector

/-- How much one read can give. -/
def chunkSize : Nat := 8192

/-- How long a round waits for the source: a short while, or not at all once told to stop. -/
inductive Timeout where
  | slice
  | zero
  deriving DecidableEq

/-- What a read gives. No octets at all are the end of the source. -/
inductive ReadAnswer where
  | data (bytes : ByteArray)
  | interrupted
  | brokenPipe
  | failed (cause : IoError)
  | panicked

/-- The world of a collector: its source, its sink, its deadline, and somebody who listens. -/
structure Ports (W : Type) where
  /-- Waits until the source is ready to be read, or has ended. -/
  waitReadable : Timeout → W → Bool × W
  /-- Reads at most a chunk. -/
  read : W → ReadAnswer × W
  /-- Adds octets to the sink. -/
  append : ByteArray → W → W
  /-- Whether the deadline for what is left has come. -/
  overdue : W → Bool
  /-- Tells about the work. -/
  note : Event → W → W

/-- How a round ends. -/
inductive Progress where
  | goesOn
  | ended
  | panicked
  deriving DecidableEq

/-- One round; `stopped` is whether the collector has been told to stop when the round begins. -/
def iterate {W : Type} (p : Ports W) (stopped : Bool) (w : W) : Progress × W :=
  let (ready, w) := p.waitReadable (if stopped then .zero else .slice) w
  if ready then
    match p.read w with
    | (.data bytes, w) =>
      if bytes.isEmpty then (.ended, w)
      else
        let w := p.append bytes w
        if stopped && p.overdue w then (.ended, p.note .captureCutOff w) else (.goesOn, w)
    | (.interrupted, w) => (.goesOn, w)
    | (.brokenPipe, w) => (.ended, w)
    | (.failed cause, w) => (.ended, p.note (.readingFailed cause) w)
    | (.panicked, w) => (.panicked, w)
  else (if stopped then .ended else .goesOn, w)

/-- Rounds until the collector ends or `pause` holds, `fuel` of them at most. -/
def rounds {W : Type} (p : Ports W) (stopped : Bool) (pause : W → Bool) : Nat → W → Progress × W
  | 0, w => (.goesOn, w)
  | fuel + 1, w =>
    if pause w then (.goesOn, w)
    else
      match iterate p stopped w with
      | (.goesOn, w) => rounds p stopped pause fuel w
      | ended => ended

end Offspring.Collector
