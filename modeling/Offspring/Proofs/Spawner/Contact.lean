import Offspring.Proofs.Spawner.Projection

/-!
# What reaches the backend

`Backend.recorded` is a backend that answers as another one and writes down each contact with its answer.
The contacts of a run are what it has written in the end. Recording changes nothing else: a recorded run
has the same replies, the same spawners and the same worlds as the run itself, so the contacts are those
that the unrecorded backend receives.

A child's process number is read off the child and is no contact; it is written down with the launch.
-/

namespace Offspring

variable {W C : Type}

/-- One use of a backend or of its child, with the answer. -/
inductive Contact where
  /-- A launch; its answer is the number of the child. -/
  | launch (spec : LaunchSpec) (options : LaunchOptions) (answer : Except LaunchError Int)
  | tryWait (answer : Option Outcome)
  | wait (outcome : Outcome)
  | kill (delivered : Bool)
  | release

namespace Contact

/-- Whether the backend is asked for a child. -/
def isLaunch : Contact → Bool
  | .launch .. => true
  | _ => false

/-- The number of the child that a launch has given. -/
def number? : Contact → Option Int
  | .launch _ _ (.ok number) => some number
  | _ => none

/-- Whether a launched child is asked for something. -/
def asksChild : Contact → Bool
  | .tryWait _ | .wait _ | .kill _ => true
  | _ => false

/-- Whether the child is waited for until its end. -/
def isWait : Contact → Bool
  | .wait _ => true
  | _ => false

/-- Whether the child is given up. -/
def isRelease : Contact → Bool
  | .release => true
  | _ => false

/-- The outcome that the child delivers. -/
def outcome? : Contact → Option Outcome
  | .tryWait answer => answer
  | .wait outcome => some outcome
  | _ => none

/-- Whether a running child is asked and goes on running, as far as the answer tells. -/
def isProbe : Contact → Bool
  | .tryWait none | .kill _ => true
  | _ => false

end Contact

/-- A world with the contacts made in it, the first one first. -/
structure Recorded (W : Type) where
  world : W
  contacts : List Contact

/-- Adds a contact that has led to a world. -/
def Recorded.add (r : Recorded W) (w : W) (contact : Contact) : Recorded W :=
  ⟨w, r.contacts ++ [contact]⟩

/-- The backend that writes down its contacts. -/
def Backend.recorded (b : Backend W C) : Backend (Recorded W) C where
  name := b.name
  supportsSignals := b.supportsSignals
  launch spec options r :=
    let (answer, w) := b.launch spec options r.world
    (answer, r.add w (.launch spec options (answer.map b.pid)))
  pid := b.pid
  tryWait c r :=
    let (answer, c, w) := b.tryWait c r.world
    (answer, c, r.add w (.tryWait answer))
  wait c r :=
    let (outcome, c, w) := b.wait c r.world
    (outcome, c, r.add w (.wait outcome))
  kill c r :=
    let (delivered, c, w) := b.kill c r.world
    (delivered, c, r.add w (.kill delivered))
  release c r := r.add (b.release c r.world) .release
  note event r := { r with world := b.note event r.world }

/-- Recording goes on in the world of the backend. -/
theorem Backend.recorded_projects_world (b : Backend W C) : b.recorded.Projects b Recorded.world where
  name := rfl
  supportsSignals := rfl
  launch _ _ _ := rfl
  pid := rfl
  tryWait _ _ := rfl
  wait _ _ := rfl
  kill _ _ := rfl
  release _ _ := rfl
  note _ _ := rfl

/-- What was written down before has no part in recording. -/
theorem Backend.recorded_projects_after (b : Backend W C) (log : List Contact) :
    b.recorded.Projects b.recorded fun r => ⟨r.world, log ++ r.contacts⟩ where
  name := rfl
  supportsSignals := rfl
  launch _ _ _ := by simp [Backend.recorded, Recorded.add]
  pid := rfl
  tryWait _ _ := by simp [Backend.recorded, Recorded.add]
  wait _ _ := by simp [Backend.recorded, Recorded.add]
  kill _ _ := by simp [Backend.recorded, Recorded.add]
  release _ _ := by simp [Backend.recorded, Recorded.add]
  note _ _ := rfl

namespace Spawner.Scene

/-- A scene in which contacts are written down after those there are. -/
def recording (x : Scene W C) (contacts : List Contact) : Scene (Recorded W) C :=
  ⟨x.spawner, ⟨x.world, contacts⟩⟩

/-- The contacts that calls lead to. -/
def contacts (b : Backend W C) (x : Scene W C) (calls : List Call) : List Contact :=
  ((x.recording []).run b.recorded calls).world.contacts

/-- The contacts that giving up the spawner leads to. -/
def farewell (b : Backend W C) (x : Scene W C) : List Contact :=
  (x.spawner.release b.recorded ⟨x.world, []⟩).contacts

/-- Recording leaves the reply, the spawner and the world of a call as they are. -/
theorem perform_recording (b : Backend W C) (x : Scene W C) (log : List Contact) (call : Call) :
    (x.recording log).perform b.recorded call =
      ((x.perform b call).1, (x.perform b call).2.recording (log ++ x.contacts b [call])) := by
  -- The world and the log are two projections of a recorded world.
  have hworld : x.perform b call = ((x.recording log).perform b.recorded call).map id (map Recorded.world) :=
    perform_map b.recorded_projects_world (x.recording log) call
  have hlog := perform_map (b.recorded_projects_after log) (x.recording []) call
  have hcontacts : ((x.recording log).perform b.recorded call).2.world.contacts =
      log ++ x.contacts b [call] := by
    have hstart : (x.recording []).map (fun r => ⟨r.world, log ++ r.contacts⟩) = x.recording log := by
      simp [map, recording]
    rw [hstart] at hlog
    rw [hlog]
    rfl
  rw [hworld, ← hcontacts]
  rfl

/-- A recorded run is the run itself, with its contacts added. -/
theorem run_recording (b : Backend W C) (x : Scene W C) (log : List Contact) (calls : List Call) :
    (x.recording log).run b.recorded calls = (x.run b calls).recording (log ++ x.contacts b calls) := by
  induction calls generalizing x log with
  | nil => simp [contacts, recording]
  | cons call calls ih =>
    have hall : x.contacts b (call :: calls) =
        x.contacts b [call] ++ (x.perform b call).2.contacts b calls := by
      rw [contacts, run_cons, perform_recording, ih]
      rfl
    rw [run_cons, perform_recording, ih, hall, run_cons, List.append_assoc]

/-- The contacts of two parts of a run follow each other. -/
theorem contacts_append (b : Backend W C) (x : Scene W C) (calls later : List Call) :
    x.contacts b (calls ++ later) = x.contacts b calls ++ (x.run b calls).contacts b later := by
  rw [contacts, run_append, run_recording, run_recording]
  rfl

/-- The contacts of a run begin with those of its first call. -/
theorem contacts_cons (b : Backend W C) (x : Scene W C) (call : Call) (calls : List Call) :
    x.contacts b (call :: calls) = x.contacts b [call] ++ (x.perform b call).2.contacts b calls :=
  contacts_append b x [call] calls

@[simp] theorem contacts_nil (b : Backend W C) (x : Scene W C) : x.contacts b [] = [] := rfl

end Spawner.Scene

end Offspring
