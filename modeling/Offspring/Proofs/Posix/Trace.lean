import Offspring.Proofs.Posix.Projection

/-!
# What the parent asks the operating system

`Kernel.traced` is a kernel that answers as another one and writes down each call of the parent with its answer
and the world that it was made in. Tracing changes nothing else, so what has been written down in the end are
the calls that the untraced kernel receives. What is told to a listener is no call, and neither is what a
forked child does before its program.
-/

namespace Offspring.Posix

/-- A call of the parent, with its answer. -/
inductive SystemCall where
  | openRead (path : OsString) (answer : Except Errno Fd)
  | create (path : OsString) (answer : Except Errno Fd)
  | makePipe (answer : Except Errno (Fd × Fd))
  | close (fd : Fd)
  | read (fd : Fd) (count : Nat) (answer : Except Errno ByteArray)
  | fork (answer : Except Errno Pid)
  | await (pid : Pid) (answer : Except Errno Remains)
  | poll (pid : Pid) (answer : Except Errno (Option Remains))
  | hasEnded (pid : Pid) (answer : Except Errno Bool)
  | kill (pid : Pid) (signal : Nat) (answer : Except Errno Unit)
  | startCollector (fd : Fd) (sink : Sink) (answer : Except IoError Nat)
  | finishCollector (collector : Nat)
  | startReaper (pid : Pid) (collector : Option Nat) (answer : Except IoError Unit)
  | abort

/-- A call that has been made, and the world in which it was. -/
structure Made (W : Type) where
  call : SystemCall
  before : W

/-- A world with the calls made in it, the first one first. -/
structure Traced (W : Type) where
  world : W
  made : List (Made W)

variable {W α : Type}

namespace Traced

/-- A world in which nothing has been written down. -/
def start (w : W) : Traced W :=
  ⟨w, []⟩

/-- Goes on in another world, without a call. -/
def move (r : Traced W) (w : W) : Traced W :=
  { r with world := w }

/-- Adds a call that has led to a world. -/
def add (r : Traced W) (call : SystemCall) (w : W) : Traced W :=
  ⟨w, r.made ++ [⟨call, r.world⟩]⟩

/-- Adds a call with its answer. -/
def answered (r : Traced W) (call : α → SystemCall) (answer : α × W) : α × Traced W :=
  (answer.1, r.add (call answer.1) answer.2)

/-- Puts what was written down before in front. -/
def behind (log : List (Made W)) (r : Traced W) : Traced W :=
  { r with made := log ++ r.made }

@[simp] theorem world_start (w : W) : (start w).world = w := rfl

@[simp] theorem world_move (r : Traced W) (w : W) : (r.move w).world = w := rfl

@[simp] theorem world_add (r : Traced W) (call : SystemCall) (w : W) : (r.add call w).world = w := rfl

@[simp] theorem made_add (r : Traced W) (call : SystemCall) (w : W) :
    (r.add call w).made = r.made ++ [⟨call, r.world⟩] := rfl

theorem behind_start (r : Traced W) : behind r.made (start r.world) = r := by
  simp [behind, start]

/-- What goes on behind a log leaves the log as it is. -/
theorem mem_made_of_behind {f : Traced W → Traced W} (hf : ∀ log r, f (behind log r) = behind log (f r))
    {r : Traced W} {m : Made W} (h : m ∈ r.made) : m ∈ (f r).made := by
  have hgoes := hf r.made (start r.world)
  rw [behind_start] at hgoes
  rw [hgoes]
  exact List.mem_append_left _ h

end Traced

/-- The kernel that writes down the calls of the parent. -/
def Kernel.traced (k : Kernel W) : Kernel (Traced W) where
  interruptions r := k.interruptions r.world
  openRead path r := r.answered (.openRead path) (k.openRead path r.world)
  create path r := r.answered (.create path) (k.create path r.world)
  makePipe r := r.answered .makePipe (k.makePipe r.world)
  close fd r := r.add (.close fd) (k.close fd r.world)
  read fd count r := r.answered (.read fd count) (k.read fd count r.world)
  fork r := r.answered .fork (k.fork r.world)
  await pid r := r.answered (.await pid) (k.await pid r.world)
  poll pid r := r.answered (.poll pid) (k.poll pid r.world)
  hasEnded pid r := r.answered (.hasEnded pid) (k.hasEnded pid r.world)
  kill pid signal r := r.answered (.kill pid signal) (k.kill pid signal r.world)
  startCollector fd sink r := r.answered (.startCollector fd sink) (k.startCollector fd sink r.world)
  finishCollector id r := r.add (.finishCollector id) (k.finishCollector id r.world)
  startReaper pid collector r := r.answered (.startReaper pid collector) (k.startReaper pid collector r.world)
  abort r := r.add .abort (k.abort r.world)
  note event r := r.move (k.note event r.world)
  newSession pid r := ((k.newSession pid r.world).1, r.move (k.newSession pid r.world).2)
  setUmask pid mask r := r.move (k.setUmask pid mask r.world)
  keepOnExec pid fd r := ((k.keepOnExec pid fd r.world).1, r.move (k.keepOnExec pid fd r.world).2)
  duplicate pid fd target r :=
    ((k.duplicate pid fd target r.world).1, r.move (k.duplicate pid fd target r.world).2)
  changeDirectory pid path r :=
    ((k.changeDirectory pid path r.world).1, r.move (k.changeDirectory pid path r.world).2)
  exec pid program argv envp r :=
    ((k.exec pid program argv envp r.world).1, r.move (k.exec pid program argv envp r.world).2)
  write pid fd octets r := r.move (k.write pid fd octets r.world)
  exit pid code r := r.move (k.exit pid code r.world)

/-- Tracing goes on in the world of the kernel. -/
theorem Kernel.traced_projects_world (k : Kernel W) : k.traced.Projects k Traced.world := by
  constructor <;> intros <;> rfl

/-- What was written down before has no part in tracing. -/
theorem Kernel.traced_projects_behind (k : Kernel W) (log : List (Made W)) :
    k.traced.Projects k.traced (Traced.behind log) := by
  constructor <;> intros <;>
    simp [Kernel.traced, Traced.behind, Traced.answered, Traced.add, Traced.move, projected]

end Offspring.Posix
