import Mathlib.Tactic.SplitIfs
import Offspring.Proofs.Run.Projection
import Offspring.Proofs.Spawner.Step
import Offspring.Spawner.Scripted

/-!
# What a run launches

`Config.Launchable` says which configurations get as far as a launch: they name a program, gather no output
besides using files, and have a mask that can be read if they have one. Every check comes before the launch, so
a configuration that fails one leaves nothing behind, and the others launch once. `Host.recorded` is a host
whose backend writes down its contacts; the contacts of a run are read off an execution on it, which differs
in nothing else.
-/

namespace Offspring

variable {W C : Type}

namespace Spawner

/-- Waiting for a child that is out: a poll finds it running, or its end is seen and it is released. -/
theorem wait_recorded (b : Backend W C) (s : Spawner C) (policy : WaitPolicy) (r : Recorded W)
    (hs : s.Coherent) (hout : s.state = .spawned) :
    (∃ child w, policy = .noHang ∧ s.wait b.recorded policy r =
        (true, { s with child := some child }, r.add w (.tryWait none))) ∨
      ∃ delivered outcome w, s.wait b.recorded policy r =
        (false, s.ended outcome, ⟨w, r.contacts ++ (policy.observation delivered outcome ++ [.release])⟩) := by
  have hstep := step_wait b ⟨s, r.world⟩ policy hs
  have hrecord := Scene.perform_recording b ⟨s, r.world⟩ r.contacts (.wait policy)
  generalize Scene.perform b ⟨s, r.world⟩ (.wait policy) = answer at hstep hrecord
  generalize Scene.contacts b ⟨s, r.world⟩ [.wait policy] = made at hstep hrecord
  obtain ⟨reply, s', w⟩ := answer
  simp only [Scene.recording, Scene.perform, Prod.mk.injEq, Scene.mk.injEq] at hrecord hstep
  obtain ⟨hreply, hspawner, hworld⟩ := hrecord
  cases hstep with
  | poll child =>
    exact .inl ⟨child, w, rfl, Prod.ext (Reply.flag.inj hreply) (Prod.ext hspawner hworld)⟩
  | observe _ delivered outcome =>
    exact .inr ⟨delivered, outcome, w, Prod.ext (Reply.flag.inj hreply) (Prod.ext hspawner hworld)⟩
  | childless _ _ hgone => exact absurd hout hgone

end Spawner

namespace Run

namespace Config

/-- What a run needs to be launched. -/
structure Launchable (c : Config) : Prop where
  named : c.launch.program.isEmpty = false
  undivided : c.capture → c.stdin = none ∧ c.stdout = none ∧ c.stderr = none
  readable : ∀ text, c.umask = some text → ∃ mask, readMask text = .ok mask

/-- Where the streams of the child go, if output is gathered in the given buffer. -/
def route (c : Config) (sink : Sink) : Redirection :=
  if c.capture then .buffer sink
  else if c.files.isEmpty then .inherit
  else .files c.files

/-- The mask that is asked for, if it can be read. -/
def mask? (c : Config) : Option Nat :=
  c.umask.bind fun text => (readMask text).toOption

/-- What the launch is asked for. -/
def options (c : Config) (sink : Sink) : LaunchOptions :=
  { stdio := (c.route sink).plan c.mode, detach := c.detach, umask := c.mask? }

/-- The spawner that is ready for the launch. -/
def spawner (c : Config) (sink : Sink) : Spawner C :=
  { redirection := c.route sink
    mode := if c.capture || !c.files.isEmpty then c.mode else .merged
    detach := c.detach
    umask := c.mask? }

/-- What is launched: the entries of the environment come after those variables of the parent that have
none of their names, if the parent's are wanted. -/
def launched (c : Config) (parent : List OsString) : LaunchSpec :=
  { c.launch with
    env :=
      if c.inheritEnv then
        ((Environment.inherited parent).filter fun entry =>
          ∀ own ∈ c.launch.env, Environment.entryName own ≠ Environment.entryName entry) ++ c.launch.env
      else c.launch.env }

/-- Without any file the mode does not matter. -/
theorem spawner_options (c : Config) (sink : Sink) :
    (c.spawner sink : Spawner C).options = c.options sink := by
  unfold Spawner.options spawner options route
  split_ifs <;> simp_all [Redirection.plan]

end Config

/-- The parent's variables are added as they are wanted. -/
theorem launchOf_eq (c : Config) (parent : List OsString) : launchOf c parent = c.launched parent := by
  have hkept : ∀ entry, (!(c.launch.env.map Environment.entryName).contains (Environment.entryName entry)) =
      decide (∀ own ∈ c.launch.env, Environment.entryName own ≠ Environment.entryName entry) := by
    intro entry
    rw [Bool.eq_iff_iff]
    simp
  unfold launchOf Config.launched LaunchSpec.mergeParent
  split_ifs
  · simp only [hkept]
  · rfl

/-- Files are asked for as soon as one stream has one. -/
theorem files_isEmpty (c : Config) :
    c.files.isEmpty = true ↔ c.stdin = none ∧ c.stdout = none ∧ c.stderr = none := by
  simp [StreamFiles.isEmpty, Config.files, and_assoc]

section Configuring

variable (b : Backend W C) {c : Config} (sink : Sink) (w : W)

/-- Gathering output besides using files is a conflict. -/
theorem configure_of_divided (hcapture : c.capture = true) (hfiles : c.files.isEmpty = false) :
    configure b c (if c.capture then some sink else none) w = .error (.refused .bufferConfigured) := by
  simp [configure, hcapture, Spawner.configureBuffer, Spawner.configureFiles, Redirection.setBuffer,
    Redirection.setFiles, hfiles, Except.mapError, bind, Except.bind]

/-- With the streams in order, only the mask can be refused. -/
theorem configure_of_undivided (hundivided : c.capture → c.files.isEmpty = true) :
    configure b c (if c.capture then some sink else none) w =
      match c.umask with
      | none => .ok ({ (c.spawner sink : Spawner C) with umask := none }, w)
      | some text =>
        match readMask text with
        | .ok mask => .ok ({ (c.spawner sink : Spawner C) with umask := some mask }, w)
        | .error fault => .error (.mask fault) := by
  cases humask : c.umask with
  | none =>
    cases hcapture : c.capture <;> cases hfiles : c.files.isEmpty <;>
      simp_all [configure, Spawner.configureBuffer, Spawner.configureFiles, Redirection.setBuffer,
        Redirection.setFiles, Except.mapError, bind, Except.bind, Config.spawner, Config.route,
        Spawner.configureDetach]
  | some text =>
    cases hread : readMask text <;> cases hcapture : c.capture <;> cases hfiles : c.files.isEmpty <;>
      simp_all [configure, Spawner.configureBuffer, Spawner.configureFiles, Redirection.setBuffer,
        Redirection.setFiles, Except.mapError, bind, Except.bind, Config.spawner, Config.route,
        Spawner.configureDetach, Spawner.configureUmask]

/-- A configuration that can be launched makes its spawner ready. -/
theorem configure_of_launchable (hc : c.Launchable) :
    configure b c (if c.capture then some sink else none) w = .ok (c.spawner sink, w) := by
  rw [configure_of_undivided b sink w fun h => (files_isEmpty c).mpr (hc.undivided h)]
  cases humask : c.umask with
  | none => simp [Config.spawner, Config.mask?, humask]
  | some text =>
    obtain ⟨mask, hread⟩ := hc.readable text humask
    simp [hread, Config.spawner, Config.mask?, humask, Except.toOption]

end Configuring

/-- A configuration that names a program but cannot be launched is refused, for one reason wherever it is. -/
theorem configure_of_not_launchable {c : Config} (hnamed : c.launch.program.isEmpty = false)
    (hc : ¬c.Launchable) :
    ∃ failure, ∀ {W C : Type} (b : Backend W C) (sink : Sink) (w : W),
      configure b c (if c.capture then some sink else none) w = .error failure := by
  by_cases hundivided : c.capture → c.files.isEmpty = true
  · have hstreams : c.capture → c.stdin = none ∧ c.stdout = none ∧ c.stderr = none :=
      fun h => (files_isEmpty c).mp (hundivided h)
    cases humask : c.umask with
    | none => exact absurd ⟨hnamed, hstreams, fun text h => by simp [humask] at h⟩ hc
    | some text =>
      cases hread : readMask text with
      | error fault =>
        refine ⟨.mask fault, fun b sink w => ?_⟩
        simp only [configure_of_undivided b sink w hundivided, humask, hread]
      | ok mask =>
        refine absurd ⟨hnamed, hstreams, fun other h => ⟨mask, ?_⟩⟩ hc
        rw [humask, Option.some.injEq] at h
        rw [← h, hread]
  · obtain ⟨hcapture, hfiles⟩ := Classical.not_imp.mp hundivided
    exact ⟨_, fun b sink w => configure_of_divided b sink w hcapture (eq_false_of_ne_true hfiles)⟩

/-- The host whose backend writes down its contacts. -/
def Host.recorded (h : Host W C) : Host (Recorded W) C where
  backend := h.backend.recorded
  now r := h.now r.world
  rest time r := { r with world := h.rest time r.world }
  looks time r := h.looks time r.world
  newSink r := ((h.newSink r.world).1, { r with world := (h.newSink r.world).2 })
  contents sink r := h.contents sink r.world

section Recorded

variable (h : Host W C)

@[simp] theorem Host.recorded_backend : h.recorded.backend = h.backend.recorded := rfl

@[simp] theorem Host.recorded_now (r : Recorded W) : h.recorded.now r = h.now r.world := rfl

@[simp] theorem Host.recorded_looks (time : Nat) (r : Recorded W) :
    h.recorded.looks time r = h.looks time r.world := rfl

/-- Contacts are written down beside the world of the host. -/
theorem Host.recorded_projects_world : h.recorded.Projects h Recorded.world where
  backend := h.backend.recorded_projects_world
  now _ := rfl
  rest _ _ := rfl
  looks _ _ := rfl
  newSink _ := rfl
  contents _ _ := rfl

/-- Waiting for a child is the same whether or not contacts are written down. -/
theorem waitWithTimeout_world (timeout : Option Nat) (s : Spawner C) (r : Recorded W) :
    waitWithTimeout h timeout s r.world =
      (waitWithTimeout h.recorded timeout s r).map id (Prod.map id Recorded.world) :=
  waitWithTimeout_map h.recorded_projects_world timeout s r

/-- Contacts of a child that is watched until its end: polls that find it running, then one look that sees
the end, and the child is given up. -/
def Watched (made : List Contact) : Prop :=
  ∃ polls policy delivered outcome,
    made = List.replicate polls (.tryWait none) ++
      (WaitPolicy.observation delivered outcome policy ++ [.release])

/-- Watching starts with a poll that finds the child running. -/
theorem Watched.cons {made : List Contact} (hmade : Watched made) : Watched (.tryWait none :: made) := by
  obtain ⟨polls, policy, delivered, outcome, rfl⟩ := hmade
  exact ⟨polls + 1, policy, delivered, outcome, by simp [List.replicate_succ]⟩

/-- Watching a child launches nothing. -/
theorem Watched.countP_isLaunch {made : List Contact} (hmade : Watched made) :
    made.countP Contact.isLaunch = 0 := by
  obtain ⟨polls, policy, delivered, outcome, rfl⟩ := hmade
  cases policy <;> simp [WaitPolicy.observation, Contact.isLaunch, List.countP_replicate]

/-- What waiting for a child leads to: it is watched until its end, and it has been signaled if its time was
over. -/
structure Awaited (s : Spawner C) (r : Recorded W) (answer : Bool × Spawner C × Recorded W) : Prop where
  contacts : ∃ made, answer.2.2.contacts = r.contacts ++ made ∧ Watched made
  signaled : answer.2.1.signaled = (s.signaled || answer.1)

/-- A wait that sees the end has watched the child until then. -/
theorem awaited_of_ended {s : Spawner C} {r : Recorded W} {policy : WaitPolicy} {delivered : Bool}
    {outcome : Outcome} {w : W} (timedOut : Bool) (before : Spawner C)
    (hsignaled : s.signaled = (before.signaled || timedOut)) :
    Awaited before r (timedOut, s.ended outcome,
      ⟨w, r.contacts ++ (policy.observation delivered outcome ++ [.release])⟩) where
  contacts := ⟨_, rfl, 0, policy, delivered, outcome, rfl⟩
  signaled := hsignaled

/-- A child whose time is over is killed and watched until its end. -/
theorem awaited_killOverdue (s : Spawner C) (r : Recorded W) (hs : s.Coherent) (hout : s.state = .spawned) :
    Awaited s r (true, killOverdue h.recorded s r) := by
  obtain ⟨_, _, hpolicy, _⟩ | ⟨delivered, outcome, w, hwait⟩ :=
    Spawner.wait_recorded h.backend s.markSignaled .needKill r hs hout
  · cases hpolicy
  · simp only [killOverdue, Host.recorded_backend, hwait]
    exact awaited_of_ended true s (Bool.or_true _).symm

/-- A child with a time limit is watched until its end, and killed if its time is over. -/
theorem awaited_waitUntil (deadline looks : Nat) (s : Spawner C) (r : Recorded W) (hs : s.Coherent)
    (hout : s.state = .spawned) : Awaited s r (waitUntil h.recorded deadline looks s r) := by
  induction looks generalizing s r with
  | zero => exact awaited_killOverdue h s r hs hout
  | succ looks ih =>
    obtain ⟨child, w, -, hwait⟩ | ⟨delivered, outcome, w, hwait⟩ :=
      Spawner.wait_recorded h.backend s .noHang r hs hout
    · -- A poll has found the child running; what follows comes after it.
      have hnext : ∀ answer : Bool × Spawner C × Recorded W, ∀ w',
          Awaited { s with child := some child } ⟨w', r.contacts ++ [.tryWait none]⟩ answer →
            Awaited s r answer := by
        rintro answer w' ⟨⟨made, hmade, hwatched⟩, hsignaled⟩
        exact ⟨⟨_, by rw [hmade, List.append_assoc]; rfl, hwatched.cons⟩, hsignaled⟩
      have hcoherent : ({ s with child := some child } : Spawner C).Coherent := by
        simp [Spawner.Coherent, hout]
      simp only [waitUntil, Host.recorded_backend, hwait, Recorded.add, Bool.not_true, Bool.false_eq_true,
        if_false]
      split_ifs
      · exact hnext _ _ (awaited_killOverdue h _ _ hcoherent hout)
      · exact hnext _ _ (ih _ _ hcoherent hout)
    · simp only [waitUntil, Host.recorded_backend, hwait, Bool.not_false, if_true]
      exact awaited_of_ended false s (Bool.or_false _).symm

/-- A launched child is watched until its end, whether or not it has a time limit. -/
theorem awaited_waitWithTimeout (timeout : Option Nat) (s : Spawner C) (r : Recorded W)
    (hs : s.Coherent) (hout : s.state = .spawned) :
    Awaited s r (waitWithTimeout h.recorded timeout s r) := by
  cases timeout with
  | some time => exact awaited_waitUntil h _ _ s r hs hout
  | none =>
    obtain ⟨_, _, hpolicy, _⟩ | ⟨delivered, outcome, w, hwait⟩ :=
      Spawner.wait_recorded h.backend s .infinite r hs hout
    · cases hpolicy
    · simp only [waitWithTimeout, Host.recorded_backend, hwait]
      exact awaited_of_ended false s (Bool.or_false _).symm

end Recorded

/-- The contacts that executing a run leads to. -/
def contacts (h : Host W C) (parent : List OsString) (c : Config) (w : W) : List Contact :=
  (execute h.recorded parent c ⟨w, []⟩).2.contacts

section Executing

variable (h : Host W C) (parent : List OsString) {c : Config} (w : W)

/-- The buffer of a run is made only if output is gathered. -/
theorem bufferOf_fst : (bufferOf h c w).1 = if c.capture then some (h.newSink w).1 else none := by
  unfold bufferOf
  split_ifs <;> rfl

/-- A buffer is made the same way whether or not contacts are written down. -/
theorem bufferOf_recorded (r : Recorded W) :
    bufferOf h.recorded c r = ((bufferOf h c r.world).1, { r with world := (bufferOf h c r.world).2 }) := by
  unfold bufferOf
  split_ifs <;> rfl

/-- A configuration that cannot be launched fails before anything is asked for, for one reason wherever it
is. -/
theorem execute_of_not_launchable (hc : ¬c.Launchable) :
    ∃ failure, ∀ {W C : Type} (h : Host W C) (parent : List OsString) (w : W),
      execute h parent c w =
        (.error failure, if c.launch.program.isEmpty then w else (bufferOf h c w).2) := by
  cases hnamed : c.launch.program.isEmpty with
  | true => exact ⟨.noProgram, fun h parent w => by simp only [execute, hnamed, if_true]⟩
  | false =>
    obtain ⟨failure, hfail⟩ := configure_of_not_launchable hnamed hc
    refine ⟨failure, fun h parent w => ?_⟩
    simp only [execute, hnamed, bufferOf_fst, hfail, Bool.false_eq_true, if_false]

/-- The spawner of a run with its child out. -/
def withChild (c : Config) (sink : Sink) (number : Int) (child : C) : Spawner C :=
  { (c.spawner sink : Spawner C) with pid := number, child := some child, state := .spawned }

/-- What is told of a child that has been waited for. -/
def reportOf (c : Config) (sink : Sink) (number : Int) (answer : Bool × Spawner C × W) : Report where
  backend := h.backend.name
  pid := number
  exitCode := answer.2.1.exitCode
  termSignal := answer.2.1.terminationSignal h.backend
  peakMemory := answer.2.1.peakMemory
  signaled := answer.2.1.signaled
  timedOut := answer.1
  output := if c.capture then some (Text.lossy (h.contents sink answer.2.2)) else none

/-- What the backend answers to the launch. -/
def launchFrom (c : Config) (w : W) : Except LaunchError C × W :=
  h.backend.launch (c.launched parent) (c.options (h.newSink w).1) (bufferOf h c w).2

/-- A configuration that can be launched fails if its launch is refused. -/
theorem execute_of_refused (hc : c.Launchable) {cause : LaunchError} {w' : W}
    (hlaunch : launchFrom h parent c w = (.error cause, w')) :
    execute h parent c w =
      (.error (.notSpawned c.launch.program), h.backend.note (.spawnFailed c.launch.program cause) w') := by
  have hready := configure_of_launchable h.backend (h.newSink w).1 (bufferOf h c w).2 hc
  have hasks : (c.spawner (h.newSink w).1 : Spawner C).isConfiguring = true := rfl
  have hspawn : (c.spawner (h.newSink w).1).spawn h.backend (c.launched parent) (bufferOf h c w).2 =
      (invalidPid, { (c.spawner (h.newSink w).1 : Spawner C) with state := .unspawned },
        h.backend.note (.spawnFailed c.launch.program cause) w') := by
    rw [launchFrom, ← Config.spawner_options (C := C)] at hlaunch
    simp only [Spawner.spawn, hasks, if_true, hlaunch]
    rfl
  rw [← bufferOf_fst] at hready
  simp only [execute, hc.named, Bool.false_eq_true, if_false, hready, launchOf_eq, hspawn, if_true]
  rfl

/-- A child that has been launched is waited for, and told of. -/
theorem execute_of_launched (hc : c.Launchable) {child : C} {w' : W}
    (hlaunch : launchFrom h parent c w = (.ok child, w')) :
    execute h parent c w =
      let number := h.backend.pid child
      let w' := h.backend.note (.childSpawned c.launch.program h.backend.name c.detach) w'
      if number = invalidPid then (.error (.notSpawned c.launch.program), w')
      else
        let answer :=
          waitWithTimeout h (c.timeoutSecs.map (· * 1000000)) (withChild c (h.newSink w).1 number child) w'
        (.ok (reportOf h c (h.newSink w).1 number answer), answer.2.2) := by
  have hready := configure_of_launchable h.backend (h.newSink w).1 (bufferOf h c w).2 hc
  have hasks : (c.spawner (h.newSink w).1 : Spawner C).isConfiguring = true := rfl
  have hspawn : (c.spawner (h.newSink w).1).spawn h.backend (c.launched parent) (bufferOf h c w).2 =
      (h.backend.pid child, withChild c (h.newSink w).1 (h.backend.pid child) child,
        h.backend.note (.childSpawned c.launch.program h.backend.name c.detach) w') := by
    rw [launchFrom, ← Config.spawner_options (C := C)] at hlaunch
    simp only [Spawner.spawn, hasks, if_true, hlaunch]
    rfl
  rw [← bufferOf_fst] at hready
  simp only [execute, hc.named, Bool.false_eq_true, if_false, hready, launchOf_eq, hspawn]
  split_ifs
  · rfl
  · simp only [reportOf, bufferOf_fst]
    cases c.capture <;> rfl

/-- The backend is asked the same, and answers the same, when contacts are written down. -/
theorem launchFrom_recorded (r : Recorded W) :
    launchFrom h.recorded parent c r =
      ((launchFrom h parent c r.world).1,
        r.add (launchFrom h parent c r.world).2
          (.launch (c.launched parent) (c.options (h.newSink r.world).1)
            ((launchFrom h parent c r.world).1.map h.backend.pid))) := by
  rw [launchFrom, bufferOf_recorded]
  rfl

/-- The backend is asked the same in a projected world. -/
theorem launchFrom_map {V : Type} {h' : Host V C} {project : W → V} (halike : h.Projects h' project) (c : Config) :
    launchFrom h' parent c (project w) = (launchFrom h parent c w).map id project := by
  rw [launchFrom, launchFrom, bufferOf_map halike, halike.newSink]
  exact halike.backend.launch _ _ _

/-- A run goes alike in a projected world. -/
theorem execute_map {V : Type} {h' : Host V C} {project : W → V} (halike : h.Projects h' project) (c : Config) :
    execute h' parent c (project w) = (execute h parent c w).map id project := by
  by_cases hc : c.Launchable
  · have hsame := launchFrom_map h parent w halike c
    rcases hlaunch : launchFrom h parent c w with ⟨cause | child, w'⟩ <;> rw [hlaunch] at hsame
    · rw [execute_of_refused h parent w hc hlaunch, execute_of_refused h' parent _ hc hsame, halike.backend.note]
      rfl
    · rw [execute_of_launched h parent w hc hlaunch, execute_of_launched h' parent _ hc hsame]
      simp only [halike.backend.pid, halike.backend.note, halike.backend.name, halike.newSink, Prod.map, id,
        waitWithTimeout_map halike]
      split_ifs
      · rfl
      · simp only [reportOf, Spawner.terminationSignal, halike.backend.name, halike.backend.supportsSignals,
          halike.contents]
  · obtain ⟨failure, hfail⟩ := execute_of_not_launchable hc
    rw [hfail, hfail, bufferOf_map halike]
    cases c.launch.program.isEmpty <;> rfl

/-- A configuration that can be launched is launched once, with what it asks for. -/
theorem contacts_of_launchable (hc : c.Launchable) :
    ∃ answer later, contacts h parent c w = .launch (c.launched parent) (c.options (h.newSink w).1) answer :: later ∧
      later.countP Contact.isLaunch = 0 := by
  have hrecord := launchFrom_recorded h parent (c := c) ⟨w, []⟩
  rw [contacts]
  rcases hlaunch : launchFrom h parent c w with ⟨cause | child, w'⟩ <;> rw [hlaunch] at hrecord
  · rw [execute_of_refused h.recorded parent _ hc hrecord]
    exact ⟨_, [], rfl, rfl⟩
  · rw [execute_of_launched h.recorded parent _ hc hrecord]
    simp only
    split_ifs
    · exact ⟨_, [], rfl, rfl⟩
    · obtain ⟨⟨made, hmade, hwatched⟩, -⟩ := awaited_waitWithTimeout h
        (c.timeoutSecs.map (· * 1000000)) (withChild c (h.newSink w).1 (h.backend.pid child) child)
        (h.backend.recorded.note (.childSpawned c.launch.program h.backend.name c.detach)
          (launchFrom h.recorded parent c ⟨w, []⟩).2) (by simp [Spawner.Coherent, withChild]) rfl
      rw [hrecord] at hmade
      exact ⟨_, made, hmade, hwatched.countP_isLaunch⟩

/-- A configuration that can be launched is not refused for its mask. -/
theorem execute_ne_mask (hc : c.Launchable) (fault : MaskFault) : (execute h parent c w).1 ≠ .error (.mask fault) := by
  rcases hlaunch : launchFrom h parent c w with ⟨cause | child, w'⟩
  · rw [execute_of_refused h parent w hc hlaunch]
    intro hfailed
    cases hfailed
  · rw [execute_of_launched h parent w hc hlaunch]
    simp only
    split_ifs <;> intro hfailed <;> cases hfailed

end Executing

/-- A host on which the child of a script runs: every look at the child takes a second. -/
def scriptedHost (script : Scripted.Script) : Host Scripted.Calls Scripted.Child where
  backend := Scripted.backend script
  now w := w.polls * 1000000
  rest _ w := w
  looks _ _ := 2
  newSink w := (⟨0⟩, w)
  contents _ _ := .empty

end Run

end Offspring
