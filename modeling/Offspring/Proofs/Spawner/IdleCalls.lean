import Offspring.Proofs.Spawner.Core
import Offspring.Proofs.Spawner.Protocol
import Offspring.Proofs.Spawner.Running
import Offspring.Proofs.Spawner.Settings
import Offspring.Spawner.Scripted

/-!
# Calls that leave no trace

Many calls are refused or ignored: late settings, redirections that conflict or name no file, further
launches, questions to a child that is not out; and the caller's own flag is nobody else's business. Any
of them can be deleted from a run, and what remains is answered as before and reaches the backend as
before: an idle call keeps the core of the scene, and calls from scenes with one core go alike.
-/

namespace Offspring.Spawner

variable {W V L C : Type}

/-- A launch uses the spawner up, whether it succeeds or not. -/
theorem Step.ne_configuring_of_spawn {b : Backend W C} {spec : LaunchSpec} {s s' : Spawner C} {reply : Reply}
    {made : List Contact} (h : Step b (.spawn spec) s reply made s') : s'.state ≠ .configuring := by
  cases h with
  | launch | refuse => simp
  | used _ hs => exact hs
  | childless _ hcall => simp [Call.needsChild] at hcall

/-- A spawner is used up by the first launch of a run. -/
theorem ne_configuring_of_mem (b : Backend W C) (w : W) (calls : List Call) (spec : LaunchSpec)
    (h : .spawn spec ∈ calls) : ((Scene.fresh w).run b calls).spawner.state ≠ .configuring := by
  obtain ⟨before, after, rfl⟩ := List.append_of_mem h
  have hbefore : ((Scene.fresh w).run b before).spawner.Coherent := coherent_run b _ before (coherent_fresh w)
  have hstep := step_perform b _ (.spawn spec) hbefore
  rw [Scene.run_append, Scene.run_cons]
  exact ne_configuring_run b _ after (hstep.coherent hbefore) hstep.ne_configuring_of_spawn

/-- A call that has no use after the given ones on an unused spawner: the caller's flag is set, a setting
comes after a launch, a redirection is refused as a conflict or names no file, a launch comes after another
one, or a child is asked that is not out. -/
inductive Idle (b : Backend W C) (w : W) (before : List Call) : Call → Prop
  | mark : Idle b w before .markSignaled
  | late (setting : Setting) (spec : LaunchSpec) (hspawn : .spawn spec ∈ before) :
      Idle b w before (.configure setting)
  | conflict (setting : Setting) (reason : String)
      (hreply : (((Scene.fresh w).run b before).perform b (.configure setting)).1 =
        .settled (.error (.redirectionConflict reason))) : Idle b w before (.configure setting)
  | pathless (files : StreamFiles) (mode : ConsoleMode) (hfiles : files.isEmpty) :
      Idle b w before (.configure (.files files mode))
  | respawn (spec first : LaunchSpec) (hspawn : .spawn first ∈ before) : Idle b w before (.spawn spec)
  | childless (call : Call) (hcall : call.needsChild)
      (hstate : ((Scene.fresh w).run b before).spawner.state ≠ .spawned) : Idle b w before call

/-- A redirection that is refused leaves the scene as it is. -/
theorem configure_of_error (b : Backend W C) (x : Scene W C) (setting : Setting) (cause : LaunchError)
    (h : (x.configure b setting).1 = .settled (.error cause)) : (x.configure b setting).2 = x := by
  cases setting with
  | files files mode =>
    cases hset : x.spawner.configureFiles files mode with
    | ok s => simp [Scene.configure, hset, Scene.accept] at h
    | error => simp [Scene.configure, hset, Scene.accept]
  | buffer sink mode =>
    cases hset : x.spawner.configureBuffer sink mode with
    | ok s => simp [Scene.configure, hset, Scene.accept] at h
    | error => simp [Scene.configure, hset, Scene.accept]
  | detach | umask => simp [Scene.configure] at h

/-- A call for files without any file leaves the scene as it is. -/
theorem configure_of_isEmpty (b : Backend W C) (x : Scene W C) (files : StreamFiles) (mode : ConsoleMode)
    (hfiles : files.isEmpty) : (x.configure b (.files files mode)).2 = x := by
  cases hs : x.spawner.isConfiguring <;> simp [Scene.configure, configureFiles, hs, hfiles, Scene.accept]

/-- A setting after the launch changes nothing where nobody listens. -/
theorem configure_of_ne_configuring (b : Backend W C) (hsilent : ∀ event w, b.note event w = w) (x : Scene W C)
    (setting : Setting) (hs : x.spawner.state ≠ .configuring) : (x.configure b setting).2 = x := by
  cases setting <;>
    simp [Scene.configure, configureFiles, configureBuffer, configureDetach, configureUmask, hs, Scene.accept,
      hsilent]

/-- A child that is not out is not asked, and nothing changes. -/
theorem perform_of_ne_spawned (b : Backend W C) (x : Scene W C) (call : Call) (hcall : call.needsChild)
    (hx : x.spawner.Coherent) (hs : x.spawner.state ≠ .spawned) : (x.perform b call).2 = x := by
  have hchild : x.spawner.child = none := Option.not_isSome_iff_eq_none.mp (mt hx.mp hs)
  cases call with
  | kill => simp [Scene.perform, kill, hchild]
  | wait policy => simp [Scene.perform, wait, hchild]
  | configure | spawn | markSignaled | view => simp [Call.needsChild] at hcall

/-- An idle call leaves the core as it is and reaches nothing. -/
theorem Idle.core_perform {b : Backend W C} {b' : Backend V C} {project : W → V}
    (h : b.Projects b' project) (hsilent : ∀ event v, b'.note event v = v) {w : W} {before : List Call}
    {call : Call} (hidle : Idle b w before call) :
    let x : Scene W C := (Scene.fresh w).run b before
    (x.perform b call).2.core project = x.core project ∧ x.contacts b [call] = [] := by
  intro x
  have hx : x.spawner.Coherent := coherent_run b _ before (coherent_fresh w)
  have hstep := step_perform b x call hx
  cases hidle with
  | mark => exact ⟨rfl, rfl⟩
  | late setting spec hspawn =>
    have hs : x.spawner.state ≠ .configuring := ne_configuring_of_mem b w before spec hspawn
    refine ⟨?_, hstep.configure_made⟩
    rw [(Spawner.core_perform h x _ (by simp)).1]
    exact configure_of_ne_configuring b' hsilent (x.core project) setting hs
  | conflict setting reason hreply =>
    exact ⟨congrArg _ (configure_of_error b x setting _ hreply), hstep.configure_made⟩
  | pathless files mode hfiles =>
    exact ⟨congrArg _ (configure_of_isEmpty b x files mode hfiles), hstep.configure_made⟩
  | respawn spec first hspawn =>
    have hs : x.spawner.state ≠ .configuring := ne_configuring_of_mem b w before first hspawn
    refine ⟨?_, hstep.made_eq_nil (fun _ _ => hs) (by simp [Call.needsChild])⟩
    rw [(Spawner.core_perform h x _ (by simp)).1]
    have hcore : (x.core project).spawner.state ≠ .configuring := hs
    simp [Scene.perform, spawn, hcore, hsilent]
  | childless call hcall hstate =>
    refine ⟨congrArg _ (perform_of_ne_spawned b x call hcall hx hstate), ?_⟩
    apply hstep.made_eq_nil
    · rintro spec rfl
      simp [Call.needsChild] at hcall
    · exact fun _ => hstate

/-- The calls of an edited run, each of which stays or goes. -/
def made (edit : List (Call × Bool)) : List Call :=
  edit.map Prod.fst

/-- The calls of an edited run that stay. -/
def kept (edit : List (Call × Bool)) : List Call :=
  (edit.filter Prod.snd).map Prod.fst

/-- Only idle calls of the run go. -/
def DropsIdle (b : Backend W C) (w : W) (edit : List (Call × Bool)) : Prop :=
  ∀ before call after, edit = before ++ (call, false) :: after → Idle b w (made before) call

/-- What goes from the first part of a run is idle. -/
theorem DropsIdle.of_append {b : Backend W C} {w : W} {edit later : List (Call × Bool)}
    (h : DropsIdle b w (edit ++ later)) : DropsIdle b w edit := by
  rintro before call after rfl
  exact h before call (after ++ later) (by simp)

/-- One more call that stays, or is idle. -/
theorem DropsIdle.concat {b : Backend W C} {w : W} {edit : List (Call × Bool)} (h : DropsIdle b w edit)
    {call : Call} {stays : Bool} (hcall : stays = false → Idle b w (made edit) call) :
    DropsIdle b w (edit ++ [(call, stays)]) := by
  intro before last after hsplit
  rcases List.eq_nil_or_concat after with rfl | ⟨init, entry, rfl⟩
  · obtain ⟨rfl, hentry⟩ := List.append_inj' hsplit rfl
    obtain ⟨rfl, rfl⟩ : call = last ∧ stays = false := by simpa using hentry
    exact hcall rfl
  · rw [List.concat_eq_append, ← List.cons_append, ← List.append_assoc] at hsplit
    exact h before last init (List.append_inj' hsplit rfl).1

/-- One more call stays. -/
theorem DropsIdle.keep {b : Backend W C} {w : W} {edit : List (Call × Bool)} (h : DropsIdle b w edit)
    (call : Call) : DropsIdle b w (edit ++ [(call, true)]) :=
  h.concat (by simp)

/-- One more call goes. -/
theorem DropsIdle.drop {b : Backend W C} {w : W} {edit : List (Call × Bool)} (h : DropsIdle b w edit)
    {call : Call} (hcall : Idle b w (made edit) call) : DropsIdle b w (edit ++ [(call, false)]) :=
  h.concat fun _ => hcall

/-- Without idle calls a run has the same core and the same contacts. -/
theorem run_kept {b : Backend W C} {b' : Backend V C} {project : W → V} (h : b.Projects b' project)
    (hsilent : ∀ event v, b'.note event v = v) (w : W) (edit : List (Call × Bool))
    (hedit : DropsIdle b w edit) :
    let x : Scene W C := Scene.fresh w
    (x.run b (made edit)).core project = (x.run b (kept edit)).core project ∧
      x.contacts b (made edit) = x.contacts b (kept edit) := by
  intro x
  -- From the end, because a call is idle after all calls before it, those included that went.
  induction edit using List.reverseRecOn with
  | nil => exact ⟨rfl, rfl⟩
  | append_singleton edit entry ih =>
    obtain ⟨hcore, hcontacts⟩ := ih hedit.of_append
    obtain ⟨call, stays⟩ := entry
    have hmade : made (edit ++ [(call, stays)]) = made edit ++ [call] := by simp [made]
    rw [hmade, Scene.run_append, Scene.contacts_append]
    cases stays with
    | true =>
      have hkept : kept (edit ++ [(call, true)]) = kept edit ++ [call] := by simp [kept]
      obtain ⟨hcall, hreached, -⟩ := core_congr h hcore call
      rw [hkept, Scene.run_append, Scene.contacts_append, hcontacts, hreached]
      exact ⟨hcall, rfl⟩
    | false =>
      have hkept : kept (edit ++ [(call, false)]) = kept edit := by simp [kept]
      obtain ⟨hcall, hreached⟩ := (hedit edit call [] rfl).core_perform h hsilent
      rw [hkept, hreached, List.append_nil]
      exact ⟨hcall.trans hcore, hcontacts⟩

/-- The caller's flag is set by the caller only. -/
theorem Step.signaled_eq {b : Backend W C} {call : Call} {s s' : Spawner C} {reply : Reply}
    {made : List Contact} (h : Step b call s reply made s') :
    s'.signaled = (s.signaled || decide (call = .markSignaled)) := by
  cases h with
  | mark => simp [markSignaled]
  | childless _ hcall => cases call <;> simp_all [Call.needsChild]
  | settle | late | launch | refuse | used | kill | poll | observe | view => simp [ended]

/-- The caller's flag is set once the caller has set it. -/
theorem signaled_run (b : Backend W C) (w : W) (calls : List Call) :
    ((Scene.fresh w).run b calls).spawner.signaled = decide (.markSignaled ∈ calls) := by
  induction calls using List.reverseRecOn with
  | nil => rfl
  | append_singleton calls call ih =>
    have hstep := step_perform b _ call (coherent_run b _ calls (coherent_fresh w))
    rw [Scene.run_append, Scene.run_cons, Scene.run_nil, hstep.signaled_eq, ih]
    simp [List.mem_append, eq_comm]

/-- Idle calls leave no trace.

If only idle calls go from a run, then every call that stays is answered as before, unless it reads the
caller's flag; the same contacts are made in the same order, the last release included; the spawner ends up
in the same fields but for that flag, and the backend in the same world. The flag is set exactly after the
caller has set it. -/
theorem idle_calls_leave_no_trace (b : Backend W C) (listen : Event → L → L) (w : W) (l : L)
    (edit : List (Call × Bool)) (hedit : DropsIdle (b.heardBy listen) (w, l) edit) :
    let b := b.heardBy listen
    let x : Scene (W × L) C := Scene.fresh (w, l)
    let whole := x.run b (made edit)
    let rest := x.run b (kept edit)
    (∀ before call after, edit = before ++ (call, true) :: after → call ≠ .view .isSignaled →
      ((x.run b (made before)).perform b call).1 = ((x.run b (kept before)).perform b call).1) ∧
    x.contacts b (made edit) = x.contacts b (kept edit) ∧ whole.farewell b = rest.farewell b ∧
    rest.spawner = { whole.spawner with signaled := rest.spawner.signaled } ∧
    rest.world.1 = whole.world.1 ∧
    ∀ calls, ((x.run b calls).perform b (.view .isSignaled)).1 = .flag (decide (.markSignaled ∈ calls)) := by
  intro b' x whole rest
  have hproject := b.heardBy_projects listen
  have hrun := fun edit => run_kept hproject (fun _ _ => rfl) (w, l) edit
  obtain ⟨hcore, hcontacts⟩ := hrun edit hedit
  have hspawner : whole.spawner.flagged false = rest.spawner.flagged false :=
    congrArg Scene.spawner hcore
  have hx : ∀ calls, (x.run b' calls).spawner.Coherent := fun calls => coherent_run b' x calls (coherent_fresh _)
  refine ⟨?_, hcontacts, ?_, ?_, (congrArg Scene.world hcore).symm, fun calls => ?_⟩
  · rintro before call after rfl hview
    exact (core_congr hproject (hrun before hedit.of_append).1 call).2.2 hview
  · have hstate : (whole.spawner.flagged false).state = (rest.spawner.flagged false).state := by
      rw [hspawner]
    rw [farewell_eq b' whole (hx _), farewell_eq b' rest (hx _)]
    exact congrArg (fun state => if state = Lifecycle.spawned then [Contact.release] else []) hstate
  · exact congrArg (fun s => s.flagged rest.spawner.signaled) hspawner.symm
  · exact congrArg Reply.flag (signaled_run b' (w, l) calls)

/-- A redirection without files, the caller's flag, a second launch, a late setting and a late kill go from
a run in which a child is launched, waited for and heard of. -/
theorem idle_calls_leave_no_trace_around_wait :
    let b := (Scripted.backend { polls := 2 }).heardBy fun event (heard : List Event) => event :: heard
    let x : Scene (Scripted.Calls × List Event) Scripted.Child := Scene.fresh ({}, [])
    let spec := LaunchSpec.ofProgram .empty
    let whole : List Call := [.configure (.files {} .stdoutOnly), .markSignaled, .spawn spec, .spawn spec,
      .configure (.detach true), .wait .infinite, .kill]
    let rest : List Call := [.spawn spec, .wait .infinite]
    x.contacts b whole = x.contacts b rest ∧
      (x.run b rest).spawner = { (x.run b whole).spawner with signaled := false } := by
  intro b x spec whole rest
  have hedit : DropsIdle b ({}, []) [(.configure (.files {} .stdoutOnly), false), (.markSignaled, false),
      (.spawn spec, true), (.spawn spec, false), (.configure (.detach true), false), (.wait .infinite, true),
      (.kill, false)] :=
    have hnil : DropsIdle b ({}, []) [] := by simp [DropsIdle]
    have hlaunched := (((hnil.drop (.pathless _ _ rfl)).drop .mark).keep (.spawn spec)).drop
      (.respawn spec spec (by simp [made]))
    ((hlaunched.drop (.late _ spec (by simp [made]))).keep (.wait .infinite)).drop
      (.childless _ rfl (by decide))
  obtain ⟨-, hcontacts, -, hspawner, -⟩ := idle_calls_leave_no_trace
    (Scripted.backend { polls := 2 }) (fun event (heard : List Event) => event :: heard) {} [] _ hedit
  exact ⟨hcontacts, hspawner⟩

end Offspring.Spawner
