import Offspring.Proofs.Spawner.Step

/-!
# The life of a spawner goes one way

A launch leads from the configuring state to the spawned or the unspawned one, and a wait from the spawned
state to the child's end. No other call changes the state, so a spawner whose life is over stays as it is,
but for the flag that belongs to the caller. A wait answers whether the child is still out right after it,
and once that has been denied, no later wait or kill says otherwise.
-/

namespace Offspring.Spawner

variable {W C : Type}

/-- The changes of state, each with the calls that can make it. -/
inductive Advances : Call → Lifecycle → Lifecycle → Prop
  | launch (spec : LaunchSpec) : Advances (.spawn spec) .configuring .spawned
  | refuse (spec : LaunchSpec) : Advances (.spawn spec) .configuring .unspawned
  | observe (policy : WaitPolicy) (status : ExitStatus) :
      Advances (.wait policy) .spawned (.ofStatus status)

/-- No change of state leads back to the first one. -/
theorem Advances.ne_configuring {call : Call} {before after : Lifecycle}
    (h : Advances call before after) : after ≠ .configuring := by
  cases h with
  | launch | refuse => simp
  | observe _ status => exact (ofStatus_ne status).1

section Steps

variable {b : Backend W C} {call : Call} {s s' : Spawner C} {reply : Reply} {made : List Contact}

/-- A call leaves the state or advances it. -/
theorem Step.advances (h : Step b call s reply made s') :
    s'.state = s.state ∨ Advances call s.state s'.state := by
  cases h with
  | launch spec _ hs => exact .inr (hs ▸ .launch spec)
  | refuse spec _ hs => exact .inr (hs ▸ .refuse spec)
  | observe policy _ outcome hs => exact .inr (hs ▸ .observe policy outcome.status)
  | settle | late | used | kill | poll | childless | mark | view => exact .inl rfl

/-- A wait answers whether the child is out after it, and a blocking one denies it. -/
theorem Step.wait_reply {policy : WaitPolicy} (h : Step b (.wait policy) s reply made s') :
    reply = .flag (decide (s'.state = .spawned)) ∧ (policy ≠ .noHang → reply = .flag false) := by
  cases h with
  | poll _ hs => simp [hs]
  | observe _ _ outcome => simp [ended, ofStatus_ne]
  | childless _ _ hs => simp [hs]

/-- Without a running child, a kill or a wait denies that one is out. -/
theorem Step.reply_of_ne_spawned (h : Step b call s reply made s') (hcall : call.needsChild)
    (hs : s.state ≠ .spawned) : reply = .flag false := by
  cases h with
  | kill _ _ hstate | poll _ hstate | observe _ _ _ hstate => exact absurd hstate hs
  | childless => rfl
  | _ => simp [Call.needsChild] at hcall

/-- A spawner that has left the configuring state does not come back to it. -/
theorem Step.ne_configuring (h : Step b call s reply made s') (hs : s.state ≠ .configuring) :
    s'.state ≠ .configuring := by
  rcases h.advances with heq | hadv
  · rwa [heq]
  · exact hadv.ne_configuring

/-- A call changes nothing but the caller's flag once the life is over. -/
theorem Step.eq_of_isTerminal (h : Step b call s reply made s') (hs : s.state.isTerminal) :
    s' = { s with signaled := s'.signaled } := by
  cases h with
  | settle _ _ _ _ _ _ hstate | launch _ _ hstate | refuse _ _ hstate | kill _ _ hstate | poll _ hstate
  | observe _ _ _ hstate => simp [hstate, Lifecycle.isTerminal] at hs
  | late | used | childless | mark | view => rfl

/-- A launch is refused once the life is over. -/
theorem Step.spawn_reply {spec : LaunchSpec} (h : Step b (.spawn spec) s reply made s')
    (hs : s.state ≠ .configuring) : reply = .number invalidPid := by
  cases h with
  | launch _ _ hstate => exact absurd hstate hs
  | refuse | used => rfl
  | childless _ hcall => simp [Call.needsChild] at hcall

/-- A setting gets its late reply once the spawner has been used. -/
theorem Step.configure_reply {setting : Setting} (h : Step b (.configure setting) s reply made s')
    (hs : s.state ≠ .configuring) : reply = setting.late := by
  cases h with
  | settle _ _ _ _ _ _ hstate => exact absurd hstate hs
  | late => rfl
  | childless _ hcall => simp [Call.needsChild] at hcall

end Steps

/-- The life is over in the states other than the first and the spawned one. -/
theorem isTerminal_iff (state : Lifecycle) :
    state.isTerminal ↔ state ≠ .configuring ∧ state ≠ .spawned := by
  cases state <;> simp [Lifecycle.isTerminal]

/-- A spawner that has been used stays used. -/
theorem ne_configuring_run (b : Backend W C) (x : Scene W C) (calls : List Call)
    (hx : x.spawner.Coherent) (hs : x.spawner.state ≠ .configuring) :
    (x.run b calls).spawner.state ≠ .configuring :=
  run_preserves b (P := fun _ s => s.state ≠ .configuring) (fun h hold => h.ne_configuring hold) x [] calls
    hx hs

/-- A run changes nothing but the caller's flag once the life is over. -/
theorem run_of_isTerminal (b : Backend W C) (x : Scene W C) (calls : List Call)
    (hx : x.spawner.Coherent) (hs : x.spawner.state.isTerminal) :
    ∃ flag, (x.run b calls).spawner = { x.spawner with signaled := flag } := by
  refine run_preserves b (P := fun _ s => ∃ flag, s = { x.spawner with signaled := flag }) ?_ x [] calls
    hx ⟨x.spawner.signaled, rfl⟩
  rintro call s reply made s' log hstep ⟨flag, rfl⟩
  exact ⟨s'.signaled, hstep.eq_of_isTerminal hs⟩

/-- Once a wait has denied that a launched child is out, no later wait or kill says so. -/
theorem denied_for_ever (b : Backend W C) (x : Scene W C) (policy : WaitPolicy) (later : List Call)
    (call : Call) (hx : x.spawner.Coherent) (hused : x.spawner.state ≠ .configuring)
    (hwait : (x.perform b (.wait policy)).1 = .flag false) (hcall : call.needsChild) :
    (((x.perform b (.wait policy)).2.run b later).perform b call).1 = .flag false := by
  have hstep := step_perform b x (.wait policy) hx
  let y := (x.perform b (.wait policy)).2
  have hy : y.spawner.Coherent := hstep.coherent hx
  have hout : y.spawner.state ≠ .spawned := by
    simpa [hstep.wait_reply.1] using hwait
  have hover : y.spawner.state.isTerminal :=
    (isTerminal_iff _).mpr ⟨hstep.ne_configuring hused, hout⟩
  obtain ⟨flag, hsame⟩ := run_of_isTerminal b y later hy hover
  refine (step_perform b (y.run b later) call (coherent_run b y later hy)).reply_of_ne_spawned hcall ?_
  rw [hsame]
  exact hout

/-- The life of a spawner goes one way.

After any run: a call leaves the state or advances it; a wait answers whether the child is out right
after it, which a blocking wait always denies; after a launch that succeeded, a wait that has denied it
is followed by denials only; and a life that is over leaves all but the caller's flag as it is, refuses a
launch and refuses to redirect. -/
theorem lifecycle_advances (b : Backend W C) (w : W) (calls : List Call) :
    let x : Scene W C := (Scene.fresh w).run b calls
    (∀ call, (x.perform b call).2.spawner.state = x.spawner.state ∨
      Advances call x.spawner.state (x.perform b call).2.spawner.state) ∧
    (∀ policy, (x.perform b (.wait policy)).1 =
        .flag (decide ((x.perform b (.wait policy)).2.spawner.state = .spawned)) ∧
      (policy ≠ .noHang → (x.perform b (.wait policy)).1 = .flag false)) ∧
    (∀ spec between policy later call,
      let launched := (x.perform b (.spawn spec)).2
      let waited := (launched.run b between).perform b (.wait policy)
      launched.spawner.state = .spawned → waited.1 = .flag false → call.needsChild →
        ((waited.2.run b later).perform b call).1 = .flag false) ∧
    (x.spawner.state.isTerminal → ∀ later,
      let y := x.run b later
      (∃ flag, y.spawner = { x.spawner with signaled := flag }) ∧
      (∀ spec, (y.perform b (.spawn spec)).1 = .number invalidPid) ∧
      (∀ files mode, (y.perform b (.configure (.files files mode))).1 =
        .settled (.error .alreadySpawned)) ∧
      (∀ sink mode, (y.perform b (.configure (.buffer sink mode))).1 =
        .settled (.error .alreadySpawned))) := by
  intro x
  have hx : x.spawner.Coherent := coherent_run b _ calls (coherent_fresh w)
  refine ⟨fun call => (step_perform b x call hx).advances,
    fun policy => (step_perform b x (.wait policy) hx).wait_reply, ?_, ?_⟩
  · intro spec between policy later call launched waited hspawned hdenied hcall
    have hlaunched : launched.spawner.Coherent := (step_perform b x (.spawn spec) hx).coherent hx
    refine denied_for_ever b _ policy later call (coherent_run b _ between hlaunched) ?_ hdenied hcall
    exact ne_configuring_run b _ between hlaunched (by simp [hspawned])
  · intro hover later y
    have hy : y.spawner.Coherent := coherent_run b x later hx
    obtain ⟨flag, hsame⟩ := run_of_isTerminal b x later hx hover
    have hused : y.spawner.state ≠ .configuring := by
      rw [hsame]
      exact ((isTerminal_iff _).mp hover).1
    exact ⟨⟨flag, hsame⟩, fun spec => (step_perform b y _ hy).spawn_reply hused,
      fun _ _ => (step_perform b y _ hy).configure_reply hused,
      fun _ _ => (step_perform b y _ hy).configure_reply hused⟩

end Offspring.Spawner
