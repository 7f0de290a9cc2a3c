import Offspring.Proofs.Spawner.Step

/-!
# The contacts tell the state

What has reached the backend determines what a spawner shows. Nothing has before the launch, and only the
launch after a refusal. A running child has been launched and perhaps asked, and its number is the
spawner's. Of an ended child one last contact has told the outcome, it was released right after, and
nothing follows. `Chronicle` says so, and every step keeps it whatever the backend answers.
-/

namespace Offspring.Spawner

variable {W C : Type}

/-- Probes name no child and tell no outcome. -/
theorem filterMap_probes {probes : List Contact} (hprobes : ∀ contact ∈ probes, contact.isProbe) :
    probes.filterMap Contact.number? = [] ∧ probes.filterMap Contact.outcome? = [] := by
  have hprobe : ∀ contact : Contact, contact.isProbe →
      contact.number? = none ∧ contact.outcome? = none := by
    intro contact hcontact
    cases contact with
    | tryWait answer => cases answer <;> simp_all [Contact.isProbe, Contact.number?, Contact.outcome?]
    | _ => simp_all [Contact.isProbe, Contact.number?, Contact.outcome?]
  exact ⟨List.filterMap_eq_nil_iff.mpr fun c hc => (hprobe c (hprobes c hc)).1,
    List.filterMap_eq_nil_iff.mpr fun c hc => (hprobe c (hprobes c hc)).2⟩

/-- The contacts with an ended child name no other one, and tell its outcome once. -/
theorem filterMap_ending {probes : List Contact} {last : Contact} {outcome : Outcome}
    (hprobes : ∀ contact ∈ probes, contact.isProbe) (hlast : last.outcome? = some outcome) :
    (probes ++ [last, .release]).filterMap Contact.number? = [] ∧
      (probes ++ [last, .release]).filterMap Contact.outcome? = [outcome] := by
  have hname : last.number? = none := by
    cases last <;> simp_all [Contact.outcome?, Contact.number?]
  rw [List.filterMap_append, List.filterMap_append, (filterMap_probes hprobes).1,
    (filterMap_probes hprobes).2, List.filterMap_cons_none hname, List.filterMap_cons_some hlast]
  exact ⟨rfl, rfl⟩

/-- The contacts so far, first one first, and the spawner that they have led to. -/
inductive Chronicle : List Contact → Spawner C → Prop
  | configuring {s : Spawner C} (hstate : s.state = .configuring) (hchild : s.child = none)
      (hpid : s.pid = invalidPid) (hpeak : s.peakMemory = memoryUnavailable) : Chronicle [] s
  | unspawned {s : Spawner C} (spec : LaunchSpec) (options : LaunchOptions) (cause : LaunchError)
      (hstate : s.state = .unspawned) (hchild : s.child = none)
      (hpid : s.pid = invalidPid) (hpeak : s.peakMemory = memoryUnavailable) :
      Chronicle [.launch spec options (.error cause)] s
  | spawned {s : Spawner C} (spec : LaunchSpec) (options : LaunchOptions) (probes : List Contact)
      (hprobes : ∀ contact ∈ probes, contact.isProbe) (hstate : s.state = .spawned)
      (hchild : s.child.isSome) (hpeak : s.peakMemory = memoryUnavailable) :
      Chronicle (.launch spec options (.ok s.pid) :: probes) s
  | ended {s : Spawner C} (spec : LaunchSpec) (options : LaunchOptions) (probes : List Contact)
      (last : Contact) (outcome : Outcome) (hprobes : ∀ contact ∈ probes, contact.isProbe)
      (hlast : last.outcome? = some outcome) (hstate : s.state = .ofStatus outcome.status)
      (hchild : s.child = none) (hpeak : s.peakMemory = outcome.peakMemory) :
      Chronicle (.launch spec options (.ok s.pid) :: (probes ++ [last, .release])) s

/-- The configuration and the caller's own flag have no part in it. -/
theorem Chronicle.congr {log : List Contact} {s s' : Spawner C} (h : Chronicle log s)
    (hstate : s'.state = s.state) (hchild : s'.child = s.child) (hpid : s'.pid = s.pid)
    (hpeak : s'.peakMemory = s.peakMemory) : Chronicle log s' := by
  cases h with
  | configuring h₁ h₂ h₃ h₄ =>
    exact .configuring (hstate.trans h₁) (hchild.trans h₂) (hpid.trans h₃) (hpeak.trans h₄)
  | unspawned spec options cause h₁ h₂ h₃ h₄ =>
    exact .unspawned spec options cause (hstate.trans h₁) (hchild.trans h₂) (hpid.trans h₃) (hpeak.trans h₄)
  | spawned spec options probes hprobes h₁ h₂ h₃ =>
    rw [← hpid]
    exact .spawned spec options probes hprobes (hstate.trans h₁) (hchild ▸ h₂) (hpeak.trans h₃)
  | ended spec options probes last outcome hprobes hlast h₁ h₂ h₃ =>
    rw [← hpid]
    exact .ended spec options probes last outcome hprobes hlast (hstate.trans h₁) (hchild.trans h₂)
      (hpeak.trans h₃)

/-- A spawner that accepts configuration has reached nothing. -/
theorem Chronicle.of_configuring {log : List Contact} {s : Spawner C} (h : Chronicle log s)
    (hs : s.state = .configuring) :
    log = [] ∧ s.child = none ∧ s.pid = invalidPid ∧ s.peakMemory = memoryUnavailable := by
  cases h with
  | configuring _ hchild hpid hpeak => exact ⟨rfl, hchild, hpid, hpeak⟩
  | unspawned _ _ _ hstate | spawned _ _ _ _ hstate => simp [hstate] at hs
  | ended _ _ _ _ _ _ _ hstate => exact absurd (hstate.symm.trans hs) (ofStatus_ne _).1

/-- A running child was launched with the spawner's number and has told no end. -/
theorem Chronicle.of_spawned {log : List Contact} {s : Spawner C} (h : Chronicle log s)
    (hs : s.state = .spawned) :
    ∃ spec options probes, log = .launch spec options (.ok s.pid) :: probes ∧
      (∀ contact ∈ probes, contact.isProbe) ∧ s.child.isSome ∧ s.peakMemory = memoryUnavailable := by
  cases h with
  | spawned spec options probes hprobes _ hchild hpeak =>
    exact ⟨spec, options, probes, rfl, hprobes, hchild, hpeak⟩
  | configuring hstate | unspawned _ _ _ hstate => simp [hstate] at hs
  | ended _ _ _ _ _ _ _ hstate => exact absurd (hstate.symm.trans hs) (ofStatus_ne _).2.2

/-- The contacts tell whether a child is held. -/
theorem Chronicle.coherent {log : List Contact} {s : Spawner C} (h : Chronicle log s) : s.Coherent := by
  cases h with
  | configuring hstate hchild | unspawned _ _ _ hstate hchild => simp [Coherent, hstate, hchild]
  | spawned _ _ _ _ hstate hchild => simp [Coherent, hstate, hchild]
  | ended _ _ _ _ _ _ _ hstate hchild => simp [Coherent, hstate, hchild, ofStatus_ne]

/-- The children that the contacts name. -/
theorem Chronicle.numbers {log : List Contact} {s : Spawner C} (h : Chronicle log s) :
    (s.state = .configuring ∨ s.state = .unspawned →
      log.filterMap Contact.number? = [] ∧ s.pid = invalidPid) ∧
      (s.state ≠ .configuring → s.state ≠ .unspawned → log.filterMap Contact.number? = [s.pid]) := by
  cases h with
  | configuring hstate _ hpid => simp [hstate, hpid]
  | unspawned _ _ _ hstate _ hpid => simp [hstate, hpid, Contact.number?]
  | spawned _ _ _ hprobes hstate => simp [hstate, Contact.number?, (filterMap_probes hprobes).1]
  | ended _ _ _ _ _ hprobes hlast hstate =>
    simp only [hstate, ofStatus_ne, false_or, false_implies, true_and]
    intro _ _
    rw [List.filterMap_cons, (filterMap_ending hprobes hlast).1]
    rfl

/-- The outcomes that the contacts tell. -/
theorem Chronicle.outcomes {log : List Contact} {s : Spawner C} (h : Chronicle log s) :
    ((∀ status, s.state ≠ .ofStatus status) →
        log.filterMap Contact.outcome? = [] ∧ s.peakMemory = memoryUnavailable) ∧
      ∀ status, s.state = .ofStatus status → log.filterMap Contact.outcome? = [⟨status, s.peakMemory⟩] := by
  cases h with
  | configuring hstate _ _ hpeak =>
    exact ⟨fun _ => ⟨rfl, hpeak⟩, fun status hs => absurd (hs.symm.trans hstate) (ofStatus_ne status).1⟩
  | unspawned _ _ _ hstate _ _ hpeak =>
    exact ⟨fun _ => ⟨rfl, hpeak⟩, fun status hs => absurd (hs.symm.trans hstate) (ofStatus_ne status).2.1⟩
  | spawned _ _ _ hprobes hstate _ hpeak =>
    exact ⟨fun _ => ⟨(filterMap_probes hprobes).2, hpeak⟩,
      fun status hs => absurd (hs.symm.trans hstate) (ofStatus_ne status).2.2⟩
  | ended _ _ _ _ outcome hprobes hlast hstate _ hpeak =>
    refine ⟨fun hnone => absurd hstate (hnone outcome.status), fun status hs => ?_⟩
    have hstatus : outcome.status = status := ofStatus_injective (hstate.symm.trans hs)
    rw [List.filterMap_cons_none rfl, (filterMap_ending hprobes hlast).2, hpeak, ← hstatus]

/-- One outcome has been told for each child that was launched, but for a running one. -/
theorem Chronicle.length_numbers {log : List Contact} {s : Spawner C} (h : Chronicle log s) :
    (log.filterMap Contact.number?).length =
      (log.filterMap Contact.outcome?).length + if s.state = .spawned then 1 else 0 := by
  cases h with
  | configuring hstate => simp [hstate]
  | unspawned _ _ _ hstate =>
    rw [if_neg (by simp [hstate])]
    rfl
  | spawned _ _ _ hprobes hstate =>
    rw [List.filterMap_cons, List.filterMap_cons_none rfl, (filterMap_probes hprobes).1,
      (filterMap_probes hprobes).2, if_pos hstate]
    rfl
  | ended _ _ _ _ _ hprobes hlast hstate =>
    rw [List.filterMap_cons, List.filterMap_cons_none rfl, (filterMap_ending hprobes hlast).1,
      (filterMap_ending hprobes hlast).2, if_neg (by simp [hstate, ofStatus_ne])]
    rfl

/-- A further probe of a running child. -/
theorem Chronicle.probe {log : List Contact} {s : Spawner C} (h : Chronicle log s) (hs : s.state = .spawned)
    (child : C) (contact : Contact) (hcontact : contact.isProbe) :
    Chronicle (log ++ [contact]) { s with child := some child } := by
  obtain ⟨spec, options, probes, rfl, hprobes, -, hpeak⟩ := h.of_spawned hs
  refine .spawned (s := { s with child := some child }) spec options (probes ++ [contact]) ?_ hs rfl hpeak
  intro c hc
  rcases List.mem_append.mp hc with hold | hnew
  · exact hprobes c hold
  · rwa [List.mem_singleton.mp hnew]

/-- The contacts that end with the outcome of a running child. -/
theorem Chronicle.observe {log : List Contact} {s : Spawner C} (h : Chronicle log s) (hs : s.state = .spawned)
    (before : List Contact) (last : Contact) (outcome : Outcome)
    (hbefore : ∀ contact ∈ before, contact.isProbe) (hlast : last.outcome? = some outcome) :
    Chronicle (log ++ (before ++ [last, .release])) (s.ended outcome) := by
  obtain ⟨spec, options, probes, rfl, hprobes, -⟩ := h.of_spawned hs
  have hall : ∀ contact ∈ probes ++ before, contact.isProbe := fun contact hcontact =>
    (List.mem_append.mp hcontact).elim (hprobes contact) (hbefore contact)
  have hended := Chronicle.ended (s := s.ended outcome) spec options (probes ++ before) last outcome hall
    hlast rfl rfl rfl
  rwa [List.append_assoc] at hended

/-- Every way a call can go keeps the contacts telling the state. -/
theorem Chronicle.step {b : Backend W C} {call : Call} {s s' : Spawner C} {reply : Reply}
    {log made : List Contact} (h : Chronicle log s) (hstep : Step b call s reply made s') :
    Chronicle (log ++ made) s' := by
  cases hstep with
  | launch spec child hs =>
    obtain ⟨rfl, -, -, hpeak⟩ := h.of_configuring hs
    exact .spawned (s := { s with pid := b.pid child, child := some child, state := .spawned }) spec
      s.options [] (by simp) rfl rfl hpeak
  | refuse spec cause hs =>
    obtain ⟨rfl, hchild, hpid, hpeak⟩ := h.of_configuring hs
    exact .unspawned spec s.options cause rfl hchild hpid hpeak
  | kill child delivered hs => exact h.probe hs child (.kill delivered) rfl
  | poll child hs => exact h.probe hs child (.tryWait none) rfl
  | observe policy delivered outcome hs =>
    cases policy with
    | noHang => exact h.observe hs [] (.tryWait (some outcome)) outcome (by simp) rfl
    | infinite => exact h.observe hs [] (.wait outcome) outcome (by simp) rfl
    | needKill =>
      exact h.observe hs [.kill delivered] (.wait outcome) outcome (by simp [Contact.isProbe]) rfl
  | settle | mark =>
    rw [List.append_nil]
    exact h.congr rfl rfl rfl rfl
  | late | used | childless | view => simpa using h

/-- After any run of an unused spawner, the contacts tell its state. -/
theorem chronicle_run (b : Backend W C) (w : W) (calls : List Call) :
    Chronicle ((Scene.fresh w).contacts b calls) ((Scene.fresh w).run b calls).spawner :=
  run_preserves b (fun hstep h => h.step hstep) (Scene.fresh w) [] calls (coherent_fresh w)
    (.configuring rfl rfl rfl rfl)

end Offspring.Spawner
