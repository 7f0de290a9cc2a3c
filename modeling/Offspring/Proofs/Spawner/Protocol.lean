import Offspring.Proofs.Spawner.Chronicle

/-!
# The backend is used as it may be

A backend may rely on an order of what reaches it: one launch, then questions to the child that it gave,
then the child's release. After a child has told its outcome its number may belong to another process, so
it must not be asked again. Every run of calls keeps this order, whatever the backend answers.
-/

namespace Offspring.Spawner

variable {W C : Type}

section Steps

variable {b : Backend W C} {s s' : Spawner C} {reply : Reply} {made : List Contact}

/-- A kill reaches a running child once and answers as the child does; no other child is reached. -/
theorem Step.kill_contacts (h : Step b .kill s reply made s') :
    ∃ delivered, reply = .flag delivered ∧ made = if s.state = .spawned then [.kill delivered] else [] := by
  cases h with
  | kill _ delivered hs => exact ⟨delivered, rfl, by simp [hs]⟩
  | childless _ _ hs => exact ⟨false, rfl, by simp [hs]⟩

/-- A wait that kills first kills once, waits once and releases; no other child is reached. -/
theorem Step.needKill_contacts (h : Step b (.wait .needKill) s reply made s') :
    (s.state = .spawned → ∃ delivered outcome, made = [.kill delivered, .wait outcome, .release]) ∧
      (s.state ≠ .spawned → made = []) := by
  cases h with
  | observe _ delivered outcome hs => exact ⟨fun _ => ⟨delivered, outcome, rfl⟩, fun hn => absurd hs hn⟩
  | childless _ _ hs => exact ⟨fun h => absurd h hs, fun _ => rfl⟩

/-- A call releases the child exactly if it learns its outcome. -/
theorem Step.releases {call : Call} (h : Step b call s reply made s') :
    made.countP Contact.isRelease = (made.filterMap Contact.outcome?).length := by
  cases h with
  | observe policy => cases policy <;> rfl
  | _ => rfl

end Steps

/-- What is no probe, and at most one of a launch, a told outcome and a release, comes up once at most. -/
theorem Chronicle.countP_le_one {log : List Contact} {s : Spawner C} (h : Chronicle log s)
    (p : Contact → Bool)
    (hprobe : ∀ contact : Contact, contact.isProbe → ¬p contact)
    (hrest : ∀ spec options answer last outcome, last.outcome? = some outcome →
      [.launch spec options answer, last, .release].countP p ≤ 1) :
    log.countP p ≤ 1 := by
  have hnone : ∀ probes : List Contact, (∀ contact ∈ probes, contact.isProbe) → probes.countP p = 0 := by
    intro probes hprobes
    rw [List.countP_eq_zero]
    exact fun contact hcontact => hprobe contact (hprobes contact hcontact)
  cases h with
  | configuring => exact Nat.zero_le 1
  | unspawned => exact List.countP_le_length
  | spawned _ _ probes hprobes =>
    rw [List.countP_cons, hnone probes hprobes]
    split <;> omega
  | ended spec options probes last outcome hprobes hlast =>
    have h := hrest spec options (.ok s.pid) last outcome hlast
    rw [List.countP_cons, List.countP_append, hnone probes hprobes]
    rw [List.countP_cons] at h
    omega

/-- The backend is asked for a child once at most. -/
theorem Chronicle.countP_isLaunch {log : List Contact} {s : Spawner C} (h : Chronicle log s) :
    log.countP Contact.isLaunch ≤ 1 := by
  refine h.countP_le_one _ ?_ ?_
  · rintro ⟨⟩ <;> simp [Contact.isProbe, Contact.isLaunch]
  · intro spec options answer last outcome hlast
    cases last with
    | tryWait | wait => exact Nat.le_refl 1
    | launch | kill | release => simp [Contact.outcome?] at hlast

/-- The child is waited for until its end once at most. -/
theorem Chronicle.countP_isWait {log : List Contact} {s : Spawner C} (h : Chronicle log s) :
    log.countP Contact.isWait ≤ 1 := by
  refine h.countP_le_one _ ?_ ?_
  · rintro ⟨⟩ <;> simp [Contact.isProbe, Contact.isWait]
  · intro spec options answer last outcome hlast
    cases last with
    | tryWait => exact Nat.zero_le 1
    | wait => exact Nat.le_refl 1
    | launch | kill | release => simp [Contact.outcome?] at hlast

/-- Only probes stand before a question that stands before the release. -/
theorem probes_before_question {probes before after : List Contact} {last contact : Contact}
    (hprobes : ∀ c ∈ probes, c.isProbe) (hasks : contact.asksChild)
    (h : probes ++ [last, .release] = before ++ contact :: after) : ∀ c ∈ before, c.isProbe := by
  rcases List.append_eq_append_iff.mp h with ⟨between, rfl, htail⟩ | ⟨between, rfl, -⟩
  · -- The question is the last one or the release, which is no question.
    cases between with
    | nil => simpa using hprobes
    | cons first rest =>
      obtain ⟨-, hrelease⟩ := List.cons.inj htail
      cases rest with
      | nil =>
        obtain ⟨rfl, -⟩ := List.cons.inj hrelease
        simp [Contact.asksChild] at hasks
      | cons => simp at hrelease
  · exact fun c hc => hprobes c (List.mem_append_left _ hc)

/-- What reaches the backend first is a launch. -/
theorem Chronicle.first {first : Contact} {log rest : List Contact} {s : Spawner C} (h : Chronicle log s)
    (hlog : log = first :: rest) : ∃ spec options answer, first = .launch spec options answer := by
  cases h with
  | configuring => cases hlog
  | unspawned | spawned | ended => exact ⟨_, _, _, (List.cons.inj hlog).1.symm⟩

/-- The contacts before a question to the child: it has been launched and has told no outcome. -/
theorem Chronicle.before_question {log before after : List Contact} {contact : Contact} {s : Spawner C}
    (h : Chronicle log s) (hlog : log = before ++ contact :: after) (hasks : contact.asksChild) :
    (∃ number, before.filterMap Contact.number? = [number]) ∧ before.filterMap Contact.outcome? = [] := by
  cases before with
  | nil =>
    obtain ⟨spec, options, answer, rfl⟩ := h.first hlog
    simp [Contact.asksChild] at hasks
  | cons first before =>
    have hfound : ∀ spec options number, first = .launch spec options (.ok number) →
        (∀ c ∈ before, c.isProbe) → (∃ number, (first :: before).filterMap Contact.number? = [number]) ∧
          (first :: before).filterMap Contact.outcome? = [] := by
      rintro spec options number rfl hprobes
      rw [List.filterMap_cons, List.filterMap_cons_none rfl, (filterMap_probes hprobes).1]
      exact ⟨⟨number, rfl⟩, (filterMap_probes hprobes).2⟩
    cases h with
    | configuring => simp at hlog
    | unspawned => simp at hlog
    | spawned spec options probes hprobes =>
      obtain ⟨hfirst, rfl⟩ := List.cons.inj hlog
      exact hfound spec options _ hfirst.symm fun c hc => hprobes c (List.mem_append_left _ hc)
    | ended spec options probes last outcome hprobes =>
      obtain ⟨hfirst, htail⟩ := List.cons.inj hlog
      exact hfound spec options _ hfirst.symm (probes_before_question hprobes hasks htail)

/-- Giving up a spawner releases its child exactly in the spawned state. -/
theorem farewell_eq (b : Backend W C) (x : Scene W C) (hx : x.spawner.Coherent) :
    x.farewell b = if x.spawner.state = .spawned then [.release] else [] := by
  unfold Scene.farewell release
  cases hchild : x.spawner.child with
  | none =>
    have hs : x.spawner.state ≠ .spawned := fun hs => by simpa [hchild] using hx.mpr hs
    simp [hs]
  | some child =>
    have hs : x.spawner.state = .spawned := hx.mp (by simp [hchild])
    simp [hs, Backend.recorded, Recorded.add]

/-- The number of a child is asked only of one that the call has just launched. -/
theorem perform_renumbered (b : Backend W C) (x : Scene W C) (call : Call) (number : C → Int)
    (hnumber : ∀ spec child w, call = .spawn spec → x.spawner.state = .configuring →
      b.launch spec x.spawner.options x.world = (.ok child, w) → number child = b.pid child) :
    x.perform { b with pid := number } call = x.perform b call := by
  cases call with
  | spawn spec =>
    by_cases hs : x.spawner.state = .configuring
    · rcases hl : b.launch spec x.spawner.options x.world with ⟨cause | child, w⟩
      · simp [Scene.perform, spawn, hs, hl]
      · simp [Scene.perform, spawn, hs, hl, hnumber spec child w rfl hs hl]
    · simp [Scene.perform, spawn, hs]
  | configure setting => cases setting <;> rfl
  | view view => cases view <;> rfl
  | kill | wait | markSignaled => rfl

/-- A launched child is released once, in the run or with the spawner. -/
theorem released_once (b : Backend W C) (w : W) (calls : List Call) :
    let x : Scene W C := (Scene.fresh w).run b calls
    let log := (Scene.fresh w).contacts b calls
    (log ++ x.farewell b).countP Contact.isRelease = (log.filterMap Contact.number?).length := by
  intro x log
  have h : Chronicle log x.spawner := chronicle_run b w calls
  have hlog : log.countP Contact.isRelease = (log.filterMap Contact.outcome?).length := by
    refine run_preserves b (P := fun log _ =>
      log.countP Contact.isRelease = (log.filterMap Contact.outcome?).length) ?_ (Scene.fresh w) [] calls
      (coherent_fresh w) rfl
    intro call s reply made s' log hstep hold
    rw [List.countP_append, List.filterMap_append, List.length_append, hold, hstep.releases]
  rw [List.countP_append, hlog, farewell_eq b x h.coherent, h.length_numbers]
  split <;> rfl

/-- Every run keeps the order that a backend may rely on.

It launches once at most, and waits for a child's end once at most. A question to a child comes after a
launch that has given it and before it has told an outcome, and its number is asked by the call that
launches it only. A kill reaches a running child once and nothing else, and a wait that kills
first kills once and then waits once. A child is released once: in the call that learns its outcome, or
else with the spawner. -/
theorem backend_order_kept (b : Backend W C) (w : W) (calls : List Call) :
    let x : Scene W C := (Scene.fresh w).run b calls
    let log := (Scene.fresh w).contacts b calls
    log.countP Contact.isLaunch ≤ 1 ∧ log.countP Contact.isWait ≤ 1 ∧
    (∀ before contact after, log = before ++ contact :: after → contact.asksChild →
      (∃ number, before.filterMap Contact.number? = [number]) ∧
        before.filterMap Contact.outcome? = []) ∧
    (∀ call number, (∀ spec child w', call = .spawn spec → x.spawner.state = .configuring →
        b.launch spec x.spawner.options x.world = (.ok child, w') → number child = b.pid child) →
      x.perform { b with pid := number } call = x.perform b call) ∧
    (∃ delivered, (x.perform b .kill).1 = .flag delivered ∧
      x.contacts b [.kill] = if x.spawner.state = .spawned then [.kill delivered] else []) ∧
    (x.spawner.state = .spawned → ∃ delivered outcome,
      x.contacts b [.wait .needKill] = [.kill delivered, .wait outcome, .release]) ∧
    (x.spawner.state ≠ .spawned → x.contacts b [.wait .needKill] = []) ∧
    (∀ call, (x.contacts b [call]).countP Contact.isRelease =
      ((x.contacts b [call]).filterMap Contact.outcome?).length) ∧
    x.farewell b = (if x.spawner.state = .spawned then [.release] else []) ∧
    (log ++ x.farewell b).countP Contact.isRelease = (log.filterMap Contact.number?).length := by
  intro x log
  have h : Chronicle log x.spawner := chronicle_run b w calls
  have hx : x.spawner.Coherent := h.coherent
  have hkill := (step_perform b x (.wait .needKill) hx).needKill_contacts
  exact ⟨h.countP_isLaunch, h.countP_isWait, fun before contact after => h.before_question,
    fun call number => perform_renumbered b x call number, (step_perform b x .kill hx).kill_contacts,
    hkill.1, hkill.2, fun call => (step_perform b x call hx).releases, farewell_eq b x hx,
    released_once b w calls⟩

end Offspring.Spawner
