import Offspring.Proofs.Spawner.Running
import Offspring.Spawner.Scripted

/-!
# Runs on a scripted child

The child of a script counts its polls down and remembers whether it was killed. While no exit has been
observed, both can be read off the calls and the contacts so far: `Tracks` says so, and every call keeps
it. Hence each answer of a run has a closed form in the numbers of the script and the calls before it, and
the status at the end depends on nothing but whether a kill was delivered.
-/

namespace Offspring

/-- Whether a kill was delivered to a running child. -/
def Contact.isDelivery : Contact → Bool
  | .kill delivered => delivered
  | _ => false

namespace Spawner

variable {W C : Type}

/-- A call delivers one kill at most. -/
theorem Step.countP_isDelivery {b : Backend W C} {call : Call} {s s' : Spawner C} {reply : Reply}
    {made : List Contact} (h : Step b call s reply made s') : made.countP Contact.isDelivery ≤ 1 := by
  cases h with
  | launch | refuse | kill | poll => exact List.countP_le_length
  | observe policy delivered =>
    cases policy with
    | noHang | infinite => exact Nat.zero_le 1
    | needKill =>
      cases delivered with
      | false => exact Nat.zero_le 1
      | true => exact Nat.le_refl 1
  | settle | late | used | childless | mark | view => exact Nat.zero_le 1

end Spawner

namespace Scripted

open Spawner

/-- How the child of a script ends by itself. -/
def Script.ownEnd (script : Script) : ExitStatus :=
  match script.diesBy with
  | some signal => .signaled signal
  | none => .exited script.exitCode

/-- How the child of a script ends, once it is known whether a kill was delivered. -/
def Script.finish (script : Script) (killed : Bool) : ExitStatus :=
  if killed then .signaled script.killSignal else script.ownEnd

/-- The status of a child depends on nothing but whether it was killed. -/
theorem Child.outcome_status (script : Script) (c : Child) :
    (c.outcome script).status = script.finish c.killed := rfl

/-- Whether a kill is delivered to a child. -/
def Child.takesKill (script : Script) (c : Child) : Bool :=
  decide ¬(c.killed ∨ c.remaining = 0 ∨ script.unkillable)

/-- A kill is delivered or changes nothing. -/
theorem backend_kill (script : Script) (c : Child) (w : Calls) :
    (backend script).kill c w = (c.takesKill script,
      { c with killed := c.killed || c.takesKill script }, { w with kills := w.kills + 1 }) := by
  by_cases h : c.killed ∨ c.remaining = 0 ∨ script.unkillable <;> simp [backend, Child.takesKill, h]

/-- A child that is out, after so many polls and the contacts of the log. -/
def Tracks (script : Script) (polls : Nat) (log : List Contact) (s : Spawner Child) : Prop :=
  ∃ c, s.child = some c ∧ c.remaining + polls = script.polls ∧ c.killed = log.any Contact.isDelivery

/-- Whether a kill is delivered after so many polls. -/
def Script.delivers (script : Script) (polls : Nat) (hit : Bool) : Bool :=
  decide (polls < script.polls ∧ ¬hit ∧ ¬script.unkillable)

section Tracks

variable {script : Script} {polls : Nat} {log : List Contact} {x : Scene Calls Child}

/-- A child whose polls are used up, or that was killed, is found ended. -/
theorem ended_iff {c : Child} (hremaining : c.remaining + polls = script.polls)
    (hkilled : c.killed = log.any Contact.isDelivery) :
    c.killed ∨ c.remaining = 0 ↔ ¬(polls < script.polls ∧ ¬log.any Contact.isDelivery) := by
  rw [hkilled]
  cases log.any Contact.isDelivery
  · simp
    omega
  · simp

/-- A kill is delivered to the child as the polls and the log tell. -/
theorem takesKill_eq {c : Child} (hremaining : c.remaining + polls = script.polls)
    (hkilled : c.killed = log.any Contact.isDelivery) :
    c.takesKill script = script.delivers polls (log.any Contact.isDelivery) := by
  simp only [Child.takesKill, Script.delivers, decide_eq_decide]
  rw [← or_assoc, ended_iff hremaining hkilled, not_or, not_not, and_assoc]

variable (h : Tracks script polls log x.spawner)

include h

/-- A poll in time. -/
theorem Tracks.poll_running (hrun : polls < script.polls ∧ ¬log.any Contact.isDelivery) :
    (x.perform (backend script) (.wait .noHang)).1 = .flag true ∧
      x.contacts (backend script) [.wait .noHang] = [.tryWait none] ∧
      Tracks script (polls + 1) log (x.perform (backend script) (.wait .noHang)).2.spawner := by
  obtain ⟨c, hchild, hremaining, hkilled⟩ := h
  have hout : ¬(c.killed ∨ c.remaining = 0) := fun hend => (ended_iff hremaining hkilled).mp hend hrun
  obtain ⟨hreply, hmade, hspawner⟩ := perform_noHang_of_running (backend script) x hchild (if_neg hout)
  refine ⟨hreply, hmade, { c with remaining := c.remaining - 1 }, ?_, ?_, hkilled⟩
  · rw [hspawner]
  · change c.remaining - 1 + (polls + 1) = script.polls
    omega

/-- A poll too late, or after a kill. -/
theorem Tracks.poll_ended (hend : ¬(polls < script.polls ∧ ¬log.any Contact.isDelivery)) :
    ∃ outcome, outcome.status = script.finish (log.any Contact.isDelivery) ∧
      (x.perform (backend script) (.wait .noHang)).1 = .flag false ∧
      x.contacts (backend script) [.wait .noHang] = [.tryWait (some outcome), .release] ∧
      (x.perform (backend script) (.wait .noHang)).2.spawner = x.spawner.ended outcome := by
  obtain ⟨c, hchild, hremaining, hkilled⟩ := h
  have hover := (ended_iff hremaining hkilled).mpr hend
  refine ⟨c.outcome script, ?_, perform_noHang_of_ended (backend script) x hchild (if_pos hover)⟩
  rw [Child.outcome_status, hkilled]

/-- A kill is delivered in time, once, and to a child that can be killed. -/
theorem Tracks.kill (hs : x.spawner.state = .spawned) :
    (x.perform (backend script) .kill).1 =
        .flag (script.delivers polls (log.any Contact.isDelivery)) ∧
      x.contacts (backend script) [.kill] =
        [.kill (script.delivers polls (log.any Contact.isDelivery))] ∧
      Tracks script polls (log ++ x.contacts (backend script) [.kill])
        (x.perform (backend script) .kill).2.spawner := by
  obtain ⟨c, hchild, hremaining, hkilled⟩ := h
  obtain ⟨hreply, hmade, hspawner⟩ :=
    perform_kill_of_child (backend script) x hchild hs (backend_kill script c x.world)
  rw [takesKill_eq hremaining hkilled] at hreply hmade hspawner
  refine ⟨hreply, hmade, { c with killed := c.killed || c.takesKill script }, ?_, hremaining, ?_⟩
  · rw [hspawner, takesKill_eq hremaining hkilled]
  · rw [hmade, List.any_append, List.any_cons, List.any_nil, Bool.or_false, hkilled,
      takesKill_eq hremaining hkilled]
    rfl

/-- A wait that kills first delivers the kill as a kill by itself would. -/
theorem Tracks.needKill :
    ∃ outcome, outcome.status = script.finish (log.any Contact.isDelivery ||
          script.delivers polls (log.any Contact.isDelivery)) ∧
      x.contacts (backend script) [.wait .needKill] =
        [.kill (script.delivers polls (log.any Contact.isDelivery)), .wait outcome, .release] ∧
      (x.perform (backend script) (.wait .needKill)).2.spawner = x.spawner.ended outcome := by
  obtain ⟨c, hchild, hremaining, hkilled⟩ := h
  obtain ⟨-, hmade, hspawner⟩ := perform_needKill_of_child (backend script) x hchild
    (backend_kill script c x.world) rfl
  refine ⟨Child.outcome script { c with killed := c.killed || c.takesKill script }, ?_,
    takesKill_eq hremaining hkilled ▸ hmade, hspawner⟩
  rw [Child.outcome_status, takesKill_eq hremaining hkilled, hkilled]

/-- A wait until the end kills nothing. -/
theorem Tracks.infinite :
    ∃ outcome, outcome.status = script.finish (log.any Contact.isDelivery) ∧
      x.contacts (backend script) [.wait .infinite] = [.wait outcome, .release] ∧
      (x.perform (backend script) (.wait .infinite)).2.spawner = x.spawner.ended outcome := by
  obtain ⟨c, hchild, hremaining, hkilled⟩ := h
  obtain ⟨-, hmade, hspawner⟩ := perform_infinite_of_child (backend script) x hchild rfl
  refine ⟨c.outcome script, ?_, hmade, hspawner⟩
  rw [Child.outcome_status, hkilled]

/-- A wait that denies the child has found the end that the deliveries tell. -/
theorem Tracks.observe (policy : WaitPolicy)
    (hfalse : (x.perform (backend script) (.wait policy)).1 = .flag false) :
    (x.perform (backend script) (.wait policy)).2.spawner.state = .ofStatus (script.finish
      ((log ++ x.contacts (backend script) [.wait policy]).any Contact.isDelivery)) := by
  cases policy with
  | noHang =>
    by_cases hrun : polls < script.polls ∧ ¬log.any Contact.isDelivery
    · rw [(h.poll_running hrun).1] at hfalse
      cases hfalse
    · obtain ⟨outcome, hstatus, -, hmade, hspawner⟩ := h.poll_ended hrun
      rw [hspawner, hmade]
      simp [ended, hstatus, Contact.isDelivery]
  | infinite =>
    obtain ⟨outcome, hstatus, hmade, hspawner⟩ := h.infinite
    rw [hspawner, hmade]
    simp [ended, hstatus, Contact.isDelivery]
  | needKill =>
    obtain ⟨outcome, hstatus, hmade, hspawner⟩ := h.needKill
    rw [hspawner, hmade]
    simp [ended, hstatus, Contact.isDelivery]

/-- After one delivery there is no other. -/
theorem Tracks.no_second_delivery (hx : x.spawner.Coherent) (hs : x.spawner.state = .spawned)
    (hhit : log.any Contact.isDelivery) (call : Call) :
    (x.contacts (backend script) [call]).any Contact.isDelivery = false := by
  have hnone : script.delivers polls (log.any Contact.isDelivery) = false := by
    simp [Script.delivers, hhit]
  cases call with
  | kill => rw [(h.kill hs).2.1, hnone]; rfl
  | wait policy =>
    cases policy with
    | noHang =>
      obtain ⟨_, -, -, hmade, -⟩ := h.poll_ended (by simp [hhit])
      rw [hmade]; rfl
    | infinite =>
      obtain ⟨_, -, hmade, -⟩ := h.infinite
      rw [hmade]; rfl
    | needKill =>
      obtain ⟨_, -, hmade, -⟩ := h.needKill
      rw [hmade, hnone]; rfl
  | configure | spawn | markSignaled | view =>
    rw [((step_perform (backend script) x _ hx).keeps_child rfl hs).2.2]; rfl

/-- A child that stays out is tracked through one more call. -/
theorem Tracks.perform (hx : x.spawner.Coherent) (hs : x.spawner.state = .spawned) (call : Call)
    (hout : (x.perform (backend script) call).2.spawner.state = .spawned) :
    Tracks script (polls + [call].count (.wait .noHang)) (log ++ x.contacts (backend script) [call])
      (x.perform (backend script) call).2.spawner := by
  have hstep := step_perform (backend script) x call hx
  cases call with
  | kill => exact (h.kill hs).2.2
  | wait policy =>
    -- Any other wait lasts until the end and would have denied the child.
    have hpolicy : policy = .noHang := by
      by_contra hblocking
      have hfalse := hstep.wait_reply.2 hblocking
      rw [hstep.wait_reply.1, hout] at hfalse
      cases hfalse
    subst hpolicy
    by_cases hrun : polls < script.polls ∧ ¬log.any Contact.isDelivery
    · obtain ⟨-, hmade, c, hchild, hremaining, hkilled⟩ := h.poll_running hrun
      refine ⟨c, hchild, hremaining, ?_⟩
      rw [hmade, List.any_append, hkilled]
      exact (Bool.or_false _).symm
    · obtain ⟨_, -, -, -, hspawner⟩ := h.poll_ended hrun
      rw [hspawner] at hout
      exact absurd hout (ofStatus_ne _).2.2
  | configure | spawn | markSignaled | view =>
    obtain ⟨c, hchild, hremaining, hkilled⟩ := h
    obtain ⟨-, hkept, hmade⟩ := hstep.keeps_child rfl hs
    exact ⟨c, hkept.trans hchild, hremaining, by rw [hmade, List.append_nil, hkilled]⟩

end Tracks

/-- What the calls since the launch and their contacts tell of the spawner: the child that is out, if one
is, and that one kill at most was delivered. -/
structure Accounts (script : Script) (polls : Nat) (log : List Contact) (s : Spawner Child) : Prop where
  used : s.state ≠ .configuring
  tracks : s.state = .spawned → Tracks script polls log s
  once : log.countP Contact.isDelivery ≤ 1

/-- One more call keeps the accounts. -/
theorem Accounts.perform {script : Script} {polls : Nat} {log : List Contact} {x : Scene Calls Child}
    (h : Accounts script polls log x.spawner) (hx : x.spawner.Coherent) (call : Call) :
    Accounts script (polls + [call].count (.wait .noHang)) (log ++ x.contacts (backend script) [call])
      (x.perform (backend script) call).2.spawner := by
  have hstep := step_perform (backend script) x call hx
  refine ⟨hstep.ne_configuring h.used, fun hout => ?_, ?_⟩
  · have hs := hstep.spawned_before h.used hout
    exact (h.tracks hs).perform hx hs call hout
  · rw [List.countP_append]
    by_cases hs : x.spawner.state = .spawned
    · by_cases hhit : log.any Contact.isDelivery
      · have hnone : (x.contacts (backend script) [call]).countP Contact.isDelivery = 0 := by
          simpa [List.countP_eq_zero] using (h.tracks hs).no_second_delivery hx hs hhit call
        rw [hnone]
        exact h.once
      · have hfirst : log.countP Contact.isDelivery = 0 := by
          simpa [List.countP_eq_zero] using hhit
        rw [hfirst, Nat.zero_add]
        exact hstep.countP_isDelivery
    · rw [hstep.made_eq_nil (fun _ _ => h.used) fun _ => hs]
      exact h.once

/-- A run keeps the accounts. -/
theorem Accounts.run {script : Script} {x : Scene Calls Child} (h : Accounts script 0 [] x.spawner)
    (hx : x.spawner.Coherent) (calls : List Call) :
    Accounts script (calls.count (.wait .noHang)) (x.contacts (backend script) calls)
      (x.run (backend script) calls).spawner := by
  induction calls using List.reverseRecOn with
  | nil => exact h
  | append_singleton calls call ih =>
    rw [List.count_append, Scene.contacts_append, Scene.run_append]
    exact ih.perform (coherent_run (backend script) x calls hx) call

/-- A launch gives the child of the script, with nothing told yet. -/
theorem accounts_launch (script : Script) (x : Scene Calls Child) (spec : LaunchSpec)
    (hready : x.spawner.state = .configuring)
    (hlaunched : (x.perform (backend script) (.spawn spec)).2.spawner.state = .spawned) :
    Accounts script 0 [] (x.perform (backend script) (.spawn spec)).2.spawner := by
  have hchild : (x.perform (backend script) (.spawn spec)).2.spawner.child =
      some ⟨script.polls, false⟩ := by
    cases hrefuse : script.refuse <;>
      simp_all [Scene.perform, spawn, backend]
  exact ⟨by simp [hlaunched], fun _ => ⟨_, hchild, rfl, rfl⟩, Nat.zero_le 1⟩

/-- The answers of a run on a scripted child, from its launch on.

One kill at most is delivered. As long as no wait has denied the child, a poll finds it running if so many
are in the script and no kill was delivered; a kill, by itself or within a wait, is delivered if fewer have
been made, none was delivered before and the child can be killed; and the wait that first denies the child
leaves the status of a kill if one was delivered until then, the child's own one otherwise. -/
theorem scripted_run_closed_form (script : Script) (w : Calls) (before : List Call) (spec : LaunchSpec)
    (calls : List Call)
    (hready : ((Scene.fresh w).run (backend script) before).spawner.state = .configuring)
    (hlaunched : (((Scene.fresh w).run (backend script) before).perform (backend script)
      (.spawn spec)).2.spawner.state = .spawned) :
    let b := backend script
    let x := (((Scene.fresh w).run b before).perform b (.spawn spec)).2
    let y := x.run b calls
    let polls := calls.count (.wait .noHang)
    let hit := (x.contacts b calls).any Contact.isDelivery
    let delivered := decide (polls < script.polls ∧ ¬hit ∧ ¬script.unkillable)
    (x.contacts b calls).countP Contact.isDelivery ≤ 1 ∧
    (x.Undenied b calls →
      (y.perform b (.wait .noHang)).1 = .flag (decide (polls + 1 ≤ script.polls ∧ ¬hit)) ∧
      (y.perform b .kill).1 = .flag delivered ∧
      (y.contacts b [.wait .needKill]).any Contact.isDelivery = delivered ∧
      ∀ policy, (y.perform b (.wait policy)).1 = .flag false →
        (y.perform b (.wait policy)).2.spawner.state = .ofStatus (script.finish
          ((x.contacts b (calls ++ [.wait policy])).any Contact.isDelivery))) := by
  intro b x y polls hit delivered
  have hx : x.spawner.Coherent :=
    (step_perform b _ (.spawn spec) (coherent_run b _ before (coherent_fresh w))).coherent
      (coherent_run b _ before (coherent_fresh w))
  have hy := (accounts_launch script _ spec hready hlaunched).run hx calls
  refine ⟨hy.once, fun hundenied => ?_⟩
  have hs : y.spawner.state = .spawned := spawned_of_undenied b x calls hx hlaunched hundenied
  have htracks := hy.tracks hs
  refine ⟨?_, (htracks.kill hs).1, ?_, fun policy hfalse => ?_⟩
  · by_cases hrun : polls < script.polls ∧ ¬hit
    · have htimely : polls + 1 ≤ script.polls ∧ ¬hit := hrun
      exact (htracks.poll_running hrun).1.trans (by rw [decide_eq_true htimely])
    · obtain ⟨_, -, hreply, -⟩ := htracks.poll_ended hrun
      exact hreply.trans (by simp only [Nat.add_one_le_iff, hrun, decide_false])
  · obtain ⟨_, -, hmade, -⟩ := htracks.needKill
    rw [hmade]
    exact Bool.or_false _
  · rw [Scene.contacts_append]
    exact htracks.observe policy hfalse

/-- A kill that comes one poll too late is not delivered, and the child's own exit code is found. -/
theorem scripted_run_late_kill :
    let b := backend { polls := 1, exitCode := 7 }
    let x := (((Scene.fresh {}).run b [.configure (.umask 18)]).perform b (.spawn (.ofProgram .empty))).2
    let y := x.run b [.wait .noHang, .kill, .view .state]
    (y.perform b .kill).1 = .flag false ∧ (y.perform b (.wait .noHang)).2.spawner.state = .exited 7 := by
  obtain ⟨-, hrun⟩ := scripted_run_closed_form { polls := 1, exitCode := 7 } {} [.configure (.umask 18)]
    (.ofProgram .empty) [.wait .noHang, .kill, .view .state] rfl rfl
  have hx := coherent_run (backend { polls := 1, exitCode := 7 }) _
    [.configure (.umask 18), .spawn (.ofProgram .empty)] (coherent_fresh {})
  obtain ⟨-, hkill, -, hend⟩ := hrun (undenied_of_spawned _ _ _ hx (by decide) rfl)
  exact ⟨hkill, hend .noHang rfl⟩

end Scripted

end Offspring
