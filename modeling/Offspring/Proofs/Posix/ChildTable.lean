import Offspring.Proofs.Posix.Course

/-!
# The descriptors of a child through its steps

Each step of a child changes its descriptors in one way, `ChildStep.apply`, if it succeeds, and nothing
otherwise. So a course leaves behind what its successful steps make of the descriptors that the child was
forked with (`course_view`).
-/

namespace Offspring.Posix

variable {W : Type}

/-- What a step makes of a child's descriptors. -/
def ChildStep.apply : ChildStep → Table → Table
  | .stream fd target, t => t.put target ((t fd).map fun slot => ⟨slot.file, false⟩)
  | .program, t => t.onExec
  | .session, t | .mask _, t | .directory _, t => t

namespace Table

variable {t : Table}

/-- What steps make of a child's descriptors, in order. -/
def through (t : Table) (steps : List ChildStep) : Table :=
  steps.foldl (fun t step => step.apply t) t

@[simp] theorem through_cons (step : ChildStep) (rest : List ChildStep) :
    t.through (step :: rest) = (step.apply t).through rest := rfl

theorem through_append (steps more : List ChildStep) :
    t.through (steps ++ more) = (t.through steps).through more :=
  List.foldl_append

end Table

/-- A copy at another number is a change of the child's descriptors. -/
theorem System.Redirected.changes {child : Pid} {fd target : Fd} {s s' : System}
    (h : s.Redirected child fd target () s') : s.Changes child (ChildStep.stream fd target).apply () s' := by
  obtain ⟨slot, hslot, heq⟩ := h
  rw [Changes, heq, ChildStep.apply, hslot]
  rfl

/-! ### Steps up to the program -/

/-- A step up to the program changes no descriptor but a standard one. -/
def ChildStep.IsPreparation : ChildStep → Prop
  | .stream _ target => target < 3
  | .session | .mask _ | .directory _ => True
  | .program => False

theorem ChildStep.IsPreparation.apply_above {step : ChildStep} (h : step.IsPreparation) {t : Table} {fd : Fd}
    (hfd : 3 ≤ fd) : step.apply t fd = t fd := by
  cases step with
  | stream source target => exact Table.put_other (Nat.ne_of_gt (Nat.lt_of_lt_of_le h hfd))
  | session | mask | directory => rfl
  | program => cases h

/-- Steps up to the program leave all other descriptors alone. -/
theorem Table.through_above {t : Table} {steps : List ChildStep} (hsteps : ∀ step ∈ steps, step.IsPreparation)
    {fd : Fd} (hfd : 3 ≤ fd) : t.through steps fd = t fd := by
  induction steps generalizing t with
  | nil => rfl
  | cons step rest ih =>
    rw [List.forall_mem_cons] at hsteps
    rw [through_cons, ih hsteps.2, hsteps.1.apply_above hfd]

/-- A stream's step is about one of the descriptors, and about a number for each of these. -/
theorem stream_mem_streamSteps {start fd target : Fd} {fds : List (Option Fd)}
    (h : .stream fd target ∈ streamSteps start fds) : some fd ∈ fds ∧ target < start + fds.length := by
  induction fds generalizing start with
  | nil => cases h
  | cons first rest ih =>
    have hlonger : start + 1 + rest.length = start + (first :: rest).length :=
      (Nat.add_right_comm ..).trans (Nat.add_assoc ..)
    rcases first with _ | first
    · obtain ⟨hfd, htarget⟩ := ih h
      exact ⟨List.mem_cons_of_mem _ hfd, hlonger ▸ htarget⟩
    · rcases List.mem_cons.mp h with heq | hrest
      · cases heq
        exact ⟨List.mem_cons_self, Nat.lt_add_of_pos_right (Nat.succ_pos _)⟩
      · obtain ⟨hfd, htarget⟩ := ih hrest
        exact ⟨List.mem_cons_of_mem _ hfd, hlonger ▸ htarget⟩

theorem program_not_mem_streamSteps (start : Fd) (fds : List (Option Fd)) : .program ∉ streamSteps start fds := by
  induction fds generalizing start with
  | nil => nofun
  | cons first rest ih =>
    rcases first with _ | first
    · exact ih _
    · exact List.not_mem_cons_of_ne_of_not_mem nofun (ih _)

/-- The steps before the last one were all prepared. -/
theorem done_prefix_preparations {plan : ExecPlan} {done : List ChildStep} {step : ChildStep}
    (h : done ++ [step] <+: plan.childSteps) : done <+: plan.preparations := by
  have hlength := h.length_le
  rw [ExecPlan.childSteps, List.length_append, List.length_append] at hlength
  exact List.prefix_of_prefix_length_le ((List.prefix_append done _).trans h) (List.prefix_append _ _)
    (by simpa using hlength)

/-- In a plan for three streams no other step comes before the program. -/
theorem isPreparation_of_mem_preparations {plan : ExecPlan} (htargets : plan.targets.length = 3) :
    ∀ step ∈ plan.preparations, step.IsPreparation := by
  intro step hstep
  simp only [ExecPlan.preparations, List.mem_append] at hstep
  rcases hstep with ((hsession | hmask) | hstream) | hdirectory
  · split at hsession
    · rw [List.mem_singleton.mp hsession]
      trivial
    · cases hsession
  · obtain ⟨bits, -, rfl⟩ := Option.map_eq_some_iff.mp (Option.mem_toList.mp hmask)
    trivial
  · cases step with
    | stream fd target =>
      have htarget := (stream_mem_streamSteps hstream).2
      rwa [htargets, Nat.zero_add] at htarget
    | session | mask | directory => trivial
    | program => exact absurd hstream (program_not_mem_streamSteps _ _)
  · obtain ⟨path, -, rfl⟩ := Option.map_eq_some_iff.mp (Option.mem_toList.mp hdirectory)
    trivial

/-- Only the streams' steps make copies. -/
theorem stream_mem_childSteps {plan : ExecPlan} {fd target : Fd} (h : .stream fd target ∈ plan.childSteps) :
    .stream fd target ∈ streamSteps 0 plan.targets := by
  simpa [ExecPlan.childSteps, ExecPlan.preparations] using h

section Steps

variable {k : Kernel W} {view : W → System} (os : Conforms k view) (plan : ExecPlan) (child : Pid)
include os

/-- A redirection that needs a copy is made again for as long as it is interrupted. -/
theorem redirectFd_answers (fd target : Fd) (w : W) :
    Answers k view (System.Changes child (ChildStep.stream fd target).apply) w
      (ExecPlan.redirectFd k child fd target w) ∧
    (fd ≠ target → (ExecPlan.redirectFd k child fd target w).1 ≠ .error .interrupted) := by
  rw [ExecPlan.redirectFd]
  by_cases hsame : fd = target
  · rw [if_pos hsame]
    subst hsame
    exact ⟨(os.keepOnExec child fd w).mono fun _ _ _ => System.Redirected.changes, fun hne => absurd rfl hne⟩
  · rw [if_neg hsame]
    obtain ⟨w', hview, hless, hretry, hdone⟩ :=
      retry_settles (fun w => os.duplicate child fd target w hsame) w
    rw [hretry]
    have hanswer := (os.duplicate child fd target w' hsame).of_view_eq hview hless
    exact ⟨hanswer.mono fun _ _ _ => System.Redirected.changes, fun _ => hdone⟩

/-- A step changes the child's descriptors in its way, or fails and changes nothing. -/
theorem perform_answers (step : ChildStep) (w : W) :
    Answers k view (System.Changes child step.apply) w (plan.perform k child step w) := by
  cases step with
  | session => exact os.newSession child w
  | mask bits => exact os.setUmask child bits w
  | stream fd target => exact (redirectFd_answers os child fd target w).1
  | directory path => exact os.changeDirectory child path w
  | program => exact os.exec child _ _ _ w

/-- A course leaves behind what its successful steps have made of the child's descriptors. -/
theorem course_view (steps : List ChildStep) (w : W) :
    view (plan.course k child steps w).world = (view w).withTable (.child child)
      (((view w).table (.child child)).through (plan.course k child steps w).done) := by
  induction steps generalizing w with
  | nil => exact ((view w).withTable_same _).symm
  | cons step rest ih =>
    have hanswer := perform_answers os plan child step w
    rw [ExecPlan.course]
    rcases hstep : plan.perform k child step w with ⟨e | _, w'⟩ <;> rw [hstep] at hanswer
    · exact hanswer.1.trans ((view w).withTable_same _).symm
    · have hchanged := hanswer.1
      rw [System.Changes] at hchanged
      simp only [ih w', hchanged, System.withTable_withTable, System.table_withTable_same, Table.through_cons]

/-- The error of a step that failed fits into a report, and no copy was given up because of an interruption. -/
theorem perform_failed {step : ChildStep} {e : Errno} {w w' : W}
    (hfailed : plan.perform k child step w = (.error e, w')) :
    IsWord e ∧ ∀ fd target, step = .stream fd target → fd ≠ target → e ≠ .interrupted := by
  have hanswer := perform_answers os plan child step w
  rw [hfailed] at hanswer
  refine ⟨hanswer.2.2.1, fun fd target hstream hne he => ?_⟩
  subst hstream he
  exact (redirectFd_answers os child fd target w).2 hne (congrArg Prod.fst hfailed)

end Steps

end Offspring.Posix
