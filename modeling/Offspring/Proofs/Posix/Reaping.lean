import Offspring.Posix.Reaper
import Offspring.Proofs.Posix.Bench
import Offspring.Proofs.Posix.Trace

/-!
# A child is reaped once

A process number belongs to a child until a wait has reaped it; then it may be given to another process. A wait
that fails for good says that the child is gone, too. So no call for the number may be made after a wait that
`concludes`, whatever was called before and whoever makes the call: the parent, its drop of the child, or the
thread that reaps a detached one. `Unreaped` are calls among which no wait has concluded, and `Reaped` are
those among which one has, with nothing for the child behind it. Every request on a child leads from the
former to the former or to the latter, and stays there.

That nobody else reaps the child is `Kernel.OnlyWaitsReap`: in a world where the number is the child's, it
stays so up to a wait of the parent that concludes.
-/

namespace Offspring.Posix

variable {W α : Type}

/-! ### Calls for a child -/

namespace SystemCall

/-- The process that a call is for. -/
def process? : SystemCall → Option Pid
  | .await pid _ | .poll pid _ | .hasEnded pid _ | .kill pid _ _ => some pid
  | _ => none

/-- Whether a wait has found the child gone: it was reaped, or the wait has failed for good. -/
def concludes : SystemCall → Bool
  | .await _ (.ok _) | .poll _ (.ok (some _)) => true
  | .await _ (.error e) | .poll _ (.error e) => e ≠ .interrupted
  | _ => false

/-- Only calls for a process conclude. -/
theorem concludes_of_process? {call : SystemCall} (h : call.process? = none) : call.concludes = false := by
  cases call with
  | await | poll | hasEnded | kill => cases h
  | openRead | create | makePipe | close | read | fork | startCollector | finishCollector | startReaper
  | abort => rfl

/-- A wait concludes unless it is interrupted. -/
theorem concludes_await {pid : Pid} {answer : Except Errno Remains} (h : answer ≠ .error .interrupted) :
    (SystemCall.await pid answer).concludes = true := by
  rcases answer with e | remains
  · exact decide_eq_true fun he => h (by rw [he])
  · rfl

/-- The reaping thread is over once a wait has concluded. -/
theorem isOver_eq (pid : Pid) (answer : Except Errno Remains) :
    Reaper.isOver answer = (SystemCall.await pid answer).concludes := by
  cases answer <;> rfl

end SystemCall

/-- A call for no other process than a child, while its number is the child's. -/
def Made.Safe (pid : Pid) (ours : W → Prop) (m : Made W) : Prop :=
  ∀ p, m.call.process? = some p → p = pid ∧ ours m.before

/-- Calls among which no wait has found the child gone. -/
def Unreaped (pid : Pid) (ours : W → Prop) (made : List (Made W)) : Prop :=
  ∀ m ∈ made, m.call.concludes = false ∧ m.Safe pid ours

/-- Calls among which one wait has found the child gone, and none for a process came behind it. -/
def Reaped (pid : Pid) (ours : W → Prop) (made : List (Made W)) : Prop :=
  ∃ before last after, made = before ++ last :: after ∧ Unreaped pid ours before ∧
    last.call.concludes = true ∧ last.Safe pid ours ∧ ∀ m ∈ after, m.call.process? = none

variable {pid : Pid} {ours : W → Prop} {made : List (Made W)} {m : Made W}

/-- Behind a wait that has concluded no call is for a process. -/
def NoneAfterEnd (made : List (Made W)) : Prop :=
  made.Pairwise fun earlier later => earlier.call.concludes = true → later.call.process? = none

theorem Made.safe_of_idle (h : m.call.process? = none) : m.Safe pid ours := by
  intro p hp
  rw [h] at hp
  cases hp

namespace Unreaped

theorem nil : Unreaped pid ours ([] : List (Made W)) :=
  fun _ hnone => absurd hnone List.not_mem_nil

theorem concat (h : Unreaped pid ours made) (hquiet : m.call.concludes = false) (hsafe : m.Safe pid ours) :
    Unreaped pid ours (made ++ [m]) := by
  intro other hother
  rcases List.mem_append.mp hother with hold | hnew
  · exact h other hold
  · rw [List.mem_singleton.mp hnew]
    exact ⟨hquiet, hsafe⟩

theorem reaped (h : Unreaped pid ours made) (hconcludes : m.call.concludes = true) (hsafe : m.Safe pid ours) :
    Reaped pid ours (made ++ [m]) :=
  ⟨made, m, [], rfl, h, hconcludes, hsafe, fun _ hnone => absurd hnone List.not_mem_nil⟩

theorem noneAfterEnd (h : Unreaped pid ours made) : NoneAfterEnd made :=
  List.pairwise_of_forall_mem_list fun earlier hearlier _ _ hconcludes => by
    rw [(h earlier hearlier).1] at hconcludes
    cases hconcludes

theorem countP_eq_zero (h : Unreaped pid ours made) : made.countP (·.call.concludes) = 0 :=
  List.countP_eq_zero.mpr fun m hm => by simp [(h m hm).1]

end Unreaped

namespace Reaped

theorem concat (h : Reaped pid ours made) (hidle : m.call.process? = none) : Reaped pid ours (made ++ [m]) := by
  obtain ⟨before, last, after, rfl, hbefore, hlast, hsafe, hafter⟩ := h
  refine ⟨before, last, after ++ [m], by simp, hbefore, hlast, hsafe, fun other hother => ?_⟩
  rcases List.mem_append.mp hother with hold | hnew
  · exact hafter other hold
  · rw [List.mem_singleton.mp hnew]
    exact hidle

theorem safe (h : Reaped pid ours made) : ∀ m ∈ made, m.Safe pid ours := by
  obtain ⟨before, last, after, rfl, hbefore, -, hsafe, hafter⟩ := h
  intro m hm
  rcases List.mem_append.mp hm with hfront | hback
  · exact (hbefore m hfront).2
  · rcases List.mem_cons.mp hback with rfl | hback
    · exact hsafe
    · exact Made.safe_of_idle (hafter m hback)

theorem noneAfterEnd (h : Reaped pid ours made) : NoneAfterEnd made := by
  obtain ⟨before, last, after, rfl, hbefore, -, -, hafter⟩ := h
  refine List.pairwise_append.mpr ⟨hbefore.noneAfterEnd, ?_, ?_⟩
  · refine List.pairwise_cons.mpr ⟨fun m hm _ => hafter m hm, ?_⟩
    exact List.pairwise_of_forall_mem_list fun _ _ m hm _ => hafter m hm
  · intro earlier hearlier _ _ hconcludes
    rw [(hbefore earlier hearlier).1] at hconcludes
    cases hconcludes

theorem countP_eq_one (h : Reaped pid ours made) : made.countP (·.call.concludes) = 1 := by
  obtain ⟨before, last, after, rfl, hbefore, hlast, -, hafter⟩ := h
  have hnone : after.countP (·.call.concludes) = 0 :=
    List.countP_eq_zero.mpr fun m hm => by simp [SystemCall.concludes_of_process? (hafter m hm)]
  rw [List.countP_append, hbefore.countP_eq_zero, List.countP_cons, hnone, if_pos hlast]

end Reaped

/-! ### Waiting for a child -/

/-- What a call that is made again for as long as it is interrupted comes to, when it is written down. -/
theorem Kernel.retry_traced {k : Kernel W} {call : W → Except Errno α × W} (hends : k.Ends call)
    (entry : Except Errno α → SystemCall) {P : Traced W → Prop}
    (hkeep : ∀ r, P r → (call r.world).1 = .error .interrupted →
      P (r.add (entry (.error .interrupted)) (call r.world).2)) {r : Traced W} (h : P r) :
    ∃ r', P r' ∧ (call r'.world).1 ≠ .error .interrupted ∧
      k.traced.retry (fun r => r.answered entry (call r.world)) r = r'.answered entry (call r'.world) := by
  have htraced : k.traced.Ends fun r => r.answered entry (call r.world) := fun r => hends r.world
  refine Kernel.retry_reaches htraced (fun r hr hinterrupted => ?_) h
  have hinterrupted : (call r.world).1 = .error .interrupted := hinterrupted
  rw [Traced.answered, hinterrupted]
  exact hkeep r hr hinterrupted

/-- The same of a kernel whose interruptions need not come to an end, for a property that every interruption
keeps. -/
theorem Kernel.retryFor_traced {call : W → Except Errno α × W} {entry : Except Errno α → SystemCall}
    {ask : Traced W → Except Errno α × Traced W} (hask : ∀ r, ask r = r.answered entry (call r.world))
    {P : Traced W → Prop} (hkeep : ∀ r w, P r → P (r.add (entry (.error .interrupted)) w)) (fuel : Nat)
    {r : Traced W} (h : P r) :
    ∃ r', P r' ∧ Kernel.retryFor ask fuel r = r'.answered entry (call r'.world) := by
  induction fuel generalizing r with
  | zero => exact ⟨r, h, hask r⟩
  | succ fuel ih =>
    by_cases hinterrupted : (ask r).1 = .error .interrupted
    · rw [Kernel.retryFor_of_interrupted hinterrupted]
      refine ih ?_
      rw [hask] at hinterrupted ⊢
      have hanswer : (call r.world).1 = .error .interrupted := hinterrupted
      rw [Traced.answered, hanswer]
      exact hkeep r _ h
    · exact ⟨r, h, (Kernel.retryFor_of_done hinterrupted _).trans (hask r)⟩

/-- Nobody but the parent reaps a child: its number stays its own until a wait concludes, and waits are not
interrupted for ever. -/
structure Kernel.OnlyWaitsReap (k : Kernel W) (pid : Pid) (ours : W → Prop) : Prop where
  await_ends : k.Ends (k.await pid)
  poll_ends : k.Ends (k.poll pid)
  hasEnded_ends : k.Ends (k.hasEnded pid)
  await : ∀ w, ours w → (SystemCall.await pid (k.await pid w).1).concludes = false → ours (k.await pid w).2
  poll : ∀ w, ours w → (SystemCall.poll pid (k.poll pid w).1).concludes = false → ours (k.poll pid w).2
  hasEnded : ∀ w, ours w → ours (k.hasEnded pid w).2
  kill : ∀ signal w, ours w → ours (k.kill pid signal w).2
  note : ∀ event w, ours w → ours (k.note event w)

/-- The child has not been reaped so far, and its number is its own. -/
structure Waiting (pid : Pid) (ours : W → Prop) (r : Traced W) : Prop where
  unreaped : Unreaped pid ours r.made
  held : ours r.world

variable {k : Kernel W} {r : Traced W}

/-- A call for the child that does not conclude leaves it unreaped. -/
theorem Waiting.add {w : W} (h : Waiting pid ours r) (call : SystemCall) (hprocess : call.process? = some pid)
    (hquiet : call.concludes = false) (hheld : ours w) : Waiting pid ours (r.add call w) where
  unreaped := h.unreaped.concat hquiet fun _ hp => ⟨(Option.some.inj (hprocess.symm.trans hp)).symm, h.held⟩
  held := hheld

/-- A wait that concludes reaps the child. -/
theorem Waiting.reaped {w : W} (h : Waiting pid ours r) (call : SystemCall) (hprocess : call.process? = some pid)
    (hconcludes : call.concludes = true) : Reaped pid ours (r.add call w).made :=
  h.unreaped.reaped hconcludes fun _ hp => ⟨(Option.some.inj (hprocess.symm.trans hp)).symm, h.held⟩

/-- A call for the child is made again for as long as it is interrupted; the child is unreaped up to the last
time, which is no interruption. -/
theorem retry_waiting {call : W → Except Errno α × W} (entry : Except Errno α → SystemCall)
    (hends : k.Ends call) (hprocess : ∀ answer, (entry answer).process? = some pid)
    (hquiet : (entry (.error .interrupted)).concludes = false)
    (hheld : ∀ w, ours w → (call w).1 = .error .interrupted → ours (call w).2) (h : Waiting pid ours r) :
    ∃ r', Waiting pid ours r' ∧ (call r'.world).1 ≠ .error .interrupted ∧
      k.traced.retry (fun r => r.answered entry (call r.world)) r = r'.answered entry (call r'.world) := by
  refine Kernel.retry_traced hends entry (fun r hwaiting hinterrupted => ?_) h
  exact hwaiting.add _ (hprocess _) hquiet (hheld r.world hwaiting.held hinterrupted)

/-! ### Requests on a child -/

namespace Child

/-- A request on a child. -/
inductive Request where
  | tryWait
  | wait
  | kill
  deriving DecidableEq

/-- Answers a request; only the child and the world afterwards are kept. -/
def serve (k : Kernel W) (x : Child × W) : Request → Child × W
  | .tryWait => (x.1.tryWait k x.2).2
  | .wait => (x.1.wait k x.2).2
  | .kill => (x.1, (x.1.kill k x.2).2)

/-- Answers requests one after the other. -/
def serveAll (k : Kernel W) (requests : List Request) (x : Child × W) : Child × W :=
  requests.foldl (serve k) x

/-- A request has the same effect over kernels that deal with the child alike. -/
theorem serve_map {V : Type} {k : Kernel W} {k' : Kernel V} {project : W → V} (c : Child)
    (h : k.DealsAlike k' project c.pid) (w : W) (request : Request) :
    serve k' (c, project w) request = projected project (serve k (c, w) request) := by
  cases request with
  | tryWait => exact congrArg Prod.snd (tryWait_map c h w)
  | wait => exact congrArg Prod.snd (wait_map c h w)
  | kill => exact congrArg (Prod.mk c ·.2) (kill_map c h w)

/-- A request has the same effect whether or not calls are written down. -/
theorem serve_world (k : Kernel W) (c : Child) (r : Traced W) (request : Request) :
    serve k (c, r.world) request = projected Traced.world (serve k.traced (c, r) request) :=
  serve_map c (k.traced_projects_world.dealsAlike c.pid) r request

/-- Requests have the same effect whether or not calls are written down. -/
theorem serveAll_world (k : Kernel W) (requests : List Request) (c : Child) (r : Traced W) :
    serveAll k requests (c, r.world) = projected Traced.world (serveAll k.traced requests (c, r)) := by
  induction requests generalizing c r with
  | nil => rfl
  | cons request requests ih =>
    rw [serveAll, List.foldl_cons, serve_world]
    exact ih _ _

variable {c : Child}

/-- Finishing the collecting thread is no call for a process. -/
theorem reaped_finish (outcome : Outcome) (h : Reaped pid ours r.made) :
    (c.finish k.traced outcome r).2.1.exit.isSome ∧ Reaped pid ours (c.finish k.traced outcome r).2.2.made := by
  refine ⟨rfl, ?_⟩
  simp only [finish]
  cases c.collector with
  | none => exact h
  | some collector => exact h.concat rfl

/-- A child that has been found gone keeps its outcome. -/
theorem reaped_conclude (answer : Except Errno Remains) (h : Reaped pid ours r.made) :
    (c.conclude k.traced answer r).2.1.exit.isSome ∧ Reaped pid ours (c.conclude k.traced answer r).2.2.made := by
  cases answer with
  | ok remains => exact reaped_finish _ h
  | error e => exact reaped_finish (r := r.move (k.note (.waitFailed (.os e)) r.world)) _ h

section Unobserved

variable (hnew : c.exit = none) (os : k.OnlyWaitsReap c.pid ours) (h : Waiting c.pid ours r)
include hnew os h

/-- A poll leaves the child unreaped and as it is, or finds it gone. -/
theorem tryWait_stage :
    (c.tryWait k.traced r).2.1 = c ∧ Waiting c.pid ours (c.tryWait k.traced r).2.2 ∨
      (c.tryWait k.traced r).2.1.exit.isSome ∧ Reaped c.pid ours (c.tryWait k.traced r).2.2.made := by
  obtain ⟨r', hwaiting, hlast, hretry⟩ := retry_waiting (.poll c.pid) os.poll_ends (fun _ => rfl) rfl
    (fun w hw hinterrupted => os.poll w hw (by rw [hinterrupted]; rfl)) h
  have hheld := os.poll r'.world hwaiting.held
  have hask : k.traced.poll c.pid = fun r => r.answered (.poll c.pid) (k.poll c.pid r.world) := rfl
  simp only [tryWait, hnew, hask, hretry]
  rcases hpoll : k.poll c.pid r'.world with ⟨e | _ | remains, w⟩ <;> rw [hpoll] at hlast hheld
  · have he : e ≠ .interrupted := fun he => hlast (by rw [he])
    exact .inr (reaped_conclude (.error e) (hwaiting.reaped _ rfl (decide_eq_true he)))
  · exact .inl ⟨rfl, hwaiting.add _ rfl rfl (hheld rfl)⟩
  · exact .inr (reaped_conclude (.ok remains) (hwaiting.reaped _ rfl rfl))

/-- A wait returns only once the child has been found gone. -/
theorem wait_stage : (c.wait k.traced r).2.1.exit.isSome ∧ Reaped c.pid ours (c.wait k.traced r).2.2.made := by
  obtain ⟨r', hwaiting, hlast, hretry⟩ := retry_waiting (.await c.pid) os.await_ends (fun _ => rfl) rfl
    (fun w hw hinterrupted => os.await w hw (by rw [hinterrupted]; rfl)) h
  have hask : k.traced.await c.pid = fun r => r.answered (.await c.pid) (k.await c.pid r.world) := rfl
  simp only [wait, hnew, hask, hretry]
  exact reaped_conclude _ (hwaiting.reaped _ rfl (SystemCall.concludes_await hlast))

/-- A kill leaves the child unreaped, whether or not the signal is sent and can be sent. -/
theorem kill_stage : Waiting c.pid ours (c.kill k.traced r).2 := by
  obtain ⟨r', hwaiting, -, hretry⟩ := retry_waiting (.hasEnded c.pid) os.hasEnded_ends (fun _ => rfl) rfl
    (fun w hw _ => os.hasEnded w hw) h
  have hask : k.traced.hasEnded c.pid = fun r => r.answered (.hasEnded c.pid) (k.hasEnded c.pid r.world) := rfl
  have hpeeked : Waiting c.pid ours (r'.answered (.hasEnded c.pid) (k.hasEnded c.pid r'.world)).2 :=
    hwaiting.add (.hasEnded c.pid (k.hasEnded c.pid r'.world).1) rfl rfl (os.hasEnded r'.world hwaiting.held)
  have hsent : ∀ r, Waiting c.pid ours r → Waiting c.pid ours (k.traced.kill c.pid sigkill r).2 := fun r h =>
    h.add (.kill c.pid sigkill (k.kill c.pid sigkill r.world).1) rfl rfl (os.kill sigkill r.world h.held)
  simp only [kill, hnew, hask, hretry]
  split
  · rename_i hended
    rwa [hended] at hpeeked
  · rename_i hended
    rw [hended] at hpeeked
    have hsignaled := hsent _ hpeeked
    split
    · rename_i hkill
      rwa [hkill] at hsignaled
    · rename_i e _ hkill
      rw [hkill] at hsignaled
      by_cases he : e = .noProcess
      · simpa only [he, if_true] using hsignaled
      · simp only [he, if_false]
        exact ⟨hsignaled.unreaped, os.note _ _ hsignaled.held⟩

end Unobserved

/-- A child is out and has not been found gone, or it was found gone and keeps its outcome. -/
def Stage (c : Child) (ours : W → Prop) (x : Child × Traced W) : Prop :=
  x.1 = c ∧ Waiting c.pid ours x.2 ∨ x.1.exit.isSome ∧ Reaped c.pid ours x.2.made

/-- A request on a child that keeps its outcome makes no call. -/
theorem serve_of_exit (request : Request) (hexit : c.exit.isSome) : serve k.traced (c, r) request = (c, r) := by
  obtain ⟨outcome, hsome⟩ := Option.isSome_iff_exists.mp hexit
  cases request <;> simp [serve, tryWait, wait, kill, hsome]

/-- Every request leads on to one of the two stages. -/
theorem Stage.serve {x : Child × Traced W} (hnew : c.exit = none) (os : k.OnlyWaitsReap c.pid ours)
    (h : Stage c ours x) (request : Request) : Stage c ours (serve k.traced x request) := by
  obtain ⟨c', r⟩ := x
  rcases h with ⟨rfl, hwaiting⟩ | ⟨hexit, hreaped⟩
  · cases request with
    | tryWait => exact tryWait_stage hnew os hwaiting
    | wait => exact .inr (wait_stage hnew os hwaiting)
    | kill => exact .inl ⟨rfl, kill_stage hnew os hwaiting⟩
  · rw [serve_of_exit request hexit]
    exact .inr ⟨hexit, hreaped⟩

/-- All requests together lead to one of the two stages. -/
theorem Stage.serveAll {x : Child × Traced W} (hnew : c.exit = none) (os : k.OnlyWaitsReap c.pid ours)
    (h : Stage c ours x) (requests : List Request) : Stage c ours (serveAll k.traced requests x) := by
  induction requests generalizing x with
  | nil => exact h
  | cons request requests ih => exact ih (h.serve hnew os request)

end Child

/-! ### The thread that reaps a detached child -/

/-- The reaping thread waits again after an interruption and never otherwise, sends no signal, and finishes the
collecting thread in the end. -/
theorem reaper_calls (os : k.OnlyWaitsReap pid ours) (collector : Option Nat) (w : W) (hours : ours w) :
    let made := (Reaper.run k.traced pid collector (.start w)).made
    (∀ m ∈ made, m.Safe pid ours) ∧ ∃ n answer, answer ≠ .error .interrupted ∧
      made.map (·.call) = List.replicate n (.await pid (.error .interrupted)) ++
        .await pid answer :: (collector.map .finishCollector).toList := by
  suffices hfor : ∀ fuel r, Waiting pid ours r → k.interruptions r.world < fuel →
      ∃ n answer, answer ≠ .error .interrupted ∧
        (Reaper.runFor k.traced pid collector fuel r).made.map (·.call) =
          r.made.map (·.call) ++ List.replicate n (.await pid (.error .interrupted)) ++
            .await pid answer :: (collector.map .finishCollector).toList ∧
        Reaped pid ours (Reaper.runFor k.traced pid collector fuel r).made by
    obtain ⟨n, answer, hlast, hcalls, hreaped⟩ :=
      hfor _ (.start w) ⟨Unreaped.nil, hours⟩ (Nat.lt_succ_self _)
    exact ⟨hreaped.safe, n, answer, hlast, hcalls⟩
  intro fuel
  induction fuel with
  | zero => exact fun r _ hless => absurd hless (Nat.not_lt_zero _)
  | succ fuel ih =>
    intro r h hless
    have hheld := os.await r.world h.held
    rw [Reaper.runFor, show k.traced.await pid r = r.answered (.await pid) (k.await pid r.world) from rfl]
    by_cases hinterrupted : (k.await pid r.world).1 = .error .interrupted
    · -- The wait is made again, and behind it everything is as the induction says.
      rw [hinterrupted] at hheld
      have hfewer := os.await_ends r.world hinterrupted
      obtain ⟨n, answer, hlast, hcalls, hreaped⟩ := ih
        (r.add (.await pid (.error .interrupted)) (k.await pid r.world).2) (h.add _ rfl rfl (hheld rfl))
        (by simp only [Traced.world_add]; omega)
      simp only [Traced.answered, hinterrupted, Reaper.settle, Reaper.isOver, ne_eq, not_true_eq_false,
        decide_false, Bool.false_eq_true, if_false]
      refine ⟨n + 1, answer, hlast, ?_, hreaped⟩
      rw [hcalls]
      simp [List.replicate_succ]
    · have hconcludes : (SystemCall.await pid (k.await pid r.world).1).concludes = true :=
        SystemCall.concludes_await hinterrupted
      have hreaped := h.reaped (w := (k.await pid r.world).2) _ rfl hconcludes
      simp only [Traced.answered, Reaper.settle, SystemCall.isOver_eq pid, hconcludes, if_true]
      refine ⟨0, (k.await pid r.world).1, hinterrupted, ?_⟩
      cases collector with
      | none => exact ⟨by simp, hreaped⟩
      | some collector => exact ⟨by simp [Kernel.traced], hreaped.concat rfl⟩

namespace Child

variable {c : Child}

/-- A child that has been found gone is given up without a call. -/
theorem release_of_exit (hexit : c.exit.isSome) : c.release k.traced r = r := by
  obtain ⟨outcome, hsome⟩ := Option.isSome_iff_exists.mp hexit
  simp only [release, hsome]

/-- A child that is not detached is given up once it has been found gone. -/
theorem release_attached (hnew : c.exit = none) (os : k.OnlyWaitsReap c.pid ours) (h : Waiting c.pid ours r)
    (hattached : c.detach = false) : Reaped c.pid ours (c.release k.traced r).made := by
  have hnoted : Waiting c.pid ours (k.traced.note .killingOnDrop r) := ⟨h.unreaped, os.note _ _ h.held⟩
  have hwaited := wait_stage hnew os (kill_stage hnew os hnoted)
  simpa only [release, hnew, hattached, Bool.false_eq_true, if_false] using hwaited.2

/-- The calls that giving up a child leads to. -/
def dropped (k : Kernel W) (x : Child × W) : List (Made W) :=
  (x.1.release k.traced (.start x.2)).made

/-- The calls of a drop come behind those before it. -/
theorem release_made (k : Kernel W) (c : Child) (r : Traced W) :
    (c.release k.traced r).made = r.made ++ dropped k (c, r.world) := by
  have hmap := release_map (k.traced_projects_behind r.made) c (.start r.world)
  rw [Traced.behind_start] at hmap
  rw [hmap]
  rfl

/-- A detached child is given up by starting the thread that reaps it. -/
theorem dropped_detached (hnew : c.exit = none) (hdetached : c.detach = true) (w : W) :
    ∃ answer w', dropped k (c, w) = [⟨.startReaper c.pid c.collector answer, w'⟩] := by
  have hask : k.traced.startReaper c.pid c.collector (k.traced.note .leavingDetached (.start w)) =
      (Traced.start (k.note .leavingDetached w)).answered (.startReaper c.pid c.collector)
        (k.startReaper c.pid c.collector (k.note .leavingDetached w)) := rfl
  simp only [dropped, release, hnew, hdetached, if_true, hask]
  rcases k.startReaper c.pid c.collector (k.note .leavingDetached w) with ⟨cause | _, w'⟩ <;>
    exact ⟨_, _, rfl⟩

/-- A drop finds the child gone before it, or finds it gone itself, or leaves it to the reaping thread. -/
theorem drop_cases (hnew : c.exit = none) (os : k.OnlyWaitsReap c.pid ours) (requests : List Request) (w : W)
    (hours : ours w) :
    let seen := (serveAll k.traced requests (c, .start w)).2.made
    let drop := dropped k (serveAll k requests (c, w))
    Reaped c.pid ours seen ∧ drop = [] ∨
      Unreaped c.pid ours seen ∧ c.detach = false ∧ Reaped c.pid ours (seen ++ drop) ∨
      Unreaped c.pid ours seen ∧ c.detach = true ∧
        ∃ answer w', drop = [⟨.startReaper c.pid c.collector answer, w'⟩] := by
  have hstage : Stage c ours (serveAll k.traced requests (c, .start w)) :=
    Stage.serveAll hnew os (.inl ⟨rfl, Unreaped.nil, hours⟩) requests
  have hworld := serveAll_world k requests c (.start w)
  rw [Traced.world_start] at hworld
  intro seen drop
  have hall := release_made k (serveAll k.traced requests (c, .start w)).1
    (serveAll k.traced requests (c, .start w)).2
  have hdrop : drop = dropped k ((serveAll k.traced requests (c, .start w)).1,
      (serveAll k.traced requests (c, .start w)).2.world) := congrArg (dropped k) hworld
  rcases hstage with ⟨hsame, hwaiting⟩ | ⟨hexit, hreaped⟩
  · cases hdetach : c.detach with
    | false =>
      refine .inr (.inl ⟨hwaiting.unreaped, rfl, ?_⟩)
      rw [hdrop, ← hall, hsame]
      exact release_attached hnew os hwaiting hdetach
    | true =>
      rw [hsame] at hdrop
      rw [hdrop]
      exact .inr (.inr ⟨hwaiting.unreaped, rfl, dropped_detached hnew hdetach _⟩)
  · refine .inl ⟨hreaped, ?_⟩
    rw [hdrop, dropped, release_of_exit hexit]
    rfl

/-- A forked child is reaped once. Whatever requests are made on it until it is dropped, and whatever the calls
answer, no call is for another process, and none is for the child once a wait has found it gone; so no signal is
sent to a number that may have been given away. A child that has been found gone is dropped without a call. One
that has not is dropped only once a wait has found it gone, unless it is detached: then the drop starts the thread
that reaps it and does nothing else. That thread waits, again after each interruption and only then, and finishes
the collecting thread once it has found the child gone. -/
theorem child_reaped_once (k : Kernel W) (c : Child) (hnew : c.exit = none) (ours : W → Prop)
    (os : k.OnlyWaitsReap c.pid ours) (requests : List Request) (w : W) (hours : ours w) :
    let seen := (serveAll k.traced requests (c, .start w)).2.made
    let drop := dropped k (serveAll k requests (c, w))
    NoneAfterEnd (seen ++ drop) ∧ (∀ m ∈ seen ++ drop, m.Safe c.pid ours) ∧
      (seen.countP (·.call.concludes) = 1 ∧ drop = [] ∨
        seen.countP (·.call.concludes) = 0 ∧ c.detach = false ∧ drop.countP (·.call.concludes) = 1 ∨
        seen.countP (·.call.concludes) = 0 ∧ c.detach = true ∧
          ∃ answer, drop.map (·.call) = [.startReaper c.pid c.collector answer]) ∧
      ∀ w', ours w' →
        let reaping := (Reaper.run k.traced c.pid c.collector (.start w')).made
        (∀ m ∈ reaping, m.Safe c.pid ours) ∧ ∃ n answer, answer ≠ .error .interrupted ∧
          reaping.map (·.call) = List.replicate n (.await c.pid (.error .interrupted)) ++
            .await c.pid answer :: (c.collector.map .finishCollector).toList := by
  intro seen drop
  have hthread := reaper_calls os c.collector
  rcases drop_cases hnew os requests w hours with ⟨hseen, hdrop⟩ | ⟨hseen, hattached, hall⟩ |
    ⟨hseen, hdetached, answer, w', hdrop⟩
  · have hdrop : drop = [] := hdrop
    refine ⟨?_, ?_, .inl ⟨hseen.countP_eq_one, hdrop⟩, hthread⟩ <;> rw [hdrop, List.append_nil]
    · exact hseen.noneAfterEnd
    · exact hseen.safe
  · have hone := hall.countP_eq_one
    rw [List.countP_append, hseen.countP_eq_zero, Nat.zero_add] at hone
    exact ⟨hall.noneAfterEnd, hall.safe, .inr (.inl ⟨hseen.countP_eq_zero, hattached, hone⟩), hthread⟩
  · have hdrop : drop = [⟨.startReaper c.pid c.collector answer, w'⟩] := hdrop
    have hall := hseen.concat (m := ⟨.startReaper c.pid c.collector answer, w'⟩) rfl (Made.safe_of_idle rfl)
    refine ⟨?_, ?_, .inr (.inr ⟨hseen.countP_eq_zero, hdetached, answer, by rw [hdrop]; rfl⟩), hthread⟩ <;>
      rw [hdrop]
    · exact hall.noneAfterEnd
    · exact fun m hm => (hall m hm).2

end Child

/-- On the bench nobody but the parent reaps a child. -/
theorem Bench.onlyWaitsReap (pid : Pid) :
    Bench.kernel.OnlyWaitsReap pid fun b => b.system.life pid ≠ .absent where
  await_ends b hinterrupted := by
    have hanswer := Bench.await_answers pid b
    change (b.await pid).1 = _ at hinterrupted
    change Bench.kernel.interruptions (b.await pid).2 < _
    rcases hawait : b.await pid with ⟨e | remains, b'⟩ <;> rw [hawait] at hanswer hinterrupted <;>
      cases hinterrupted
    exact hanswer.2.2.2 rfl
  poll_ends _ hinterrupted := by cases hinterrupted
  hasEnded_ends _ hinterrupted := by cases hinterrupted
  await b hours hquiet := by
    have hanswer := Bench.await_answers pid b
    change (SystemCall.await pid (b.await pid).1).concludes = false at hquiet
    change (b.await pid).2.system.life pid ≠ .absent
    rcases hawait : b.await pid with ⟨e | remains, b'⟩ <;> rw [hawait] at hanswer hquiet
    · rwa [show b'.system = b.system from hanswer.1]
    · cases hquiet
  poll _ hours _ := hours
  hasEnded _ hours := hours
  kill _ _ hours := hours
  note _ _ hours := hours

/-- A bench with an ended child; the first wait for it is interrupted. -/
def Bench.withEnded : Bench where
  system := (Bench.standard []).withLife 3 .ended
  next := 4
  below := (Bench.standard_below []).succ.withLife (.inr (Nat.lt_succ_self 3))
  limit := 64
  turns := [.fails 4]

/-- A child that has ended and was asked for its end in vain is found gone by its drop. -/
theorem withEnded_reaped_once :
    Bench.kernel.OnlyWaitsReap 3 (fun b => b.system.life 3 ≠ .absent) ∧
      Bench.withEnded.system.life 3 ≠ .absent ∧
      (Child.dropped Bench.kernel (Child.serveAll Bench.kernel [.kill] (⟨3, false, none, none⟩, .withEnded))).countP
        (·.call.concludes) = 1 := by
  have hours : Bench.withEnded.system.life 3 ≠ .absent := by decide
  refine ⟨Bench.onlyWaitsReap 3, hours, ?_⟩
  obtain ⟨-, -, hcases, -⟩ := Child.child_reaped_once Bench.kernel ⟨3, false, none, none⟩ rfl _
    (Bench.onlyWaitsReap 3) [.kill] .withEnded hours
  have hunseen : (Child.serveAll Bench.kernel.traced [.kill]
      (⟨3, false, none, none⟩, .start .withEnded)).2.made.countP (·.call.concludes) = 0 := by
    rfl
  rcases hcases with ⟨hseen, -⟩ | ⟨-, -, hdrop⟩ | ⟨-, hdetached, -⟩
  · rw [hunseen] at hseen
    cases hseen
  · exact hdrop
  · cases hdetached

end Offspring.Posix
