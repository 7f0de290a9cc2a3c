import Offspring.Proofs.Posix.Reaping

/-!
# What requests on a child are answered

Between the requests on a child the world goes on, in any way. `Served` says all that a request on a child that
has not been found gone comes to: its answer, the calls that are made for it, and the child and the world behind
it. One that has been found gone answers from what it keeps. So what is told in a whole run follows by induction
on its moments: the outcomes are all the same one, a single wait has settled it, and the collecting thread was
finished once (`Told`).
-/

namespace Offspring.Posix

variable {W : Type}

/-- The outcome of a child with these remains. -/
def Remains.outcome (remains : Remains) : Outcome :=
  ⟨.ofWaitStatus remains.status, Child.peakMemoryOf remains.peakMemory⟩

namespace SystemCall

/-- The outcome that a wait settles: that of what is left of the child, or a lost one if the wait has failed for
good. -/
def settles? : SystemCall → Option Outcome
  | .await _ (.ok remains) | .poll _ (.ok (some remains)) => some remains.outcome
  | .await _ (.error e) | .poll _ (.error e) => if e = .interrupted then none else some .lost
  | _ => none

/-- The collecting thread that is finished by a call. -/
def finished? : SystemCall → Option Nat
  | .finishCollector id => some id
  | _ => none

/-- Neither settles a call an outcome nor finishes it a collecting thread. -/
def Quiet (call : SystemCall) : Prop :=
  call.settles? = none ∧ call.finished? = none

end SystemCall

namespace Child

/-! ### Exchanges -/

/-- What a request is answered. -/
inductive Reply where
  | polled (outcome : Option Outcome)
  | waited (outcome : Outcome)
  | killed (sent : Bool)
  deriving DecidableEq

/-- The outcome that a reply tells. -/
def Reply.outcome? : Reply → Option Outcome
  | .polled outcome => outcome
  | .waited outcome => some outcome
  | .killed _ => none

/-- A request's reply, and the calls that were made for it. -/
structure Exchange where
  reply : Reply
  calls : List SystemCall

/-- What happens next. -/
inductive Moment (W : Type) where
  | ask (request : Request)
  /-- The world goes on. -/
  | pass (step : W → W)

section Serving

variable (k : Kernel W)

/-- The reply to a request. -/
def replyTo (x : Child × W) : Request → Reply
  | .tryWait => .polled (x.1.tryWait k x.2).1
  | .wait => .waited (x.1.wait k x.2).1
  | .kill => .killed (x.1.kill k x.2).1

/-- The reply to a request, with its calls. -/
def exchange (x : Child × W) (request : Request) : Exchange where
  reply := replyTo k x request
  calls := (serve k.traced (x.1, .start x.2) request).2.made.map (·.call)

/-- The child and the world behind a moment. -/
def live (x : Child × W) : Moment W → Child × W
  | .ask request => serve k x request
  | .pass step => (x.1, step x.2)

/-- The child and the world behind moments. -/
def lives (x : Child × W) (moments : List (Moment W)) : Child × W :=
  moments.foldl (live k) x

/-- What is exchanged in moments, in order. -/
def exchanges (x : Child × W) : List (Moment W) → List Exchange
  | [] => []
  | .ask request :: rest => exchange k x request :: exchanges (serve k x request) rest
  | .pass step :: rest => exchanges (x.1, step x.2) rest

theorem lives_cons (x : Child × W) (moment : Moment W) (rest : List (Moment W)) :
    lives k x (moment :: rest) = lives k (live k x moment) rest := rfl

end Serving

/-- The outcomes that exchanges tell. -/
def outcomesOf (exchanges : List Exchange) : List Outcome :=
  exchanges.filterMap (·.reply.outcome?)

/-- The calls that exchanges were made with. -/
def callsOf (exchanges : List Exchange) : List SystemCall :=
  exchanges.flatMap (·.calls)

/-- The reply to a request on a child that has been found gone. -/
def keptReply (outcome : Outcome) : Request → Reply
  | .tryWait => .polled (some outcome)
  | .wait => .waited outcome
  | .kill => .killed false

/-- What a request on a child that has not been found gone comes to. -/
inductive Served (k : Kernel W) (c : Child) : Exchange → Child × W → Prop where
  /-- Polls are interrupted, until one says that the child is running. -/
  | running (n : Nat) (w : W) :
      Served k c ⟨.polled none,
        List.replicate n (.poll c.pid (.error .interrupted)) ++ [.poll c.pid (.ok none)]⟩ (c, w)
  /-- The child was to be killed. -/
  | signaled (sent : Bool) (calls : List SystemCall) (hcalls : ∀ call ∈ calls, call.Quiet) (w : W) :
      Served k c ⟨.killed sent, calls⟩ (c, w)
  /-- A wait has settled the outcome; then the collecting thread is finished, and nothing comes behind it. -/
  | gone (reply : Reply) (outcome : Outcome) (before : List SystemCall) (last : SystemCall)
      (hreply : reply.outcome? = some outcome) (hbefore : ∀ call ∈ before, call.Quiet)
      (hlast : last.settles? = some outcome) (w : W) :
      Served k c ⟨reply, before ++ last :: (c.collector.map .finishCollector).toList⟩ (c.finish k outcome w).2

variable {k : Kernel W} {c : Child}

/-- A child that has been found gone answers from what it keeps, and without a call. -/
theorem exchange_of_exit {outcome : Outcome} (hexit : c.exit = some outcome) (w : W) (request : Request) :
    exchange k (c, w) request = ⟨keptReply outcome request, []⟩ ∧ serve k (c, w) request = (c, w) := by
  cases request <;> simp [exchange, replyTo, keptReply, serve, tryWait, wait, kill, hexit, Traced.start]

/-! ### A request on a child that has not been found gone -/

/-- The outcome that a wait's answer is taken for. -/
def outcomeOf : Except Errno Remains → Outcome
  | .ok remains => remains.outcome
  | .error _ => .lost

/-- What is told to a listener on the way is no call. -/
theorem conclude_eq (answer : Except Errno Remains) (r : Traced W) :
    ∃ w, c.conclude k.traced answer r = c.finish k.traced (outcomeOf answer) (r.move w) := by
  cases answer with
  | ok remains => exact ⟨r.world, rfl⟩
  | error e => exact ⟨k.note (.waitFailed (.os e)) r.world, rfl⟩

/-- Finishing the collecting thread is one call, if there is a thread. -/
theorem finish_traced (outcome : Outcome) (r : Traced W) :
    (c.finish k.traced outcome r).1 = outcome ∧
      (c.finish k.traced outcome r).2.2.made.map (·.call) =
        r.made.map (·.call) ++ (c.collector.map .finishCollector).toList ∧
      projected Traced.world (c.finish k.traced outcome r).2 = (c.finish k outcome r.world).2 := by
  cases hcollector : c.collector with
  | none => simp [finish, hcollector]
  | some id => simp [finish, hcollector, Kernel.traced]

/-- A call that is made again for as long as it is interrupted. -/
theorem retry_calls {α : Type} {call : W → Except Errno α × W} (hends : k.Ends call)
    (entry : Except Errno α → SystemCall) (w : W) :
    ∃ (n : Nat) (r : Traced W), r.made.map (·.call) = List.replicate n (entry (.error .interrupted)) ∧
      (call r.world).1 ≠ .error .interrupted ∧
      k.traced.retry (fun r => r.answered entry (call r.world)) (.start w) = r.answered entry (call r.world) := by
  obtain ⟨r, ⟨n, hcalls⟩, hlast, hretry⟩ := Kernel.retry_traced hends entry
    (P := fun r => ∃ n, r.made.map (·.call) = List.replicate n (entry (.error .interrupted)))
    (fun r ⟨n, hcalls⟩ _ => ⟨n + 1, by simp [hcalls, List.replicate_succ']⟩) (r := .start w) ⟨0, rfl⟩
  exact ⟨n, r, hcalls, hlast, hretry⟩

/-- A wait that has settled the outcome is the last one. -/
theorem served_conclude {answer : Except Errno Remains} {r : Traced W} {n : Nat} {interruption last : SystemCall}
    {w : W} {reply : Reply} (hcalls : r.made.map (·.call) = List.replicate n interruption)
    (hquiet : interruption.Quiet) (hlast : last.settles? = some (outcomeOf answer))
    (hreply : reply.outcome? = some (c.conclude k.traced answer (r.add last w)).1) :
    Served k c ⟨reply, (c.conclude k.traced answer (r.add last w)).2.2.made.map (·.call)⟩
      (projected Traced.world (c.conclude k.traced answer (r.add last w)).2) := by
  obtain ⟨w', hconclude⟩ := conclude_eq (k := k) (c := c) answer (r.add last w)
  obtain ⟨houtcome, hmade, hworld⟩ := finish_traced (k := k) (c := c) (outcomeOf answer) ((r.add last w).move w')
  have hlog : ((r.add last w).move w').made.map (·.call) = List.replicate n interruption ++ [last] := by
    rw [← hcalls]
    exact List.map_append
  rw [hconclude, houtcome] at hreply
  rw [hconclude, hmade, hworld, hlog, List.append_assoc]
  exact .gone reply _ _ last hreply (fun call hcall => List.eq_of_mem_replicate hcall ▸ hquiet) hlast w'

/-- No call so far has settled an outcome or finished a collecting thread. -/
def Still (r : Traced W) : Prop :=
  ∀ m ∈ r.made, m.call.Quiet

theorem Still.add {r : Traced W} {call : SystemCall} {w : W} (h : Still r) (hcall : call.Quiet) :
    Still (r.add call w) := by
  intro m hm
  rcases List.mem_append.mp hm with hold | hnew
  · exact h m hold
  · rw [List.mem_singleton.mp hnew]
    exact hcall

/-- A kill looks whether the child has ended and may send a signal; what these calls keep, a kill keeps. -/
theorem kill_keeps (c : Child) {P : Traced W → Prop} {r : Traced W}
    (hlook : ∀ r answer w, P r → P (r.add (.hasEnded c.pid answer) w))
    (hsignal : ∀ r answer w, P r → P (r.add (.kill c.pid sigkill answer) w)) (hnote : ∀ r w, P r → P (r.move w))
    (h : P r) : P (c.kill k.traced r).2 := by
  cases hexit : c.exit with
  | some outcome => simpa only [kill, hexit] using h
  | none =>
    obtain ⟨r', hreached, hretry⟩ : ∃ r', P r' ∧ k.traced.retry (k.traced.hasEnded c.pid) r =
        r'.answered (.hasEnded c.pid) (k.hasEnded c.pid r'.world) :=
      Kernel.retryFor_traced (fun _ => rfl) (fun r w => hlook r (.error .interrupted) w) _ h
    have hlooked (answer : Except Errno Bool) (w : W) : P (r'.add (.hasEnded c.pid answer) w) :=
      hlook r' answer w hreached
    simp only [kill, hexit, hretry]
    rcases k.hasEnded c.pid r'.world with ⟨_ | _ | _, w⟩
    case ok.true => exact hlooked _ w
    all_goals
      simp only [Traced.answered, Kernel.traced, Traced.world_add]
      rcases k.kill c.pid sigkill w with ⟨e | _, w'⟩
      · by_cases he : e = .noProcess <;> simp only [he, if_true, if_false]
        · exact hsignal _ _ w' (hlooked _ w)
        · exact hnote _ _ (hsignal _ _ w' (hlooked _ w))
      · exact hsignal _ _ w' (hlooked _ w)

/-- A kill does not wait. -/
theorem kill_still (w : W) : Still (c.kill k.traced (.start w)).2 :=
  c.kill_keeps (fun _ _ _ h => h.add ⟨rfl, rfl⟩) (fun _ _ _ h => h.add ⟨rfl, rfl⟩) (fun _ _ h => h) nofun

theorem served_kill (w : W) : Served k c (exchange k (c, w) .kill) (serve k (c, w) .kill) := by
  have hmap := kill_map c (k.traced_projects_world.dealsAlike c.pid) (.start w)
  rw [Traced.world_start] at hmap
  simp only [exchange, replyTo, serve, hmap]
  exact .signaled _ _ (List.forall_mem_map.mpr (kill_still w)) _

section Unobserved

variable (hnew : c.exit = none) (w : W)
include hnew

/-- A poll finds the child running, or gone. -/
theorem served_tryWait (hends : k.Ends (k.poll c.pid)) :
    Served k c (exchange k (c, w) .tryWait) (serve k (c, w) .tryWait) := by
  obtain ⟨n, r, hcalls, hlast, hretry⟩ := retry_calls hends (.poll c.pid) w
  have hask : k.traced.poll c.pid = fun r => r.answered (.poll c.pid) (k.poll c.pid r.world) := rfl
  have hmap := tryWait_map c (k.traced_projects_world.dealsAlike c.pid) (.start w)
  rw [Traced.world_start] at hmap
  simp only [exchange, replyTo, serve, hmap]
  simp only [tryWait, hnew, hask, hretry]
  rcases hpoll : k.poll c.pid r.world with ⟨e | _ | remains, w'⟩ <;> rw [hpoll] at hlast
  · have he : e ≠ .interrupted := fun he => hlast (by rw [he])
    exact served_conclude hcalls ⟨rfl, rfl⟩ (if_neg he) rfl
  · simp only [Traced.answered, projected_mk, Traced.made_add, Traced.world_add, List.map_append, hcalls]
    exact .running n w'
  · exact served_conclude hcalls ⟨rfl, rfl⟩ rfl rfl

/-- A wait comes back once the child has been found gone. -/
theorem served_wait (hends : k.Ends (k.await c.pid)) :
    Served k c (exchange k (c, w) .wait) (serve k (c, w) .wait) := by
  obtain ⟨n, r, hcalls, hlast, hretry⟩ := retry_calls hends (.await c.pid) w
  have hask : k.traced.await c.pid = fun r => r.answered (.await c.pid) (k.await c.pid r.world) := rfl
  have hmap := wait_map c (k.traced_projects_world.dealsAlike c.pid) (.start w)
  rw [Traced.world_start] at hmap
  simp only [exchange, replyTo, serve, hmap]
  simp only [wait, hnew, hask, hretry]
  rcases hawait : k.await c.pid r.world with ⟨e | remains, w'⟩ <;> rw [hawait] at hlast
  · have he : e ≠ .interrupted := fun he => hlast (by rw [he])
    exact served_conclude hcalls ⟨rfl, rfl⟩ (if_neg he) rfl
  · exact served_conclude hcalls ⟨rfl, rfl⟩ rfl rfl

end Unobserved

/-- The waits for a child are not interrupted for ever. -/
structure Awaitable (k : Kernel W) (child : Pid) : Prop where
  await : k.Ends (k.await child)
  poll : k.Ends (k.poll child)
  hasEnded : k.Ends (k.hasEnded child)

theorem served (hnew : c.exit = none) (hends : Awaitable k c.pid) (w : W) (request : Request) :
    Served k c (exchange k (c, w) request) (serve k (c, w) request) := by
  cases request with
  | tryWait => exact served_tryWait hnew w hends.poll
  | wait => exact served_wait hnew w hends.await
  | kill => exact served_kill w

/-! ### A run of requests -/

section Run

/-- A child that has been found gone tells what it keeps, for ever and without a call. -/
theorem exchanges_of_exit {outcome : Outcome} (hexit : c.exit = some outcome) (w : W) (moments : List (Moment W)) :
    ∀ e ∈ exchanges k (c, w) moments, ∃ request, e = ⟨keptReply outcome request, []⟩ := by
  induction moments generalizing w with
  | nil => nofun
  | cons moment rest ih =>
    cases moment with
    | ask request =>
      obtain ⟨hreply, hsame⟩ := exchange_of_exit (k := k) hexit w request
      intro e he
      rw [exchanges, hreply, hsame] at he
      rcases List.mem_cons.mp he with rfl | he
      · exact ⟨request, rfl⟩
      · exact ih w e he
    | pass step => exact ih (step w)

/-- What is told in a run of requests on a child. -/
structure Told (c : Child) (exchanges : List Exchange) : Prop where
  /-- One wait has settled the outcome if one was told, and it is the first that was told. -/
  settled : (callsOf exchanges).filterMap SystemCall.settles? = (outcomesOf exchanges).head?.toList
  /-- All outcomes that were told are the first one. -/
  same : ∀ outcome ∈ outcomesOf exchanges, (outcomesOf exchanges).head? = some outcome
  /-- The collecting thread was finished once if an outcome was told, and otherwise not at all. -/
  finished : (callsOf exchanges).filterMap SystemCall.finished? =
    if (outcomesOf exchanges).isEmpty then [] else c.collector.toList
  /-- A poll tells no outcome only if the child is running: it was interrupted, and made again. -/
  running : ∀ e ∈ exchanges, e.reply = .polled none →
    ∃ n, e.calls = List.replicate n (.poll c.pid (.error .interrupted)) ++ [.poll c.pid (.ok none)]

theorem filterMap_settles?_of_quiet {calls : List SystemCall} (h : ∀ call ∈ calls, call.Quiet) :
    calls.filterMap SystemCall.settles? = [] :=
  List.filterMap_eq_nil_iff.mpr fun call hcall => (h call hcall).1

theorem filterMap_finished?_of_quiet {calls : List SystemCall} (h : ∀ call ∈ calls, call.Quiet) :
    calls.filterMap SystemCall.finished? = [] :=
  List.filterMap_eq_nil_iff.mpr fun call hcall => (h call hcall).2

theorem Told.nil : Told c [] :=
  ⟨rfl, nofun, rfl, nofun⟩

/-- An exchange that tells no outcome and settles none changes nothing. -/
theorem Told.cons {e : Exchange} {rest : List Exchange} (h : Told c rest) (hnone : e.reply.outcome? = none)
    (hcalls : ∀ call ∈ e.calls, call.Quiet) (hrunning : e.reply = .polled none →
      ∃ n, e.calls = List.replicate n (.poll c.pid (.error .interrupted)) ++ [.poll c.pid (.ok none)]) :
    Told c (e :: rest) := by
  have houtcomes : outcomesOf (e :: rest) = outcomesOf rest := List.filterMap_cons_none hnone
  constructor
  · rw [houtcomes, callsOf, List.flatMap_cons, List.filterMap_append, filterMap_settles?_of_quiet hcalls]
    exact h.settled
  · rw [houtcomes]
    exact h.same
  · rw [houtcomes, callsOf, List.flatMap_cons, List.filterMap_append, filterMap_finished?_of_quiet hcalls]
    exact h.finished
  · intro e' he'
    rcases List.mem_cons.mp he' with rfl | he'
    · exact hrunning
    · exact h.running e' he'

/-- The exchange in which the outcome is settled tells it, and those behind it tell the same and make no call. -/
theorem Told.settle {reply : Reply} {outcome : Outcome} {before : List SystemCall} {last : SystemCall}
    {rest : List Exchange} (hreply : reply.outcome? = some outcome) (hbefore : ∀ call ∈ before, call.Quiet)
    (hlast : last.settles? = some outcome) (hrest : ∀ e ∈ rest, ∃ request, e = ⟨keptReply outcome request, []⟩) :
    Told c (⟨reply, before ++ last :: (c.collector.map .finishCollector).toList⟩ :: rest) := by
  have hcalls : callsOf rest = [] := by
    refine List.flatMap_eq_nil_iff.mpr fun e he => ?_
    obtain ⟨request, rfl⟩ := hrest e he
    rfl
  have hkept : ∀ other ∈ outcomesOf rest, other = outcome := by
    intro other hother
    obtain ⟨e, he, htells⟩ := List.mem_filterMap.mp hother
    obtain ⟨request, rfl⟩ := hrest e he
    cases request <;> cases htells <;> rfl
  have hfirst : ∀ calls, outcomesOf (⟨reply, calls⟩ :: rest) = outcome :: outcomesOf rest :=
    fun calls => List.filterMap_cons_some hreply
  have hunfinished : last.finished? = none := by
    cases last <;> first | rfl | cases hlast
  constructor
  · rw [hfirst, callsOf, List.flatMap_cons, ← callsOf, hcalls, List.append_nil, List.filterMap_append,
      filterMap_settles?_of_quiet hbefore, List.filterMap_cons_some hlast]
    cases c.collector <;> rfl
  · intro other hother
    rw [hfirst] at hother ⊢
    rcases List.mem_cons.mp hother with rfl | hother
    · rfl
    · rw [hkept other hother]
      rfl
  · rw [hfirst, callsOf, List.flatMap_cons, ← callsOf, hcalls, List.append_nil, List.filterMap_append,
      filterMap_finished?_of_quiet hbefore, List.filterMap_cons_none hunfinished]
    cases c.collector <;> rfl
  · intro e he hnone
    rcases List.mem_cons.mp he with rfl | he
    · have hpolled : reply = .polled none := hnone
      rw [hpolled] at hreply
      cases hreply
    · obtain ⟨request, rfl⟩ := hrest e he
      cases request <;> cases hnone

/-- What is told in a run of requests on a child that has not been found gone before it. -/
theorem told (hnew : c.exit = none) (hends : Awaitable k c.pid) (w : W) (moments : List (Moment W)) :
    Told c (exchanges k (c, w) moments) := by
  induction moments generalizing w with
  | nil => exact .nil
  | cons moment rest ih =>
    cases moment with
    | pass step => exact ih (step w)
    | ask request =>
      have hserved := served hnew hends w request
      rw [exchanges]
      generalize exchange k (c, w) request = e at hserved
      generalize serve k (c, w) request = x at hserved
      cases hserved with
      | running n w' =>
        refine (ih w').cons rfl (fun call hcall => ?_) fun _ => ⟨n, rfl⟩
        rcases List.mem_append.mp hcall with hcall | hcall
        · rw [List.eq_of_mem_replicate hcall]
          exact ⟨rfl, rfl⟩
        · rw [List.mem_singleton.mp hcall]
          exact ⟨rfl, rfl⟩
      | signaled sent calls hcalls w' => exact (ih w').cons rfl hcalls nofun
      | gone reply outcome before last hreply hbefore hlast w' =>
        exact .settle hreply hbefore hlast (exchanges_of_exit rfl _ rest)

end Run

end Child

end Offspring.Posix
