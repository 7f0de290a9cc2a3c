import Offspring.Proofs.Run.Launching
import Offspring.Proofs.Spawner.IdleCalls

/-!
# Watching a child until its time is over

A run that watches its child looks at it, rests, and looks again, until a look finds the child gone or the
clock has come to the deadline. `vigil` is what has been done before a look, and `Host.Looks` says which looks
are made: those before have found the child running, each at a time before the deadline. So the first look that
finds the child gone, or the clock at the deadline, decides whether the child is killed. Nothing is assumed of
the backend or of the clock, but that the clock comes to the deadline if the child goes on running.
-/

namespace Offspring

variable {W C : Type}

/-- Whether the child's end is asked for. -/
def Contact.isKill : Contact → Bool
  | .kill _ => true
  | _ => false

namespace Spawner

/-- Whether a call asks for the child's end. -/
def Call.asksEnd : Call → Bool
  | .kill | .wait .needKill => true
  | _ => false

section Steps

variable {b : Backend W C} {call : Call} {s s' : Spawner C} {reply : Reply} {made : List Contact}

/-- Only a call that is made for it asks for the child's end. -/
theorem Step.no_kill (h : Step b call s reply made s') (hcall : call.asksEnd = false) :
    made.countP Contact.isKill = 0 := by
  cases h with
  | kill => simp [Call.asksEnd] at hcall
  | observe policy =>
    cases policy with
    | needKill => simp [Call.asksEnd] at hcall
    | noHang | infinite => rfl
  | settle | late | launch | refuse | used | poll | childless | mark | view => rfl

/-- A killing wait asks a running child for its end, once. -/
theorem Step.one_kill (h : Step b (.wait .needKill) s reply made s') (hs : s.state = .spawned) :
    made.countP Contact.isKill = 1 := by
  cases h with
  | observe => rfl
  | childless _ _ hgone => exact absurd hs hgone

/-- A call that is not the caller's mark leaves the caller's flag. -/
theorem Step.leaves_flag (h : Step b call s reply made s') (hcall : call ≠ .markSignaled) :
    s'.signaled = s.signaled := by
  rw [h.signaled_eq, decide_eq_false hcall, Bool.or_false]

end Steps

end Spawner

namespace Run

open Spawner (Call Scene)

/-- What watching a child consists of. -/
inductive Deed where
  | call (call : Call)
  /-- The rest between two looks. -/
  | rest

/-- What is done before a look: a look and a rest for each of those before. -/
def vigil : Nat → List Deed
  | 0 => []
  | n + 1 => .call (.wait .noHang) :: .rest :: vigil n

/-- What is done to a child whose time is over. -/
def killing : List Deed :=
  [.call .markSignaled, .call (.wait .needKill)]

/-- What is done to a child with a time limit: looks at it, and its end if its time is over. -/
def oversight (n : Nat) (timedOut : Bool) : List Deed :=
  vigil n ++ .call (.wait .noHang) :: if timedOut then killing else []

/-- Whether a deed neither asks for the child's end nor marks it as signaled. -/
def Deed.isHarmless : Deed → Bool
  | .call asked => !asked.asksEnd && asked ≠ .markSignaled
  | .rest => true

namespace Host

section Doing

variable (h : Host W C)

/-- Does one deed. -/
def act (x : Scene W C) : Deed → Scene W C
  | .call call => (x.perform h.backend call).2
  | .rest => { x with world := h.rest pollInterval x.world }

/-- Does one deed after the other. -/
def acts (x : Scene W C) (deeds : List Deed) : Scene W C :=
  deeds.foldl h.act x

/-- The contacts that a deed leads to. -/
def madeBy (x : Scene W C) : Deed → List Contact
  | .call call => x.contacts h.backend [call]
  | .rest => []

/-- The contacts that deeds lead to. -/
def made (x : Scene W C) : List Deed → List Contact
  | [] => []
  | deed :: deeds => h.madeBy x deed ++ made (h.act x deed) deeds

@[simp] theorem acts_nil (x : Scene W C) : h.acts x [] = x := rfl

@[simp] theorem acts_cons (x : Scene W C) (deed : Deed) (deeds : List Deed) :
    h.acts x (deed :: deeds) = h.acts (h.act x deed) deeds := rfl

theorem acts_append (x : Scene W C) (deeds later : List Deed) :
    h.acts x (deeds ++ later) = h.acts (h.acts x deeds) later :=
  List.foldl_append

theorem made_append (x : Scene W C) (deeds later : List Deed) :
    h.made x (deeds ++ later) = h.made x deeds ++ h.made (h.acts x deeds) later := by
  induction deeds generalizing x with
  | nil => rfl
  | cons deed deeds ih => simp only [List.cons_append, made, acts_cons, ih, List.append_assoc]

/-- Deeds on the host that writes down its contacts add those they lead to. -/
theorem acts_recorded (x : Scene W C) (log : List Contact) (deeds : List Deed) :
    h.recorded.acts (x.recording log) deeds = (h.acts x deeds).recording (log ++ h.made x deeds) := by
  induction deeds generalizing x log with
  | nil => simp [made]
  | cons deed deeds ih =>
    have hone : h.recorded.act (x.recording log) deed = (h.act x deed).recording (log ++ h.madeBy x deed) := by
      cases deed with
      | call call => exact congrArg Prod.snd (Scene.perform_recording h.backend x log call)
      | rest => simp only [madeBy, List.append_nil]; rfl
    rw [acts_cons, hone, ih, acts_cons, made, List.append_assoc]

/-- A deed leaves a child exactly in the spawned state. -/
theorem coherent_act (x : Scene W C) (deed : Deed) (hx : x.spawner.Coherent) :
    (h.act x deed).spawner.Coherent := by
  cases deed with
  | call call => exact (Spawner.step_perform h.backend x call hx).coherent hx
  | rest => exact hx

/-- Deeds leave a child exactly in the spawned state. -/
theorem coherent_acts (x : Scene W C) (deeds : List Deed) (hx : x.spawner.Coherent) :
    (h.acts x deeds).spawner.Coherent := by
  induction deeds generalizing x with
  | nil => exact hx
  | cons deed deeds ih => exact ih _ (h.coherent_act x deed hx)

/-- Harmless deeds do not ask for the child's end, and leave the caller's flag. -/
theorem harmless_acts (x : Scene W C) (deeds : List Deed) (hx : x.spawner.Coherent)
    (hdeeds : ∀ deed ∈ deeds, deed.isHarmless) :
    (h.made x deeds).countP Contact.isKill = 0 ∧
      (h.acts x deeds).spawner.signaled = x.spawner.signaled := by
  induction deeds generalizing x with
  | nil => exact ⟨rfl, rfl⟩
  | cons deed deeds ih =>
    obtain ⟨hkills, hflag⟩ :=
      ih (h.act x deed) (h.coherent_act x deed hx) fun later hlater => hdeeds later (.tail _ hlater)
    have hfirst := hdeeds deed (.head _)
    rw [made, List.countP_append, hkills, acts_cons, hflag]
    cases deed with
    | call call =>
      simp only [Deed.isHarmless, Bool.and_eq_true, Bool.not_eq_true', decide_eq_true_eq] at hfirst
      have hstep := Spawner.step_perform h.backend x call hx
      exact ⟨hstep.no_kill hfirst.1, hstep.leaves_flag hfirst.2⟩
    | rest => exact ⟨rfl, rfl⟩

/-- Looking and resting are harmless. -/
theorem isHarmless_of_vigil (n : Nat) : ∀ deed ∈ vigil n, deed.isHarmless := by
  induction n with
  | zero => simp [vigil]
  | succ n ih =>
    intro deed hdeed
    simp only [vigil, List.mem_cons] at hdeed
    obtain rfl | rfl | hlater := hdeed
    · rfl
    · rfl
    · exact ih deed hlater

end Doing

section Looking

variable (h : Host W C) (deadline : Nat) (x : Scene W C)

/-- The answer to a look after so many others, and what it leaves. -/
def look (n : Nat) : Spawner.Reply × Scene W C :=
  (h.acts x (vigil n)).perform h.backend (.wait .noHang)

/-- The look finds the child running. -/
def FindsRunning (n : Nat) : Prop :=
  (h.look x n).1 = .flag true

/-- What the clock reads right after the look. -/
def reading (n : Nat) : Nat :=
  h.now (h.look x n).2.world

/-- The look is made: each one before has found the child running, before the deadline. -/
def Looks (n : Nat) : Prop :=
  ∀ m < n, h.FindsRunning x m ∧ h.reading x m < deadline

/-- The child is found running after its time. -/
def Overdue (n : Nat) : Prop :=
  h.Looks deadline x n ∧ h.FindsRunning x n ∧ deadline ≤ h.reading x n

/-- The clock comes to the deadline if the child goes on running, and does so among the looks that the host
has for it. -/
def Suffices : Prop :=
  (∀ n < h.looks deadline x.world, h.FindsRunning x n) →
    ∃ n < h.looks deadline x.world, deadline ≤ h.reading x n

/-- Oversight ends with a look, and with the child's end if its time is over. -/
theorem acts_oversight (n : Nat) (timedOut : Bool) :
    h.acts x (oversight n timedOut) = h.acts (h.look x n).2 (if timedOut then killing else []) :=
  h.acts_append x (vigil n) _

variable {h deadline x}

/-- The look that finds the child gone is the last one, so the child is not overdue. -/
theorem Looks.not_overdue {n : Nat} (hn : h.Looks deadline x n) (hgone : ¬h.FindsRunning x n) (m : Nat) :
    ¬h.Overdue deadline x m := by
  rintro ⟨hm, hrunning, hlate⟩
  rcases Nat.lt_trichotomy m n with hlt | rfl | hgt
  · exact absurd (hn m hlt).2 (Nat.not_lt.mpr hlate)
  · exact hgone hrunning
  · exact hgone (hm n hgt).1

/-- A child that is overdue was there at the first look. -/
theorem Overdue.found_first {n : Nat} (hn : h.Overdue deadline x n) : h.FindsRunning x 0 := by
  obtain ⟨hlooks, hrunning, -⟩ := hn
  cases n with
  | zero => exact hrunning
  | succ n => exact (hlooks 0 n.succ_pos).1

variable (h deadline x)

/-- Looks on the host that writes down its contacts are those of the host. -/
theorem look_recorded (log : List Contact) (n : Nat) :
    ∃ later, h.recorded.look (x.recording log) n = ((h.look x n).1, (h.look x n).2.recording later) := by
  rw [look, acts_recorded]
  exact ⟨_, Scene.perform_recording h.backend _ _ _⟩

theorem findsRunning_recorded (log : List Contact) (n : Nat) :
    h.recorded.FindsRunning (x.recording log) n ↔ h.FindsRunning x n := by
  obtain ⟨later, hlook⟩ := h.look_recorded x log n
  rw [FindsRunning, hlook, FindsRunning]

theorem reading_recorded (log : List Contact) (n : Nat) :
    h.recorded.reading (x.recording log) n = h.reading x n := by
  obtain ⟨later, hlook⟩ := h.look_recorded x log n
  rw [reading, hlook, reading]
  rfl

theorem looks_recorded (log : List Contact) (n : Nat) :
    h.recorded.Looks deadline (x.recording log) n ↔ h.Looks deadline x n := by
  simp only [Looks, findsRunning_recorded, reading_recorded]

theorem overdue_recorded (log : List Contact) (n : Nat) :
    h.recorded.Overdue deadline (x.recording log) n ↔ h.Overdue deadline x n := by
  simp only [Overdue, looks_recorded, findsRunning_recorded, reading_recorded]

theorem suffices_recorded (log : List Contact) :
    h.recorded.Suffices deadline (x.recording log) ↔ h.Suffices deadline x := by
  simp only [Suffices, findsRunning_recorded, reading_recorded]
  rfl

/-- A look goes one of the ways of a call. -/
theorem step_look (n : Nat) (hx : x.spawner.Coherent) :
    Spawner.Step h.backend (.wait .noHang) (h.acts x (vigil n)).spawner (h.look x n).1
      (h.madeBy (h.acts x (vigil n)) (.call (.wait .noHang))) (h.look x n).2.spawner :=
  Spawner.step_perform h.backend _ _ (h.coherent_acts x (vigil n) hx)

/-- A look leaves a child exactly in the spawned state. -/
theorem coherent_look (n : Nat) (hx : x.spawner.Coherent) : (h.look x n).2.spawner.Coherent :=
  (h.step_look x n hx).coherent (h.coherent_acts x (vigil n) hx)

/-- A look finds the child running if it is out after it. -/
theorem findsRunning_iff (n : Nat) (hx : x.spawner.Coherent) :
    h.FindsRunning x n ↔ (h.look x n).2.spawner.state = .spawned := by
  rw [FindsRunning, (h.step_look x n hx).wait_reply.1, Spawner.Reply.flag.injEq, decide_eq_true_iff]

/-- Looks leave the caller's flag. -/
theorem look_signaled (n : Nat) (hx : x.spawner.Coherent) :
    (h.look x n).2.spawner.signaled = x.spawner.signaled :=
  ((h.step_look x n hx).leaves_flag (by decide)).trans
    (h.harmless_acts x (vigil n) hx (isHarmless_of_vigil n)).2

/-- Only after the last look the child is asked for its end. -/
theorem kills_oversight (n : Nat) (timedOut : Bool) (hx : x.spawner.Coherent) :
    (h.made x (oversight n timedOut)).countP Contact.isKill =
      (h.made (h.look x n).2 (if timedOut then killing else [])).countP Contact.isKill := by
  rw [oversight, made_append, List.countP_append, made, List.countP_append,
    (h.harmless_acts x (vigil n) hx (isHarmless_of_vigil n)).1, (h.step_look x n hx).no_kill rfl,
    Nat.zero_add, Nat.zero_add]
  rfl

end Looking

/-- A host whose rests take their time, whose clock is not turned back by a look, and which has a look for each
rest until the deadline and one more, has looks enough. -/
theorem suffices_of_rests (h : Host W C) (deadline : Nat) (x : Scene W C)
    (hlook : ∀ y : Scene W C, h.now y.world ≤ h.now (y.perform h.backend (.wait .noHang)).2.world)
    (hrest : ∀ w, h.now w + pollInterval ≤ h.now (h.rest pollInterval w))
    (hmany : (deadline - h.now x.world) / pollInterval + 1 < h.looks deadline x.world) :
    h.Suffices deadline x := by
  have hvigil : ∀ n (y : Scene W C),
      h.now y.world + n * pollInterval ≤ h.now (h.acts y (vigil n)).world := by
    intro n
    induction n with
    | zero => intro y; simp [vigil]
    | succ n ih =>
      intro y
      have hfirst := hlook y
      have hthen := hrest (y.perform h.backend (.wait .noHang)).2.world
      have hlater := ih (h.act (h.act y (.call (.wait .noHang))) .rest)
      simp only [vigil, acts_cons]
      simp only [act] at hlater ⊢
      have hmul : (n + 1) * pollInterval = n * pollInterval + pollInterval := Nat.succ_mul n pollInterval
      omega
  intro _
  refine ⟨_, hmany, ?_⟩
  have hbefore := hvigil ((deadline - h.now x.world) / pollInterval + 1) x
  have hlast := hlook (h.acts x (vigil ((deadline - h.now x.world) / pollInterval + 1)))
  have hdivide : deadline - h.now x.world <
      ((deadline - h.now x.world) / pollInterval + 1) * pollInterval := by
    have hpositive : 0 < pollInterval := by decide
    exact Nat.lt_mul_of_div_lt (Nat.lt_succ_self _) hpositive
  rw [reading, look]
  omega

end Host

section Watching

variable (h : Host W C)

/-- What watching has come to after some looks, the last of which finds the child gone or overdue. -/
structure Decided (deadline : Nat) (x : Scene W C) (n : Nat) (answer : Bool × Spawner C × W) : Prop where
  looks : h.Looks deadline x n
  timedOut : answer.1 = true → h.Overdue deadline x n
  gone : answer.1 = false → ¬h.FindsRunning x n
  done : answer.2 =
    let y := h.acts x (oversight n answer.1)
    (y.spawner, y.world)

/-- Killing is marking the child and a killing wait. -/
theorem killOverdue_eq (x : Scene W C) :
    killOverdue h x.spawner x.world = ((h.acts x killing).spawner, (h.acts x killing).world) := rfl

/-- A look that finds the child running before its time leads on to the next one. -/
theorem Decided.after {deadline n : Nat} {x : Scene W C} {answer : Bool × Spawner C × W}
    (hrunning : h.FindsRunning x 0) (hearly : h.reading x 0 < deadline)
    (hd : Decided h deadline (h.acts x (vigil 1)) n answer) : Decided h deadline x (n + 1) answer := by
  have hlooks : h.Looks deadline x (n + 1) := by
    intro m hm
    cases m with
    | zero => exact ⟨hrunning, hearly⟩
    | succ m => exact hd.looks m (Nat.lt_of_succ_lt_succ hm)
  exact ⟨hlooks, fun htimedOut => ⟨hlooks, (hd.timedOut htimedOut).2⟩, hd.gone, hd.done⟩

/-- If the looks are enough, one of them decides.

The induction is on the number of looks that are left: a look that decides nothing leaves a scene from which
one look less is enough. -/
theorem waitUntil_decided (deadline looks : Nat) (x : Scene W C)
    (hclock : (∀ n < looks, h.FindsRunning x n) → ∃ n < looks, deadline ≤ h.reading x n) :
    ∃ n, Decided h deadline x n (waitUntil h deadline looks x.spawner x.world) := by
  induction looks generalizing x with
  | zero =>
    obtain ⟨n, hn, -⟩ := hclock fun n hn => absurd hn n.not_lt_zero
    exact absurd hn n.not_lt_zero
  | succ looks ih =>
    have hfirst : h.Looks deadline x 0 := fun m hm => absurd hm m.not_lt_zero
    rcases hlook : x.spawner.wait h.backend .noHang x.world with ⟨isRunning, s, w⟩
    have hperform : h.look x 0 = (.flag isRunning, ⟨s, w⟩) := by
      simp only [Host.look, vigil, Host.acts_nil, Scene.perform, hlook]
    have hscene : h.act x (.call (.wait .noHang)) = ⟨s, w⟩ := congrArg Prod.snd hperform
    have hreading : h.reading x 0 = h.now w := by rw [Host.reading, hperform]
    have hrunning : h.FindsRunning x 0 ↔ isRunning = true := by
      rw [Host.FindsRunning, hperform, Spawner.Reply.flag.injEq]
    simp only [waitUntil, hlook]
    cases isRunning with
    | false =>
      have hgone : ¬h.FindsRunning x 0 := fun hfound => Bool.false_ne_true (hrunning.mp hfound)
      refine ⟨0, hfirst, fun htrue => absurd htrue Bool.false_ne_true, fun _ => hgone, ?_⟩
      simp [Host.acts_oversight, hperform]
    | true =>
      have hfound : h.FindsRunning x 0 := hrunning.mpr rfl
      by_cases hlate : deadline ≤ h.now w
      · simp only [Bool.not_true, Bool.false_eq_true, if_false, hlate, if_true]
        refine ⟨0, hfirst, fun _ => ⟨hfirst, hfound, hreading ▸ hlate⟩,
          fun hfalse => absurd hfalse.symm Bool.false_ne_true, ?_⟩
        simp [Host.acts_oversight, hperform, killOverdue_eq h ⟨s, w⟩]
      · simp only [Bool.not_true, Bool.false_eq_true, if_false, hlate]
        have hearly : h.reading x 0 < deadline := by omega
        have hnext : h.acts x (vigil 1) = ⟨s, h.rest pollInterval w⟩ := by
          simp only [vigil, Host.acts_cons, Host.acts_nil, hscene]
          rfl
        obtain ⟨n, hn⟩ := ih (h.acts x (vigil 1)) fun hall => by
          obtain ⟨n, hn, hreached⟩ := hclock fun n hn => by
            cases n with
            | zero => exact hfound
            | succ n => exact hall n (Nat.lt_of_succ_lt_succ hn)
          cases n with
          | zero => omega
          | succ n => exact ⟨n, Nat.lt_of_succ_lt_succ hn, hreached⟩
        rw [hnext] at hn
        exact ⟨n + 1, .after h hfound hearly (by rw [hnext]; exact hn)⟩

/-- Killing asks a running child for its end once, and marks it; then it is gone. -/
theorem killed (x : Scene W C) (hx : x.spawner.Coherent) (hout : x.spawner.state = .spawned) :
    let y := h.acts x killing
    y.spawner.state ≠ .spawned ∧ y.spawner.signaled = true ∧
      (h.made x killing).countP Contact.isKill = 1 := by
  intro y
  let marked : Scene W C := { x with spawner := x.spawner.markSignaled }
  have hstep : Spawner.Step h.backend (.wait .needKill) marked.spawner _ _ y.spawner :=
    Spawner.step_perform h.backend marked (.wait .needKill) hx
  have hgone : (Spawner.Reply.flag (decide (y.spawner.state = .spawned))) = .flag false :=
    hstep.wait_reply.1.symm.trans (hstep.wait_reply.2 (by decide))
  refine ⟨of_decide_eq_false (Spawner.Reply.flag.inj hgone), hstep.leaves_flag (by decide), ?_⟩
  simp only [killing, Host.made, Host.madeBy, List.append_nil]
  exact hstep.one_kill hout

section Outcome

variable {h} {deadline n : Nat} {x : Scene W C} {answer : Bool × Spawner C × W}

/-- A child has timed out exactly if some look finds it overdue. -/
theorem Decided.timedOut_iff (hd : Decided h deadline x n answer) :
    answer.1 = true ↔ ∃ m, h.Overdue deadline x m := by
  constructor
  · intro htrue
    exact ⟨n, hd.timedOut htrue⟩
  · rintro ⟨m, hm⟩
    exact eq_true_of_ne_false fun hfalse => hd.looks.not_overdue (hd.gone hfalse) m hm

/-- Once it is decided, the child is gone; it has been marked and asked for its end if its time was over. -/
theorem Decided.over (hd : Decided h deadline x n answer) (hx : x.spawner.Coherent) :
    answer.2.1.state ≠ .spawned ∧ answer.2.1.signaled = (x.spawner.signaled || answer.1) ∧
      (h.made x (oversight n answer.1)).countP Contact.isKill = if answer.1 then 1 else 0 := by
  obtain ⟨timedOut, s, w⟩ := answer
  have hdone := hd.done
  cases timedOut with
  | false =>
    obtain ⟨rfl, rfl⟩ : s = (h.look x n).2.spawner ∧ w = (h.look x n).2.world := by
      simpa [Host.acts_oversight] using hdone
    refine ⟨fun hout => hd.gone rfl ((Host.findsRunning_iff h x n hx).mpr hout), ?_, ?_⟩
    · rw [h.look_signaled x n hx, Bool.or_false]
    · rw [h.kills_oversight x n false hx]
      rfl
  | true =>
    obtain ⟨rfl, rfl⟩ : s = (h.acts (h.look x n).2 killing).spawner ∧
        w = (h.acts (h.look x n).2 killing).world := by
      simpa [Host.acts_oversight] using hdone
    have hout := (Host.findsRunning_iff h x n hx).mp (hd.timedOut rfl).2.1
    obtain ⟨hgone, hmarked, hkill⟩ := killed h (h.look x n).2 (h.coherent_look x n hx) hout
    refine ⟨hgone, ?_, ?_⟩
    · rw [hmarked, Bool.or_true]
    · rw [h.kills_oversight x n true hx]
      exact hkill

/-- What is decided on the host that writes down its contacts is decided on the host, with those contacts. -/
theorem Decided.unrecorded {answer : Bool × Spawner C × Recorded W}
    (hd : Decided h.recorded deadline (x.recording []) n answer) :
    Decided h deadline x n (answer.map id (Prod.map id Recorded.world)) ∧
      answer.2.2.contacts = h.made x (oversight n answer.1) := by
  obtain ⟨timedOut, s, r⟩ := answer
  have hdone := hd.done
  rw [Host.acts_recorded] at hdone
  obtain ⟨rfl, rfl⟩ : s = (h.acts x (oversight n timedOut)).spawner ∧
      r = ⟨(h.acts x (oversight n timedOut)).world, h.made x (oversight n timedOut)⟩ := Prod.mk.inj hdone
  have hlooks := (h.looks_recorded deadline x [] n).mp hd.looks
  refine ⟨⟨hlooks, fun htrue => ?_, fun hfalse hrunning => ?_, rfl⟩, rfl⟩
  · exact (h.overdue_recorded deadline x [] n).mp (hd.timedOut htrue)
  · exact hd.gone hfalse ((h.findsRunning_recorded x [] n).mpr hrunning)

end Outcome

/-- What is done to a child that is waited for. -/
def deedsOf (timeout : Option Nat) (n : Nat) (timedOut : Bool) : List Deed :=
  match timeout with
  | none => [.call (.wait .infinite)]
  | some _ => oversight n timedOut

/-- Waiting for a child without a time limit is one wait, after which the child is gone. -/
theorem waitWithTimeout_none (x : Scene W C) (hx : x.spawner.Coherent) :
    let y := h.acts x (deedsOf none 0 false)
    waitWithTimeout h.recorded none x.spawner ⟨x.world, []⟩ =
        (false, y.spawner, ⟨y.world, h.made x (deedsOf none 0 false)⟩) ∧
      y.spawner.state ≠ .spawned ∧ y.spawner.signaled = x.spawner.signaled ∧
      (h.made x (deedsOf none 0 false)).countP Contact.isKill = 0 := by
  intro y
  have hstep : Spawner.Step h.backend (.wait .infinite) x.spawner _ _ y.spawner :=
    Spawner.step_perform h.backend x (.wait .infinite) hx
  have hgone : (Spawner.Reply.flag (decide (y.spawner.state = .spawned))) = .flag false :=
    hstep.wait_reply.1.symm.trans (hstep.wait_reply.2 (by decide))
  have hrecord : h.recorded.acts (x.recording []) (deedsOf none 0 false) =
      y.recording ([] ++ h.made x (deedsOf none 0 false)) := h.acts_recorded x [] _
  refine ⟨?_, of_decide_eq_false (Spawner.Reply.flag.inj hgone), hstep.leaves_flag (by decide), ?_⟩
  · exact congrArg (fun z : Scene (Recorded W) C => (false, z.spawner, z.world)) hrecord
  · simp only [deedsOf, Host.made, Host.madeBy, List.append_nil]
    exact hstep.no_kill rfl

/-- Waiting for a child with a time limit is oversight, which its looks decide. -/
theorem waitWithTimeout_some (time : Nat) (x : Scene W C) (hclock : h.Suffices (h.now x.world + time) x) :
    let answer := waitWithTimeout h (some time) x.spawner x.world
    ∃ n, Decided h (h.now x.world + time) x n answer ∧
      (waitWithTimeout h.recorded (some time) x.spawner ⟨x.world, []⟩).2.2.contacts =
        h.made x (oversight n answer.1) := by
  intro answer
  have hanswer : answer = (waitWithTimeout h.recorded (some time) x.spawner ⟨x.world, []⟩).map id
      (Prod.map id Recorded.world) := waitWithTimeout_world h (some time) x.spawner ⟨x.world, []⟩
  obtain ⟨n, hn⟩ := waitUntil_decided h.recorded _ _ (x.recording [])
    ((h.suffices_recorded (h.now x.world + time) x []).mpr hclock)
  obtain ⟨hd, hcontacts⟩ := hn.unrecorded
  rw [hanswer]
  exact ⟨n, hd, hcontacts⟩

/-- A spawner that is not in the spawned state has no child. -/
theorem childless_of_ne_spawned {s : Spawner C} (hs : s.Coherent) (hgone : s.state ≠ .spawned) :
    s.isRunning = false ∧ s.child = none := by
  refine ⟨?_, Option.not_isSome_iff_eq_none.mp fun hchild => hgone (hs.mp hchild)⟩
  unfold Spawner.isRunning Lifecycle.isRunning
  split
  · contradiction
  · rfl

/-- Waiting with a time limit kills the child whose time is over, and no other one.

It ends with the child gone. The child has timed out exactly if a look, all looks before it having found it
running before the deadline, found it running at a clock reading past the deadline; so a child that is gone at
the first look has not timed out. What is done is looks and rests, and, exactly if the child has timed out, the
mark and then a killing wait; the flag of the caller and the contacts of the backend say the same. A spawner
whose child is not out is no exception: its first look finds no child. -/
theorem waitWithTimeout_kills_overdue (timeout : Option Nat) (x : Scene W C) (hx : x.spawner.Coherent)
    (hclock : ∀ time, timeout = some time → h.Suffices (h.now x.world + time) x) :
    let answer := waitWithTimeout h timeout x.spawner x.world
    let contacts := (waitWithTimeout h.recorded timeout x.spawner ⟨x.world, []⟩).2.2.contacts
    (answer.2.1.isRunning = false ∧ answer.2.1.child = none) ∧
      (answer.1 = true ↔ ∃ time n, timeout = some time ∧ h.Overdue (h.now x.world + time) x n) ∧
      (¬h.FindsRunning x 0 → answer.1 = false) ∧
      (∃ n, (∀ time, timeout = some time → h.Looks (h.now x.world + time) x n) ∧
        let y := h.acts x (deedsOf timeout n answer.1)
        answer.2 = (y.spawner, y.world) ∧ contacts = h.made x (deedsOf timeout n answer.1)) ∧
      answer.2.1.signaled = (x.spawner.signaled || answer.1) ∧
      contacts.countP Contact.isKill = if answer.1 then 1 else 0 := by
  cases timeout with
  | none =>
    obtain ⟨hrecord, hgone, hflag, hkills⟩ := waitWithTimeout_none h x hx
    have hcoherent := h.coherent_acts x (deedsOf none 0 false) hx
    simp only [waitWithTimeout_world h none x.spawner ⟨x.world, []⟩, hrecord, Prod.map, id]
    refine ⟨childless_of_ne_spawned hcoherent hgone, ?_, fun _ => trivial, ⟨0, ?_, rfl, rfl⟩, ?_, hkills⟩
    · simp
    · simp
    · rw [hflag, Bool.or_false]
  | some time =>
    obtain ⟨n, hd, hcontacts⟩ := waitWithTimeout_some h time x (hclock time rfl)
    simp only [hcontacts]
    generalize waitWithTimeout h (some time) x.spawner x.world = answer at hd
    obtain ⟨hgone, hflag, hkills⟩ := hd.over hx
    have hcoherent : answer.2.1.Coherent := by
      rw [hd.done]
      exact h.coherent_acts x (oversight n answer.1) hx
    refine ⟨childless_of_ne_spawned hcoherent hgone, ?_, fun hfirst => ?_, ⟨n, ?_, hd.done, rfl⟩, hflag,
      hkills⟩
    · simpa using hd.timedOut_iff
    · rw [← Bool.not_eq_true, hd.timedOut_iff]
      rintro ⟨m, hm⟩
      exact hfirst hm.found_first
    · rintro _ ⟨⟩
      exact hd.looks

end Watching

/-- A scene in which the child of a script is out. -/
def launchedScene (script : Scripted.Script) : Scene Scripted.Calls Scripted.Child :=
  ⟨{ pid := script.pid, child := some ⟨script.polls, false⟩, state := .spawned }, {}⟩

/-- A child that outlives its time limit is killed at the first look; one that is gone by then is not, even if
it was given no time at all. -/
theorem scripted_kills_overdue :
    (waitWithTimeout (scriptedHost { polls := 5 }) (some 1000000) (launchedScene { polls := 5 }).spawner {}).1 =
        true ∧
      (waitWithTimeout (scriptedHost {}) (some 0) (launchedScene {}).spawner {}).1 = false := by
  have houtlives : (scriptedHost { polls := 5 }).FindsRunning (launchedScene { polls := 5 }) 0 := rfl
  have hreaches : 1000000 ≤ (scriptedHost { polls := 5 }).reading (launchedScene { polls := 5 }) 0 := by decide
  have hgone : ¬(scriptedHost {}).FindsRunning (launchedScene {}) 0 := fun hfound => by
    cases hfound
  constructor
  · obtain ⟨-, hiff, -⟩ := waitWithTimeout_kills_overdue (scriptedHost { polls := 5 }) (some 1000000)
      (launchedScene { polls := 5 }) (by simp [Spawner.Coherent, launchedScene])
      (by rintro _ ⟨⟩ _; exact ⟨0, by decide, hreaches⟩)
    exact hiff.mpr ⟨1000000, 0, rfl, fun m hm => absurd hm m.not_lt_zero, houtlives, hreaches⟩
  · obtain ⟨-, -, hfirst, -⟩ := waitWithTimeout_kills_overdue (scriptedHost {}) (some 0) (launchedScene {})
      (by simp [Spawner.Coherent, launchedScene])
      (by rintro _ ⟨⟩ hall; exact absurd (hall 0 (by decide)) hgone)
    exact hfirst hgone

end Run

end Offspring
