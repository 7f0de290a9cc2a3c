import Offspring.Proofs.Posix.Handshake

/-!
# Parent and child agree

Every move keeps a handshake sound and brings it closer to its end (`Sound.move`), and until the parent returns one
of the two can move (`Sound.can_move`). So the parent always returns, and what it returns is what the child's steps
have come to (`Sound.tells`).

The standard descriptors have to be open in the parent; otherwise a child's copy can fall on the report's pipe.
-/

namespace Offspring.Posix

namespace Fork

variable {W : Type} {k : Kernel W} {spec : LaunchSpec} {options : LaunchOptions} {w : W}
  {f : Fork k spec options w} {view : W → System} {serial : Nat} {input output error : List (Fd × OpenFile)}

/-! ### Calls of the child -/

section Child

variable (os : Conforms k view) (a : f.Account view input output error serial)
  (hstd : ∀ fd < 3, (view w).table .self fd ≠ none) {done : List ChildStep} {step : ChildStep} {e : Errno}
  {parent : ParentStage} {world : W}
include a

/-- When the child reports, nothing is in the pipe, and the parent has its end of it. -/
theorem Live.reporting_pipe (h : f.Live view serial ⟨.reporting done step e, parent, world⟩) :
    (view world).held serial = .empty ∧ (view world).table .self f.reader = some ⟨.pipeReader serial, true⟩ := by
  have hparent := h.parent
  cases parent with
  | closing left =>
    obtain ⟨hself, hheld⟩ := hparent
    have hkept := a.reader_kept
    rw [← hself, Table.closing_eq_some] at hkept
    exact ⟨hheld, hkept.2⟩
  | reading octets =>
    obtain ⟨hself, hheld⟩ := hparent
    have hsize := congrArg ByteArray.size hheld
    rw [ByteArray.size_append] at hsize
    have hempty : (view world).held serial = .empty :=
      ByteArray.size_eq_zero_iff.mp (Nat.eq_zero_of_add_eq_zero_left hsize)
    exact ⟨hempty, by rw [hself]; exact a.reader_kept⟩
  | learned | reaping | returned => exact hparent.elim

include os hstd

/-- The child does a step, or fails to. -/
theorem Live.child_steps {rest : List ChildStep}
    (h : f.Live view serial ⟨.stepping done (step :: rest), parent, world⟩) :
    f.Nears view serial ⟨.stepping done (step :: rest), parent, world⟩
      (f.move ⟨.stepping done (step :: rest), parent, world⟩ .child) := by
  obtain ⟨hsteps, htable, hlife⟩ := h.child
  have hnext : done ++ [step] ++ rest = f.plan.childSteps := by rw [← hsteps, List.append_assoc]; rfl
  have hanswer := perform_answers os f.plan f.child step world
  rcases hperform : f.plan.perform k f.child step world with ⟨e | _, w'⟩ <;> rw [hperform] at hanswer
  · obtain ⟨hsame, hfewer, hword, -⟩ := hanswer
    have hmove : f.move ⟨.stepping done (step :: rest), parent, world⟩ .child =
        ⟨.reporting done step e, parent, w'⟩ := by simp only [move, childMove, hperform]
    have hmem : step ∈ f.plan.childSteps := by simp [← hnext]
    have hbroke : f.Broke done step e := ⟨⟨rest, hnext⟩, hword, fun fd target hstream =>
      (perform_failed os f.plan f.child hperform).2 fd target hstream
        (Nat.ne_of_gt (a.copies_down hstd (hstream ▸ hmem)))⟩
    have hlive : f.Live view serial ⟨.reporting done step e, parent, w'⟩ := by
      refine ⟨?_, h.parent.of_child ?_ ?_ rfl fun _ hnone => hnone.elim, ?_, ?_⟩ <;> simp only [hsame]
      · exact ⟨hbroke, htable, hlife⟩
      · exact h.others
      · exact h.lives
    rw [hmove]
    exact h.nears hlive (by simp [ChildStage.movesLeft]) hfewer
  · obtain ⟨hchanged, hfewer⟩ := hanswer
    rw [System.Changes] at hchanged
    have hmove : f.move ⟨.stepping done (step :: rest), parent, world⟩ .child =
        ⟨.stepping (done ++ [step]) rest, parent, w'⟩ := by simp only [move, childMove, hperform]
    have hlive : f.Live view serial ⟨.stepping (done ++ [step]) rest, parent, w'⟩ := by
      refine ⟨⟨hnext, ?_, ?_⟩, h.parent.of_child ?_ ?_ rfl fun _ hnone => hnone.elim, fun pid hpid => ?_, ?_⟩ <;>
        simp only [hchanged]
      · rw [System.table_withTable_same, htable, Table.through_append]
        rfl
      · exact hlife
      · exact System.table_self_withTable_child ..
      · exact System.held_withTable ..
      · rw [System.table_child_withTable_other _ _ _ hpid]
        exact h.others pid hpid
      · exact h.lives
    rw [hmove]
    exact h.nears hlive (by simp [ChildStage.movesLeft]) hfewer

/-- The child reports its failure: all octets are in the pipe. -/
theorem Live.child_reports (h : f.Live view serial ⟨.reporting done step e, parent, world⟩) :
    f.Nears view serial ⟨.reporting done step e, parent, world⟩
      (f.move ⟨.reporting done step e, parent, world⟩ .child) := by
  obtain ⟨hbroke, htable, hlife⟩ := h.child
  obtain ⟨hempty, hreader⟩ := h.reporting_pipe a
  obtain ⟨hwrote, hfewer⟩ := os.write f.child f.writer (ExecPlan.reportOctets e) world serial true
    (by rw [htable]; exact a.writer_through hstd hbroke.first) ⟨.self, f.reader, _, hreader, rfl⟩ hempty
    (by rw [size_reportOctets]; decide)
  rw [System.Wrote] at hwrote
  have hlive : f.Live view serial (f.move ⟨.reporting done step e, parent, world⟩ .child) := by
    refine ⟨?_, ?_, ?_, ?_⟩ <;> simp only [move, childMove, hwrote]
    · exact ⟨hbroke, hlife⟩
    · have hparent := h.parent
      cases parent with
      | closing left => exact ⟨hparent.1, System.held_withHeld_same ..⟩
      | reading octets =>
        obtain ⟨hself, hheld⟩ := hparent
        rw [hempty, ByteArray.append_empty] at hheld
        refine ⟨hself, ?_⟩
        rw [System.held_withHeld_same, hheld]
        exact ByteArray.empty_append
      | learned | reaping | returned => exact hparent.elim
    · exact h.others
    · exact h.lives
  exact h.nears hlive (Nat.add_lt_add_right (Nat.lt_succ_self _) _) hfewer

omit a hstd

/-- The child ends. -/
theorem Live.child_ends (h : f.Live view serial ⟨.exiting done step e, parent, world⟩) :
    f.Nears view serial ⟨.exiting done step e, parent, world⟩
      (f.move ⟨.exiting done step e, parent, world⟩ .child) := by
  obtain ⟨hended, hfewer⟩ := os.exit f.child execFailedExit world
  rw [System.Ended] at hended
  have hlive : f.Live view serial (f.move ⟨.exiting done step e, parent, world⟩ .child) := by
    refine ⟨⟨h.child.1, ?_, ?_⟩, h.parent.of_child ?_ ?_ rfl fun _ hreported => hreported, fun pid hpid => ?_,
      fun pid hpid => ?_⟩ <;> simp only [move, childMove, hended]
    · exact System.table_withTable_same ..
    · exact System.life_withLife_same ..
    · rfl
    · rfl
    · rw [System.table_withLife, System.table_child_withTable_other _ _ _ hpid]
      exact h.others pid hpid
    · rw [System.life_withLife_other _ _ _ hpid]
      exact h.lives pid hpid
  exact h.nears hlive (Nat.add_lt_add_right (Nat.lt_succ_self _) _) hfewer

end Child

/-! ### Calls of the parent -/

section Parent

variable (os : Conforms k view) (a : f.Account view input output error serial) {child : ChildStage} {world : W}

/-- A whole report tells what has failed. -/
theorem ChildSound.reported_of_full {s : System} (h : f.ChildSound view s child) {octets rest : ByteArray}
    (hsent : octets ++ rest = child.sent) (hfull : 4 ≤ octets.size) : child.Reported (.ofOctets octets) := by
  have hsize := congrArg ByteArray.size hsent
  rw [ByteArray.size_append] at hsize
  cases child with
  | stepping | reporting =>
    rw [ChildStage.sent, ByteArray.size_empty] at hsize
    omega
  | exiting done step e | ended done step e =>
    rw [ChildStage.sent, size_reportOctets] at hsize
    have hrest : rest = .empty := ByteArray.size_eq_zero_iff.mp (by omega)
    rw [hrest, ByteArray.append_empty] at hsent
    rw [hsent]
    exact ofOctets_reportOctets h.1.word

/-- The end of the pipe tells that the program runs: before, the child would still have its end, and behind a
failure the report would be whole. -/
theorem Live.reported_of_end (a : f.Account view input output error serial)
    (hstd : ∀ fd < 3, (view w).table .self fd ≠ none) {octets : ByteArray}
    (h : f.Live view serial ⟨child, .reading octets, world⟩) (hnone : (view world).held serial = .empty)
    (hwriter : ¬(view world).HasWriter serial) (hfull : ¬4 ≤ octets.size) :
    child.Reported (.ofOctets octets) := by
  have hsent : octets = child.sent := by
    have hheld := h.parent.2
    rwa [hnone, ByteArray.append_empty] at hheld
  have hfirst : ∀ {done step}, done ++ [step] <+: f.plan.childSteps →
      (view world).table (.child f.child) ≠ ((view f.piped).table .self).through done := by
    intro done step hfirst htable
    exact hwriter ⟨.child f.child, f.writer, _, by rw [htable]; exact a.writer_through hstd hfirst, rfl⟩
  cases child with
  | stepping done rest =>
    cases rest with
    | nil =>
      rw [hsent]
      rfl
    | cons step rest =>
      obtain ⟨hsteps, htable, -⟩ := h.child
      exact absurd htable (hfirst ⟨rest, by rw [← hsteps, List.append_assoc]; rfl⟩)
  | reporting done step e => exact absurd h.child.2.1 (hfirst h.child.1.first)
  | exiting | ended => exact absurd (by rw [hsent]; exact Nat.le_refl 4) hfull

/-- The parent closes a descriptor that only the child needs, or has closed them all. -/
theorem Live.parent_closes (os : Conforms k view) {left : List Fd}
    (h : f.Live view serial ⟨child, .closing left, world⟩) :
    f.Nears view serial ⟨child, .closing left, world⟩ (f.move ⟨child, .closing left, world⟩ .parent) := by
  obtain ⟨hself, hheld⟩ := h.parent
  cases left with
  | nil =>
    have hlive : f.Live view serial ⟨child, .reading .empty, world⟩ := by
      refine h.of_parent (fun _ => rfl) rfl ⟨?_, ?_⟩
      · rwa [Table.closing_nil] at hself
      · rw [ByteArray.empty_append]
        exact hheld
    have hless : (ParentStage.reading .empty).movesLeft < (ParentStage.closing []).movesLeft := by decide
    exact h.nears hlive (Nat.add_lt_add_left hless _) (Nat.le_refl _)
  | cons fd left =>
    obtain ⟨hclosed, hfewer⟩ := os.close fd world
    rw [System.Closed] at hclosed
    have hlive : f.Live view serial ⟨child, .closing left, k.close fd world⟩ := by
      refine h.of_parent (fun pid => ?_) ?_ ⟨?_, ?_⟩ <;> rw [hclosed]
      · exact System.table_child_withTable_self ..
      · exact System.life_withTable ..
      · rw [System.table_withTable_same, Table.closing_put_none]
        exact hself
      · exact hheld
    have hless : (ParentStage.closing left).movesLeft < (ParentStage.closing (fd :: left)).movesLeft :=
      Nat.add_lt_add_right (Nat.lt_succ_self _) 8
    exact h.nears hlive (Nat.add_lt_add_left hless _) hfewer

/-- The parent reads part of the report, or sees that it has all of it. -/
theorem Live.parent_reads (os : Conforms k view) (a : f.Account view input output error serial)
    (hstd : ∀ fd < 3, (view w).table .self fd ≠ none) {octets : ByteArray}
    (h : f.Live view serial ⟨child, .reading octets, world⟩)
    (hcan : f.CanMove view ⟨child, .reading octets, world⟩ .parent) :
    f.Nears view serial ⟨child, .reading octets, world⟩ (f.move ⟨child, .reading octets, world⟩ .parent) := by
  obtain ⟨hself, hheld⟩ := h.parent
  have hlearned : ∀ report, (ParentStage.learned report).movesLeft < (ParentStage.reading octets).movesLeft :=
    fun _ => Nat.lt_of_lt_of_le (Nat.lt_succ_self 2) (Nat.le_add_left 3 _)
  by_cases hfull : 4 ≤ octets.size
  · have hmove : f.move ⟨child, .reading octets, world⟩ .parent = ⟨child, .learned (.ofOctets octets), world⟩ := by
      simp only [move, parentMove, if_pos hfull]
    have hlive : f.Live view serial ⟨child, .learned (.ofOctets octets), world⟩ :=
      h.of_parent (fun _ => rfl) rfl (h.child.reported_of_full hheld hfull)
    rw [hmove]
    exact h.nears hlive (Nat.add_lt_add_left (hlearned _) _) (Nat.le_refl _)
  have hreader : (view world).table .self f.reader = some ⟨.pipeReader serial, true⟩ := by
    rw [hself]
    exact a.reader_kept
  obtain ⟨_, _, hslot, hready⟩ := hcan.resolve_left hfull
  cases hreader.symm.trans hslot
  obtain ⟨hanswer, honly⟩ := os.read f.reader (4 - octets.size) world serial true hreader (by omega) hready
  rcases hread : k.read f.reader (4 - octets.size) world with ⟨e | more, w'⟩ <;> rw [hread] at hanswer honly
  · obtain ⟨hsame, -, -, hless⟩ := hanswer
    have he : e = .interrupted := honly
    have hmove : f.move ⟨child, .reading octets, world⟩ .parent = ⟨child, .reading octets, w'⟩ := by
      simp only [move, parentMove, if_neg hfull, hread, if_pos he]
    rw [hmove]
    exact h.nears_of_interrupted hsame (hless he)
  obtain ⟨⟨-, hend, rest, hsplit, hsame⟩, hfewer⟩ := hanswer
  have hready := hready.resolve_right (by rw [hread]; nofun)
  by_cases hempty : more.isEmpty
  · have hnone : (view world).held serial = .empty :=
      ByteArray.size_eq_zero_iff.mp (hend (by simpa [ByteArray.isEmpty] using hempty))
    have hwriter : ¬(view world).HasWriter serial := hready.resolve_left (by rw [hnone]; decide)
    have hmove : f.move ⟨child, .reading octets, world⟩ .parent = ⟨child, .learned (.ofOctets octets), w'⟩ := by
      simp only [move, parentMove, if_neg hfull, hread, if_pos hempty]
    have hlive : f.Live view serial ⟨child, .learned (.ofOctets octets), w'⟩ := by
      refine h.of_parent (fun _ => ?_) ?_ (h.reported_of_end a hstd hnone hwriter hfull) <;> rw [hsame]
      · rfl
      · rfl
    rw [hmove]
    exact h.nears hlive (Nat.add_lt_add_left (hlearned _) _) hfewer
  · have hmore : 0 < more.size := Nat.pos_of_ne_zero (by simpa [ByteArray.isEmpty] using hempty)
    have hmove : f.move ⟨child, .reading octets, world⟩ .parent = ⟨child, .reading (octets ++ more), w'⟩ := by
      simp only [move, parentMove, if_neg hfull, hread, if_neg hempty]
    have hlive : f.Live view serial ⟨child, .reading (octets ++ more), w'⟩ := by
      refine h.of_parent (fun _ => ?_) ?_ ⟨?_, ?_⟩ <;> rw [hsame]
      · rfl
      · rfl
      · exact hself
      · rw [System.held_withHeld_same, ByteArray.append_assoc, ← hsplit]
        exact hheld
    have hless : (ParentStage.reading (octets ++ more)).movesLeft < (ParentStage.reading octets).movesLeft := by
      simp only [ParentStage.movesLeft, ByteArray.size_append]
      omega
    rw [hmove]
    exact h.nears hlive (Nat.add_lt_add_left hless _) hfewer

/-- The parent returns if the program runs, and goes on to wait for a child that has failed. -/
theorem Live.parent_concludes (os : Conforms k view) {report : Report}
    (h : f.Live view serial ⟨child, .learned report, world⟩) :
    f.Nears view serial ⟨child, .learned report, world⟩ (f.move ⟨child, .learned report, world⟩ .parent) := by
  have hfailed : ∀ e, report = .failed e → child.Reported (.failed e) →
      f.Nears view serial ⟨child, .learned report, world⟩ (f.move ⟨child, .learned report, world⟩ .parent) := by
    rintro e rfl hreported
    obtain ⟨hclosed, hfewer⟩ := os.close f.reader world
    rw [System.Closed] at hclosed
    have hlive : f.Live view serial ⟨child, .reaping e, k.close f.reader world⟩ := by
      refine h.of_parent (fun pid => ?_) ?_ hreported <;> rw [hclosed]
      · exact System.table_child_withTable_self ..
      · exact System.life_withTable ..
    exact h.nears hlive (Nat.add_lt_add_left (Nat.lt_succ_self 1) _) hfewer
  have hreported := h.parent
  cases child with
  | stepping done rest =>
    cases rest with
    | cons step rest => exact hreported.elim
    | nil =>
      cases (hreported : report = .running)
      have hsteps := h.child.1
      rw [List.append_nil] at hsteps
      exact ⟨.returned _ rfl trivial ⟨hsteps, _, rfl⟩, h.movesLeft_of_returned rfl⟩
  | reporting done step e => exact hreported.elim
  | exiting done step e | ended done step e => exact hfailed e hreported rfl

/-- The parent reaps the child that has failed, and returns its error. -/
theorem Live.parent_reaps (os : Conforms k view) (a : f.Account view input output error serial) {e : Errno}
    (h : f.Live view serial ⟨child, .reaping e, world⟩)
    (hcan : f.CanMove view ⟨child, .reaping e, world⟩ .parent) :
    f.Nears view serial ⟨child, .reaping e, world⟩ (f.move ⟨child, .reaping e, world⟩ .parent) := by
  obtain ⟨hanswer, honly⟩ := os.await f.child world hcan
  rcases hawait : k.await f.child world with ⟨cause | remains, w'⟩ <;> rw [hawait] at hanswer honly
  · obtain ⟨hsame, -, -, hless⟩ := hanswer
    have hcause : cause = .interrupted := honly
    have hmove : f.move ⟨child, .reaping e, world⟩ .parent = ⟨child, .reaping e, w'⟩ := by
      simp only [move, parentMove, hawait, if_pos hcause]
    rw [hmove]
    exact h.nears_of_interrupted hsame (hless hcause)
  have hended : (view world).life f.child = .ended := hcan.resolve_right (by rw [hawait]; nofun)
  have hrunning : (view world).life f.child ≠ .running := by rw [hended]; nofun
  have hreaped : view w' = (view world).withLife f.child .absent := hanswer.1
  have hmove : f.move ⟨child, .reaping e, world⟩ .parent = ⟨child, .returned (.error (.launch (.os e))),
      k.closeAll (f.stdio.capture.map (·.reader)).toList w'⟩ := by
    simp only [move, parentMove, hawait, afterWait]
  rw [hmove]
  refine ⟨?_, h.movesLeft_of_returned rfl⟩
  have hlife : (view (k.closeAll (f.stdio.capture.map (·.reader)).toList w')).life =
      ((view world).withLife f.child .absent).life := by rw [closeAll_view os, System.life_withTable, hreaped]
  rcases ChildStage.Reported.of_failed h.parent with ⟨done, step, rfl⟩ | ⟨done, step, rfl⟩
  · exact absurd h.child.2 hrunning
  obtain ⟨hbroke, -, -⟩ := h.child
  refine .returned _ rfl trivial ⟨hbroke.first, hbroke.settled, rfl, ?_, funext fun pid => ?_⟩
  · exact (congrFun hlife f.child).trans (System.life_withLife_same ..)
  · refine (congrFun hlife pid).trans ?_
    by_cases hpid : pid = f.child
    · rw [hpid, System.life_withLife_same, ← a.forked.1, a.all.life]
    · rw [System.life_withLife_other _ _ _ hpid]
      exact h.lives pid hpid

/-- A parent whose child is over does not have to wait. -/
theorem Live.parent_can_move (a : f.Account view input output error serial) {x : Handshake W}
    (h : f.Live view serial x) (hover : x.child.IsOver) : f.CanMove view x .parent := by
  obtain ⟨child, parent, world⟩ := x
  cases parent with
  | closing | learned => trivial
  | reading octets =>
    obtain ⟨hself, hheld⟩ := h.parent
    refine .inr ⟨serial, true, by rw [hself]; exact a.reader_kept, .inl (.inr (a.no_writer hself ?_ h.others))⟩
    intro fd slot hslot hfile
    rcases hover.cases with ⟨done, rfl⟩ | ⟨done, step, e, rfl⟩
    · obtain ⟨hsteps, htable, -⟩ := h.child
      rw [List.append_nil] at hsteps
      rw [htable, hsteps, Table.through_childSteps f.targets_eq] at hslot
      exact a.routed_ne_serial hslot (congrArg OpenFile.serial hfile)
    · rw [h.child.2.1] at hslot
      cases hslot
  | reaping e =>
    rcases ChildStage.Reported.of_failed h.parent with ⟨done, step, rfl⟩ | ⟨done, step, rfl⟩
    · exact hover.elim
    · exact .inl h.child.2.2
  | returned result => exact h.parent.elim

end Parent

/-- A handshake is live until the parent returns. -/
theorem Sound.to_live {x : Handshake W} (h : f.Sound view serial x)
    (hreturned : ∀ result, x.parent ≠ .returned result) : f.Live view serial x := by
  cases h with
  | live h => exact h
  | returned result hparent => exact absurd hparent (hreturned result)

/-- A parent that returns tells what the child's steps have come to. -/
theorem Sound.tells {x : Handshake W} (h : f.Sound view serial x) {result : Except LaunchError Child}
    (hreturned : x.parent = .returned result) : f.Tells view x.child.done x.child.failed (result, x.world) := by
  cases h with
  | live h =>
    have hnone := h.parent
    rw [hreturned] at hnone
    exact hnone.elim
  | returned result' hparent _ htells =>
    cases hreturned.symm.trans hparent
    exact htells

/-! ### Runs -/

section Runs

variable (os : Conforms k view) (a : f.Account view input output error serial)
  (hstd : ∀ fd < 3, (view w).table .self fd ≠ none)

include os a hstd in
/-- A move keeps both sides sound and brings them closer to the end. -/
theorem Sound.move {x : Handshake W} (h : f.Sound view serial x) {actor : Actor} (hcan : f.CanMove view x actor) :
    f.Nears view serial x (f.move x actor) := by
  cases h with
  | returned result hparent hover htells =>
    cases actor with
    | child => exact absurd hover hcan
    | parent =>
      rw [CanMove, hparent] at hcan
      exact hcan.elim
  | live h =>
    obtain ⟨child, parent, world⟩ := x
    cases actor with
    | child =>
      cases child with
      | stepping done rest =>
        cases rest with
        | nil => exact absurd trivial hcan
        | cons step rest => exact h.child_steps os a hstd
      | reporting done step e => exact h.child_reports os a hstd
      | exiting done step e => exact h.child_ends os
      | ended done step e => exact absurd trivial hcan
    | parent =>
      cases parent with
      | closing left => exact h.parent_closes os
      | reading octets => exact h.parent_reads os a hstd hcan
      | learned report => exact h.parent_concludes os
      | reaping e => exact h.parent_reaps os a hcan
      | returned result => exact hcan.elim

include a in
/-- Somebody can move until the parent returns. -/
theorem Sound.can_move {x : Handshake W} (h : f.Sound view serial x)
    (hreturned : ∀ result, x.parent ≠ .returned result) : ∃ actor, f.CanMove view x actor := by
  by_cases hover : x.child.IsOver
  · exact ⟨.parent, (h.to_live hreturned).parent_can_move a hover⟩
  · exact ⟨.child, hover⟩

include os a hstd in
/-- Moves keep both sides sound, and there are not more of them than are left at the start. -/
theorem Sound.run {x : Handshake W} {moves : List Actor} (h : f.Sound view serial x)
    (hmoves : f.Admits view x moves) :
    f.Sound view serial (f.run x moves) ∧ (f.run x moves).movesLeft k + moves.length ≤ x.movesLeft k := by
  induction moves generalizing x with
  | nil => exact ⟨h, Nat.le_refl _⟩
  | cons actor moves ih =>
    obtain ⟨hsound, hless⟩ := h.move os a hstd hmoves.1
    obtain ⟨hend, hbound⟩ := ih hsound hmoves.2
    refine ⟨hend, ?_⟩
    rw [List.length_cons, ← Nat.add_assoc]
    exact Nat.lt_of_le_of_lt hbound hless

end Runs

end Fork

end Offspring.Posix
