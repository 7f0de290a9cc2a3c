import Mathlib.Tactic.SplitIfs
import Offspring.Proofs.Posix.Memory
import Offspring.Proofs.Run.OptionForms

/-!
# Options as they are given

If arguments are read at all, every value that they give to an option has been taken for it, and no other one has
(`given_iff_gives`). This is about options with a value, without a letter, that cannot be repeated.
`Reading.Answers` is what a reading has taken for an option, with what it will take: a value that is pending, and
those that the arguments to come give. No step of reading changes it, so at the end it is what was given at the
start. A value that is not in order ends the reading, so it is answered here by its refusal.
-/

namespace Offspring.Run

open Posix (ok_of_bind_ok)

/-! ### Steps of reading -/

/-- A value that is taken for an option: it is there if the option has one, and it is read. -/
structure Takes (o : OptionName) (value : Option OsString) (v : OptionValue) : Prop where
  there : o.valueName?.isSome → value.isSome
  read : readValue o (value.getD .empty) = .ok v

namespace Reading

variable {allowed : List OptionName} {r r' : Reading} {o : OptionName}

/-- An option is taken behind those that have been, and not for a second time unless it can be repeated. -/
theorem take_ok {value : Option OsString} (h : r.take o value = .ok r') :
    ∃ v, Takes o value v ∧ r' = { r with given := r.given ++ [(o, v)], pending := none } ∧
      (o.isRepeatable = false → ∀ v', (o, v') ∉ r.given) := by
  unfold take at h
  split at h
  · cases h
  · rename_i hthere
    split at h
    · cases h
    · rename_i hrepeated
      obtain ⟨v, hv, h⟩ := ok_of_bind_ok h
      cases h
      refine ⟨v, ⟨fun hname => ?_, hv⟩, rfl, fun honce v' hmem => hrepeated ?_⟩
      · obtain ⟨name, hname⟩ := Option.isSome_iff_exists.mp hname
        exact Option.ne_none_iff_isSome.mp fun hnone => hthere name hname hnone
      · simp only [honce, Bool.not_false, Bool.true_and, List.any_eq_true]
        exact ⟨(o, v'), hmem, decide_eq_true rfl⟩

/-- What is pending is taken, and all else stays. -/
theorem settle_ok (h : r.settle = .ok r') :
    r'.pending = none ∧ r'.operands = r.operands ∧
      (r.pending = none ∧ r'.given = r.given ∨
        ∃ p value v, r.pending = some (p, value) ∧ Takes p value v ∧ r'.given = r.given ++ [(p, v)] ∧
          (p.isRepeatable = false → ∀ v', (p, v') ∉ r.given)) := by
  unfold settle at h
  split at h
  · rename_i p value hpending
    obtain ⟨v, hv, rfl, honce⟩ := take_ok h
    exact ⟨rfl, rfl, .inr ⟨p, value, v, hpending, hv, rfl, honce⟩⟩
  · rename_i hpending
    cases h
    exact ⟨hpending, rfl, .inl ⟨hpending, rfl⟩⟩

/-- An option that is met comes behind the pending one, and is taken unless it waits for its value. -/
theorem meet_ok {attached : Option OsString} (h : r.meet o attached = .ok r') :
    ∃ s, r.settle = .ok s ∧
      (s.take o attached = .ok r' ∨
        o.valueName?.isSome ∧ attached = none ∧ r' = { s with pending := some (o, none) }) := by
  unfold meet at h
  split at h
  · cases h
  · obtain ⟨s, hs, h⟩ := ok_of_bind_ok h
    exact ⟨s, hs, .inl h⟩
  · obtain ⟨s, hs, h⟩ := ok_of_bind_ok h
    exact ⟨s, hs, .inl h⟩
  · rename_i hname
    obtain ⟨s, hs, h⟩ := ok_of_bind_ok h
    cases h
    exact ⟨s, hs, .inr ⟨by rw [hname]; rfl, rfl, rfl⟩⟩

end Reading

/-- A refusal of an answer refuses the whole reading. -/
theorem ok_of_stopping_ok {α : Type} {answer : Except UsageError α} {a : α} (h : stopping answer = .ok a) :
    answer = .ok a := by
  cases answer with
  | error e => cases h
  | ok b => cases h; rfl

/-- Two bare dashes end the options, and do not settle what is pending. -/
theorem readArgument_separator (allowed : List OptionName) (r : Reading) :
    readArgument allowed r separator = .ok { r with operands := some [] } := by
  simp only [readArgument, toList_separator]

/-- Letters that are read are those of an option. -/
theorem readLetters_ok {allowed : List OptionName} {r r' : Reading} {letters : OsString}
    (hsome : letters.toList ≠ []) (h : readLetters allowed r letters = .ok r') :
    ∃ o attached, o.letter?.isSome ∧ r.meet o attached = .ok r' := by
  unfold readLetters at h
  split at h
  · rename_i hnil
    exact absurd hnil (Text.lossy_ne_nil hsome)
  · split at h
    · rename_i c _ o hfind
      have hletter := List.find?_some hfind
      refine ⟨o, _, ?_, ok_of_stopping_ok h⟩
      rw [of_decide_eq_true hletter]
      rfl
    · split at h <;> cases h

/-- What reading an argument in front of two bare dashes does: these end the options, an option is met, or a
pending one gets its value. -/
theorem readArgument_cases {allowed : List OptionName} {r r' : Reading} {arg : OsString}
    (h : readArgument allowed r arg = .ok r') :
    (arg = separator ∧ r' = { r with operands := some [] }) ∨
      (∃ o attached, Meets arg o attached ∧ r.meet o attached = .ok r') ∨
      (¬IsLong arg ∧ ∃ o, r.pending = some (o, none) ∧ r' = { r with pending := some (o, some arg) }) := by
  unfold readArgument at h
  split at h
  case h_1 harg =>
    cases h
    exact .inl ⟨Text.toList_injective (harg.trans toList_separator.symm), rfl⟩
  case h_2 rest _ harg =>
    split at h
    rename_i name attached hdivide
    split at h
    · rename_i o hfind
      have hname := List.find?_some hfind
      have hlong : OsString.ofString o.long = name := of_decide_eq_true hname
      have hwritten : arg = o.written attached := by
        apply Text.toList_injective
        rw [harg, toList_written, ← eq_octets_of_divide (hdivide.trans (by rw [hlong]))]
      exact .inr (.inl ⟨o, attached, .long hwritten, ok_of_stopping_ok h⟩)
    · split at h <;> cases h
  case h_3 c rest _ hsecond harg =>
    have hsome : ByteArray.toList ⟨(c :: rest).toArray⟩ ≠ [] := by
      rw [Text.toList_eq_data]
      exact List.cons_ne_nil c rest
    obtain ⟨o, attached, hletter, hmeet⟩ := readLetters_ok hsome h
    refine .inr (.inl ⟨o, attached, .letter hletter ?_, hmeet⟩)
    rintro ⟨more, hlong⟩
    exact hsecond (List.cons.inj (List.cons.inj (harg.symm.trans hlong)).2).1
  case h_4 _ hshort _ =>
    split at h
    · rename_i o hpending
      cases h
      exact .inr (.inr ⟨fun ⟨rest, hlong⟩ => hshort rest hlong, o, hpending, rfl⟩)
    · cases h

/-! ### What a reading comes to -/

namespace Reading

/-- A value that an option is waiting to be read, or will get from the arguments to come. -/
def Awaits (r : Reading) (o : OptionName) (args : List OsString) (value : OsString) : Prop :=
  r.pending = some (o, some value) ∨ r.pending = some (o, none) ∧ args.head? = some value ∨ Gives o args value

/-- What has been read for an option, or what reading a value that it awaits comes to. -/
def Answers (r : Reading) (o : OptionName) (args : List OsString) (answer : Except UsageError OptionValue) : Prop :=
  (∃ v, (o, v) ∈ r.given ∧ answer = .ok v) ∨ ∃ value, r.Awaits o args value ∧ readValue o value = answer

/-- An option with a value is settled only if the value has come. -/
theorem pending_ne_of_settle {r s : Reading} {o : OptionName} (hvalue : o.valueName?.isSome)
    (h : r.settle = .ok s) : r.pending ≠ some (o, none) := by
  intro hpending
  obtain ⟨-, -, ⟨hnone, -⟩ | ⟨p, value, v, hsome, hv, -, -⟩⟩ := settle_ok h
  · rw [hpending] at hnone
    cases hnone
  · rw [hpending] at hsome
    cases hsome
    cases hv.there hvalue

section Valued

variable {allowed : List OptionName} {r s r' : Reading} {o : OptionName} (hvalue : o.valueName?.isSome)
include hvalue

/-- What has been taken last is what has been read for the option last. -/
theorem answers_taken {p : OptionName} {value : Option OsString} {v : OptionValue} (hv : Takes p value v) (given : Given)
    (answer : Except UsageError OptionValue) :
    (∃ w, (o, w) ∈ given ++ [(p, v)] ∧ answer = .ok w) ↔
      (∃ w, (o, w) ∈ given ∧ answer = .ok w) ∨ ∃ x, (p = o ∧ value = some x) ∧ readValue o x = answer := by
  have hlast : (∃ w, (o, w) = (p, v) ∧ answer = .ok w) ↔ ∃ x, (p = o ∧ value = some x) ∧ readValue o x = answer := by
    constructor
    · rintro ⟨w, hw, rfl⟩
      cases hw
      obtain ⟨x, rfl⟩ := Option.isSome_iff_exists.mp (hv.there hvalue)
      exact ⟨x, ⟨rfl, rfl⟩, hv.read⟩
    · rintro ⟨x, ⟨rfl, rfl⟩, rfl⟩
      exact ⟨v, rfl, hv.read⟩
  simp only [List.mem_append, List.mem_singleton, or_and_right, exists_or, hlast]

/-- Settling reads the pending value, and changes nothing else. -/
theorem answers_settle (h : r.settle = .ok s) (args : List OsString) (answer : Except UsageError OptionValue) :
    s.Answers o args answer ↔ r.Answers o args answer := by
  have hcame := pending_ne_of_settle hvalue h
  obtain ⟨hsettled, -, ⟨hnone, hgiven⟩ | ⟨p, value, v, hsome, hv, hgiven, -⟩⟩ := settle_ok h
  · simp [Answers, Awaits, hsettled, hnone, hgiven]
  · rw [hsome] at hcame
    simp only [Answers, Awaits, hsettled, hsome, hgiven, answers_taken hvalue hv, hcame, Option.some.injEq,
      Prod.mk.injEq, reduceCtorEq, false_and, false_or, or_and_right, exists_or, or_assoc]

variable (hletter : o.letter? = none)
include hletter

/-- Meeting an option reads or awaits the value that it is given, and changes nothing else. -/
theorem answers_meet {p : OptionName} {arg : OsString} {attached : Option OsString} (hmet : Meets arg p attached)
    (h : r.meet p attached = .ok r') (rest : List OsString) (answer : Except UsageError OptionValue) :
    r'.Answers o rest answer ↔ r.Answers o (arg :: rest) answer := by
  obtain ⟨s, hs, h⟩ := meet_ok h
  have hnone : s.pending = none := (settle_ok hs).1
  rw [← answers_settle hvalue hs]
  obtain h | ⟨hname, rfl, rfl⟩ := h
  · obtain ⟨v, hv, rfl, -⟩ := take_ok h
    have hcame : ¬(p = o ∧ attached = none) := by
      rintro ⟨rfl, rfl⟩
      cases hv.there hvalue
    simp only [Answers, Awaits, hnone, answers_taken hvalue hv, gives_met hletter hmet, hcame, reduceCtorEq, false_and,
      false_or, or_and_right, exists_or, or_assoc]
  · simp only [Answers, Awaits, hnone, gives_met hletter hmet, Option.some.injEq, Prod.mk.injEq, reduceCtorEq,
      and_false, and_true, false_and, false_or]

/-- Reading an argument that does not end the options keeps what is known of one. -/
theorem answers_readArgument {arg : OsString} (h : readArgument allowed r arg = .ok r') (harg : arg ≠ separator)
    (rest : List OsString) (answer : Except UsageError OptionValue) :
    r'.Answers o rest answer ↔ r.Answers o (arg :: rest) answer := by
  obtain ⟨hend, -⟩ | ⟨p, attached, hmet, hmeet⟩ | ⟨hshort, p, hpending, rfl⟩ := readArgument_cases h
  · exact absurd hend harg
  · exact answers_meet hvalue hletter hmet hmeet rest answer
  · simp [Answers, Awaits, hpending, gives_cons_of_not_isLong hshort, and_comm, eq_comm]

end Valued

/-- A reading with nothing to come answers with what it has read. -/
theorem answers_of_settled {r : Reading} {o : OptionName} {args : List OsString} (hnone : r.pending = none)
    (hgives : ∀ value, ¬Gives o args value) (answer : Except UsageError OptionValue) :
    r.Answers o args answer ↔ ∃ v, (o, v) ∈ r.given ∧ answer = .ok v := by
  simp [Answers, Awaits, hnone, hgives]

/-- Once the options have ended, only the pending one is still taken. -/
theorem readArguments_operands {allowed : List OptionName} {takesOperands : Bool} {r r' : Reading}
    {args : List OsString} (hoperands : r.operands.isSome) (h : readArguments allowed takesOperands r args = .ok r') :
    ∃ s, r.settle = .ok s ∧ r'.given = s.given := by
  induction args generalizing r with
  | nil => exact ⟨r', ok_of_stopping_ok h, rfl⟩
  | cons arg rest ih =>
    obtain ⟨operands, hoperands⟩ := Option.isSome_iff_exists.mp hoperands
    rw [readArguments, hoperands] at h
    simp only at h
    split at h
    · obtain ⟨s, hs, h⟩ := ok_of_bind_ok h
      have hs := ok_of_stopping_ok hs
      obtain ⟨s', hs', hgiven⟩ := ih rfl h
      have hnone : s.pending = none := (settle_ok hs).1
      rw [settle, hnone] at hs'
      cases hs'
      exact ⟨s, hs, hgiven⟩
    · cases h

/-- The option has been taken once at most. -/
def Single (o : OptionName) (given : Given) : Prop :=
  ∀ v v', (o, v) ∈ given → (o, v') ∈ given → v = v'

/-- A step of reading in front of two bare dashes. -/
structure Advances (o : OptionName) (r r' : Reading) : Prop where
  operands : r'.operands = r.operands
  single : Single o r.given → Single o r'.given

section Advancing

variable {allowed : List OptionName} {r s r' : Reading} {o : OptionName} (honce : o.isRepeatable = false)
include honce

/-- One more option is taken. -/
theorem single_append {given : Given} {p : OptionName} (v : OptionValue) (hgiven : Single o given)
    (hnew : p.isRepeatable = false → ∀ v', (p, v') ∉ given) : Single o (given ++ [(p, v)]) := by
  intro w w' hw hw'
  rw [List.mem_append, List.mem_singleton] at hw hw'
  obtain hw | hw := hw <;> obtain hw' | hw' := hw'
  · exact hgiven w w' hw hw'
  · cases hw'
    exact absurd hw (hnew honce w)
  · cases hw
    exact absurd hw' (hnew honce w')
  · cases hw
    cases hw'
    rfl

theorem advances_take {p : OptionName} {value : Option OsString} (h : r.take p value = .ok r') : Advances o r r' := by
  obtain ⟨v, -, rfl, hnew⟩ := take_ok h
  exact ⟨rfl, fun hgiven => single_append honce v hgiven hnew⟩

theorem advances_settle (h : r.settle = .ok r') : Advances o r r' := by
  unfold settle at h
  split at h
  · have hadvances := advances_take honce h
    exact ⟨hadvances.operands, hadvances.single⟩
  · cases h
    exact ⟨rfl, id⟩

theorem advances_meet {p : OptionName} {attached : Option OsString} (h : r.meet p attached = .ok r') :
    Advances o r r' := by
  obtain ⟨s, hs, h⟩ := meet_ok h
  have hsettle := advances_settle honce hs
  obtain h | ⟨-, -, rfl⟩ := h
  · have htake := advances_take honce h
    exact ⟨htake.operands.trans hsettle.operands, htake.single ∘ hsettle.single⟩
  · exact ⟨hsettle.operands, hsettle.single⟩

theorem advances_readArgument {arg : OsString} (h : readArgument allowed r arg = .ok r') (harg : arg ≠ separator) :
    Advances o r r' := by
  obtain ⟨hend, -⟩ | ⟨p, attached, -, hmeet⟩ | ⟨-, p, -, rfl⟩ := readArgument_cases h
  · exact absurd hend harg
  · exact advances_meet honce hmeet
  · exact ⟨rfl, id⟩

end Advancing

/-- An option that has a value, no letter, and no second turn has been taken with exactly what the arguments give
it, and at most once.

The induction is on the arguments. What is known of the option at the start is all that they give it, no argument
changes that, and at the end all of it has been read. -/
theorem readArguments_answers {allowed : List OptionName} {takesOperands : Bool} {r r' : Reading}
    {args : List OsString} {o : OptionName} (hvalue : o.valueName?.isSome) (hletter : o.letter? = none)
    (honce : o.isRepeatable = false) (hoperands : r.operands = none) (hsingle : Single o r.given)
    (h : readArguments allowed takesOperands r args = .ok r') :
    (∀ answer, (∃ v, (o, v) ∈ r'.given ∧ answer = .ok v) ↔ r.Answers o args answer) ∧ Single o r'.given := by
  induction args generalizing r with
  | nil =>
    have hs := ok_of_stopping_ok h
    refine ⟨fun answer => ?_, (advances_settle honce hs).single hsingle⟩
    have hgives : ∀ value, ¬Gives o [] value := by
      rintro value ⟨before, after, -, hargs⟩
      simp at hargs
    rw [← answers_settle hvalue hs, answers_of_settled (settle_ok hs).1 hgives]
  | cons arg rest ih =>
    rw [readArguments, hoperands] at h
    obtain ⟨r₁, hr₁, h⟩ := ok_of_bind_ok h
    by_cases harg : arg = separator
    · subst harg
      rw [readArgument_separator] at hr₁
      cases hr₁
      obtain ⟨s, hs, hgiven⟩ := readArguments_operands rfl h
      have hknown (answer : Except UsageError OptionValue) :
          s.Answers o (separator :: rest) answer ↔ r.Answers o (separator :: rest) answer :=
        answers_settle hvalue hs (separator :: rest) answer
      rw [hgiven]
      refine ⟨fun answer => ?_, (advances_settle honce hs).single hsingle⟩
      rw [← hknown, answers_of_settled (settle_ok hs).1 (not_gives_separator o rest)]
    · have hadvances := advances_readArgument honce hr₁ harg
      obtain ⟨hanswers, hsingle'⟩ := ih (hadvances.operands.trans hoperands) (hadvances.single hsingle) h
      exact ⟨fun answer => (hanswers answer).trans (answers_readArgument hvalue hletter hr₁ harg rest answer), hsingle'⟩

end Reading

/-! ### The whole command line -/

/-- The options of a run are those that its arguments are read into, if none excludes another. -/
theorem given_of_readRun {args : List OsString} {request : RunRequest} (h : readRun args = .ok (.run request)) :
    ∃ r, readArguments runOptions true {} args = .ok r ∧ request.given = r.given ∧ conflict? r.given = none := by
  obtain ⟨r, hr, h⟩ := ok_of_bind_ok h
  obtain ⟨words, -, h⟩ := ok_of_bind_ok h
  refine ⟨r, hr, ?_⟩
  split at h
  case h_1 => cases h
  case h_2 => cases h
  case h_3 hnone =>
    cases h
    exact ⟨rfl, hnone⟩

/-- Only the command to run asks for a run. -/
theorem eq_run_of_ofArguments {args : List OsString} {request : RunRequest}
    (h : Request.ofArguments args = .ok (.run request)) :
    ∃ rest, args = .ofString "run" :: rest ∧ readRun rest = .ok (.run request) := by
  unfold Request.ofArguments at h
  split at h
  · cases h
  · rename_i first rest
    split at h
    case h_1 => split at h <;> cases h
    case h_2 =>
      split at h
      split at h
      · split at h <;> cases h
      · cases h
    case h_3 => split at h <;> cases h
    case h_4 =>
      split_ifs at h with hrun
      · exact ⟨rest, by rw [hrun], h⟩
      · obtain ⟨r, -, h⟩ := ok_of_bind_ok h
        cases h
      · cases h

/-- A run has exactly the values that its arguments give to an option with a value, no letter and no second turn:
each of them has been read, and there is at most one. -/
theorem given_iff_gives {args : List OsString} {request : RunRequest} {o : OptionName} (hvalue : o.valueName?.isSome)
    (hletter : o.letter? = none) (honce : o.isRepeatable = false)
    (h : Request.ofArguments args = .ok (.run request)) :
    (∀ answer, (∃ v, (o, v) ∈ request.given ∧ answer = .ok v) ↔
        ∃ value, Gives o args value ∧ readValue o value = answer) ∧
      Reading.Single o request.given := by
  obtain ⟨rest, rfl, hrun⟩ := eq_run_of_ofArguments h
  obtain ⟨r, hr, hgiven, -⟩ := given_of_readRun hrun
  have hshort : ¬IsLong (.ofString "run") := by
    rintro ⟨more, hlong⟩
    have hletters : (OsString.ofString "run").toList = [0x72, 0x75, 0x6E] := by decide +kernel
    rw [hletters] at hlong
    cases hlong
  obtain ⟨hanswers, hsingle⟩ := Reading.readArguments_answers hvalue hletter honce rfl
    (fun _ _ hmem => absurd hmem List.not_mem_nil) hr
  rw [hgiven]
  refine ⟨fun answer => ?_, hsingle⟩
  rw [hanswers]
  simp [Reading.Answers, Reading.Awaits, gives_cons_of_not_isLong hshort]

/-- No option of a run excludes another one of it. -/
theorem not_given_of_excluded {args : List OsString} {request : RunRequest} {o p : OptionName}
    (h : Request.ofArguments args = .ok (.run request)) {v : OptionValue} (hgiven : (o, v) ∈ request.given)
    (hexcluded : p ∈ o.excluded) (w : OptionValue) : (p, w) ∉ request.given := by
  obtain ⟨rest, -, hrun⟩ := eq_run_of_ofArguments h
  obtain ⟨r, -, hsame, hnone⟩ := given_of_readRun hrun
  rw [hsame] at hgiven ⊢
  intro hmem
  have hfree := List.findSome?_eq_none_iff.mp hnone (o, v) hgiven
  have hother : p ∈ (r.given.map (·.1)).filter fun other => o.excluded.contains other :=
    List.mem_filter.mpr ⟨List.mem_map.mpr ⟨(p, w), hmem, rfl⟩, by simpa using hexcluded⟩
  simp only [ite_eq_left_iff, reduceCtorEq, imp_false, not_not, List.isEmpty_iff] at hfree
  rw [hfree] at hother
  cases hother

end Offspring.Run
