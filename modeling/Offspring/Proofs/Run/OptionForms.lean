import Offspring.Proofs.Text.Lossy
import Offspring.Run.Arguments

/-!
# Options as they are written

An option has a long form behind two dashes, and its value stands behind an equals sign or is the next argument.
`Gives` says so of the arguments in front of two bare dashes, without reading them. No long form has an equals sign
and no two options have the same one, so an argument is one option at most, with one value.
-/

namespace Offspring.Run

/-- Two bare dashes. -/
def separator : OsString := .ofString "--"

theorem toList_separator : separator.toList = [0x2D, 0x2D] := by
  decide +kernel

namespace OptionName

/-- An option as it is written with two dashes, with its value behind an equals sign if that is attached. -/
def written (o : OptionName) : Option OsString → OsString
  | none => .ofString ("--" ++ o.long)
  | some value => .ofString ("--" ++ o.long ++ "=") ++ value

/-- The octets of the long form. -/
def octets (o : OptionName) : List UInt8 :=
  (OsString.ofString o.long).toList

theorem octets_ne_nil (o : OptionName) : o.octets ≠ [] := by
  cases o <;> decide +kernel

/-- No long form has an equals sign. -/
theorem equals_not_mem_octets (o : OptionName) : 0x3D ∉ o.octets := by
  cases o <;> decide +kernel

/-- Long forms tell options apart. -/
theorem long_injective {o p : OptionName} (h : o.long = p.long) : o = p := by
  cases o <;> cases p <;> first | rfl | exact absurd h (by decide)

end OptionName

/-- The octets of a value that is attached, with its equals sign. -/
def attachment : Option OsString → List UInt8
  | none => []
  | some value => 0x3D :: value.toList

/-- The octets of a text and of what stands behind it. -/
theorem toList_ofString_append (s t : String) :
    (OsString.ofString (s ++ t)).toList = (OsString.ofString s).toList ++ (OsString.ofString t).toList := by
  rw [OsString.ofString, String.toUTF8_eq_toByteArray, String.toByteArray_append, Text.toList_append]
  rfl

/-- The octets of an option as it is written. -/
theorem toList_written (o : OptionName) (attached : Option OsString) :
    (o.written attached).toList = 0x2D :: 0x2D :: (o.octets ++ attachment attached) := by
  have hdashes : (OsString.ofString "--").toList = [0x2D, 0x2D] := toList_separator
  have hequals : (OsString.ofString "=").toList = [0x3D] := by decide +kernel
  cases attached with
  | none =>
    rw [OptionName.written, toList_ofString_append, hdashes, attachment, List.append_nil]
    rfl
  | some value =>
    rw [OptionName.written, Text.toList_append, toList_ofString_append, toList_ofString_append, hdashes, hequals]
    simp [OptionName.octets, attachment]

/-- A name is divided from what is attached to it. -/
theorem divide_append {name : List UInt8} (hname : 0x3D ∉ name) (attached : Option OsString) :
    divide (name ++ attachment attached) = (⟨name.toArray⟩, attached) := by
  have hclean : ∀ b ∈ name, decide (b ≠ 0x3D) = true := fun b hb =>
    decide_eq_true fun hequals => hname (hequals ▸ hb)
  rw [divide, List.takeWhile_append_of_pos hclean, List.dropWhile_append_of_pos hclean]
  cases attached with
  | none => simp [attachment]
  | some value =>
    have hvalue : (⟨value.toList.toArray⟩ : OsString) = value := by rw [Text.toList_eq_data]
    simp [attachment, hvalue]

/-- Octets are a name with what is attached to it. -/
theorem exists_name (octets : List UInt8) :
    ∃ name attached, 0x3D ∉ name ∧ octets = name ++ attachment attached := by
  by_cases hequals : 0x3D ∈ octets
  · obtain ⟨name, value, rfl, hname⟩ := List.eq_append_cons_of_mem hequals
    exact ⟨name, some ⟨value.toArray⟩, hname, by rw [attachment, Text.toList_eq_data]⟩
  · exact ⟨octets, none, hequals, (List.append_nil _).symm⟩

/-- What is divided into the name of an option and something attached is written like that. -/
theorem eq_octets_of_divide {o : OptionName} {octets : List UInt8} {attached : Option OsString}
    (h : divide octets = (.ofString o.long, attached)) : octets = o.octets ++ attachment attached := by
  obtain ⟨name, attached', hname, rfl⟩ := exists_name octets
  rw [divide_append hname, Prod.mk.injEq] at h
  obtain ⟨hlong, rfl⟩ := h
  rw [OptionName.octets, ← hlong, Text.toList_eq_data]

namespace OptionName

/-- The octets of an option with something attached are divided there. -/
theorem divide_octets (o : OptionName) (attached : Option OsString) :
    divide (o.octets ++ attachment attached) = (.ofString o.long, attached) := by
  rw [divide_append o.equals_not_mem_octets, octets, Text.toList_eq_data]

/-- An argument is one option at most, with one value. -/
theorem written_inj {o p : OptionName} {attached attached' : Option OsString}
    (h : o.written attached = p.written attached') : o = p ∧ attached = attached' := by
  have hoctets : o.octets ++ attachment attached = p.octets ++ attachment attached' := by
    have hlist := congrArg ByteArray.toList h
    rw [toList_written, toList_written] at hlist
    exact (List.cons.inj (List.cons.inj hlist).2).2
  have hdivided := congrArg divide hoctets
  rw [divide_octets, divide_octets, Prod.mk.injEq] at hdivided
  refine ⟨long_injective ?_, hdivided.2⟩
  exact String.toByteArray_inj.mp hdivided.1

/-- No option is written as two bare dashes. -/
theorem written_ne_separator (o : OptionName) (attached : Option OsString) : o.written attached ≠ separator := by
  intro h
  have hlist := congrArg ByteArray.toList h
  rw [toList_written, toList_separator] at hlist
  have hnil := (List.cons.inj (List.cons.inj hlist).2).2
  exact o.octets_ne_nil (List.append_eq_nil_iff.mp hnil).1

end OptionName

/-- An argument with two dashes in front. -/
def IsLong (arg : OsString) : Prop :=
  ∃ rest, arg.toList = 0x2D :: 0x2D :: rest

theorem isLong_written (o : OptionName) (attached : Option OsString) : IsLong (o.written attached) :=
  ⟨_, toList_written o attached⟩

theorem isLong_separator : IsLong separator :=
  ⟨[], toList_separator⟩

/-- How an option is met: by its long form, or by its letter behind one dash. -/
inductive Meets (arg : OsString) (o : OptionName) (attached : Option OsString) : Prop
  | long : arg = o.written attached → Meets arg o attached
  | letter : o.letter?.isSome → ¬IsLong arg → Meets arg o attached

/-- The values that arguments give to an option, up to two bare dashes: each behind an equals sign, or as the
argument that follows. -/
def Gives (o : OptionName) (args : List OsString) (value : OsString) : Prop :=
  ∃ before after, separator ∉ before ∧
    (args = before ++ o.written none :: value :: after ∨ args = before ++ o.written (some value) :: after)

/-- The first argument gives a value, or a later one does. -/
theorem gives_cons {o : OptionName} {arg : OsString} {rest : List OsString} {value : OsString} :
    Gives o (arg :: rest) value ↔
      arg = o.written none ∧ rest.head? = some value ∨ arg = o.written (some value) ∨
        arg ≠ separator ∧ Gives o rest value := by
  constructor
  · rintro ⟨before, after, hbefore, hargs⟩
    cases before with
    | nil =>
      obtain ⟨harg, hrest⟩ | ⟨harg, hrest⟩ := hargs.imp List.cons.inj List.cons.inj
      · exact .inl ⟨harg, by rw [hrest]; rfl⟩
      · exact .inr (.inl harg)
    | cons first before =>
      rw [List.mem_cons, not_or] at hbefore
      refine .inr (.inr ⟨?_, before, after, hbefore.2, hargs.imp (fun h => ?_) fun h => ?_⟩)
      · obtain h | h := hargs <;> exact (List.cons.inj h).1 ▸ Ne.symm hbefore.1
      · exact (List.cons.inj h).2
      · exact (List.cons.inj h).2
  · rintro (⟨rfl, hvalue⟩ | rfl | ⟨harg, before, after, hbefore, hrest⟩)
    · obtain ⟨after, rfl⟩ := List.head?_eq_some_iff.mp hvalue
      exact ⟨[], after, List.not_mem_nil, .inl rfl⟩
    · exact ⟨[], rest, List.not_mem_nil, .inr rfl⟩
    · refine ⟨arg :: before, after, ?_, hrest.imp (congrArg (arg :: ·)) (congrArg (arg :: ·))⟩
      rw [List.mem_cons, not_or]
      exact ⟨Ne.symm harg, hbefore⟩

/-- No value is given any more behind two bare dashes. -/
theorem not_gives_separator (o : OptionName) (rest : List OsString) (value : OsString) :
    ¬Gives o (separator :: rest) value := by
  rw [gives_cons]
  rintro (⟨h, -⟩ | h | ⟨h, -⟩)
  · exact o.written_ne_separator _ h.symm
  · exact o.written_ne_separator _ h.symm
  · exact h rfl

/-- An argument that is not the option in its long form gives it no value. -/
theorem gives_cons_of_ne {o : OptionName} {arg : OsString} (rest : List OsString) (value : OsString)
    (hother : ∀ attached, arg ≠ o.written attached) (harg : arg ≠ separator) :
    Gives o (arg :: rest) value ↔ Gives o rest value := by
  simp [gives_cons, hother, harg]

/-- The option with nothing attached is given what follows. -/
theorem gives_written_none (o : OptionName) (rest : List OsString) (value : OsString) :
    Gives o (o.written none :: rest) value ↔ rest.head? = some value ∨ Gives o rest value := by
  have hother : o.written none ≠ o.written (some value) := fun h => by cases (OptionName.written_inj h).2
  simp [gives_cons, hother, o.written_ne_separator]

/-- The option with a value attached is given that. -/
theorem gives_written_some (o : OptionName) (rest : List OsString) (value attached : OsString) :
    Gives o (o.written (some attached) :: rest) value ↔ attached = value ∨ Gives o rest value := by
  have hbare : o.written (some attached) ≠ o.written none := fun h => by cases (OptionName.written_inj h).2
  have hsame : o.written (some attached) = o.written (some value) ↔ attached = value :=
    ⟨fun h => Option.some.inj (OptionName.written_inj h).2, fun h => by rw [h]⟩
  simp [gives_cons, hbare, hsame, o.written_ne_separator]

/-- An argument without two dashes in front gives an option no value. -/
theorem gives_cons_of_not_isLong {o : OptionName} {arg : OsString} (hshort : ¬IsLong arg) (rest : List OsString)
    (value : OsString) : Gives o (arg :: rest) value ↔ Gives o rest value :=
  gives_cons_of_ne rest value (fun attached hwritten => hshort (hwritten ▸ isLong_written o attached))
    fun hdashes => hshort (hdashes ▸ isLong_separator)

/-- An option without a letter is given a value by the argument that it is met in, or by a later one. -/
theorem gives_met {o p : OptionName} {arg : OsString} {attached : Option OsString} (hletter : o.letter? = none)
    (hmet : Meets arg p attached) (rest : List OsString) (value : OsString) :
    Gives o (arg :: rest) value ↔
      p = o ∧ attached = some value ∨ (p = o ∧ attached = none) ∧ rest.head? = some value ∨ Gives o rest value := by
  cases hmet with
  | letter hsome hshort =>
    have hother : p ≠ o := by
      rintro rfl
      simp [hletter] at hsome
    simp [gives_cons_of_not_isLong hshort, hother]
  | long harg =>
    subst harg
    by_cases hsame : p = o
    · subst hsame
      cases attached with
      | none => simp [gives_written_none]
      | some attached => simp [gives_written_some]
    · have hother : ∀ attached', p.written attached ≠ o.written attached' := fun attached' hwritten =>
        hsame (OptionName.written_inj hwritten).1
      simp [gives_cons_of_ne rest value hother (p.written_ne_separator attached), hsame]

end Offspring.Run
