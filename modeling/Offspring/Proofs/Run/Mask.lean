import Offspring.Proofs.LaunchSpec.RoundTrip
import Offspring.Proofs.Run.GivenOptions
import Offspring.Proofs.Run.Launching
import Offspring.Proofs.Run.Numeral

/-!
# The mask of a run

A mask is an octal numeral behind any number of marks, up to `0o777`: `MaskSpelling` is that form, and nothing else
is read as a mask. A mask from the command line is read twice, since a configuration carries it as text and it is
read again when the run is executed. The text that is written in between is read as the same mask, so what a run is
launched with is what its arguments give.
-/

namespace Offspring

namespace Run

/-! ### Masks as they are written -/

/-- The letters in front of a mask, so many times. -/
def octalMarks (marks : Nat) : List Char :=
  (List.replicate marks ['0', 'o']).flatten

/-- A mask with what may stand in front of it. -/
structure MaskSpelling where
  marks : Nat
  numeral : Numeral 8

namespace MaskSpelling

/-- A mask as it is written. -/
def text (spelling : MaskSpelling) : String :=
  String.ofList (octalMarks spelling.marks ++ spelling.numeral.text)

/-- The number that is written. -/
def value (spelling : MaskSpelling) : Nat :=
  spelling.numeral.value

end MaskSpelling

/-- Marks are dropped, however many they are. -/
theorem dropOctalMarks_append (marks : Nat) (text : List Char) :
    dropOctalMarks (octalMarks marks ++ text) = dropOctalMarks text := by
  induction marks with
  | zero => rfl
  | succ marks ih => exact ih

/-- Nothing but marks is dropped. -/
theorem exists_marks (text : List Char) : ∃ marks, octalMarks marks ++ dropOctalMarks text = text := by
  fun_induction dropOctalMarks text with
  | case1 rest ih =>
    obtain ⟨marks, hrest⟩ := ih
    exact ⟨marks + 1, congrArg (['0', 'o'] ++ ·) hrest⟩
  | case2 text => exact ⟨0, rfl⟩

/-- There are no marks without their letter. -/
theorem dropOctalMarks_of_not_mem {text : List Char} (h : 'o' ∉ text) : dropOctalMarks text = text := by
  fun_cases dropOctalMarks text with
  | case1 rest => simp at h
  | case2 => rfl

/-- A numeral has no marks. -/
theorem dropOctalMarks_numeral (numeral : Numeral 8) : dropOctalMarks numeral.text = numeral.text := by
  refine dropOctalMarks_of_not_mem fun hmem => ?_
  rcases List.mem_append.mp hmem with hsign | hdigit
  · cases hsigned : numeral.signed <;> simp [hsigned] at hsign
  · exact absurd (isDigit_of_mem (by decide) hdigit) (by decide)

/-- What is read as a number once its marks are dropped is spelled like a mask. -/
theorem exists_spelling {text : String} {n : Nat}
    (h : readNumber 8 0x100000000 (dropOctalMarks text.toList) = .ok n) :
    ∃ spelling : MaskSpelling, spelling.text = text ∧ spelling.value = n := by
  obtain ⟨numeral, hnumeral, rfl, -⟩ := (readNumber_eq_ok_iff (by decide) (by decide)).mp h
  obtain ⟨marks, hmarks⟩ := exists_marks text.toList
  refine ⟨⟨marks, numeral⟩, ?_, rfl⟩
  rw [MaskSpelling.text, hnumeral, hmarks, String.ofList_toList]

/-- A spelling is read as its number if that is a mask, and refused otherwise, be it too large for a mask or for a
word. -/
theorem readMask_spelling (spelling : MaskSpelling) :
    readMask spelling.text =
      if spelling.value ≤ 0o777 then .ok spelling.value
      else .error
        (if spelling.value < 2 ^ 32 then .outOfRange spelling.text else .noNumber spelling.text .tooLarge) := by
  have hdropped : dropOctalMarks spelling.text.toList = spelling.numeral.text := by
    rw [MaskSpelling.text, String.toList_ofList, dropOctalMarks_append, dropOctalMarks_numeral]
  have hbound : (2 : Nat) ^ 32 = 0x100000000 := rfl
  rw [readMask, hdropped, readNumber_numeral (by decide) (by decide), MaskSpelling.value, hbound]
  by_cases hword : spelling.numeral.value < 0x100000000
  · rw [if_pos hword, if_pos hword]
    by_cases hmask : spelling.numeral.value ≤ 0o777
    · exact (if_neg (Nat.not_lt.mpr hmask)).trans (if_pos hmask).symm
    · exact (if_pos (Nat.lt_of_not_le hmask)).trans (if_neg hmask).symm
  · have hmask : ¬spelling.numeral.value ≤ 0o777 := by omega
    rw [if_neg hword, if_neg hword, if_neg hmask]

/-- Exactly the spellings of numbers up to `0o777` are read as masks. -/
theorem readMask_eq_ok_iff {text : String} {mask : Nat} :
    readMask text = .ok mask ↔
      ∃ spelling : MaskSpelling, spelling.text = text ∧ spelling.value = mask ∧ mask ≤ 0o777 := by
  constructor
  · intro h
    rw [readMask] at h
    split at h
    · cases h
    · rename_i n hn
      split_ifs at h with hlarge
      cases h
      obtain ⟨spelling, htext, hvalue⟩ := exists_spelling hn
      exact ⟨spelling, htext, hvalue, Nat.not_lt.mp hlarge⟩
  · rintro ⟨spelling, rfl, rfl, hmask⟩
    rw [readMask_spelling, if_pos hmask]

/-- What is not spelled like a mask is no number either. -/
theorem readMask_of_not_spelled {text : String} (h : ∀ spelling : MaskSpelling, spelling.text ≠ text) :
    ∃ fault, readMask text = .error (.noNumber text fault) := by
  rw [readMask]
  split
  · rename_i fault _
    exact ⟨fault, rfl⟩
  · rename_i n hn
    obtain ⟨spelling, htext, -⟩ := exists_spelling hn
    exact absurd htext (h spelling)

/-- A mask that is written is read again. -/
theorem readMask_maskText {mask : Nat} (hmask : mask ≤ 0o777) : readMask (maskText mask) = .ok mask := by
  obtain ⟨numeral, htext, hvalue⟩ := exists_numeral_of_toDigits (show 1 < 8 by decide) mask
  exact readMask_eq_ok_iff.mpr ⟨⟨0, numeral⟩, congrArg String.ofList htext, hvalue, hmask⟩

/-! ### From the arguments to the launch -/

/-- A value that is read for the mask is the text of one. -/
theorem exists_mask_of_readValue {value : OsString} {v : OptionValue} (h : readValue .umask value = .ok v) :
    ∃ text mask, value = .ofString text ∧ readMask text = .ok mask ∧ v = .number mask := by
  obtain ⟨text, htext, h⟩ := Posix.ok_of_bind_ok h
  rw [readText] at htext
  split at htext <;> cases htext
  rename_i hstrict
  split at h <;> cases h
  rename_i mask hmask
  exact ⟨text, mask, (LaunchSpec.ofString_of_strict? hstrict).symm, hmask, rfl⟩

namespace Config

/-- What an option leaves alone of a configuration. -/
structure Spared (p : OptionName) (c c' : Config) : Prop where
  stdin : p ≠ .stdin → c'.stdin = c.stdin
  stdout : p ≠ .stdout → c'.stdout = c.stdout
  stderr : p ≠ .stderr → c'.stderr = c.stderr
  capture : p ≠ .capture → c'.capture = c.capture
  umask : p ≠ .umask → c'.umask = c.umask

/-- Each option sets its own part only. -/
theorem spared_withOption (c : Config) (p : OptionName) (v : OptionValue) : Spared p c (c.withOption (p, v)) := by
  cases p <;> cases v <;> constructor <;> intro hother <;> first | rfl | exact absurd rfl hother

/-- A part of a configuration that only one option sets stays as it is without that option. -/
theorem foldl_withOption_of_not_given {β : Type} (part : Config → β) {o : OptionName}
    (hpart : ∀ c p v, p ≠ o → part (c.withOption (p, v)) = part c) {given : Given} (h : ∀ v, (o, v) ∉ given)
    (c : Config) : part (given.foldl withOption c) = part c := by
  induction given generalizing c with
  | nil => rfl
  | cons option given ih =>
    obtain ⟨p, v⟩ := option
    have hother : p ≠ o := by
      rintro rfl
      exact h v List.mem_cons_self
    rw [List.foldl_cons, ih fun w hw => h w (List.mem_cons_of_mem _ hw), hpart c p v hother]

/-- The mask that is given, alone or always the same, is written into the configuration. -/
theorem umask_foldl_withOption {given : Given} {mask : Nat} (h : ∀ v, (.umask, v) ∈ given → v = .number mask)
    (c : Config) (hsome : c.umask = some (maskText mask) ∨ ∃ v, (.umask, v) ∈ given) :
    (given.foldl withOption c).umask = some (maskText mask) := by
  induction given generalizing c with
  | nil => simpa using hsome
  | cons option given ih =>
    obtain ⟨p, v⟩ := option
    have hrest : ∀ w, (.umask, w) ∈ given → w = .number mask := fun w hw => h w (List.mem_cons_of_mem _ hw)
    rw [List.foldl_cons]
    by_cases hmask : p = .umask
    · subst hmask
      obtain rfl := h v List.mem_cons_self
      exact ih hrest _ (.inl rfl)
    · refine ih hrest _ (hsome.imp ((spared_withOption c p v).umask hmask).trans ?_)
      rintro ⟨w, hw⟩
      obtain hw | hw := List.mem_cons.mp hw
      · cases hw
        exact absurd rfl hmask
      · exact ⟨w, hw⟩

/-- A configuration from the command line gathers no output besides using files. -/
theorem undivided_ofRequest {args : List OsString} {request : RunRequest}
    (h : Request.ofArguments args = .ok (.run request)) (program : OsString) :
    let c := ofRequest request program
    c.capture → c.stdin = none ∧ c.stdout = none ∧ c.stderr = none := by
  intro c hcapture
  by_cases hgiven : ∃ v, (.capture, v) ∈ request.given
  · obtain ⟨v, hv⟩ := hgiven
    have hfree (o : OptionName) (ho : o ∈ OptionName.excluded .capture) (w : OptionValue) : (o, w) ∉ request.given :=
      not_given_of_excluded h hv ho w
    exact ⟨foldl_withOption_of_not_given stdin (fun c p v => (spared_withOption c p v).stdin) (hfree _ (by decide)) _,
      foldl_withOption_of_not_given stdout (fun c p v => (spared_withOption c p v).stdout) (hfree _ (by decide)) _,
      foldl_withOption_of_not_given stderr (fun c p v => (spared_withOption c p v).stderr) (hfree _ (by decide)) _⟩
  · have hfalse : c.capture = false := foldl_withOption_of_not_given capture
      (fun c p v => (spared_withOption c p v).capture) (fun v hv => hgiven ⟨v, hv⟩) _
    rw [hfalse] at hcapture
    cases hcapture

/-- Wherever a configuration is executed, its mask is no reason to fail, and if it names a program then that is
launched once, with this mask. -/
def LaunchesWith (c : Config) (mask : Option Nat) : Prop :=
  ∀ {W C : Type} (h : Host W C) (parent : List OsString) (w : W),
    (∀ fault, (execute h parent c w).1 ≠ .error (.mask fault)) ∧
      (c.launch.program.isEmpty = false → ∃ options answer later,
        contacts h parent c w = .launch (c.launched parent) options answer :: later ∧
          later.countP Contact.isLaunch = 0 ∧ options.umask = mask)

end Config

/-- The value that arguments give for the mask spells one, which is written into the configuration. -/
theorem umask_ofRequest_of_gives {args : List OsString} {request : RunRequest}
    (h : Request.ofArguments args = .ok (.run request)) (program : OsString) {value : OsString}
    (hvalue : Gives .umask args value) :
    ∃ text mask, value = .ofString text ∧ readMask text = .ok mask ∧
      (Config.ofRequest request program).umask = some (maskText mask) := by
  obtain ⟨hanswers, hsingle⟩ := given_iff_gives (o := .umask) rfl rfl rfl h
  obtain ⟨v, hv, hread⟩ := (hanswers (readValue .umask value)).mpr ⟨value, hvalue, rfl⟩
  obtain ⟨text, mask, rfl, hmask, rfl⟩ := exists_mask_of_readValue hread
  have honly : ∀ w, (.umask, w) ∈ request.given → w = .number mask := fun w hw => hsingle w _ hw hv
  exact ⟨text, mask, rfl, hmask, Config.umask_foldl_withOption honly _ (.inr ⟨_, hv⟩)⟩

/-- Without a value for the mask none is written. -/
theorem umask_ofRequest_of_not_gives {args : List OsString} {request : RunRequest}
    (h : Request.ofArguments args = .ok (.run request)) (program : OsString)
    (hnone : ∀ value, ¬Gives .umask args value) : (Config.ofRequest request program).umask = none := by
  obtain ⟨hanswers, -⟩ := given_iff_gives (o := .umask) rfl rfl rfl h
  have hgiven : ∀ v, (.umask, v) ∉ request.given := by
    intro v hv
    obtain ⟨value, hvalue, -⟩ := (hanswers (.ok v)).mp ⟨v, hv, rfl⟩
    exact hnone value hvalue
  exact Config.foldl_withOption_of_not_given Config.umask
    (fun c p v => (Config.spared_withOption c p v).umask) hgiven _

/-- A configuration from the command line is launched with the mask that is written in it. -/
theorem launchesWith_ofRequest {args : List OsString} {request : RunRequest}
    (h : Request.ofArguments args = .ok (.run request)) (program : OsString) (mask : Option Nat)
    (hwritten : (Config.ofRequest request program).umask = mask.map maskText) (hbound : ∀ m ∈ mask, m ≤ 0o777) :
    (Config.ofRequest request program).LaunchesWith mask := by
  intro W C host parent w
  generalize hc : Config.ofRequest request program = c at hwritten
  cases hnamed : c.launch.program.isEmpty with
  | true =>
    refine ⟨fun fault hfailed => ?_, fun hfalse => by cases hfalse⟩
    simp only [execute, hnamed, if_true] at hfailed
    cases hfailed
  | false =>
    have hread : ∀ m ∈ mask, readMask (maskText m) = .ok m := fun m hm => readMask_maskText (hbound m hm)
    have hlaunchable : c.Launchable := by
      refine ⟨hnamed, hc ▸ Config.undivided_ofRequest h program, fun text htext => ?_⟩
      rw [hwritten, Option.map_eq_some_iff] at htext
      obtain ⟨m, hm, rfl⟩ := htext
      exact ⟨m, hread m hm⟩
    have hmask : c.mask? = mask := by
      rw [Config.mask?, hwritten]
      cases mask with
      | none => rfl
      | some m =>
        rw [Option.map_some, Option.bind_some, hread m rfl]
        rfl
    obtain ⟨answer, later, hcontacts, hlater⟩ := contacts_of_launchable host parent w hlaunchable
    exact ⟨execute_ne_mask host parent w hlaunchable, fun _ => ⟨_, answer, later, hcontacts, hlater, hmask⟩⟩

/-- Exactly the spellings of numbers up to `0o777` are read as masks, as those numbers; the spelling of a greater
number is refused as out of range or, if it does not fit a word, as too large, however long it is; and all else is
no number. So the mask of a run from the command line is the one that its arguments give: a value that is given
for it spells a mask, which is written into the configuration, is read again as itself when the run is executed,
and is what the launch asks for. Without such a value the launch asks for none. -/
theorem mask_travels_unchanged :
    (∀ text mask, readMask text = .ok mask ↔
      ∃ spelling : MaskSpelling, spelling.text = text ∧ spelling.value = mask ∧ mask ≤ 0o777) ∧
    (∀ spelling : MaskSpelling, 0o777 < spelling.value → readMask spelling.text = .error
      (if spelling.value < 2 ^ 32 then .outOfRange spelling.text else .noNumber spelling.text .tooLarge)) ∧
    (∀ text, (∀ spelling : MaskSpelling, spelling.text ≠ text) →
      ∃ fault, readMask text = .error (.noNumber text fault)) ∧
    ∀ args request, Request.ofArguments args = .ok (.run request) → ∀ program,
      let config := Config.ofRequest request program
      (∀ value, Gives .umask args value → ∃ text mask,
        value = .ofString text ∧ readMask text = .ok mask ∧ config.umask = some (maskText mask) ∧
          readMask (maskText mask) = .ok mask ∧ config.LaunchesWith (some mask)) ∧
      ((∀ value, ¬Gives .umask args value) → config.umask = none ∧ config.LaunchesWith none) := by
  refine ⟨fun text mask => readMask_eq_ok_iff, fun spelling hlarge => ?_, fun text => readMask_of_not_spelled,
    fun args request h program => ⟨fun value hvalue => ?_, fun hnone => ?_⟩⟩
  · rw [readMask_spelling, if_neg (Nat.not_le.mpr hlarge)]
  · obtain ⟨text, mask, htext, hmask, hwritten⟩ := umask_ofRequest_of_gives h program hvalue
    obtain ⟨-, -, -, hbound⟩ := readMask_eq_ok_iff.mp hmask
    exact ⟨text, mask, htext, hmask, hwritten, readMask_maskText hbound,
      launchesWith_ofRequest h program (some mask) hwritten fun m hm => Option.some.inj hm ▸ hbound⟩
  · have hwritten := umask_ofRequest_of_not_gives h program hnone
    exact ⟨hwritten, launchesWith_ofRequest h program none hwritten fun m hm => by cases hm⟩

/-- A run with marks, a sign and zeros in its mask, and with another option in front of it. -/
def markedArguments : List OsString :=
  ["run", "--detach", "--umask", "0o0o+0027", "--", "sh"].map OsString.ofString

/-- The run that they ask for. -/
def markedRequest : RunRequest where
  program := "sh"
  args := ["sh"]
  given := [(.detach, .flag), (.umask, .number 0o27)]

/-- They are read as that run. -/
theorem ofArguments_marked : Request.ofArguments markedArguments = .ok (.run markedRequest) := by
  decide +kernel

/-- They give the mask as the argument behind its option. -/
theorem marked_gives : Gives .umask markedArguments (.ofString "0o0o+0027") := by
  refine ⟨["run", "--detach"].map OsString.ofString, ["--", "sh"].map OsString.ofString, ?_, .inl rfl⟩
  intro hmem
  obtain ⟨word, hword, hdashes⟩ := List.mem_map.mp hmem
  obtain rfl : word = "--" := String.toByteArray_inj.mp hdashes
  exact absurd hword (by decide)

/-- The mask is that of its digits all the way to the launch. A number that would be a mask if a word of 32 bits
could wrap around is too large, and a digit of another base makes no number. -/
theorem marked_mask_travels :
    Request.ofArguments markedArguments = .ok (.run markedRequest) ∧
      (∀ program, (Config.ofRequest markedRequest program).umask = some "27" ∧
        (Config.ofRequest markedRequest program).LaunchesWith (some 0o27)) ∧
      readMask "40000000022" = .error (.noNumber "40000000022" .tooLarge) ∧
      ∃ fault, readMask "8" = .error (.noNumber "8" fault) := by
  obtain ⟨-, hlarge, hother, htravels⟩ := mask_travels_unchanged
  refine ⟨ofArguments_marked, fun program => ?_, ?_, hother "8" fun spelling hspelling => ?_⟩
  · obtain ⟨text, mask, htext, hmask, hwritten, -, hlaunches⟩ :=
      (htravels markedArguments markedRequest ofArguments_marked program).1 _ marked_gives
    obtain rfl : "0o0o+0027" = text := String.toByteArray_inj.mp htext
    obtain rfl : 0o27 = mask := Except.ok.inj hmask
    exact ⟨hwritten, hlaunches⟩
  · exact hlarge ⟨0, false, [4, 0, 0, 0, 0, 0, 0, 0, 0, 2, 2], List.cons_ne_nil _ _⟩ (by decide)
  · have hread := readMask_spelling spelling
    rw [hspelling] at hread
    split_ifs at hread <;> cases hread

end Run

end Offspring
