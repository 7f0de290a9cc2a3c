import Offspring.Posix.ExecPlan
import Offspring.Proofs.Text.Lossy

/-!
# Strings are read as they were laid out

Reading stops at the first NUL and at the first null pointer. The octets of a string hold no NUL, so the first
one is the one behind them, and the pointers of an array lead to its strings, so the first null pointer is the
last one. Octets that hold a NUL would be cut short; laying them out is refused. So a child reads of its plan what
was asked for (`prepared_of_ofSpec`).
-/

namespace Offspring.Posix

/-- Octets that hold no NUL are those in front of the first NUL. -/
theorem takeWhile_of_hasNul {octets : OsString} (h : octets.hasNul = false) (rest : List UInt8) :
    (octets.data.toList ++ 0 :: rest).takeWhile (· ≠ 0) = octets.data.toList := by
  have hclean : ∀ b ∈ octets.data.toList, decide (b ≠ 0) = true := by
    intro b hb
    rw [OsString.hasNul, Text.toList_eq_data] at h
    refine decide_eq_true fun hnul => ?_
    rw [hnul, ← List.contains_iff_mem, h] at hb
    cases hb
  rw [List.takeWhile_append_of_pos hclean]
  simp

/-- A string is read as it was laid out. -/
theorem CString.read_eq (s : CString) : s.read = s.octets := by
  have hmemory : s.memory.data.toList = s.octets.data.toList ++ [0] := by
    simp [memory, ByteArray.data_push]
  apply ByteArray.ext
  apply Array.toList_inj.mp
  rw [read, hmemory]
  exact takeWhile_of_hasNul s.whole []

/-- Peels one step off a success. -/
theorem ok_of_bind_ok {ε α β : Type} {x : Except ε α} {f : α → Except ε β} {b : β} (h : x >>= f = .ok b) :
    ∃ a, x = .ok a ∧ f a = .ok b := by
  cases x with
  | error cause => cases h
  | ok a => exact ⟨a, rfl, h⟩

namespace CString

/-- Octets are laid out as they are, or refused because of a NUL. -/
theorem ofOctets_eq (what : String) (octets : OsString) :
    (octets.hasNul = true ∧ ofOctets what octets = .error (.nulByte what)) ∨
      ∃ s : CString, octets.hasNul = false ∧ ofOctets what octets = .ok s ∧ s.octets = octets := by
  by_cases h : octets.hasNul = false
  · exact .inr ⟨⟨octets, h⟩, h, dif_pos h, rfl⟩
  · exact .inl ⟨by simpa using h, dif_neg h⟩

/-- Octets that could be laid out are laid out as they are. -/
theorem octets_of_ofOctets {what : String} {octets : OsString} {s : CString} (h : ofOctets what octets = .ok s) :
    s.octets = octets := by
  obtain ⟨-, hrefused⟩ | ⟨laid, -, hlaid, hoctets⟩ := ofOctets_eq what octets
  · rw [hrefused] at h
    cases h
  · rw [hlaid] at h
    cases h
    exact hoctets

/-- Texts that could be laid out are laid out as they are. -/
theorem octets_of_ofTexts {what : String} {texts : List String} {laid : List CString}
    (h : ofTexts what texts = .ok laid) : laid.map CString.octets = texts.map OsString.ofString := by
  induction texts generalizing laid with
  | nil =>
    cases h
    rfl
  | cons text rest ih =>
    rw [ofTexts, List.mapM_cons] at h
    obtain ⟨s, hs, h⟩ := ok_of_bind_ok h
    obtain ⟨more, hmore, h⟩ := ok_of_bind_ok h
    cases h
    rw [List.map_cons, List.map_cons, octets_of_ofOctets hs, ih hmore]

end CString

namespace StringArray

/-- The pointers to the last strings, and the null pointer behind them, lead to these strings. -/
theorem follow_range (before texts : List CString) :
    follow (before ++ texts) ((List.range' before.length texts.length).map some ++ [none]) =
      texts.map CString.octets := by
  induction texts generalizing before with
  | nil => rfl
  | cons text rest ih =>
    have hplace : (before ++ text :: rest)[before.length]? = some text := by simp
    have hrest := ih (before ++ [text])
    rw [List.append_assoc, List.singleton_append, List.length_append, List.length_singleton] at hrest
    rw [List.length_cons, List.range'_succ, List.map_cons, List.cons_append, follow, hplace, hrest]
    simp [CString.read_eq]

/-- An array is read as it was laid out. -/
theorem read_ofTexts (texts : List CString) : (ofTexts texts).read = texts.map CString.octets := by
  rw [read, ofTexts, List.range_eq_range']
  exact follow_range [] texts

end StringArray

/-! ### What is prepared -/

/-- The steps of making a plan, one behind the other. -/
theorem ExecPlan.ofSpec_steps (spec : LaunchSpec) (options : LaunchOptions) (stdio : Stdio) :
    ExecPlan.ofSpec spec options stdio =
      (if spec.program.isEmpty then .error (.invalidArgument "empty program path") else .ok ()) >>= fun _ =>
      CString.ofOctets "program path" spec.program >>= fun program =>
      CString.ofTexts "argument" spec.argv >>= fun argv =>
      CString.ofTexts "environment entry" spec.env >>= fun envp =>
      (if spec.cwd.isEmpty then .ok none else (CString.ofOctets "working directory" spec.cwd).map some) >>=
        fun cwd => .ok {
          program, argv := .ofTexts argv, envp := .ofTexts envp, cwd, targets := stdio.targets,
          umask := options.umask.map (· % 0o1000), detach := options.detach } := by
  unfold ExecPlan.ofSpec
  cases spec.program.isEmpty <;> cases spec.cwd.isEmpty <;> rfl

/-- What a child reads of its plan is what it was asked for. -/
structure Prepared (spec : LaunchSpec) (options : LaunchOptions) (plan : ExecPlan) : Prop where
  program : plan.program.read = spec.program
  /-- The program's path, as text, stands in for an empty argument vector. -/
  argv : plan.argv.read =
    (if spec.args.isEmpty then [Text.lossy spec.program] else spec.args).map OsString.ofString
  envp : plan.envp.read = spec.env.map OsString.ofString
  cwd : plan.cwd.map CString.read = if spec.cwd.isEmpty then none else some spec.cwd
  /-- The permission bits of the mask that was given. -/
  umask : plan.umask = options.umask.map (· % 0o1000)
  detach : plan.detach = options.detach

/-- A plan has prepared what it was made for. -/
theorem prepared_of_ofSpec {spec : LaunchSpec} {options : LaunchOptions} {stdio : Stdio} {plan : ExecPlan}
    (h : ExecPlan.ofSpec spec options stdio = .ok plan) : Prepared spec options plan := by
  rw [ExecPlan.ofSpec_steps] at h
  obtain ⟨_, -, h⟩ := ok_of_bind_ok h
  obtain ⟨program, hprogram, h⟩ := ok_of_bind_ok h
  obtain ⟨argv, hargv, h⟩ := ok_of_bind_ok h
  obtain ⟨envp, henvp, h⟩ := ok_of_bind_ok h
  obtain ⟨cwd, hcwd, h⟩ := ok_of_bind_ok h
  have hdirectory : cwd.map CString.read = if spec.cwd.isEmpty then none else some spec.cwd := by
    split at hcwd
    · cases hcwd
      rw [if_pos ‹_›]
      rfl
    · rw [if_neg ‹_›]
      cases hlaid : CString.ofOctets "working directory" spec.cwd with
      | error cause =>
        rw [hlaid] at hcwd
        cases hcwd
      | ok dir =>
        rw [hlaid] at hcwd
        cases hcwd
        rw [Option.map_some, CString.read_eq, CString.octets_of_ofOctets hlaid]
  cases h
  refine ⟨?_, ?_, ?_, hdirectory, rfl, rfl⟩
  · rw [CString.read_eq, CString.octets_of_ofOctets hprogram]
  · rw [StringArray.read_ofTexts, CString.octets_of_ofTexts hargv]
    rfl
  · rw [StringArray.read_ofTexts, CString.octets_of_ofTexts henvp]

end Offspring.Posix
