import Mathlib.Tactic.SplitIfs
import Offspring.Machine.FileTree

/-!
# Paths in a growing tree

While files are only made and written, a tree grows: every file stays where it is. What a path names before is
what it names afterwards (`FileTree.Grows.locate`); only a name that nothing had may get a file.
-/

namespace Offspring.Machine

/-- What a file may become: a directory gets more entries, a regular file other octets, and all else is kept. -/
inductive Content.Grows : Content → Content → Prop
  | directory (parent : NodeId) (entries more : List (OsString × NodeId)) :
      Content.Grows (.directory parent entries) (.directory parent (entries ++ more))
  | regular (octets octets' : ByteArray) : Content.Grows (.regular octets) (.regular octets')
  | same (content : Content) : Content.Grows content content

/-- A file that has grown has the owner and the permissions that it had. -/
structure Node.Grows (n n' : Node) : Prop where
  content : n.content.Grows n'.content
  mode : n'.mode = n.mode
  owned : n'.owned = n.owned

/-- Every file is there with its number, and the new ones are regular. -/
structure FileTree.Grows (t t' : FileTree) : Prop where
  kept : ∀ id n, t.node? id = some n → ∃ n', t'.node? id = some n' ∧ n.Grows n'
  made : ∀ id n', t.node? id = none → t'.node? id = some n' → ∃ octets, n'.content = .regular octets

/-- A directory stays one, with the entries that it had in front. -/
theorem Content.Grows.of_directory {parent : NodeId} {entries : List (OsString × NodeId)} {content : Content}
    (h : (Content.directory parent entries).Grows content) : ∃ more, content = .directory parent (entries ++ more) := by
  cases h with
  | directory _ _ more => exact ⟨more, rfl⟩
  | same => exact ⟨[], by rw [List.append_nil]⟩

/-- A regular file stays one. -/
theorem Content.Grows.of_regular {octets : ByteArray} {content : Content}
    (h : (Content.regular octets).Grows content) : ∃ octets', content = .regular octets' := by
  cases h with
  | regular _ octets' => exact ⟨octets', rfl⟩
  | same => exact ⟨octets, rfl⟩

theorem Content.Grows.trans {a b c : Content} (h : a.Grows b) (h' : b.Grows c) : a.Grows c := by
  cases h with
  | directory parent entries more =>
    obtain ⟨others, rfl⟩ := h'.of_directory
    rw [List.append_assoc]
    exact .directory parent entries (more ++ others)
  | regular octets _ =>
    obtain ⟨octets', rfl⟩ := h'.of_regular
    exact .regular octets octets'
  | same => exact h'

namespace Node.Grows

variable {n n' n'' : Node}

theorem refl (n : Node) : n.Grows n :=
  ⟨.same n.content, rfl, rfl⟩

theorem trans (h : n.Grows n') (h' : n'.Grows n'') : n.Grows n'' :=
  ⟨h.content.trans h'.content, h'.mode.trans h.mode, h'.owned.trans h.owned⟩

/-- The user may do what he might before. -/
theorem allows (h : n.Grows n') (p : Permission) : n'.allows p = n.allows p := by
  rw [Node.allows, Node.allows, h.mode, h.owned]

/-- A file stays a file. -/
theorem isFile (h : n.Grows n') : n'.isFile = n.isFile := by
  obtain ⟨content, _, _⟩ := n
  obtain ⟨content', _, _⟩ := n'
  have hcontent : content.Grows content' := h.content
  cases hcontent <;> rfl

end Node.Grows

namespace FileTree

variable {t t' t'' : FileTree}

namespace Grows

theorem refl (t : FileTree) : t.Grows t where
  kept _ n h := ⟨n, h, .refl n⟩
  made _ _ hnone hsome := by
    rw [hnone] at hsome
    cases hsome

theorem trans (h : t.Grows t') (h' : t'.Grows t'') : t.Grows t'' where
  kept id n hn := by
    obtain ⟨n', hn', hgrows⟩ := h.kept id n hn
    obtain ⟨n'', hn'', hgrows'⟩ := h'.kept id n' hn'
    exact ⟨n'', hn'', hgrows.trans hgrows'⟩
  made id n'' hnone hn'' := by
    cases hbetween : t'.node? id with
    | none => exact h'.made id n'' hbetween hn''
    | some n' =>
      obtain ⟨octets, hregular⟩ := h.made id n' hnone hbetween
      obtain ⟨later, hlater, hgrows⟩ := h'.kept id n' hbetween
      rw [hn''] at hlater
      cases hlater
      exact (hregular ▸ hgrows.content).of_regular

/-- A tree grows if one file does. -/
theorem modify (t : FileTree) (id : NodeId) {f : Node → Node} (hf : ∀ n : Node, n.Grows (f n)) :
    t.Grows ⟨t.nodes.modify id f⟩ where
  kept other n hn := by
    have hother : (⟨t.nodes.modify id f⟩ : FileTree).node? other = if id = other then some (f n) else some n := by
      rw [FileTree.node?, Array.getElem?_modify]
      rw [FileTree.node?] at hn
      rw [hn]
      rfl
    rw [hother]
    by_cases hsame : id = other
    · rw [if_pos hsame]
      exact ⟨f n, rfl, hf n⟩
    · rw [if_neg hsame]
      exact ⟨n, rfl, .refl n⟩
  made other n' hnone hn' := by
    rw [FileTree.node?] at hnone
    rw [FileTree.node?, Array.getElem?_modify, hnone] at hn'
    split at hn' <;> cases hn'

/-- A tree grows if a regular file is added. -/
theorem push (t : FileTree) (octets : ByteArray) (mode : Nat) (owned : Bool) :
    t.Grows ⟨t.nodes.push ⟨.regular octets, mode, owned⟩⟩ where
  kept id n hn := by
    rw [FileTree.node?] at hn
    obtain ⟨hid, -⟩ := Array.getElem?_eq_some_iff.mp hn
    have hsame : (⟨t.nodes.push ⟨.regular octets, mode, owned⟩⟩ : FileTree).node? id = some n := by
      rw [FileTree.node?, Array.getElem?_push, if_neg (Nat.ne_of_lt hid), hn]
    exact ⟨n, hsame, .refl n⟩
  made id n' hnone hn' := by
    rw [FileTree.node?] at hnone
    rw [FileTree.node?, Array.getElem?_push, hnone] at hn'
    split at hn' <;> cases hn'
    exact ⟨octets, rfl⟩

/-- Writing to a file keeps it and all others. -/
theorem modifyOctets (t : FileTree) (id : NodeId) (f : ByteArray → ByteArray) : t.Grows (t.modifyOctets id f) := by
  apply modify
  intro n
  obtain ⟨content, mode, owned⟩ := n
  cases content with
  | regular octets => exact ⟨.regular octets _, rfl, rfl⟩
  | directory | link | device | tool | selfReport | descriptor => exact .refl _

/-- Making a regular file keeps all that were there. -/
theorem make (t : FileTree) (dir : NodeId) (name : OsString) (octets : ByteArray) (mode : Nat) (owned : Bool) :
    t.Grows (t.make dir name ⟨.regular octets, mode, owned⟩).2 := by
  apply (push t octets mode owned).trans
  apply modify
  intro n
  obtain ⟨content, mode, owned⟩ := n
  cases content with
  | directory parent entries => exact ⟨.directory parent entries _, rfl, rfl⟩
  | regular | link | device | tool | selfReport | descriptor => exact .refl _

end Grows

/-- Where the link leads that a number stands for, if it is one. -/
def target? (t : FileTree) (id : NodeId) : Option OsString :=
  match t.node? id with
  | some ⟨.link target, _, _⟩ => some target
  | _ => none

/-- In a directory every name but the two of directories is looked up. -/
theorem enter_directory {dir parent : NodeId} {entries : List (OsString × NodeId)} {mode : Nat} {owned : Bool}
    (h : t.node? dir = some ⟨.directory parent entries, mode, owned⟩) (name : OsString) :
    t.enter dir name =
      if !(⟨.directory parent entries, mode, owned⟩ : Node).allows .execute then .error .accessDenied
      else if name = dot then .ok (some (dir, none))
      else if name = dotDot then .ok (some (parent, none))
      else if nameLimit < name.size then .error .nameTooLong
      else .ok ((entries.lookup name).map fun id => (id, t.target? id)) := by
  simp only [enter, h, target?]
  cases entries.lookup name with
  | none => rfl
  | some id =>
    simp only [Option.map_some]
    cases t.node? id with
    | none => rfl
    | some node =>
      obtain ⟨content, _, _⟩ := node
      cases content <;> rfl

/-- Only a directory can be entered. -/
theorem directory_of_enter {dir : NodeId} {name : OsString} {step : Option (NodeId × Option OsString)}
    (h : t.enter dir name = .ok step) :
    ∃ parent entries mode owned, t.node? dir = some ⟨.directory parent entries, mode, owned⟩ := by
  rw [enter] at h
  split at h
  · rename_i parent entries mode owned hnode
    exact ⟨parent, entries, mode, owned, hnode⟩
  · cases h

namespace Grows

variable (g : t.Grows t')
include g

/-- A link leads where it led, and nothing becomes one. -/
theorem target? (id : NodeId) : t'.target? id = t.target? id := by
  rw [FileTree.target?, FileTree.target?]
  cases hnode : t.node? id with
  | none =>
    cases hnode' : t'.node? id with
    | none => rfl
    | some n' =>
      obtain ⟨octets, hregular⟩ := g.made id n' hnode hnode'
      obtain ⟨_, _, _⟩ := n'
      cases hregular
      rfl
  | some n =>
    obtain ⟨n', hnode', hcontent, -, -⟩ := g.kept id n hnode
    obtain ⟨content, _, _⟩ := n
    obtain ⟨content', _, _⟩ := n'
    rw [hnode']
    cases hcontent with
    | directory | regular => rfl
    | same => cases content <;> rfl

/-- A name leads where it led. -/
theorem enter {dir : NodeId} {name : OsString} {step : NodeId × Option OsString}
    (h : t.enter dir name = .ok (some step)) : t'.enter dir name = .ok (some step) := by
  obtain ⟨parent, entries, mode, owned, hnode⟩ := directory_of_enter h
  obtain ⟨⟨content, mode', owned'⟩, hnode', hgrows⟩ := g.kept dir _ hnode
  obtain ⟨more, hcontent⟩ := hgrows.content.of_directory
  cases hcontent
  rw [enter_directory hnode] at h
  rw [enter_directory hnode', hgrows.allows .execute]
  split_ifs at h ⊢ with hexecute hdot hdots hlength
  · exact h
  · exact h
  · cases hlookup : entries.lookup name with
    | none =>
      rw [hlookup] at h
      cases h
    | some id =>
      rw [hlookup] at h
      rw [List.lookup_append, hlookup, ← h]
      simp only [Option.some_or, Option.map_some, g.target? id]

/-- A walk up to a link, or to a file, leads where it led. -/
theorem stretch {follow : Bool} {dir : NodeId} {path : List OsString} {s : Stretch}
    (h : t.stretch follow dir path = .ok s) (hs : ∀ d name, s ≠ .arrived (.missing d name)) :
    t'.stretch follow dir path = .ok s := by
  induction path generalizing dir with
  | nil => exact h
  | cons name rest ih =>
    rw [FileTree.stretch] at h ⊢
    cases henter : t.enter dir name with
    | error e =>
      rw [henter] at h
      cases h
    | ok step =>
      rw [henter] at h
      simp only [bind, Except.bind] at h ⊢
      cases step with
      | none =>
        -- A name without a file ends the walk, or is an error.
        simp only at h
        split_ifs at h
        cases h
        exact absurd rfl (hs dir name)
      | some step =>
        obtain ⟨id, target⟩ := step
        rw [g.enter henter]
        cases target with
        | some target => exact h
        | none =>
          simp only at h ⊢
          split_ifs at h ⊢ with hlast
          · exact h
          · exact ih h

/-- A walk to a file begins as it did. -/
theorem stretch_of_walk {follow : Bool} {links : Nat} {dir d : NodeId} {path : List OsString} {name : OsString}
    {id : NodeId} (h : t.walk follow links dir path = .ok (.found d name id)) :
    ∃ s, t.stretch follow dir path = .ok s ∧ t'.stretch follow dir path = .ok s := by
  rw [FileTree.walk] at h
  cases hstretch : t.stretch follow dir path with
  | error e =>
    rw [hstretch] at h
    cases h
  | ok s =>
    apply Exists.intro s
    apply And.intro rfl
    apply g.stretch hstretch
    intro d' name' hmissing
    rw [hstretch, hmissing] at h
    cases h

/-- A walk to a file leads there. -/
theorem walk {follow : Bool} {links : Nat} {dir d : NodeId} {path : List OsString} {name : OsString} {id : NodeId}
    (h : t.walk follow links dir path = .ok (.found d name id)) :
    t'.walk follow links dir path = .ok (.found d name id) := by
  induction links generalizing dir path with
  | zero =>
    obtain ⟨s, hs, hs'⟩ := g.stretch_of_walk h
    rw [FileTree.walk, hs] at h
    rw [FileTree.walk, hs']
    exact h
  | succ links ih =>
    obtain ⟨s, hs, hs'⟩ := g.stretch_of_walk h
    rw [FileTree.walk, hs] at h
    rw [FileTree.walk, hs']
    simp only [bind, Except.bind] at h ⊢
    cases s with
    | arrived place => exact h
    | link dir target rest =>
      simp only at h ⊢
      split_ifs at h ⊢
      · exact ih h
      · exact ih h

/-- A path that names a file goes on to name it. -/
theorem locate {cwd : NodeId} {path : OsString} {id : NodeId} {n : Node} (h : t.locate cwd path = .ok (id, n)) :
    ∃ n', t'.locate cwd path = .ok (id, n') ∧ n.Grows n' := by
  have hresolve : ∃ dir name, t.resolve cwd path true = .ok (.found dir name id) ∧ t.node? id = some n := by
    rw [FileTree.locate] at h
    cases hplace : t.resolve cwd path true with
    | error e =>
      rw [hplace] at h
      cases h
    | ok place =>
      rw [hplace] at h
      simp only [bind, Except.bind] at h
      cases place with
      | missing => cases h
      | found dir name other =>
        simp only at h
        split at h
        · rename_i node hnode
          cases h
          exact ⟨dir, name, rfl, hnode⟩
        · cases h
  obtain ⟨dir, name, hplace, hnode⟩ := hresolve
  obtain ⟨n', hnode', hgrows⟩ := g.kept id n hnode
  have hplace' : t'.resolve cwd path true = .ok (.found dir name id) := by
    rw [resolve, resolveSteps] at hplace ⊢
    cases hcheck : checkPath path with
    | error e =>
      rw [hcheck] at hplace
      cases hplace
    | ok =>
      rw [hcheck] at hplace
      exact g.walk hplace
  apply Exists.intro n'
  rw [FileTree.locate, hplace']
  simp only [bind, Except.bind, hnode']
  exact ⟨trivial, hgrows⟩

end Grows

/-- An absolute path names the same from every directory. -/
theorem locate_absolute {path : OsString} (h : isAbsolute path = true) (cwd other : NodeId) :
    t.locate cwd path = t.locate other path := by
  rw [locate, locate, resolve, resolve, resolveSteps, resolveSteps, if_pos h, if_pos h]

end FileTree

end Offspring.Machine
