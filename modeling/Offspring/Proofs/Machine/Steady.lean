import Mathlib.Tactic.SplitIfs
import Offspring.Machine.Kernel
import Offspring.Proofs.Machine.Growth

/-!
# Calls that move no process

Between two calls that change a directory, every process works where it did, and the tree of files only grows.
`Steady` says so of two states of a machine. It holds across all calls by which the client opens the files of a
child (`steady_openFile`, `steady_makePipe`) and by which a child prepares for its program, but for the one that
changes its directory.
-/

namespace Offspring.Machine

open Posix (Fd Pid)

variable {T : Type} {m m' m'' : Machine T}

/-- Where a process works. -/
def cwd? (m : Machine T) (pid : Pid) : Option NodeId :=
  (m.process? pid).map (·.cwd)

/-- No process has moved, and every file is where it was. -/
structure Steady (m m' : Machine T) : Prop where
  tree : m.tree.Grows m'.tree
  cwd : ∀ pid, m'.cwd? pid = m.cwd? pid

namespace Steady

theorem refl (m : Machine T) : m.Steady m :=
  ⟨.refl m.tree, fun _ => rfl⟩

theorem trans (h : m.Steady m') (h' : m'.Steady m'') : m.Steady m'' :=
  ⟨h.tree.trans h'.tree, fun pid => (h'.cwd pid).trans (h.cwd pid)⟩

end Steady

/-- Changing a process changes the one with its number. -/
theorem process?_modifyProcess (m : Machine T) (pid other : Pid) (f : Process T → Process T) :
    (m.modifyProcess pid f).process? other = if pid = other then (m.process? other).map f else m.process? other := by
  rw [process?, process?, modifyProcess, Array.getElem?_modify]
  split
  · cases m.processes[other]? with
    | none => rfl
    | some p => cases p <;> rfl
  · rfl

/-- A change of a process that leaves its directory alone. -/
theorem steady_modifyProcess (m : Machine T) (pid : Pid) {f : Process T → Process T} (hf : ∀ p, (f p).cwd = p.cwd) :
    m.Steady (m.modifyProcess pid f) where
  tree := .refl m.tree
  cwd other := by
    rw [cwd?, cwd?, process?_modifyProcess]
    split
    · rw [Option.map_map]
      exact congrArg (Option.map · (m.process? other)) (funext hf)
    · rfl

/-- A change of neither the tree nor the processes. -/
theorem steady_of_eq (htree : m'.tree = m.tree) (hprocesses : m'.processes = m.processes) : m.Steady m' where
  tree := htree ▸ .refl m.tree
  cwd pid := by rw [cwd?, cwd?, process?, process?, hprocesses]

/-! ### Descriptors -/

theorem steady_close (pid : Pid) (fd : Fd) (m : Machine T) : m.Steady (m.close pid fd) :=
  steady_modifyProcess m pid fun _ => rfl

theorem steady_install (m : Machine T) (pid : Pid) (file : OpenFile) (closeOnExec : Bool) :
    m.Steady (m.install pid file closeOnExec).2 := by
  rw [install]
  split
  · exact .refl m
  · dsimp only
    split
    · exact .refl m
    · have hfiles : m.Steady { m with files := m.files.push file } := steady_of_eq rfl rfl
      exact hfiles.trans (steady_modifyProcess _ pid fun _ => rfl)

theorem steady_makePipe (pid : Pid) (m : Machine T) : m.Steady (m.makePipe pid).2 := by
  have hpipes : m.Steady { m with pipes := m.pipes.push .empty } := steady_of_eq rfl rfl
  rw [makePipe]
  split
  · exact .refl m
  · dsimp only
    have hreader := hpipes.trans (steady_install _ pid ⟨.reader m.pipes.size, true, false, false, 0⟩ true)
    split
    · exact .refl m
    · rename_i reader opened hopened
      rw [hopened] at hreader
      have hwriter := hreader.trans (steady_install _ pid ⟨.writer m.pipes.size, false, true, false, 0⟩ true)
      split
      · rename_i hfailed
        rw [hfailed] at hwriter
        exact hwriter.trans (steady_close pid reader _)
      · rename_i hopened'
        rw [hopened'] at hwriter
        exact hwriter

theorem steady_duplicate (pid : Pid) (fd target : Fd) (m : Machine T) : m.Steady (m.duplicate pid fd target).2 := by
  rw [duplicate]
  split
  · exact .refl m
  · exact .refl m
  · split
    · exact .refl m
    · split_ifs
      · exact .refl m
      · exact .refl m
      · exact steady_modifyProcess m pid fun _ => rfl

theorem steady_keepOnExec (pid : Pid) (fd : Fd) (m : Machine T) : m.Steady (m.keepOnExec pid fd).2 := by
  rw [keepOnExec]
  split
  · exact .refl m
  · exact steady_modifyProcess m pid fun _ => rfl

/-! ### Files -/

/-- Opening a file makes it or empties it at most. -/
theorem grows_openItself {pid : Pid} {id : NodeId} {node : Node} {mode : OpenMode} {channel : Channel}
    {tree : FileTree} (h : m.openItself pid id node mode = .ok (channel, tree)) : m.tree.Grows tree := by
  rw [openItself] at h
  split at h
  · cases h
  split at h
  · cases h
  split at h
  · cases h
    exact .refl _
  · cases h
    split
    · exact .modifyOctets _ _ _
    · exact .refl _
  · cases h
    exact .refl _

theorem grows_openNode {pid : Pid} {id : NodeId} {node : Node} {mode : OpenMode} {channel : Channel}
    {tree : FileTree} (h : m.openNode pid id node mode = .ok (channel, tree)) : m.tree.Grows tree := by
  rw [openNode] at h
  split at h
  · split at h
    · cases h
    · split at h
      · exact grows_openItself h
      · cases h
    · cases h
      exact .refl _
    · cases h
      exact .refl _
    · cases h
      exact .refl _
  · exact grows_openItself h

theorem grows_openPath {pid : Pid} {p : Process T} {path : OsString} {mode : OpenMode} {channel : Channel}
    {tree : FileTree} (h : m.openPath pid p path mode = .ok (channel, tree)) : m.tree.Grows tree := by
  rw [openPath] at h
  split at h
  · -- A path that ends in a slash can only name a directory, which is not opened so.
    cases hplace : m.tree.resolveSteps p.cwd path true (FileTree.names path).dropLast with
    | error e =>
      rw [hplace] at h
      cases h
    | ok place =>
      rw [hplace] at h
      simp only [bind, Except.bind] at h
      split at h
      · cases h
      · split at h
        · split at h <;> cases h
        · cases h
  · cases hplace : m.tree.resolve p.cwd path true with
    | error e =>
      rw [hplace] at h
      cases h
    | ok place =>
      rw [hplace] at h
      simp only [bind, Except.bind] at h
      cases place with
      | found dir name id =>
        simp only at h
        split at h
        · exact grows_openNode h
        · cases h
      | missing dir name =>
        simp only at h
        split at h
        · cases h
        split at h
        · cases h
        · cases h
          exact .make _ _ _ _ _ _

theorem steady_openFile (pid : Pid) (path : OsString) (mode : OpenMode) (closeOnExec : Bool) (m : Machine T) :
    m.Steady (m.openFile pid path mode closeOnExec).2 := by
  rw [openFile]
  split
  · exact .refl m
  · exact .refl m
  · split_ifs
    · exact .refl m
    · split
      · exact .refl m
      · rename_i p _ _ channel tree hopened
        have htree : m.Steady { m with tree } := ⟨grows_openPath hopened, fun _ => rfl⟩
        exact htree.trans (steady_install _ pid _ closeOnExec)

/-! ### Processes -/

theorem steady_newSession (pid : Pid) (m : Machine T) : m.Steady (m.newSession pid).2 := by
  rw [newSession]
  split
  · exact .refl m
  · exact .refl m
  · split_ifs
    · exact .refl m
    · exact steady_modifyProcess m pid fun _ => rfl

theorem steady_setUmask (pid : Pid) (mask : Nat) (m : Machine T) : m.Steady (m.setUmask pid mask) :=
  steady_modifyProcess m pid fun _ => rfl

end Offspring.Machine
