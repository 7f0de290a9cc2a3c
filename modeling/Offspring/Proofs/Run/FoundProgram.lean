import Offspring.Proofs.Machine.Departure
import Offspring.Proofs.Run.Launching
import Offspring.Run.Session

/-!
# The program that is found and the one that is run

A bare name is looked for in the places of the search path from where the client works, and what is found there
is handed to the child as a path. The child may work elsewhere by the time that it runs the path. If the place is
absolute, or the child works where the client does, the path still names the file that was found
(`found_program_runs`); a relative place leads elsewhere from another directory (`relative_place_misleads`).
-/

namespace Offspring.Run

open Machine (FileTree NodeId client)

/-- The places of a search path. -/
def places (search : OsString) : List OsString :=
  (splitOctets 0x3A search.toList).map fun place => ⟨place.toArray⟩

/-- The first place with a file of the name counts. -/
theorem findProgram_first {isFile : OsString → Bool} {search program place : OsString} {before after : List OsString}
    (hbare : hasDirectory program = false) (hplaces : places search = before ++ place :: after)
    (hbefore : ∀ other ∈ before, isFile (joinPath other program) = false)
    (hfile : isFile (joinPath place program) = true) :
    findProgram isFile (some search) program = joinPath place program := by
  have hpaths : ((splitOctets 0x3A search.toList).map fun dir => joinPath ⟨dir.toArray⟩ program) =
      (before ++ place :: after).map (joinPath · program) := by
    rw [← hplaces, places, List.map_map]
    rfl
  have hnone : ((before.map (joinPath · program)).find? isFile) = none := by
    simpa using hbefore
  have hfind : ((before ++ place :: after).map (joinPath · program)).find? isFile = some (joinPath place program) := by
    rw [List.map_append, List.find?_append, hnone, List.map_cons, List.find?_cons_of_pos hfile]
    rfl
  rw [findProgram, hbare, if_neg Bool.false_ne_true, Option.map_some, Option.getD_some, hpaths]
  exact congrArg (Option.getD · program) hfind

/-- A bare name does not begin with a slash. -/
theorem isAbsolute_of_bare {program : OsString} (hbare : hasDirectory program = false) :
    FileTree.isAbsolute program = false := by
  rw [hasDirectory, Bool.or_eq_false_iff] at hbare
  exact hbare.1

/-- A path is absolute if its place is. -/
theorem isAbsolute_joinPath {program : OsString} (hbare : hasDirectory program = false) (place : OsString) :
    FileTree.isAbsolute (joinPath place program) = FileTree.isAbsolute place := by
  have hpush : (place.push slash).toList = place.toList ++ [slash] := by
    simp [Text.toList_eq_data, ByteArray.data_push]
  have hprogram := isAbsolute_of_bare hbare
  rw [FileTree.isAbsolute] at hprogram
  cases hplace : place.toList with
  | nil =>
    have hempty : place.isEmpty = true := by
      have hnone : place.data.toList = [] := by rw [← Text.toList_eq_data, hplace]
      have hsize : place.size = 0 := congrArg List.length hnone
      rw [ByteArray.isEmpty, hsize]
      rfl
    rw [joinPath, hempty, Bool.true_or, if_pos rfl, FileTree.isAbsolute, FileTree.isAbsolute, Text.toList_append, hplace,
      List.nil_append, hprogram]
    rfl
  | cons b rest =>
    rw [joinPath, FileTree.isAbsolute, FileTree.isAbsolute]
    split
    · rw [Text.toList_append, hplace]
      rfl
    · rw [Text.toList_append, hpush, hplace]
      rfl

/-- The program of a request is the one that was found for it. -/
theorem program_ofRequest (request : RunRequest) (path : OsString) :
    (Config.ofRequest request path).launch.program = path := by
  have hkept : ∀ (given : Given) (c : Config), (given.foldl Config.withOption c).launch.program = c.launch.program := by
    intro given
    induction given with
    | nil => exact fun _ => rfl
    | cons option given ih =>
      intro c
      rw [List.foldl_cons, ih]
      unfold Config.withOption
      split <;> rfl
  exact hkept request.given _

/-- Making a console buffer changes neither the files nor the processes. -/
theorem steady_bufferOf (config : Config) (w : World) : w.Steady (bufferOf host config w).2 := by
  rw [bufferOf]
  split
  · exact Machine.steady_of_eq rfl rfl
  · exact .refl w

/-- A bare name is looked for from where the client works, place by place, and the path of the first file is what
the child gives to the operating system, unchanged. By then the child works in the directory that is given for it.
If the place is absolute, or that directory is the client's, the path still names the file that was found, whatever
files the launch has made or emptied meanwhile. -/
theorem found_program_runs (env : List OsString) (request : RunRequest) (w : World) {search place : OsString}
    {before after : List OsString} (hbare : hasDirectory (.ofString request.program) = false)
    (hsearch : variableOf env "PATH" = some search) (hplaces : places search = before ++ place :: after)
    (hbefore : ∀ other ∈ before, isFile w (joinPath other (.ofString request.program)) = false)
    (hfile : isFile w (joinPath place (.ofString request.program)) = true) :
    let path := joinPath place (.ofString request.program)
    let config := Config.ofRequest request path
    configOf env (.run request) w = (.ok config, w) ∧
    ∃ id node, w.tree.locate w.workingDirectory path = .ok (id, node) ∧ node.isFile = true ∧
      ∀ f : Posix.Fork World.kernel (config.launched env) (config.options (host.newSink w).1)
          (bufferOf host config w).2,
        let course := f.plan.course World.kernel f.child f.plan.preparations f.world
        course.failed = none →
        f.plan.program.read = path ∧
        ∃ dir, World.Departed w config.launch.cwd f.child course.world dir ∧
          (FileTree.isAbsolute place = true ∨ dir = w.workingDirectory →
            ∃ node', course.world.tree.locate dir path = .ok (id, node') ∧ node'.isFile = true) := by
  intro path config
  have hfound : findProgram (isFile w) (some search) (.ofString request.program) = path :=
    findProgram_first hbare hplaces hbefore hfile
  have hlocate : ∃ id node, w.tree.locate w.workingDirectory path = .ok (id, node) ∧ node.isFile = true := by
    have hpath : isFile w path = true := hfile
    rw [isFile] at hpath
    split at hpath
    · rename_i id node hnode
      exact ⟨id, node, hnode, hpath⟩
    · cases hpath
  obtain ⟨id, node, hnode, hisFile⟩ := hlocate
  refine ⟨by simp only [configOf, hsearch, hfound, config], id, node, hnode, hisFile, ?_⟩
  intro f course hcourse
  have hprogram : f.plan.program.read = path :=
    (Posix.prepared_of_ofSpec f.ofSpec_eq).program.trans (program_ofRequest request path)
  obtain ⟨dir, hdeparted⟩ := World.departed_of_course f hcourse
  have hdeparted := hdeparted.of_steady (steady_bufferOf config w)
  refine ⟨hprogram, dir, hdeparted, fun hreached => ?_⟩
  -- The path names in the tree as it was what it names in the tree as it is, and from either directory.
  have hsame : w.tree.locate dir path = .ok (id, node) := by
    obtain hplace | hdir := hreached
    · have habsolute : FileTree.isAbsolute path = true := (isAbsolute_joinPath hbare place).trans hplace
      rw [FileTree.locate_absolute habsolute dir w.workingDirectory, hnode]
    · rw [hdir, hnode]
  obtain ⟨node', hnode', hgrows⟩ := hdeparted.tree.locate hsame
  exact ⟨node', hnode', hgrows.isFile.trans hisFile⟩

/-! ### Two programs of one name -/

/-- A script that only ends, with a code. -/
def ending (code : String) : Machine.Content :=
  .regular (OsString.ofString ("#!/bin/sh\nexit " ++ code ++ "\n"))

/-- Two programs of one name, one of them below another directory, in directories that are made first. -/
def provideTwins : Except Errno World := do
  let w ← ["bin", "d", "d/bin"].foldlM (fun w dir => w.provideDirectory (.ofString dir)) World.initial
  let w ← w.provide (.ofString "bin/prog") (ending "3") 0o755
  w.provide (.ofString "d/bin/prog") (ending "4") 0o755

theorem provideTwins_isSome : provideTwins.toOption.isSome := by
  decide +kernel

/-- The machine with the two programs. -/
def twins : World :=
  provideTwins.toOption.get provideTwins_isSome

/-- A request for the program, to be run in the other directory. -/
def elsewhere : RunRequest where
  program := "prog"
  args := ["prog"]
  given := [(.cwd, .path (.ofString "d"))]

/-- The configuration of its run if the program is found in a place. -/
def elsewhereFrom (place : OsString) : Config :=
  .ofRequest elsewhere (joinPath place (.ofString elsewhere.program))

/-- The fork of such a run, with a variable for the search path. -/
def forkFrom (setting place : OsString) :=
  Posix.Fork.find? World.kernel ((elsewhereFrom place).launched [setting])
    ((elsewhereFrom place).options (host.newSink twins).1) (bufferOf host (elsewhereFrom place) twins).2

theorem absolute_forks :
    (forkFrom (.ofString "PATH=none:/tmp/work/bin") (.ofString "/tmp/work/bin")).isSome := by
  decide +kernel

/-- The run with an absolute place, behind one without the program. -/
def absoluteFork :=
  (forkFrom (.ofString "PATH=none:/tmp/work/bin") (.ofString "/tmp/work/bin")).get absolute_forks

/-- From the other directory the absolute place leads to the program that was found. -/
theorem absolute_place_leads_back :
    let program := OsString.ofString elsewhere.program
    let first := OsString.ofString "none"
    let place := OsString.ofString "/tmp/work/bin"
    let path := joinPath place program
    let course :=
      absoluteFork.plan.course World.kernel absoluteFork.child absoluteFork.plan.preparations absoluteFork.world
    hasDirectory program = false ∧
    (variableOf [.ofString "PATH=none:/tmp/work/bin"] "PATH").map places = some [first, place] ∧
    isFile twins (joinPath first program) = false ∧ isFile twins path = true ∧ course.failed = none ∧
    absoluteFork.plan.program.read = path ∧
    ∃ dir id node node', course.world.cwd? absoluteFork.child = some dir ∧ dir ≠ twins.workingDirectory ∧
      twins.tree.locate twins.workingDirectory path = .ok (id, node) ∧
      course.world.tree.locate dir path = .ok (id, node') := by
  intro program first place path course
  have hbare : hasDirectory program = false := by decide +kernel
  have hsearch : variableOf [.ofString "PATH=none:/tmp/work/bin"] "PATH" =
      some (.ofString "none:/tmp/work/bin") := by decide +kernel
  have hplaces : places (.ofString "none:/tmp/work/bin") = [first] ++ place :: [] := by decide +kernel
  have hsearched : (variableOf [.ofString "PATH=none:/tmp/work/bin"] "PATH").map places = some [first, place] := by
    rw [hsearch, Option.map_some, hplaces]
    rfl
  have hfiles : isFile twins (joinPath first program) = false ∧ isFile twins path = true := by decide +kernel
  obtain ⟨hfirst, hfile⟩ := hfiles
  have hoff : course.failed = none ∧ course.world.cwd? absoluteFork.child ≠ some twins.workingDirectory := by
    decide +kernel
  obtain ⟨hcourse, hmoved⟩ := hoff
  obtain ⟨-, id, node, hnode, -, hrun⟩ := found_program_runs [.ofString "PATH=none:/tmp/work/bin"] elsewhere twins
    hbare hsearch hplaces (List.forall_mem_singleton.mpr hfirst) hfile
  obtain ⟨hprogram, dir, hdeparted, hreached⟩ := hrun absoluteFork hcourse
  obtain ⟨node', hnode', -⟩ := hreached (.inl (by decide +kernel))
  have hdir : dir ≠ twins.workingDirectory := by
    rintro rfl
    exact hmoved hdeparted.cwd
  exact ⟨hbare, hsearched, hfirst, hfile, hcourse, hprogram, dir, id, node, node', hdeparted.cwd, hdir, hnode,
    hnode'⟩

theorem relative_forks : (forkFrom (.ofString "PATH=bin") (.ofString "bin")).isSome := by
  decide +kernel

/-- The run with a relative place. -/
def relativeFork :=
  (forkFrom (.ofString "PATH=bin") (.ofString "bin")).get relative_forks

/-- A relative place leads from the other directory to its program, and not to the one that was found. -/
theorem relative_place_misleads :
    let program := OsString.ofString elsewhere.program
    let path := joinPath (.ofString "bin") program
    let course :=
      relativeFork.plan.course World.kernel relativeFork.child relativeFork.plan.preparations relativeFork.world
    hasDirectory program = false ∧
    findProgram (isFile twins) (variableOf [.ofString "PATH=bin"] "PATH") program = path ∧
    isFile twins path = true ∧ course.failed = none ∧ relativeFork.plan.program.read = path ∧
    ∃ dir, course.world.cwd? relativeFork.child = some dir ∧
      ∀ id node node', twins.tree.locate twins.workingDirectory path = .ok (id, node) →
        course.world.tree.locate dir path ≠ .ok (id, node') := by
  intro program path course
  have hbare : hasDirectory program = false := by decide +kernel
  have hfound : findProgram (isFile twins) (variableOf [.ofString "PATH=bin"] "PATH") program = path ∧
      isFile twins path = true := by decide +kernel
  obtain ⟨hfound, hfile⟩ := hfound
  have hoff : course.failed = none ∧ relativeFork.plan.program.read = path ∧
      (course.world.cwd? relativeFork.child).any (fun dir =>
        (course.world.tree.locate dir path).toOption.map (·.1) !=
          (twins.tree.locate twins.workingDirectory path).toOption.map (·.1)) = true := by decide +kernel
  obtain ⟨hcourse, hprogram, hother⟩ := hoff
  obtain ⟨dir, hdir, hnumbers⟩ := (Option.any_eq_true _ _).mp hother
  refine ⟨hbare, hfound, hfile, hcourse, hprogram, dir, hdir, ?_⟩
  intro id node node' hnode hnode'
  rw [hnode, hnode'] at hnumbers
  cases hnumbers.symm.trans (bne_self_eq_false (some id))

end Offspring.Run
