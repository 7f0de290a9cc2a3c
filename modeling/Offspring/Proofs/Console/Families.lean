import Offspring.Proofs.Redirection.Exclusion

/-!
# Families of console buffers

Handles to console buffers are held under names, by a redirection and by the plans taken from it. `Act` is what can
be done with them. An act binds one handle at most, and what it binds it to is a new buffer or what another handle
refers to (`Act.bound`); this one rule gives both the sinks that handles have (`sink?_perform`) and the families
that a history of acts makes of them (`familyOf`). Octets change only through a handle, and only those of its sink
(`get_perform`).
-/

namespace Offspring

/-! ### Names and sinks -/

namespace Bindings

theorem lookup_cons_eq (names : List (String × Sink)) (bound other : String) (sink : Sink) :
    ((bound, sink) :: names).lookup other = if other = bound then some sink else names.lookup other := by
  rw [List.lookup_cons]
  by_cases hother : other = bound
  · rw [if_pos hother, beq_iff_eq.mpr hother]
  · rw [if_neg hother, beq_eq_false_iff_ne.mpr hother]

theorem lookup_filter_ne (names : List (String × Sink)) (name other : String) :
    (names.filter (·.1 != name)).lookup other = if other = name then none else names.lookup other := by
  induction names with
  | nil => exact (ite_self none).symm
  | cons entry names ih =>
    obtain ⟨bound, sink⟩ := entry
    rw [lookup_cons_eq]
    by_cases hbound : bound = name
    · subst hbound
      rw [List.filter_cons_of_neg (by simp), ih]
      by_cases hother : other = bound
      · rw [if_pos hother, if_pos hother]
      · rw [if_neg hother, if_neg hother, if_neg hother]
    · rw [List.filter_cons_of_pos (by simpa using hbound), lookup_cons_eq, ih]
      by_cases hother : other = bound
      · rw [if_pos hother, if_neg (by rw [hother]; exact hbound), if_pos hother]
      · rw [if_neg hother, if_neg hother]

variable (b : Bindings) (name other : String) (sink : Sink)

theorem find?_drop : (b.drop name).find? other = if other = name then none else b.find? other :=
  lookup_filter_ne b.names name other

theorem find?_bind : (b.bind name sink).find? other = if other = name then some sink else b.find? other := by
  simp only [find?, bind]
  rw [List.lookup_append, lookup_filter_ne, lookup_cons_eq]
  by_cases hother : other = name
  · rw [if_pos hother, if_pos hother, if_pos hother, Option.none_or]
  · rw [if_neg hother, if_neg hother, if_neg hother, List.lookup_nil, Option.or_none]

end Bindings

/-- What can be done with the octets of a family. -/
inductive Console.Change where
  | appended (bytes : ByteArray)
  | cleared

/-- The octets behind a change. -/
def Console.Change.apply : Console.Change → ByteArray → ByteArray
  | .appended bytes, octets => octets ++ bytes
  | .cleared, _ => .empty

open Console

namespace Sinks

/-- Changes the octets of a family. -/
def change (s : Sinks) (sink : Sink) : Change → Sinks
  | .appended bytes => s.append sink bytes
  | .cleared => s.clear sink

theorem change_eq (s : Sinks) (sink : Sink) (c : Change) :
    s.change sink c = ⟨s.contents.modify sink.index c.apply⟩ := by
  cases c <;> rfl

theorem get_change (s : Sinks) {sink : Sink} (hsink : sink.index < s.contents.size) (c : Change) (other : Sink) :
    (s.change sink c).get other = if sink = other then c.apply (s.get other) else s.get other := by
  simp only [change_eq, get, Array.getD_eq_getD_getElem?, Array.getElem?_modify]
  by_cases hother : sink = other
  · subst hother
    simp [hsink]
  · have hindex : sink.index ≠ other.index := fun h => hother (congrArg Sink.mk h)
    rw [if_neg hindex, if_neg hother]

theorem size_change (s : Sinks) (sink : Sink) (c : Change) :
    (s.change sink c).contents.size = s.contents.size := by
  rw [change_eq, Array.size_modify]

/-- A new family has no octets, and the others keep theirs. -/
theorem get_fresh (s : Sinks) (other : Sink) : s.fresh.2.get other = s.get other := by
  simp only [get, fresh, Array.getD_eq_getD_getElem?, Array.getElem?_push]
  split
  · rename_i hnew
    simp [hnew]
  · rfl

end Sinks

/-! ### Handles and who holds them -/

/-- The buffer that output is gathered in. -/
def Redirection.sink? : Redirection → Option Sink
  | .buffer sink => some sink
  | .inherit | .files _ => none

/-- The buffer that the output stream goes to. -/
def StreamPlan.sink? (plan : StreamPlan) : Option Sink :=
  match plan.stdout with
  | some (.buffer sink) => some sink
  | some (.file _) | some .sameAsStdout | none => none

/-- A plan shares the buffer of its redirection. -/
theorem Redirection.sink?_plan (r : Redirection) (mode : ConsoleMode) : (r.plan mode).sink? = r.sink? := by
  cases r with
  | files chosen => cases hstdout : chosen.stdout <;> simp [plan, StreamPlan.sink?, sink?, hstdout]
  | inherit | buffer => rfl

namespace Console

/-- Where a handle is held. -/
inductive Handle where
  /-- Under a name. -/
  | named (name : String)
  /-- In the redirection. -/
  | held
  /-- As the target of a plan's output stream. -/
  | planned (slot : Nat)
  deriving DecidableEq

/-- What can be done with handles. -/
inductive Act where
  /-- Binds a name to a new buffer. -/
  | create (name : String)
  /-- Binds a name to a clone of a handle. -/
  | clone (name : String) (source : Handle)
  /-- Drops the handle with a name. -/
  | drop (name : String)
  /-- Changes octets through a handle. -/
  | change (h : Handle) (c : Change)
  /-- Gathers output in the buffer of a handle. -/
  | store (source : Handle)
  /-- Routes streams to files. -/
  | route (wanted : StreamFiles)
  /-- Takes a plan from the redirection. -/
  | plan (slot : Nat) (mode : ConsoleMode)
  /-- Drops a plan. -/
  | discard (slot : Nat)

/-- All holders of handles: names, a redirection, and plans that were taken from it. -/
structure Holders where
  bindings : Bindings := {}
  redirection : Redirection := .inherit
  plans : Nat → Option StreamPlan := fun _ => none

namespace Holders

variable (x : Holders)

/-- The sink of a handle. -/
def sink? : Handle → Option Sink
  | .named name => x.bindings.find? name
  | .held => x.redirection.sink?
  | .planned slot => (x.plans slot).bind StreamPlan.sink?

/-- The octets seen through a handle. -/
def seen? (h : Handle) : Option ByteArray :=
  (x.sink? h).map x.bindings.sinks.get

/-- Binds a name to a clone of a handle. -/
def clone (name : String) : Handle → Holders
  | .named source => { x with bindings := x.bindings.clone name source }
  | source =>
    match x.sink? source with
    | some sink => { x with bindings := x.bindings.bind name sink }
    | none => x

/-- Changes octets through a handle. -/
def change : Handle → Change → Holders
  | .named name, .appended bytes => { x with bindings := x.bindings.append name bytes }
  | .named name, .cleared => { x with bindings := x.bindings.clear name }
  | h, c =>
    match x.sink? h with
    | some sink => { x with bindings := { x.bindings with sinks := x.bindings.sinks.change sink c } }
    | none => x

/-- Does something with handles; without the handle it is done through nothing happens. -/
def perform : Act → Holders
  | .create name => { x with bindings := x.bindings.create name }
  | .clone name source => x.clone name source
  | .drop name => { x with bindings := x.bindings.drop name }
  | .change h c => x.change h c
  | .store source =>
    match x.sink? source with
    | some sink => { x with redirection := (x.redirection.settle (x.redirection.setBuffer sink)).2 }
    | none => x
  | .route wanted => { x with redirection := (x.redirection.settle (x.redirection.setFiles wanted)).2 }
  | .plan slot mode =>
    { x with plans := fun other => if other = slot then some (x.redirection.plan mode) else x.plans other }
  | .discard slot => { x with plans := fun other => if other = slot then none else x.plans other }

theorem clone_eq (name : String) (source : Handle) :
    x.clone name source =
      match x.sink? source with
      | some sink => { x with bindings := x.bindings.bind name sink }
      | none => x := by
  cases source with
  | named other =>
    simp only [clone, Bindings.clone, sink?]
    cases x.bindings.find? other <;> rfl
  | held | planned => rfl

theorem change_eq (h : Handle) (c : Change) :
    x.change h c =
      match x.sink? h with
      | some sink => { x with bindings := { x.bindings with sinks := x.bindings.sinks.change sink c } }
      | none => x := by
  cases h with
  | named name =>
    cases c <;> simp only [change, Bindings.append, Bindings.clear, sink?] <;> cases x.bindings.find? name <;> rfl
  | held | planned => rfl

end Holders

namespace Act

variable {α β : Type}

/-- The handle that an act binds or drops. -/
def binds? : Act → Option Handle
  | .create name | .clone name _ | .drop name => some (.named name)
  | .store _ => some .held
  | .plan slot _ | .discard slot => some (.planned slot)
  | .change _ _ | .route _ => none

/-- The change that an act makes, and through which handle. -/
def change? : Act → Option (Handle × Change)
  | .change h c => some (h, c)
  | _ => none

/-- Whether an act makes a buffer. -/
def isCreation : Act → Bool
  | .create _ => true
  | _ => false

/-- What an act binds its handle to: a new buffer, or what another handle has. The redirection may refuse its own. -/
def bound (refuses : Bool) (fresh : α) (of : Handle → Option α) : Act → Option α
  | .create _ => some fresh
  | .clone name source => (of source).or (of (.named name))
  | .store source => if refuses then of .held else (of source).or (of .held)
  | .plan _ _ => of .held
  | .drop _ | .discard _ | .change _ _ | .route _ => none

/-- What handles have behind an act. -/
def rebind (act : Act) (refuses : Bool) (fresh : α) (of : Handle → Option α) (h : Handle) : Option α :=
  if act.binds? = some h then act.bound refuses fresh of else of h

theorem rebind_of_binds {act : Act} {g : Handle} (hbinds : act.binds? = some g) (refuses : Bool) (fresh : α)
    (of : Handle → Option α) (h : Handle) :
    act.rebind refuses fresh of h = if h = g then act.bound refuses fresh of else of h := by
  simp only [rebind, hbinds, Option.some.injEq, eq_comm]

theorem rebind_of_ne (act : Act) {h : Handle} (hbinds : act.binds? ≠ some h) (refuses : Bool) (fresh : α)
    (of : Handle → Option α) : act.rebind refuses fresh of h = of h :=
  if_neg hbinds

/-- What a handle has behind an act is new, or a handle had it before. -/
theorem rebind_cases {act : Act} {refuses : Bool} {fresh a : α} {of : Handle → Option α} {h : Handle}
    (hrebind : act.rebind refuses fresh of h = some a) : (act.isCreation ∧ a = fresh) ∨ ∃ g, of g = some a := by
  unfold rebind at hrebind
  split at hrebind
  · cases act with
    | create name => exact .inl ⟨rfl, (Option.some.inj hrebind).symm⟩
    | clone name source =>
      obtain hsource | ⟨-, hname⟩ := Option.or_eq_some_iff.mp hrebind
      · exact .inr ⟨_, hsource⟩
      · exact .inr ⟨_, hname⟩
    | store source =>
      cases refuses with
      | true => exact .inr ⟨_, hrebind⟩
      | false =>
        obtain hsource | ⟨-, hheld⟩ := Option.or_eq_some_iff.mp hrebind
        · exact .inr ⟨_, hsource⟩
        · exact .inr ⟨_, hheld⟩
    | plan slot mode => exact .inr ⟨_, hrebind⟩
    | drop | discard | change | route => cases hrebind
  · exact .inr ⟨_, hrebind⟩

/-- What handles have can be named differently. -/
theorem rebind_map (act : Act) (refuses : Bool) (fresh : α) (of : Handle → Option α) (f : α → β) (h : Handle) :
    act.rebind refuses (f fresh) (fun h => (of h).map f) h = (act.rebind refuses fresh of h).map f := by
  unfold rebind
  split
  · cases act with
    | clone name source => exact Option.map_or.symm
    | store source => cases refuses <;> simp [bound, Option.map_or]
    | _ => rfl
  · rfl

end Act

namespace Holders

variable (x : Holders)

theorem sink?_with_names {b : Bindings} {name : String} {found : Option Sink}
    (hfind : ∀ other, b.find? other = if other = name then found else x.bindings.find? other) (h : Handle) :
    ({ x with bindings := b } : Holders).sink? h = if h = .named name then found else x.sink? h := by
  cases h with
  | named other => simp [sink?, hfind]
  | held | planned => rfl

theorem sink?_with_redirection (r : Redirection) (h : Handle) :
    ({ x with redirection := r } : Holders).sink? h = if h = .held then r.sink? else x.sink? h := by
  cases h <;> rfl

theorem sink?_with_plan (slot : Nat) (plan? : Option StreamPlan) (h : Handle) :
    ({ x with plans := fun other => if other = slot then plan? else x.plans other } : Holders).sink? h =
      if h = .planned slot then plan?.bind StreamPlan.sink? else x.sink? h := by
  cases h with
  | planned other => by_cases hother : other = slot <;> simp [sink?, hother]
  | named | held => rfl

/-- Stored in a redirection, a buffer takes the place of another one; next to a file it is refused. -/
theorem sink?_setBuffer (r : Redirection) (sink : Sink) :
    (r.settle (r.setBuffer sink)).2.sink? = if r.hasFile then r.sink? else some sink := by
  rw [r.setBuffer_of_hasFile]
  cases r.hasFile <;> rfl

/-- Files do not take the place of a buffer. -/
theorem sink?_setFiles (r : Redirection) (wanted : StreamFiles) :
    (r.settle (r.setFiles wanted)).2.sink? = r.sink? := by
  rw [r.setFiles_of_isBuffer]
  cases wanted.isEmpty <;> cases r <;> rfl

/-- The sinks of handles behind an act. -/
theorem sink?_perform (act : Act) (h : Handle) :
    (x.perform act).sink? h = act.rebind x.redirection.hasFile x.bindings.sinks.fresh.1 x.sink? h := by
  cases act with
  | create name =>
    rw [Act.rebind_of_binds rfl]
    exact x.sink?_with_names (Bindings.find?_bind _ name · _) h
  | clone name source =>
    rw [Act.rebind_of_binds rfl, perform, clone_eq, Act.bound]
    cases x.sink? source with
    | none =>
      by_cases hname : h = .named name
      · rw [if_pos hname, hname, Option.none_or]
      · rw [if_neg hname]
    | some sink => exact x.sink?_with_names (Bindings.find?_bind _ name · sink) h
  | drop name =>
    rw [Act.rebind_of_binds rfl]
    exact x.sink?_with_names (Bindings.find?_drop _ name) h
  | change g c =>
    rw [Act.rebind_of_ne (.change g c) (Option.some_ne_none h).symm, perform, change_eq]
    cases x.sink? g with
    | none => rfl
    | some sink => cases h <;> rfl
  | store source =>
    rw [Act.rebind_of_binds rfl, perform, Act.bound]
    cases x.sink? source with
    | none =>
      by_cases hheld : h = .held
      · simp [hheld]
      · rw [if_neg hheld]
    | some sink =>
      simp only
      rw [sink?_with_redirection, sink?_setBuffer, Option.some_or]
      rfl
  | route wanted =>
    rw [Act.rebind_of_ne (.route wanted) (Option.some_ne_none h).symm, perform, sink?_with_redirection,
      sink?_setFiles]
    by_cases hheld : h = .held
    · rw [if_pos hheld, hheld, sink?]
    · rw [if_neg hheld]
  | plan slot mode =>
    rw [Act.rebind_of_binds rfl, perform, sink?_with_plan, Option.bind_some, Redirection.sink?_plan]
    rfl
  | discard slot =>
    rw [Act.rebind_of_binds rfl]
    exact x.sink?_with_plan slot none h

/-- Octets change through a handle only, and only those of its sink. -/
theorem get_perform (hsinks : ∀ h sink, x.sink? h = some sink → sink.index < x.bindings.sinks.contents.size)
    (act : Act) (sink : Sink) :
    (x.perform act).bindings.sinks.get sink =
      match act.change? with
      | some (h, c) =>
        if x.sink? h = some sink then c.apply (x.bindings.sinks.get sink) else x.bindings.sinks.get sink
      | none => x.bindings.sinks.get sink := by
  cases act with
  | create name => exact x.bindings.sinks.get_fresh sink
  | clone name source =>
    rw [perform, clone_eq]
    cases x.sink? source <;> rfl
  | change h c =>
    rw [perform, change_eq]
    cases hsink : x.sink? h with
    | none => simp [Act.change?, hsink]
    | some other =>
      simp only [Act.change?, hsink, Option.some.injEq]
      exact x.bindings.sinks.get_change (hsinks h other hsink) c sink
  | store source =>
    rw [perform]
    cases x.sink? source <;> rfl
  | drop | route | plan | discard => rfl

/-- Only a creation makes a family. -/
theorem size_perform (act : Act) :
    (x.perform act).bindings.sinks.contents.size =
      x.bindings.sinks.contents.size + if act.isCreation then 1 else 0 := by
  cases act with
  | create name => exact Array.size_push _
  | clone name source =>
    rw [perform, clone_eq]
    cases x.sink? source <;> rfl
  | change h c =>
    rw [perform, change_eq]
    cases x.sink? h with
    | none => rfl
    | some sink => exact x.bindings.sinks.size_change sink c
  | store source =>
    rw [perform]
    cases x.sink? source <;> rfl
  | drop | route | plan | discard => rfl

/-! ### Histories -/

/-- The holders behind a history of acts, the latest act first. -/
def after : List Act → Holders
  | [] => {}
  | act :: past => (after past).perform act

end Holders

open Holders

/-- How many buffers have been made. -/
def made (history : List Act) : Nat :=
  history.countP (·.isCreation)

theorem made_cons (act : Act) (past : List Act) :
    made (act :: past) = made past + if act.isCreation then 1 else 0 :=
  List.countP_cons

/-- The family of a handle. A new buffer founds one, numbered in the order of foundation, and whatever refers to a
handle of a family belongs to it. -/
def familyOf : List Act → Handle → Option Nat
  | [], _ => none
  | act :: past, h => act.rebind (after past).redirection.hasFile (made past) (familyOf past) h

/-- The changes made through handles of a family, the latest first. -/
def changesOf (family : Nat) : List Act → List Change
  | [] => []
  | act :: past =>
    match act.change? with
    | some (h, c) => if familyOf past h = some family then c :: changesOf family past else changesOf family past
    | none => changesOf family past

/-- All octets appended since they were cleared last, in order. -/
def octetsSince : List Change → ByteArray
  | [] => .empty
  | .appended bytes :: past => octetsSince past ++ bytes
  | .cleared :: _ => .empty

theorem octetsSince_cons (c : Change) (past : List Change) :
    octetsSince (c :: past) = c.apply (octetsSince past) := by
  cases c <;> rfl

/-- The holders behind a history are as it says. -/
structure Agrees (history : List Act) (x : Holders) : Prop where
  sink (h : Handle) : x.sink? h = (familyOf history h).map Sink.mk
  size : x.bindings.sinks.contents.size = made history
  founded {h : Handle} {family : Nat} (hfamily : familyOf history h = some family) : family < made history
  octets (family : Nat) : x.bindings.sinks.get ⟨family⟩ = octetsSince (changesOf family history)

theorem agrees_start : Agrees [] {} where
  sink h := by cases h <;> rfl
  size := rfl
  founded hfamily := by cases hfamily
  octets _ := rfl

namespace Agrees

variable {past : List Act} {x : Holders} (h : Agrees past x)
include h

theorem sink_eq_iff (g : Handle) (family : Nat) : x.sink? g = some ⟨family⟩ ↔ familyOf past g = some family := by
  rw [h.sink]
  simp

/-- Every handle has a sink with octets. -/
theorem sink_lt (g : Handle) (sink : Sink) (hsink : x.sink? g = some sink) :
    sink.index < x.bindings.sinks.contents.size := by
  rw [h.size]
  exact h.founded ((h.sink_eq_iff g sink.index).mp hsink)

theorem perform (hx : after past = x) (act : Act) : Agrees (act :: past) (x.perform act) where
  sink g := by
    -- Sinks and families are passed on by one rule, so the sinks stay the families' ones.
    have hsinks : x.sink? = fun g => (familyOf past g).map Sink.mk := funext h.sink
    have hfresh : x.bindings.sinks.fresh.1 = Sink.mk (made past) := congrArg Sink.mk h.size
    rw [sink?_perform, hsinks, hfresh, Act.rebind_map, familyOf, hx]
  size := by
    rw [size_perform, h.size, made_cons]
  founded {g family} hfamily := by
    rw [made_cons]
    obtain ⟨hcreation, rfl⟩ | ⟨_, hbefore⟩ := Act.rebind_cases hfamily
    · rw [if_pos hcreation]
      exact Nat.lt_succ_self _
    · exact Nat.lt_add_right _ (h.founded hbefore)
  octets family := by
    rw [x.get_perform h.sink_lt, changesOf]
    cases act.change? with
    | none => exact h.octets family
    | some made =>
      obtain ⟨g, c⟩ := made
      simp only [h.sink_eq_iff]
      split
      · rw [octetsSince_cons, h.octets]
      · exact h.octets family

end Agrees

theorem agrees_after (history : List Act) : Agrees history (after history) := by
  induction history with
  | nil => exact agrees_start
  | cons act past ih => exact ih.perform rfl act

/-- A handle sees what the history says about its family. -/
theorem seen?_after (history : List Act) (h : Handle) :
    (after history).seen? h = (familyOf history h).map fun family => octetsSince (changesOf family history) := by
  have hagrees := agrees_after history
  rw [seen?, hagrees.sink, Option.map_map]
  exact Option.map_congr fun family _ => hagrees.octets family

/-- The family of a new buffer has one handle. -/
theorem eq_of_familyOf_create {history : List Act} {name : String} {h : Handle}
    (hsame : familyOf (.create name :: history) h = familyOf (.create name :: history) (.named name)) :
    h = .named name := by
  apply Decidable.byContradiction
  intro hne
  rw [familyOf, Act.rebind_of_binds rfl, if_neg hne, familyOf, Act.rebind_of_binds rfl, if_pos rfl] at hsame
  exact Nat.lt_irrefl _ ((agrees_after history).founded hsame)

/-- An act that leaves a handle and the octets of its family alone leaves what is seen through it alone. -/
theorem seen?_cons_of_eq {history : List Act} (act : Act) {h : Handle} (hbinds : act.binds? ≠ some h)
    (hchanges : ∀ family, familyOf history h = some family →
      changesOf family (act :: history) = changesOf family history) :
    (after (act :: history)).seen? h = (after history).seen? h := by
  rw [seen?_after, seen?_after, familyOf, Act.rebind_of_ne act hbinds]
  apply Option.map_congr
  intro family hfamily
  rw [hchanges family hfamily]

/-- Whatever has been done with handles, each sees the octets that were appended, in order, since they were cleared
last, through the handles of its family: under names, in the redirection or in plans. A new buffer is of no other
handle's family; a change through a handle reaches no other family; and what is no change leaves every handle that
it does not bind or drop with what it sees. -/
theorem handles_see_family (history : List Act) (h : Handle) :
    (after history).seen? h = (familyOf history h).map (fun family => octetsSince (changesOf family history)) ∧
      (∀ name, familyOf (.create name :: history) h = familyOf (.create name :: history) (.named name) →
        h = .named name) ∧
      (∀ g c, familyOf history h ≠ familyOf history g →
        (after (.change g c :: history)).seen? h = (after history).seen? h) ∧
      ∀ act, act.change? = none → act.binds? ≠ some h →
        (after (act :: history)).seen? h = (after history).seen? h := by
  refine ⟨seen?_after history h, fun _ => eq_of_familyOf_create, fun g c hother => ?_, fun act hchange hbinds => ?_⟩
  · apply seen?_cons_of_eq (.change g c) (Option.some_ne_none h).symm
    intro family hfamily
    exact if_neg fun hsame => hother (hfamily.trans hsame.symm)
  · apply seen?_cons_of_eq act hbinds
    intro family _
    rw [changesOf, hchange]

/-- A buffer is stored and planned, its name is bound to a new one, and a child writes to the plan's target. -/
def rebound : List Act :=
  [.change (.planned 0) (.appended "out".toUTF8), .create "log", .plan 0 .merged, .store (.named "log"),
    .clone "copy" (.named "log"), .create "log"]

/-- The copy sees the octets of the first buffer, also when the second one is cleared. -/
theorem copy_sees_output :
    (after (.change (.named "log") .cleared :: rebound)).seen? (.named "copy") = some "out".toUTF8 := by
  obtain ⟨hseen, -, hcleared, -⟩ := handles_see_family rebound (.named "copy")
  rw [hcleared (.named "log") .cleared (by decide), hseen]
  decide

end Console

end Offspring
