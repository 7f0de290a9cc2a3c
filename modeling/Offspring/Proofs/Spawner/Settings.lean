import Offspring.Proofs.Spawner.Step

/-!
# What the settings of a run ask for

Files and a console buffer exclude each other, and the first call that asks for one of them decides which
kind the launch can have. Calls of that kind replace one another, calls of the other kind are conflicts,
and a call for files without any file asks for nothing. `requested` reads the launch options off the whole
history of settings, without running any of them; `Follows` is the invariant that ties a spawner to it.
-/

namespace Offspring

variable {W C : Type}

/-- The two kinds of redirection, which exclude each other. -/
inductive RouteKind where
  | files
  | buffer
  deriving DecidableEq

/-- The conflict of a call of this kind with a redirection of the other kind. -/
def RouteKind.conflict : RouteKind → LaunchError
  | .files => .bufferConfigured
  | .buffer => .filesConfigured

namespace Redirection

/-- The kind of a redirection that sends some stream elsewhere. -/
def kind? : Redirection → Option RouteKind
  | .inherit => none
  | .files chosen => if chosen.isEmpty then none else some .files
  | .buffer _ => some .buffer

/-- Files are refused by a redirection into a buffer only. -/
theorem setFiles_eq (r : Redirection) (wanted : StreamFiles) (hwanted : wanted.isEmpty = false) :
    r.setFiles wanted =
      if r.kind? = some .buffer then .error .bufferConfigured else .ok (.files wanted) := by
  cases r <;> simp [setFiles, kind?, hwanted]

/-- A buffer is refused by a redirection that has a file only. -/
theorem setBuffer_eq (r : Redirection) (sink : Sink) :
    r.setBuffer sink =
      if r.kind? = some .files then .error .filesConfigured else .ok (.buffer sink) := by
  cases r with
  | files chosen => cases hchosen : chosen.isEmpty <;> simp [setBuffer, kind?, hchosen]
  | inherit | buffer => simp [setBuffer, kind?]

end Redirection

/-- A redirection with the mode it was asked for in. -/
structure Route where
  redirection : Redirection := .inherit
  mode : ConsoleMode := .merged

/-- The targets of the streams on a route. -/
def Route.plan (route : Route) : StreamPlan :=
  route.redirection.plan route.mode

namespace Spawner

namespace Setting

/-- The route a setting asks for, if it asks for one at all. -/
def route? : Setting → Option Route
  | .files wanted mode => if wanted.isEmpty then none else some ⟨.files wanted, mode⟩
  | .buffer sink mode => some ⟨.buffer sink, mode⟩
  | .detach _ | .umask _ => none

/-- The kind of redirection a setting asks for. -/
def kind? (setting : Setting) : Option RouteKind :=
  setting.route?.bind fun route => route.redirection.kind?

/-- Whether the child shall have a session of its own, if the setting is about that. -/
def detach? : Setting → Option Bool
  | .detach wanted => some wanted
  | _ => none

/-- The file mode creation mask the setting asks for, if it is about that. -/
def umask? : Setting → Option Nat
  | .umask wanted => some wanted
  | _ => none

@[simp] theorem kind?_files (wanted : StreamFiles) (mode : ConsoleMode) :
    (files wanted mode).kind? = if wanted.isEmpty then none else some .files := by
  cases hwanted : wanted.isEmpty <;> simp [kind?, route?, Redirection.kind?, hwanted]

@[simp] theorem kind?_buffer (sink : Sink) (mode : ConsoleMode) :
    (buffer sink mode).kind? = some .buffer := rfl

@[simp] theorem kind?_detach (wanted : Bool) : (detach wanted).kind? = none := rfl

@[simp] theorem kind?_umask (wanted : Nat) : (umask wanted).kind? = none := rfl

/-- The kind of a setting is that of its route. -/
theorem kind?_of_route (setting : Setting) {route : Route} (hroute : setting.route? = some route) :
    setting.kind? = route.redirection.kind? := by
  rw [kind?, hroute, Option.bind_some]

/-- Every route has a kind. -/
theorem kind?_eq_none_iff (setting : Setting) : setting.kind? = none ↔ setting.route? = none := by
  cases setting <;> simp [route?]

end Setting

/-- The kind that the first setting with a route decides on. -/
def decidedKind (settings : List Setting) : Option RouteKind :=
  settings.findSome? Setting.kind?

/-- The routes of the decided kind. -/
def prevailing (settings : List Setting) : List Route :=
  (settings.filter fun setting => setting.kind? = decidedKind settings).filterMap Setting.route?

/-- The launch options that settings ask for together. -/
def requested (settings : List Setting) : LaunchOptions where
  stdio := ((prevailing settings).getLast?.getD {}).plan
  detach := (settings.filterMap Setting.detach?).getLast?.getD false
  umask := (settings.filterMap Setting.umask?).getLast?

/-- A setting decides on a kind only if no setting before it has. -/
theorem decidedKind_append (settings later : List Setting) :
    decidedKind (settings ++ later) = (decidedKind settings).or (decidedKind later) :=
  List.findSome?_append

/-- One more setting decides unless something has been decided. -/
theorem decidedKind_concat (settings : List Setting) (setting : Setting) :
    decidedKind (settings ++ [setting]) = (decidedKind settings).or setting.kind? := by
  rw [decidedKind_append]
  cases h : setting.kind? <;> simp [decidedKind, h]

/-- With nothing decided, no setting has asked for a route. -/
theorem route?_of_undecided {settings : List Setting} (h : decidedKind settings = none)
    {setting : Setting} (hmem : setting ∈ settings) : setting.route? = none :=
  setting.kind?_eq_none_iff.mp (List.findSome?_eq_none_iff.mp h setting hmem)

/-- A later setting adds its route if its kind is the decided one, and takes no earlier route away. -/
theorem prevailing_concat (settings : List Setting) (setting : Setting) :
    prevailing (settings ++ [setting]) = prevailing settings ++
      if setting.kind? = decidedKind (settings ++ [setting]) then setting.route?.toList else [] := by
  unfold prevailing
  rw [List.filter_append, List.filterMap_append]
  congr 1
  · cases hdecided : decidedKind settings with
    | some kind => rw [decidedKind_append, hdecided, Option.some_or]
    | none =>
      -- The new setting may decide now, but there is no earlier route to lose.
      have hnone : ∀ kind : Option RouteKind,
          (settings.filter fun setting => setting.kind? = kind).filterMap Setting.route? = [] := by
        intro kind
        rw [List.filterMap_eq_nil_iff]
        intro setting hmem
        exact route?_of_undecided hdecided (List.mem_filter.mp hmem).1
      rw [hnone, hnone]
  · by_cases hkind : setting.kind? = decidedKind (settings ++ [setting])
    · rw [if_pos hkind, List.filter_cons_of_pos (by simpa using hkind), List.filter_nil]
      cases hroute : setting.route? <;> simp [hroute]
    · rw [if_neg hkind, List.filter_cons_of_neg (by simpa using hkind), List.filter_nil,
        List.filterMap_nil]

/-- A setting of some kind decides on it unless another one has decided before. -/
theorem decidedKind_of_kind (settings : List Setting) (setting : Setting) (later : List Setting)
    (kind : RouteKind) (hkind : setting.kind? = some kind) :
    decidedKind (settings ++ setting :: later) = some ((decidedKind settings).getD kind) := by
  have hlater : decidedKind (setting :: later) = some kind := by
    rw [decidedKind, List.findSome?_cons, hkind]
  rw [decidedKind_append, hlater]
  cases decidedKind settings <;> rfl

/-- The spawner that settings so far have made of an unused one. -/
structure Follows (settings : List Setting) (s : Spawner C) : Prop where
  state : s.state = .configuring
  kind : decidedKind settings = s.redirection.kind?
  /-- Redirection and mode come from one and the same setting. -/
  route : (prevailing settings).getLast?.getD {} = ⟨s.redirection, s.mode⟩
  detach : (settings.filterMap Setting.detach?).getLast?.getD false = s.detach
  umask : (settings.filterMap Setting.umask?).getLast? = s.umask

/-- An unused spawner follows no settings. -/
theorem follows_fresh (w : W) : Follows [] (Scene.fresh w : Scene W C).spawner :=
  ⟨rfl, rfl, rfl, rfl, rfl⟩

/-- What a spawner that follows its settings launches with. -/
theorem Follows.options_eq {settings : List Setting} {s : Spawner C} (h : Follows settings s) :
    s.options = requested settings := by
  rw [requested, h.route, h.detach, h.umask]
  rfl

section Configure

variable (b : Backend W C) (x : Scene W C) (hs : x.spawner.state = .configuring)

include hs

/-- Files are refused after a buffer, and change nothing if there is none among them. -/
theorem configure_files (wanted : StreamFiles) (mode : ConsoleMode) :
    x.configure b (.files wanted mode) =
      if wanted.isEmpty then (.settled (.ok ()), x)
      else if x.spawner.redirection.kind? = some .buffer then (.settled (.error .bufferConfigured), x)
      else (.settled (.ok ()), { x with
        spawner := { x.spawner with redirection := .files wanted, mode } }) := by
  rw [Scene.configure, configureFiles_of_configuring _ _ _ hs]
  split
  · rfl
  · rename_i hwanted
    rw [Redirection.setFiles_eq _ _ (by simpa using hwanted)]
    split <;> rfl

/-- A buffer is refused after files. -/
theorem configure_buffer (sink : Sink) (mode : ConsoleMode) :
    x.configure b (.buffer sink mode) =
      if x.spawner.redirection.kind? = some .files then (.settled (.error .filesConfigured), x)
      else (.settled (.ok ()), { x with
        spawner := { x.spawner with redirection := .buffer sink, mode } }) := by
  rw [Scene.configure, configureBuffer_of_configuring _ _ _ hs, Redirection.setBuffer_eq]
  split <;> rfl

/-- A route is taken when nothing, or something of its own kind, has been configured. -/
theorem configure_taken (setting : Setting) (kind : RouteKind) (hkind : setting.kind? = some kind)
    (htaken : x.spawner.redirection.kind?.getD kind = kind) :
    ∃ route, setting.route? = some route ∧
      x.configure b setting = (.settled (.ok ()), { x with
        spawner := { x.spawner with redirection := route.redirection, mode := route.mode } }) := by
  cases setting with
  | files wanted mode =>
    rw [Setting.kind?_files, Option.ite_none_left_eq_some, Option.some.injEq] at hkind
    obtain ⟨hwanted, rfl⟩ := hkind
    have hclear : x.spawner.redirection.kind? ≠ some .buffer := by
      intro hbuffer
      simp [hbuffer] at htaken
    refine ⟨⟨.files wanted, mode⟩, if_neg hwanted, ?_⟩
    rw [configure_files b x hs, if_neg hwanted, if_neg hclear]
  | buffer sink mode =>
    obtain rfl : .buffer = kind := by simpa using hkind
    have hclear : x.spawner.redirection.kind? ≠ some .files := by
      intro hfiles
      simp [hfiles] at htaken
    refine ⟨⟨.buffer sink, mode⟩, rfl, ?_⟩
    rw [configure_buffer b x hs, if_neg hclear]
  | detach | umask => simp at hkind

/-- A route is refused when something of the other kind has been configured. -/
theorem configure_conflict (setting : Setting) (kind : RouteKind) (hkind : setting.kind? = some kind)
    (hother : x.spawner.redirection.kind?.getD kind ≠ kind) :
    x.configure b setting = (.settled (.error kind.conflict), x) := by
  obtain ⟨other, hcurrent⟩ : ∃ other, x.spawner.redirection.kind? = some other :=
    Option.ne_none_iff_exists'.mp fun h => hother (by rw [h, Option.getD_none])
  rw [hcurrent, Option.getD_some] at hother
  cases setting with
  | files wanted mode =>
    rw [Setting.kind?_files, Option.ite_none_left_eq_some, Option.some.injEq] at hkind
    obtain ⟨hwanted, rfl⟩ := hkind
    obtain rfl : other = .buffer := by cases other <;> trivial
    rw [configure_files b x hs, if_neg hwanted, if_pos hcurrent]
    rfl
  | buffer sink mode =>
    obtain rfl : .buffer = kind := by simpa using hkind
    obtain rfl : other = .files := by cases other <;> trivial
    rw [configure_buffer b x hs, if_pos hcurrent]
    rfl
  | detach | umask => simp at hkind

end Configure

/-- The last of the values asked for is the one of the last setting, if it asks for any. -/
theorem getLast?_filterMap_concat {α : Type} (wanted? : Setting → Option α) (settings : List Setting)
    (setting : Setting) :
    ((settings ++ [setting]).filterMap wanted?).getLast? =
      (wanted? setting).or (settings.filterMap wanted?).getLast? := by
  rw [List.filterMap_append, List.getLast?_append]
  cases h : wanted? setting <;> simp [h]

/-- What a spawner has to look like to follow one more setting. -/
theorem Follows.concat {settings : List Setting} {s s' : Spawner C} (h : Follows settings s)
    (setting : Setting) (hstate : s'.state = s.state)
    (hkind : s.redirection.kind?.or setting.kind? = s'.redirection.kind?)
    (hroute : (prevailing (settings ++ [setting])).getLast?.getD {} = ⟨s'.redirection, s'.mode⟩)
    (hdetach : setting.detach?.getD s.detach = s'.detach)
    (humask : setting.umask?.or s.umask = s'.umask) : Follows (settings ++ [setting]) s' where
  state := hstate.trans h.state
  kind := by rw [← hkind, ← h.kind, decidedKind_concat]
  route := hroute
  detach := by
    rw [getLast?_filterMap_concat, ← hdetach, ← h.detach]
    cases setting.detach? <;> rfl
  umask := by rw [getLast?_filterMap_concat, ← humask, ← h.umask]

/-- A setting with a route is followed, whether it is taken or refused. -/
theorem Follows.configure_of_kind {settings : List Setting} {x : Scene W C} (h : Follows settings x.spawner)
    (b : Backend W C) (setting : Setting) (kind : RouteKind) (hkind : setting.kind? = some kind) :
    Follows (settings ++ [setting]) (x.configure b setting).2.spawner := by
  have hdecided := decidedKind_of_kind settings setting [] kind hkind
  rw [h.kind] at hdecided
  have hdetach : setting.detach?.getD x.spawner.detach = x.spawner.detach := by
    cases setting <;> simp_all [Setting.detach?]
  have humask : setting.umask?.or x.spawner.umask = x.spawner.umask := by
    cases setting <;> simp_all [Setting.umask?]
  by_cases htaken : x.spawner.redirection.kind?.getD kind = kind
  · obtain ⟨route, hroute, hx⟩ := configure_taken b x h.state setting kind hkind htaken
    rw [hx]
    refine h.concat setting rfl ?_ ?_ hdetach humask
    · rw [hkind, Option.or_some, htaken, ← hkind, setting.kind?_of_route hroute]
    · rw [prevailing_concat, if_pos (by rw [hdecided, htaken, hkind]), hroute]
      simp
  · rw [configure_conflict b x h.state setting kind hkind htaken]
    refine h.concat setting rfl ?_ ?_ hdetach humask
    · cases hcurrent : x.spawner.redirection.kind? with
      | none => exact absurd (by rw [hcurrent, Option.getD_none]) htaken
      | some current => rw [Option.some_or]
    · rw [prevailing_concat, if_neg (by rw [hdecided, hkind]; simpa using Ne.symm htaken),
        List.append_nil, h.route]

/-- A setting without a route is followed. -/
theorem Follows.configure_of_idle {settings : List Setting} {x : Scene W C} (h : Follows settings x.spawner)
    (b : Backend W C) (setting : Setting) (hkind : setting.kind? = none) :
    Follows (settings ++ [setting]) (x.configure b setting).2.spawner := by
  have hidle : (prevailing (settings ++ [setting])).getLast?.getD {} =
      ⟨x.spawner.redirection, x.spawner.mode⟩ := by
    rw [prevailing_concat, setting.kind?_eq_none_iff.mp hkind, ← h.route]
    simp
  cases setting with
  | files wanted mode =>
    have hwanted : wanted.isEmpty = true := by simpa using hkind
    rw [configure_files b x h.state, if_pos hwanted]
    exact h.concat _ rfl (by simp [hwanted]) hidle rfl rfl
  | buffer => simp at hkind
  | detach wanted =>
    rw [Scene.configure, configureDetach, if_pos (x.spawner.isConfiguring_iff.mpr h.state)]
    exact h.concat _ rfl (by simp) hidle rfl rfl
  | umask wanted =>
    rw [Scene.configure, configureUmask, if_pos (x.spawner.isConfiguring_iff.mpr h.state)]
    exact h.concat _ rfl (by simp) hidle rfl rfl

/-- A spawner that follows its settings follows one more. -/
theorem Follows.configure {settings : List Setting} {x : Scene W C} (h : Follows settings x.spawner)
    (b : Backend W C) (setting : Setting) :
    Follows (settings ++ [setting]) (x.configure b setting).2.spawner := by
  cases hkind : setting.kind? with
  | some kind => exact h.configure_of_kind b setting kind hkind
  | none => exact h.configure_of_idle b setting hkind

/-- A spawner follows the settings of its run. -/
theorem Follows.run {settings : List Setting} {x : Scene W C} (h : Follows settings x.spawner)
    (b : Backend W C) (later : List Setting) :
    Follows (settings ++ later) (x.run b (later.map .configure)).spawner := by
  induction later generalizing settings x with
  | nil => simpa using h
  | cons setting later ih =>
    rw [List.append_cons]
    exact ih (h.configure b setting)

/-- A setting does not reach the backend. -/
theorem Step.configure_made {b : Backend W C} {setting : Setting} {s s' : Spawner C} {reply : Reply}
    {made : List Contact} (h : Step b (.configure setting) s reply made s') : made = [] := by
  cases h <;> rfl

/-- A launch is asked for with the options of the spawner. -/
theorem Step.spawn_made {b : Backend W C} {spec : LaunchSpec} {s s' : Spawner C} {reply : Reply}
    {made : List Contact} (h : Step b (.spawn spec) s reply made s') (hs : s.state = .configuring) :
    ∃ answer, made = [.launch spec s.options answer] := by
  cases h with
  | launch | refuse => exact ⟨_, rfl⟩
  | used _ hused => exact absurd hs hused
  | childless _ hcall => simp [Call.needsChild] at hcall

/-- No setting of a run reaches the backend. -/
theorem contacts_configure (b : Backend W C) (x : Scene W C) (settings : List Setting) :
    x.contacts b (settings.map .configure) = [] := by
  induction settings generalizing x with
  | nil => rfl
  | cons setting settings ih =>
    rw [List.map_cons, Scene.contacts_cons, (step_configure b x setting).configure_made, ih,
      List.append_nil]

/-- The settings of a run on an unused spawner are answered by the kind that the first route decides on,
and the launch gets what they ask for together. A call for files without any file is accepted and changes
nothing; a route of the decided kind is accepted; a route of the other kind is a conflict and changes
nothing. -/
theorem settings_reach_launch (b : Backend W C) (w : W) (settings : List Setting) (spec : LaunchSpec) :
    (∀ before setting later, settings = before ++ setting :: later →
      let x : Scene W C := (Scene.fresh w).run b (before.map .configure)
      (∀ wanted mode, setting = .files wanted mode → wanted.isEmpty →
        x.perform b (.configure setting) = (.settled (.ok ()), x)) ∧
      ∀ kind, setting.kind? = some kind →
        if decidedKind settings = some kind then
          (x.perform b (.configure setting)).1 = .settled (.ok ())
        else x.perform b (.configure setting) = (.settled (.error kind.conflict), x)) ∧
    ∃ answer, (Scene.fresh w : Scene W C).contacts b (settings.map .configure ++ [.spawn spec]) =
      [.launch spec (requested settings) answer] := by
  have hfollows : ∀ settings, Follows settings
      ((Scene.fresh w : Scene W C).run b (settings.map .configure)).spawner :=
    (follows_fresh w).run b
  constructor
  · rintro before setting later rfl x
    have hx : Follows before x.spawner := hfollows before
    refine ⟨?_, fun kind hkind => ?_⟩
    · rintro wanted mode rfl hwanted
      exact (configure_files b x hx.state wanted mode).trans (if_pos hwanted)
    · rw [decidedKind_of_kind before setting later kind hkind, hx.kind]
      split
      · rename_i hsame
        obtain ⟨route, -, htaken⟩ :=
          configure_taken b x hx.state setting kind hkind (Option.some.inj hsame)
        exact congrArg Prod.fst htaken
      · rename_i hother
        exact configure_conflict b x hx.state setting kind hkind fun h => hother (congrArg some h)
  · have hx := hfollows settings
    rw [Scene.contacts_append, contacts_configure, List.nil_append, ← hx.options_eq]
    exact (step_spawn b _ spec).spawn_made hx.state

/-- The late buffer is a conflict, and the empty call does not bring its mode. -/
example (sink : Sink) (path : OsString) :
    requested [.files { stdout := some path } .stdoutOnly, .umask 18, .buffer sink .merged,
      .files {} .merged, .umask 63] =
      { stdio := { stdout := some (.file path) }, umask := some 63 } := by
  rfl

end Spawner

end Offspring
