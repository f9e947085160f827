import TypedTree.Proofs.Precedence

/-! # How loading fails

Loading meets what is wrong with its sources one after the other and fails with the first of it. A
missing file, a file that is no YAML or no mapping, and a value that its check refuses are reported
to the caller as errors of the configuration. All other faults are raised as they are. -/

namespace TypedTree

/-- What is reported as an error of the configuration. -/
def LoadFault.report? : LoadFault → Option ConfigFault
  | config f => some f
  | file (.config f) => some f
  | _ => none

theorem Key.isText_iff (k : Key) :
    k.isText = true ↔ (∃ s, k.identity = .text s) ∨ ∃ ps, k.identity = .wide ps := by
  cases k with
  | float x =>
    unfold identity
    rw [ratio?_float]
    by_cases hx : x.biased = 2047 <;> simp [hx, isText]
  | _ => simp [identity, isText, ratio?]

theorem Key.isText_congr (k l : Key) (h : (l == k) = true) : l.isText = true ↔ k.isText = true := by
  rw [isText_iff, isText_iff, beq_iff_identity.mp h]

theorem Overrides.isText_of_settings {o : Overrides} (h : ∀ e ∈ o, e.1.isText = true) :
    ∀ e ∈ o.settings, e.1.isText = true := by
  have hplain : ∀ e ∈ (if o.isSet "_nested_model_default_partial_update" then
      o.map fun e => (e.1, e.2.plain) else o), e.1.isText = true := by
    intro e he
    split at he
    · obtain ⟨f, hf, rfl⟩ := List.mem_map.mp he
      exact h f hf
    · exact h e he
  intro e he
  unfold settings at he
  dsimp only at he
  rcases List.mem_append.mp he with he | he
  · obtain ⟨name, -, hname⟩ := List.mem_filterMap.mp he
    obtain ⟨f, -, rfl⟩ := Option.map_eq_some_iff.mp hname
    rfl
  · exact hplain e (List.mem_filter.mp (List.mem_filter.mp he).1).1

/-- Arguments are for sections, so that names which are text remain so. -/
theorem Sources.isText_of_given {s : Sources} (h : ∀ e ∈ s.overrides, e.1.isText = true) :
    ∀ e ∈ s.given, e.1.isText = true := by
  refine Overrides.forall_below (P := fun e => e.1.isText = true) (fun _ _ _ h => h) ?_ h
    (Overrides.isText_of_settings h)
  intro e he d
  cases hline : s.overrides.line s.reader with
  | error f =>
    rw [hline] at he
    cases he
  | ok line =>
    rw [hline] at he
    obtain ⟨sec, -, hkey⟩ := Overrides.section_of_line hline e he
    dsimp only
    rw [hkey]
    rfl

namespace Sources

variable {s : Sources} {global project : Mapping} {path : FilePath} {f : LoadFault}

/-- Both files can be read and merged. -/
structure Opened (s : Sources) (global project : Mapping) : Prop
    extends s.Filed global project where
  called : s.Called
  apart : ¬ global.Meets Mapping.mergeLimit project

/-- What the environment says to the caller's naming. -/
def told (s : Sources) : Mapping := Environment.told s.overrides.named s.environment

/-- All sources can be read and merged. -/
structure Read (s : Sources) (global project : Mapping) : Prop extends s.Opened global project where
  fit : ∀ f, ¬ s.overrides.Unfit s.reader f
  readable : ∀ f, ¬ Environment.Fails s.overrides.named s.environment f
  untangled : s.Untangled global project s.told

/-- All keys in the files are text. -/
structure InText (global project : Mapping) : Prop where
  global : ∀ e ∈ global, e.1.isText = true
  project : ∀ e ∈ project, e.1.isText = true

/-- Some output goes below a home that is not known, and is no part of a group that the caller
gives. -/
def Homeless (s : Sources) (m : Mapping) : Prop :=
  s.given.group? "logging" Group.logging? = none ∧
    ∃ d, m.get? "logging" = some d ∧ LogSettings.Homeless s.homes d

/-- Some output of a group that the caller gives goes below such a home. -/
def GroupHomeless (s : Sources) : Prop :=
  ∃ l, s.given.group? "logging" Group.logging? = some l ∧ LogSettings.Homeless s.homes l.toData

/-- What all sources say can be checked: the issues are those that are found. -/
structure Checks (s : Sources) (global project : Mapping) (issues : List Issue) : Prop
    extends s.Read global project where
  keys : InText global project
  housed : ¬ s.Homeless (s.merge global project s.told)
  found : Refusals s.homes (Load.spots s.given (s.merge global project s.told)) issues

/-- How loading fails, in the order in which it comes to the causes. -/
inductive Fails (s : Sources) : LoadFault → Prop
  | name {e : Key × Given} (given : e ∈ s.overrides) (noText : e.1.isText = false) :
      Fails s .keyNotText
  | path {g : Given} (names : ∀ e ∈ s.overrides, e.1.isText = true)
      (given : s.overrides.get? pathParameter = some g) :
      Fails s (.arguments (.repeated "load_config" pathParameter))
  | lost {f : LoadFault} (called : s.Called) (lost : s.Lost f) : Fails s f
  | globalFile {path : FilePath} {fault : FileFault} (called : s.Called) (found : s.Found path)
      (spoiled : s.files.Spoiled s.globalFile fault) : Fails s (.file fault)
  | projectFile {path : FilePath} {global : Mapping} {fault : FileFault} (called : s.Called)
      (found : s.Found path) (read : s.files.Gives s.globalFile global)
      (spoiled : s.files.Spoiled path fault) : Fails s (.file fault)
  | files {global project : Mapping} (called : s.Called) (filed : s.Filed global project)
      (meets : global.Meets Mapping.mergeLimit project) : Fails s .tooNested
  | options {global project : Mapping} {fault : OptionFault} (opened : s.Opened global project)
      (unfit : s.overrides.Unfit s.reader fault) : Fails s (.options fault)
  | environment {global project : Mapping} {fault : Environment.Fault}
      (opened : s.Opened global project) (fit : ∀ f, ¬ s.overrides.Unfit s.reader f)
      (fails : Environment.Fails s.overrides.named s.environment fault) :
      Fails s (.environment fault)
  | sources {global project : Mapping} (opened : s.Opened global project)
      (fit : ∀ f, ¬ s.overrides.Unfit s.reader f)
      (readable : ∀ f, ¬ Environment.Fails s.overrides.named s.environment f)
      (tangled : ¬ s.Untangled global project s.told) : Fails s .tooNested
  | keyNotText {global project : Mapping} (read : s.Read global project)
      (keys : ¬ InText global project) : Fails s .keyNotText
  | unknownHome {global project : Mapping} (read : s.Read global project)
      (keys : InText global project) (homeless : s.Homeless (s.merge global project s.told)) :
      Fails s .unknownHome
  | tooLong {global project : Mapping} {i : Issue} {rest : List Issue}
      (checks : s.Checks global project (i :: rest))
      (digits : Environment.holdsTooLong i.input = true) : Fails s .tooLong
  | invalid {global project : Mapping} {i : Issue} {rest : List Issue}
      (checks : s.Checks global project (i :: rest))
      (digits : Environment.holdsTooLong i.input = false) :
      Fails s (.config (.invalid ((Text.points ".").intercalate (i.path.map Locus.text))
        i.input.points i.kind.message))
  | refusedAgain {global project : Mapping} {i : Issue} {rest : List Issue}
      (passes : s.Checks global project []) (housed : ¬ s.GroupHomeless)
      (refused : Refusals s.homes (Load.groupsSpots s.given) (i :: rest)) :
      Fails s (.recheck (i :: rest))
  | groupHomeless {global project : Mapping} (passes : s.Checks global project [])
      (homeless : s.GroupHomeless) : Fails s .unknownHome

theorem Called.load_of_project (hcalled : s.Called) (h : s.project = .error f) :
    s.load = .error f := by
  rw [hcalled.load_eq, merged, fileSettings, h]
  rfl

theorem Found.load_of_globalFile {fault : FileFault} (h : s.Found path) (hcalled : s.Called)
    (hglobal : s.files.Spoiled s.globalFile fault) : s.load = .error (.file fault) := by
  rw [hcalled.load_eq, merged, fileSettings, h.project_eq, FileSystem.settings_eq_error.mpr hglobal]
  rfl

theorem Found.load_of_projectFile {fault : FileFault} (h : s.Found path) (hcalled : s.Called)
    (hglobal : s.files.Gives s.globalFile global) (hproject : s.files.Spoiled path fault) :
    s.load = .error (.file fault) := by
  rw [hcalled.load_eq, merged, fileSettings, h.project_eq, ok_bind,
    FileSystem.settings_eq_ok.mpr hglobal, mapError_ok, ok_bind,
    FileSystem.settings_eq_error.mpr hproject]
  rfl

/-- The sources that are left once the files are merged. -/
theorem Opened.load_of_naming (h : s.Opened global project) {fault : OptionFault}
    (hunfit : s.overrides.Unfit s.reader fault) : s.load = .error (.options fault) := by
  rw [h.called.load_eq, h.merged_eq h.apart, Overrides.naming_eq_error.mpr hunfit]
  rfl

theorem Opened.load_of_environment (h : s.Opened global project)
    (hfit : ∀ f, ¬ s.overrides.Unfit s.reader f) {fault : Environment.Fault}
    (hfails : Environment.Fails s.overrides.named s.environment fault) :
    s.load = .error (.environment fault) := by
  rw [h.called.load_eq, h.merged_eq h.apart, Overrides.naming_eq_ok.mpr ⟨hfit, rfl⟩, mapError_ok,
    ok_bind, Environment.settings_eq_error.mpr hfails]
  rfl

theorem Opened.load_of_tangled (h : s.Opened global project)
    (hfit : ∀ f, ¬ s.overrides.Unfit s.reader f)
    (hreadable : ∀ f, ¬ Environment.Fails s.overrides.named s.environment f)
    (htangled : ¬ s.Untangled global project s.told) : s.load = .error .tooNested := by
  have htold : Environment.settings s.overrides.named s.environment = .ok s.told :=
    Environment.settings_eq_ok.mpr ⟨hreadable, rfl⟩
  rw [h.called.load_eq, h.merged_eq h.apart, Overrides.naming_eq_ok.mpr ⟨hfit, rfl⟩, mapError_ok,
    ok_bind, htold, mapError_ok, ok_bind]
  by_cases hupper : s.told.Meets Mapping.mergeLimit s.given.asData
  · rw [Load.merge_eq_error.mpr ⟨hupper, rfl⟩]
    rfl
  · rw [Load.merge_eq_ok.mpr ⟨hupper, rfl⟩, ok_bind]
    by_cases hall : (Mapping.overlay global project).Meets Mapping.mergeLimit
        (Mapping.overlay s.told s.given.asData)
    · rw [Load.merge_eq_error.mpr ⟨hall, rfl⟩]
      rfl
    · exact absurd ⟨h.apart, hupper, hall⟩ htangled

theorem Read.merged_eq (h : s.Read global project) :
    s.merged = if (s.merge global project s.told).all fun e => e.1.isText then
      .ok (s.merge global project s.told) else .error .keyNotText :=
  h.toFiled.merged_eq_merge (Overrides.naming_eq_ok.mpr ⟨h.fit, rfl⟩)
    (Environment.settings_eq_ok.mpr ⟨h.readable, rfl⟩) h.untangled

theorem Read.inText_iff (h : s.Read global project) :
    ((s.merge global project s.told).all fun e => e.1.isText) = true ↔
      InText global project := by
  have htold : Environment.settings s.overrides.named s.environment = .ok s.told :=
    Environment.settings_eq_ok.mpr ⟨h.readable, rfl⟩
  have hvariables : ∀ e ∈ s.told, e.1.isText = true := by
    intro e he
    obtain ⟨sec, -, hkey⟩ := Environment.section_of_settings htold e he
    rw [hkey]
    rfl
  have hgiven : ∀ e ∈ s.given.asData, e.1.isText = true := by
    rw [Overrides.asData, List.forall_mem_map]
    exact Overrides.isText_of_settings (isText_of_given h.called.names)
  rw [List.all_eq_true, merge, Mapping.forall_overlay Key.isText_congr,
    Mapping.forall_overlay Key.isText_congr, Mapping.forall_overlay Key.isText_congr]
  constructor
  · rintro ⟨⟨hglobal, hproject⟩, -⟩
    exact ⟨hglobal, hproject⟩
  · intro hkeys
    exact ⟨⟨hkeys.global, hkeys.project⟩, hvariables, hgiven⟩

theorem Read.load_of_keys (h : s.Read global project) (hkeys : ¬ InText global project) :
    s.load = .error .keyNotText := by
  rw [h.called.load_eq, h.merged_eq, if_neg (h.inText_iff.not.mpr hkeys)]
  rfl

theorem Read.load_of_inText (h : s.Read global project) (hkeys : InText global project) :
    s.load = s.finish (s.merge global project s.told) := by
  rw [h.called.load_eq, h.merged_eq, if_pos (h.inText_iff.mpr hkeys)]
  rfl

/-- The verdict on what all sources say. -/
theorem lists_verdict (s : Sources) (m : Mapping) :
    (Load.verdict s.homes s.given m).Lists s.homes (Load.spots s.given m) :=
  Load.lists_verdict m

theorem verdict_eq_abandoned {m : Mapping} :
    Load.verdict s.homes s.given m = .abandoned ↔ s.Homeless m :=
  Load.verdict_eq_abandoned

theorem again_eq_abandoned {m : Mapping} {t : Settings}
    (h : Load.verdict s.homes s.given m = .valid t) :
    Settings.check s.homes t.toData = .abandoned ↔ s.GroupHomeless :=
  Load.abandoned_again h

theorem Checks.verdict_eq {i : Issue} {rest : List Issue} (h : s.Checks global project (i :: rest)) :
    Load.verdict s.homes s.given (s.merge global project s.told) = .invalid (i :: rest) :=
  (s.lists_verdict _).eq_invalid (verdict_eq_abandoned.not.mpr h.housed) h.found

theorem Checks.exists_verdict (h : s.Checks global project []) :
    ∃ t, Load.verdict s.homes s.given (s.merge global project s.told) = .valid t :=
  (s.lists_verdict _).exists_valid (verdict_eq_abandoned.not.mpr h.housed) h.found

theorem Fails.load_eq (h : s.Fails f) : s.load = .error f := by
  cases h with
  | @name e given noText =>
    have hnames : (s.overrides.all fun e => e.1.isText) = false := by
      rw [List.all_eq_false]
      exact ⟨e, given, Bool.eq_false_iff.mp noText⟩
    rw [load, call, hnames]
    rfl
  | path names given =>
    rw [load, call, List.all_eq_true.mpr names, given]
    rfl
  | lost called lost => exact called.load_of_project lost.project_eq
  | globalFile called found spoiled => exact found.load_of_globalFile called spoiled
  | projectFile called found read spoiled => exact found.load_of_projectFile called read spoiled
  | files called filed meets =>
    rw [called.load_eq, merged, filed.fileSettings_eq, Load.merge_eq_error.mpr ⟨meets, rfl⟩]
    rfl
  | options opened unfit => exact opened.load_of_naming unfit
  | environment opened fit fails => exact opened.load_of_environment fit fails
  | sources opened fit readable tangled => exact opened.load_of_tangled fit readable tangled
  | keyNotText read keys => exact read.load_of_keys keys
  | unknownHome read keys homeless =>
    rw [read.load_of_inText keys, finish_of_abandoned (verdict_eq_abandoned.mpr homeless)]
  | tooLong checks digits =>
    rw [checks.load_of_inText checks.keys, finish_of_invalid checks.verdict_eq]
    simp only [Load.firstIssue, digits, if_true]
  | invalid checks digits =>
    rw [checks.load_of_inText checks.keys, finish_of_invalid checks.verdict_eq]
    simp only [Load.firstIssue, digits, Bool.false_eq_true, if_false]
  | refusedAgain passes housed refused =>
    obtain ⟨t, ht⟩ := passes.exists_verdict
    have hagain : Settings.check s.homes t.toData ≠ .abandoned :=
      (again_eq_abandoned ht).not.mpr housed
    rw [passes.load_of_inText passes.keys]
    exact finish_of_refused ht ((Load.lists_again ht).eq_invalid hagain refused)
  | groupHomeless passes homeless =>
    obtain ⟨t, ht⟩ := passes.exists_verdict
    rw [passes.load_of_inText passes.keys]
    exact finish_of_homeless ht ((again_eq_abandoned ht).mpr homeless)

/-- With all sources read, loading succeeds or fails by its keys or one of its checks. -/
theorem Read.fails_or_loads (h : s.Read global project) : (∃ f, s.Fails f) ∨ ∃ t, s.load = .ok t := by
  by_cases hkeys : InText global project
  swap
  · exact .inl ⟨_, .keyNotText h hkeys⟩
  by_cases hhomeless : s.Homeless (s.merge global project s.told)
  · exact .inl ⟨_, .unknownHome h hkeys hhomeless⟩
  have hlists := s.lists_verdict (s.merge global project s.told)
  have hload := h.load_of_inText hkeys
  cases hv : Load.verdict s.homes s.given (s.merge global project s.told) with
  | abandoned => exact absurd (verdict_eq_abandoned.mp hv) hhomeless
  | invalid issues =>
    rw [hv] at hlists
    cases hlists with
    | @invalid i _ found =>
      have hchecks : s.Checks global project _ := ⟨h, hkeys, hhomeless, found⟩
      cases hdigits : Environment.holdsTooLong i.input with
      | true => exact .inl ⟨_, .tooLong hchecks hdigits⟩
      | false => exact .inl ⟨_, .invalid hchecks hdigits⟩
  | valid t =>
    rw [hv] at hlists
    have hchecks : s.Checks global project [] := ⟨h, hkeys, hhomeless, hlists.refusals_of_valid⟩
    have hagain := Load.lists_again hv
    cases hw : Settings.check s.homes t.toData with
    | valid again => exact .inr ⟨again, hload.trans (finish_of_valid hv hw)⟩
    | abandoned => exact .inl ⟨_, .groupHomeless hchecks ((again_eq_abandoned hv).mp hw)⟩
    | invalid issues =>
      have hhoused : ¬ s.GroupHomeless := by
        intro hgroup
        cases hw.symm.trans ((again_eq_abandoned hv).mpr hgroup)
      rw [hw] at hagain
      cases hagain with
      | invalid found => exact .inl ⟨_, .refusedAgain hchecks hhoused found⟩

theorem Opened.fails_or_read (h : s.Opened global project) :
    (∃ f, s.Fails f) ∨ s.Read global project := by
  by_cases hfit : ∃ f, s.overrides.Unfit s.reader f
  · obtain ⟨f, hunfit⟩ := hfit
    exact .inl ⟨_, .options h hunfit⟩
  have hfit := not_exists.mp hfit
  by_cases hreadable : ∃ f, Environment.Fails s.overrides.named s.environment f
  · obtain ⟨f, hfails⟩ := hreadable
    exact .inl ⟨_, .environment h hfit hfails⟩
  have hreadable := not_exists.mp hreadable
  by_cases huntangled : s.Untangled global project s.told
  · exact .inr ⟨h, hfit, hreadable, huntangled⟩
  · exact .inl ⟨_, .sources h hfit hreadable huntangled⟩

theorem Called.fails_or_opened (h : s.Called) :
    (∃ f, s.Fails f) ∨ ∃ global project, s.Opened global project := by
  rcases s.found_or_lost with ⟨path, hfound⟩ | ⟨f, hlost⟩
  swap
  · exact .inl ⟨f, .lost h hlost⟩
  cases hglobal : s.files.settings s.globalFile with
  | error fault => exact .inl ⟨_, .globalFile h hfound (FileSystem.settings_eq_error.mp hglobal)⟩
  | ok global =>
    have hglobal := FileSystem.settings_eq_ok.mp hglobal
    cases hproject : s.files.settings path with
    | error fault =>
      exact .inl ⟨_, .projectFile h hfound hglobal (FileSystem.settings_eq_error.mp hproject)⟩
    | ok project =>
      have hfiled : s.Filed global project :=
        ⟨hglobal, path, hfound, FileSystem.settings_eq_ok.mp hproject⟩
      by_cases hmeets : global.Meets Mapping.mergeLimit project
      · exact .inl ⟨_, .files h hfiled hmeets⟩
      · exact .inr ⟨global, project, hfiled, h, hmeets⟩

theorem fails_or_called (s : Sources) : (∃ f, s.Fails f) ∨ s.Called := by
  by_cases hnames : ∀ e ∈ s.overrides, e.1.isText = true
  · cases hfree : s.overrides.get? pathParameter with
    | some g => exact .inl ⟨_, .path hnames hfree⟩
    | none => exact .inr ⟨hnames, hfree⟩
  · simp only [not_forall] at hnames
    obtain ⟨e, he, hname⟩ := hnames
    exact .inl ⟨_, .name he (Bool.eq_false_iff.mpr hname)⟩

theorem fails_or_loads (s : Sources) : (∃ f, s.Fails f) ∨ ∃ t, s.load = .ok t := by
  rcases s.fails_or_called with hfails | hcalled
  · exact .inl hfails
  rcases hcalled.fails_or_opened with hfails | ⟨global, project, hopened⟩
  · exact .inl hfails
  rcases hopened.fails_or_read with hfails | hread
  · exact .inl hfails
  · exact hread.fails_or_loads

theorem load_eq_error : s.load = .error f ↔ s.Fails f := by
  refine ⟨fun h => ?_, Fails.load_eq⟩
  rcases s.fails_or_loads with ⟨f', hfails⟩ | ⟨t, ht⟩
  · cases hfails.load_eq.symm.trans h
    exact hfails
  · cases ht.symm.trans h

/-- Settings that pass their check once pass it again. -/
theorem not_fails_recheck (h : s.overrides.Checked) (issues : List Issue) :
    ¬ s.Fails (.recheck issues) :=
  fun hfails => load_ne_recheck h issues hfails.load_eq

/-- Loading fails exactly for the causes above. It succeeds or reports an error of the configuration
exactly if each cause that there is is one of those that are reported. What a second check refuses is
not, but there is no such thing if the groups that the caller gives are checked. -/
theorem fails_exactly (s : Sources) :
    (∀ f, s.load = .error f ↔ s.Fails f) ∧
      (((∃ t, s.load = .ok t) ∨ ∃ f c, s.load = .error f ∧ f.report? = some c) ↔
        ∀ f, s.Fails f → ∃ c, f.report? = some c) ∧
      (s.overrides.Checked → ∀ issues, ¬ s.Fails (.recheck issues)) := by
  refine ⟨fun f => load_eq_error, ⟨?_, fun hreported => ?_⟩, not_fails_recheck⟩
  · rintro (⟨t, ht⟩ | ⟨f, c, hload, hc⟩) f' hfails
    · cases hfails.load_eq.symm.trans ht
    · cases hfails.load_eq.symm.trans hload
      exact ⟨c, hc⟩
  · rcases s.fails_or_loads with ⟨f, hfails⟩ | hloads
    · obtain ⟨c, hc⟩ := hreported f hfails
      exact .inr ⟨f, c, hfails.load_eq, hc⟩
    · exact .inl hloads

end Sources

namespace Layers

/-- Without files and with a plain naming all sources are read if the environment is. -/
theorem unfiled_read {environment : Variables} {o : Overrides} {m : Mapping}
    (hcalled : (unfiled environment o).Called) (hnaming : o.naming {} = .ok {})
    (hread : Environment.settings {} environment = .ok m)
    (hmeets : ¬ m.Meets Mapping.mergeLimit (unfiled environment o).given.asData) :
    (unfiled environment o).told = m ∧ (unfiled environment o).Read [] [] := by
  obtain ⟨hfit, hnamed⟩ := Overrides.naming_eq_ok.mp hnaming
  obtain ⟨hreadable, htold⟩ := Environment.settings_eq_ok.mp hread
  have hempty (top : Mapping) : ¬ Mapping.Meets Mapping.mergeLimit [] top := by
    intro h
    cases h with
    | under _ found => cases found
  have hwhole : (unfiled environment o).told = m := by
    rw [Sources.told]
    change Environment.told o.named environment = m
    rw [← hnamed, htold]
  refine ⟨hwhole, ⟨⟨unfiled_filed _ _, hcalled, hempty _⟩, hfit, ?_, ⟨hempty _, ?_, hempty _⟩⟩⟩
  · change ∀ f, ¬ Environment.Fails o.named environment f
    rw [← hnamed]
    exact hreadable
  · rw [hwhole]
    exact hmeets

/-- An output below the home of somebody whom nobody knows. -/
def astray : Sources :=
  unfiled [] (giving .logging "outputs" (.list [.record [("destination", .text "~nobodyhere/log")]]))

theorem astray_fails : astray.Fails .unknownHome := by
  have hplain : astray.overrides.Plain := giving_plain (by decide)
  have hcalled : astray.Called := (unfiled_known (by decide)).called
  have hmeets : ¬ Mapping.Meets Mapping.mergeLimit [] astray.given.asData := by decide +kernel
  have hnothing : Environment.settings {} [] = .ok [] := rfl
  obtain ⟨htold, hread⟩ := unfiled_read hcalled (hplain.naming_eq {}) hnothing hmeets
  have hkeys : Sources.InText [] [] := ⟨List.forall_mem_nil _, List.forall_mem_nil _⟩
  have hgiven : (astray.merge [] [] []).get? "logging" = some (.record [("outputs",
      .list [.record [("destination", .text "~nobodyhere/log")]])]) := rfl
  have hdestination : (FilePath.ofText "~nobodyhere/log").Homeless astray.homes :=
    ⟨rfl, _, _, rfl, rfl, fun home hhome => by cases hhome⟩
  have houtput : OutputSettings.Homeless astray.homes
      (.record [("destination", .text "~nobodyhere/log")]) :=
    ⟨_, rfl, _, rfl, _, rfl, hdestination⟩
  refine .unknownHome hread hkeys ⟨Load.group?_eq_none hplain _ _, ?_⟩
  rw [show astray.told = [] from htold]
  exact ⟨_, hgiven, _, rfl, _, rfl, _, rfl, _, List.mem_singleton.mpr rfl, houtput⟩

theorem load_astray : astray.load = .error .unknownHome ∧ astray.overrides.Checked ∧
    ∀ issues, ¬ astray.Fails (.recheck issues) := by
  obtain ⟨hexactly, -, hchecked⟩ := astray.fails_exactly
  have h : astray.overrides.Checked := (giving_plain (by decide)).checked
  exact ⟨(hexactly .unknownHome).mpr astray_fails, h, hchecked h⟩

/-- A variable for a section that is no JSON. -/
def garbled : Sources := unfiled [(Text.points "TSAST__LOGGING", Text.points "oops")] []

/-- Nothing is loaded, and no error of the configuration is reported. -/
theorem garbled_escapes : ¬ ((∃ t, garbled.load = .ok t) ∨
    ∃ f c, garbled.load = .error f ∧ f.report? = some c) := by
  have hread : (Environment.settings {} garbled.environment).toOption.isNone = true := by
    decide +kernel
  have hnaming : Overrides.naming [] {} = .ok {} := rfl
  obtain ⟨hfit, hnamed⟩ := Overrides.naming_eq_ok.mp hnaming
  have hopened : garbled.Opened [] [] :=
    ⟨unfiled_filed _ _, ⟨List.forall_mem_nil _, rfl⟩, by decide +kernel⟩
  have hfails : ∃ fault, garbled.Fails (.environment fault) := by
    cases h : Environment.settings {} garbled.environment with
    | ok m =>
      rw [h] at hread
      cases hread
    | error fault =>
      rw [hnamed] at h
      exact ⟨fault, .environment hopened hfit (Environment.settings_eq_error.mp h)⟩
  obtain ⟨fault, hfails⟩ := hfails
  rintro (⟨t, ht⟩ | ⟨f, c, hload, hc⟩)
  · cases hfails.load_eq.symm.trans ht
  · cases hfails.load_eq.symm.trans hload
    cases hc

end Layers

end TypedTree
