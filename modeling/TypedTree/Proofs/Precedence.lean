import TypedTree.Proofs.FileSettings
import TypedTree.Proofs.Nesting
import TypedTree.Proofs.OptionFaults
import TypedTree.Proofs.SecondCheck
import TypedTree.Proofs.VariableFaults
import TypedTree.Settings.FileStore

/-! # Which source a setting comes from

Four sources are merged section by section before anything is checked: a global file, a project
file, the environment and the caller. Each setting has the value that its uppermost source gives it,
or its default, and no other value of it is ever checked. -/

namespace TypedTree

open Environment (sections)

/-- A key is the name of a section. -/
def Key.IsSection (k : Key) : Prop := ∃ s ∈ sections, k = .text s.name

theorem Key.isSection_congr (k l : Key) (h : (l == k) = true) : l.IsSection ↔ k.IsSection := by
  constructor
  · rintro ⟨s, hs, rfl⟩
    exact ⟨s, hs, Key.text_beq_iff.mp h⟩
  · rintro ⟨s, hs, rfl⟩
    exact ⟨s, hs, Key.beq_text_iff.mp h⟩

/-- A mapping whose sections are mappings. -/
structure Mapping.Sectioned (m : Mapping) : Prop where
  distinct : m.Distinct
  holds : ∀ s ∈ sections, m.Holds s.name

theorem Mapping.Sectioned.overlay {base top : Mapping} (hbase : base.Sectioned)
    (htop : top.Sectioned) : (Mapping.overlay base top).Sectioned :=
  ⟨distinct_overlay hbase.distinct top,
    fun s hs => holds_overlay htop.distinct (hbase.holds s hs) (htop.holds s hs)⟩

namespace Overrides

variable {o : Overrides}

/-- What the caller gives for a section, under the first name that means it. -/
def section? (o : Overrides) (name : String) : Option Data :=
  (o.find? fun e => means e.1 name).map fun e => e.2.toData

/-- The caller gives data and no options, and mappings for the sections. -/
structure Plain (o : Overrides) : Prop where
  data : ∀ e ∈ o, ∃ d, e.2 = .data d
  noOptions : ∀ name ∈ optionNames, o.get? name = none
  mappings : ∀ s ∈ sections, ∀ d, o.section? s.name = some d → d.IsMapping

/-- All that is given is for a section. -/
def Known (o : Overrides) : Prop := ∀ e ∈ o, ∃ s ∈ sections, means e.1 s.name = true

theorem Plain.data?_eq (h : o.Plain) {name : String} (hname : name ∈ optionNames) :
    o.data? name = none := by
  rw [data?, h.noOptions name hname]

theorem Plain.isSet_eq (h : o.Plain) {name : String} (hname : name ∈ optionNames) :
    o.isSet name = false := by
  rw [isSet, h.data?_eq hname]

/-- Without options no arguments are read. -/
theorem Plain.line_eq (h : o.Plain) (r : OptionReader) : o.line r = .ok [] := by
  rw [line, h.data?_eq (by decide : "_cli_parse_args" ∈ optionNames)]

/-- Without options the variables are named as they always are. -/
theorem Plain.naming_eq (h : o.Plain) (r : OptionReader) : o.naming r = .ok {} := by
  have hcheck : o.checkLine r = .ok () := by
    rw [checkLine, h.line_eq r]
    rfl
  have hstart := h.data?_eq (by decide : "_env_prefix" ∈ optionNames)
  have htarget := h.data?_eq (by decide : "_env_prefix_target" ∈ optionNames)
  have hsplit := h.data?_eq (by decide : "_env_nested_max_split" ∈ optionNames)
  have hfile := h.data?_eq (by decide : "_env_file" ∈ optionNames)
  have hargs := h.data?_eq (by decide : "_cli_parse_args" ∈ optionNames)
  have hdelimiter := h.data?_eq (by decide : "_env_nested_delimiter" ∈ optionNames)
  have hnull := h.data?_eq (by decide : "_env_parse_none_str" ∈ optionNames)
  have hcase := h.isSet_eq (by decide : "_case_sensitive" ∈ optionNames)
  have hempty := h.isSet_eq (by decide : "_env_ignore_empty" ∈ optionNames)
  unfold naming splits start readFiles checkFiles checkArguments hasNoStart namingWith unsplit?
  rw [h.line_eq r, hcheck, hstart, htarget, hsplit, hfile, hargs, hdelimiter, hnull, hcase, hempty]
  rfl

theorem Plain.beq_option (h : o.Plain) {e : Key × Given} (he : e ∈ o) {name : String}
    (hname : name ∈ optionNames) : (e.1 == .text name) = false := by
  have hlookup := List.lookup_eq_none_iff.mp (h.noOptions name hname) e he
  rw [bne, Bool.not_eq_true'] at hlookup
  rw [← Key.text_beq]
  exact hlookup

/-- What is given for no section. -/
def unknown (o : Overrides) : Overrides :=
  o.filter fun e => !(sections.map (·.name)).any (means e.1)

theorem Plain.settings_eq (h : o.Plain) :
    o.settings = (sections.map (·.name)).filterMap
      (fun name => (o.find? fun e => means e.1 name).map fun e => (Key.text name, e.2)) ++
        o.unknown := by
  have hpartial := h.isSet_eq (by decide : "_nested_model_default_partial_update" ∈ optionNames)
  have hkept : ∀ e ∈ o, (!optionNames.any fun name => e.1 == .text name) = true := by
    intro e he
    rw [Bool.not_eq_true', List.any_eq_false]
    intro name hname
    rw [h.beq_option he hname]
    exact Bool.false_ne_true
  unfold settings
  dsimp only
  rw [hpartial, if_neg Bool.false_ne_true, List.filter_eq_self.mpr hkept]
  rfl

/-- Where only data is given, no group is. -/
theorem Plain.checked (h : o.Plain) : o.Checked := by
  intro e he g hg
  obtain ⟨d, hd⟩ := h.data e he
  rw [hd] at hg
  cases hg

theorem Plain.settings_data (h : o.Plain) : ∀ e ∈ o.settings, ∃ d, e.2 = .data d := by
  intro e he
  rw [h.settings_eq] at he
  rcases List.mem_append.mp he with he | he
  · obtain ⟨name, -, he⟩ := List.mem_filterMap.mp he
    obtain ⟨f, hf, rfl⟩ := Option.map_eq_some_iff.mp he
    exact h.data f (List.mem_of_find?_eq_some hf)
  · exact h.data e (List.mem_filter.mp he).1

theorem Plain.asData_eq (h : o.Plain) :
    o.asData = Environment.entryOf "logging" (o.section? "logging") ++
      Environment.entryOf "unmarshal" (o.section? "unmarshal") ++
        o.unknown.map fun e => (e.1, e.2.toData) := by
  rw [asData, h.settings_eq, List.map_append]
  congr 1
  unfold section?
  simp only [sections, Environment.Section.logging, Environment.Section.building, List.map_cons,
    List.map_nil, List.filterMap_cons, List.filterMap_nil]
  cases o.find? fun e => means e.1 "logging" <;>
    cases o.find? fun e => means e.1 "unmarshal" <;> rfl

theorem Known.unknown_eq (h : o.Known) : o.unknown = [] := by
  rw [unknown, List.filter_eq_nil_iff]
  intro e he hunknown
  obtain ⟨s, hs, hmeans⟩ := h e he
  rw [Bool.not_eq_true', List.any_eq_false] at hunknown
  exact hunknown s.name (List.mem_map_of_mem hs) hmeans

theorem Known.asData_eq (h : o.Known) (hplain : o.Plain) :
    o.asData = Environment.entryOf "logging" (o.section? "logging") ++
      Environment.entryOf "unmarshal" (o.section? "unmarshal") := by
  rw [hplain.asData_eq, h.unknown_eq]
  exact List.append_nil _

/-- The name of a section means it. -/
theorem means_of_isSection {k : Key} (h : k.IsSection) : ∃ s ∈ sections, means k s.name = true := by
  obtain ⟨s, hs, rfl⟩ := h
  have hall : ∀ s ∈ sections, means (.text s.name) s.name = true := by decide +kernel
  exact ⟨s, hs, hall s hs⟩

/-- All keys of what is given are sections exactly if all that is given means one. -/
theorem Plain.known_iff (h : o.Plain) : (∀ e ∈ o.asData, e.1.IsSection) ↔ o.Known := by
  constructor
  · intro hkeys e he
    cases hknown : (sections.map (·.name)).any (means e.1) with
    | true =>
      obtain ⟨name, hname, hmeans⟩ := List.any_eq_true.mp hknown
      obtain ⟨s, hs, rfl⟩ := List.mem_map.mp hname
      exact ⟨s, hs, hmeans⟩
    | false =>
      refine means_of_isSection (hkeys (e.1, e.2.toData) ?_)
      rw [h.asData_eq]
      refine List.mem_append_right _ (List.mem_map.mpr ⟨e, ?_, rfl⟩)
      exact List.mem_filter.mpr ⟨he, by rw [hknown]; rfl⟩
  · intro hknown e he
    rw [hknown.asData_eq h] at he
    rcases List.mem_append.mp he with he | he
    · cases hl : o.section? "logging" with
      | none => rw [hl] at he; cases he
      | some d =>
        rw [hl] at he
        exact ⟨.logging, by decide, List.mem_singleton.mp he ▸ rfl⟩
    · cases hb : o.section? "unmarshal" with
      | none => rw [hb] at he; cases he
      | some d =>
        rw [hb] at he
        exact ⟨.building, by decide, List.mem_singleton.mp he ▸ rfl⟩

theorem Known.get?_asData (hplain : o.Plain) (h : o.Known) :
    ∀ s ∈ sections, o.asData.get? s.name = o.section? s.name := by
  intro s hs
  rw [h.asData_eq hplain]
  obtain ⟨hl, hb⟩ := Environment.get?_entries (o.section? "logging") (o.section? "unmarshal")
  rcases Environment.mem_sections.mp hs with rfl | rfl
  · exact hl
  · exact hb

theorem Known.sectioned (hplain : o.Plain) (h : o.Known) : o.asData.Sectioned := by
  refine ⟨?_, fun s hs d hd => hplain.mappings s hs d ?_⟩
  · rw [h.asData_eq hplain]
    exact Environment.distinct_entries _ _
  · rw [← h.get?_asData hplain s hs]
    exact hd

theorem Known.within? (hplain : o.Plain) (h : o.Known) :
    ∀ s ∈ sections, ∀ key, o.asData.within? s.name key = (o.section? s.name).bind (·.at? key) := by
  intro s hs key
  rw [Mapping.within?, h.get?_asData hplain s hs]

end Overrides

theorem LogSettings.given_eq_valid {homes : Homes} {m : Mapping} (h : m.Holds "logging")
    {l : LogSettings} :
    Check.given {} (LogSettings.check homes) (m.get? "logging") = .valid l ↔
      Check.given .info Check.level (m.within? "logging" "level") = .valid l.level ∧
      Check.given [{}] (LogSettings.checkOutputs homes) (m.within? "logging" "outputs") =
        .valid l.outputs := by
  cases hd : m.get? "logging" with
  | none =>
    rw [Mapping.within?_of_none hd, Mapping.within?_of_none hd]
    constructor
    · intro hl
      cases hl
      exact ⟨rfl, rfl⟩
    · rintro ⟨hlevel, houtputs⟩
      obtain ⟨level, outputs⟩ := l
      cases hlevel
      cases houtputs
      rfl
  | some d =>
    obtain ⟨entries, hentries, -⟩ := h d hd
    rw [Mapping.within?_of_some hd hentries, Mapping.within?_of_some hd hentries]
    refine LogSettings.check_eq_valid.trans ⟨?_, fun hl => ⟨entries, hentries, hl⟩⟩
    rintro ⟨m', hm', hl⟩
    cases hentries.symm.trans hm'
    exact hl

theorem BuildOptions.given_eq_valid {m : Mapping} (h : m.Holds "unmarshal") {o : BuildOptions} :
    Check.given {} BuildOptions.check (m.get? "unmarshal") = .valid o ↔
      Check.given "utf-8" Check.encoding (m.within? "unmarshal" "encoding") = .valid o.encoding ∧
      Check.given .replace (Check.choice Leniency.all Leniency.name)
        (m.within? "unmarshal" "decode_errors") = .valid o.decodeErrors ∧
      Check.given false Check.bool (m.within? "unmarshal" "keep_fielded_extras") =
        .valid o.keepFieldedExtras ∧
      Check.given true Check.bool (m.within? "unmarshal" "validate_field_names") =
        .valid o.validateFieldNames := by
  cases hd : m.get? "unmarshal" with
  | none =>
    simp only [Mapping.within?_of_none hd]
    constructor
    · intro ho
      cases ho
      exact ⟨rfl, rfl, rfl, rfl⟩
    · rintro ⟨hencoding, herrors, hextras, hnames⟩
      obtain ⟨encoding, errors, extras, names⟩ := o
      cases hencoding
      cases herrors
      cases hextras
      cases hnames
      rfl
  | some d =>
    obtain ⟨entries, hentries, -⟩ := h d hd
    simp only [Mapping.within?_of_some hd hentries]
    refine BuildOptions.check_eq_valid.trans ⟨?_, fun ho => ⟨entries, hentries, ho⟩⟩
    rintro ⟨m', hm', ho⟩
    cases hentries.symm.trans hm'
    exact ho

namespace Load

theorem unknownKeys_eq_valid (m : Mapping) :
    unknownKeys m = .valid () ↔ ∀ e ∈ m, e.1.IsSection := by
  have hkey : ∀ k : Key, (sections.any fun s => k == .text s.name) = true ↔ k.IsSection := by
    intro k
    rw [List.any_eq_true]
    exact exists_congr fun s => and_congr_right fun _ => Key.beq_text_iff
  unfold unknownKeys
  dsimp only
  constructor
  · intro h e he
    split at h
    · rename_i hempty
      have hnone := List.filterMap_eq_nil_iff.mp (List.isEmpty_iff.mp hempty) e he
      rw [← hkey]
      by_cases hsection : (sections.any fun s => e.1 == .text s.name) = true
      · exact hsection
      · exact absurd hnone (by rw [if_neg hsection]; exact Option.some_ne_none _)
    · cases h
  · intro h
    rw [if_pos]
    rw [List.isEmpty_iff, List.filterMap_eq_nil_iff]
    exact fun e he => if_pos ((hkey e.1).mpr (h e he))

variable {o : Overrides} {homes : Homes}

theorem group?_eq_none (h : o.Plain) {α : Type} (name : String) (accept : Group → Option α) :
    o.group? name accept = none := by
  rw [Option.eq_none_iff_forall_ne_some]
  intro a ha
  obtain ⟨g, hg, -⟩ := Overrides.group?_eq_some ha
  obtain ⟨e, he, -, hgiven⟩ := exists_mem_of_lookup hg
  obtain ⟨d, hd⟩ := h.settings_data e he
  cases hd.symm.trans hgiven

theorem verdict_eq_valid_of_plain (h : o.Plain) (m : Mapping) (t : Settings) :
    verdict homes o m = .valid t ↔
      Check.given {} (LogSettings.check homes) (m.get? "logging") = .valid t.logging ∧
      Check.given {} BuildOptions.check (m.get? "unmarshal") = .valid t.building ∧
      ∀ e ∈ m, e.1.IsSection := by
  simp only [verdict_eq_valid, sectionOf_eq_valid, group?_eq_none h, unknownKeys_eq_valid,
    reduceCtorEq, false_or, true_and]

end Load

namespace Sources

/-- Both files can be read. -/
structure Filed (s : Sources) (global project : Mapping) : Prop where
  globalFile : s.files.Gives s.globalFile global
  projectFile : ∃ path, s.Found path ∧ s.files.Gives path project

/-- Every source holds mappings for its sections: both files, the variables, which are for single
keys, and the caller. -/
structure Layered (s : Sources) (global project : Mapping) : Prop extends s.Filed global project where
  global : global.Sectioned
  project : project.Sectioned
  singles : ∀ sec ∈ sections, Environment.ForKeys sec s.environment
  overrides : s.overrides.Plain

/-- No source names anything but sections. -/
def Known (s : Sources) (global project : Mapping) : Prop :=
  (∀ e ∈ global, e.1.IsSection) ∧ (∀ e ∈ project, e.1.IsSection) ∧ s.overrides.Known

/-- The data that the uppermost source has for a key of a section: the caller comes before the
environment, that before the project file, and the global file is last. -/
def find? (s : Sources) (global project : Mapping) (sec : Environment.Section) (key : String) :
    Option Data :=
  ((((s.overrides.section? sec.name).bind (·.at? key)).or
    (Environment.given? sec s.environment key)).or
      (project.within? sec.name key)).or (global.within? sec.name key)

end Sources

/-- The settings are what the given data passes its checks as, with the default of each setting that
there is no data for. -/
structure Settings.Follows (homes : Homes) (find : Environment.Section → String → Option Data)
    (t : Settings) : Prop where
  level : Check.given .info Check.level (find .logging "level") = .valid t.logging.level
  outputs : Check.given [{}] (LogSettings.checkOutputs homes) (find .logging "outputs") =
    .valid t.logging.outputs
  encoding : Check.given "utf-8" Check.encoding (find .building "encoding") =
    .valid t.building.encoding
  decodeErrors : Check.given .replace (Check.choice Leniency.all Leniency.name)
    (find .building "decode_errors") = .valid t.building.decodeErrors
  keepFieldedExtras : Check.given false Check.bool (find .building "keep_fielded_extras") =
    .valid t.building.keepFieldedExtras
  validateFieldNames : Check.given true Check.bool (find .building "validate_field_names") =
    .valid t.building.validateFieldNames

namespace Sources

variable {s : Sources} {global project : Mapping}

/-- All sources in one mapping, for what the environment holds. -/
def merge (s : Sources) (global project environment : Mapping) : Mapping :=
  -- The files are merged by themselves, and so are the two sources above them.
  Mapping.overlay (Mapping.overlay global project)
    (Mapping.overlay environment s.given.asData)

/-- No mappings that are merged have too many levels in common: the files, the environment and what
the caller gives, and in the end the two. -/
structure Untangled (s : Sources) (global project environment : Mapping) : Prop where
  files : ¬ global.Meets Mapping.mergeLimit project
  upper : ¬ environment.Meets Mapping.mergeLimit s.given.asData
  all : ¬ (Mapping.overlay global project).Meets Mapping.mergeLimit
    (Mapping.overlay environment s.given.asData)

theorem Filed.fileSettings_eq (h : s.Filed global project) :
    s.fileSettings = Load.merge global project := by
  obtain ⟨path, hfound, hproject⟩ := h.projectFile
  rw [fileSettings, hfound.project_eq, ok_bind, FileSystem.settings_eq_ok.mpr h.globalFile,
    mapError_ok, ok_bind, FileSystem.settings_eq_ok.mpr hproject, mapError_ok, ok_bind]

theorem Filed.merged_eq (h : s.Filed global project)
    (hfiles : ¬ global.Meets Mapping.mergeLimit project) : s.merged = (do
      let naming ← (s.overrides.naming s.reader).mapError .options
      let environment ← (Environment.settings naming s.environment).mapError .environment
      let m ← Load.merge (Mapping.overlay global project)
        (← Load.merge environment s.given.asData)
      if m.all fun e => e.1.isText then return m else throw .keyNotText) := by
  rw [merged, h.fileSettings_eq, Load.merge_eq_ok.mpr ⟨hfiles, rfl⟩, ok_bind]

/-- With all sources read, what they say is merged, and its keys have to be text. -/
theorem Filed.merged_eq_merge (h : s.Filed global project) {naming : Environment.Naming}
    {environment : Mapping} (hnaming : s.overrides.naming s.reader = .ok naming)
    (henvironment : Environment.settings naming s.environment = .ok environment)
    (huntangled : s.Untangled global project environment) :
    s.merged = if (s.merge global project environment).all fun e => e.1.isText then
      .ok (s.merge global project environment) else .error .keyNotText := by
  rw [h.merged_eq huntangled.files, hnaming, mapError_ok, ok_bind, henvironment, mapError_ok,
    ok_bind, Load.merge_eq_ok.mpr ⟨huntangled.upper, rfl⟩, ok_bind,
    Load.merge_eq_ok.mpr ⟨huntangled.all, rfl⟩, ok_bind]
  rfl

/-- What the caller gives by name has text for names, and the path is not among it. -/
structure Called (s : Sources) : Prop where
  names : ∀ e ∈ s.overrides, e.1.isText = true
  free : s.overrides.get? pathParameter = none

theorem call_eq_ok : s.call = .ok () ↔ s.Called := by
  unfold call
  constructor
  · intro h
    split at h
    · cases h
    · rename_i hnames
      rw [Bool.not_eq_true', Bool.not_eq_false, List.all_eq_true] at hnames
      split at h
      · cases h
      · rename_i hfree
        rw [Bool.not_eq_true, Option.isSome_eq_false_iff, Option.isNone_iff_eq_none] at hfree
        exact ⟨hnames, hfree⟩
  · intro h
    rw [List.all_eq_true.mpr h.names, h.free]
    rfl

theorem Called.load_eq (h : s.Called) : s.load = s.merged >>= s.finish := by
  unfold load
  rw [call_eq_ok.mpr h]
  rfl

/-- Without options nothing is laid over what the caller gives. -/
theorem given_eq (h : s.overrides.Plain) : s.given = s.overrides := by
  rw [given, h.line_eq s.reader]
  rfl

/-- The merged settings name sections only if all sources do. -/
theorem Layered.merge_known_iff (h : s.Layered global project) {environment : Mapping}
    (henvironment : Environment.settings {} s.environment = .ok environment) :
    (∀ e ∈ s.merge global project environment, e.1.IsSection) ↔ s.Known global project := by
  have hvariables := Environment.section_of_settings henvironment
  unfold merge Known
  rw [given_eq h.overrides, Mapping.forall_overlay Key.isSection_congr, Mapping.forall_overlay Key.isSection_congr,
    Mapping.forall_overlay Key.isSection_congr, h.overrides.known_iff, and_assoc]
  exact and_congr_right fun _ => and_congr_right fun _ => and_iff_right hvariables

section Merged

variable {environment : Mapping}

theorem Layered.environment_sectioned (h : s.Layered global project)
    (henvironment : Environment.settings {} s.environment = .ok environment) :
    environment.Sectioned := by
  obtain ⟨hdistinct, hsections⟩ := Environment.settings_of_forKeys h.singles henvironment
  exact ⟨hdistinct, fun sec hsec => (hsections sec hsec).1⟩

theorem Layered.merge_sectioned (h : s.Layered global project) (hknown : s.Known global project)
    (henvironment : Environment.settings {} s.environment = .ok environment) :
    (s.merge global project environment).Sectioned := by
  rw [merge, given_eq h.overrides]
  exact (h.global.overlay h.project).overlay
    ((h.environment_sectioned henvironment).overlay (hknown.2.2.sectioned h.overrides))

/-- A key of a section is laid together from all four sources. -/
theorem Layered.within?_merge (h : s.Layered global project) (hknown : s.Known global project)
    (henvironment : Environment.settings {} s.environment = .ok environment)
    {sec : Environment.Section} (hsec : sec ∈ sections) (key : String) :
    (s.merge global project environment).within? sec.name key =
      Mapping.laid
        (Mapping.laid (global.within? sec.name key) (project.within? sec.name key))
        (Mapping.laid (Environment.given? sec s.environment key)
          ((s.overrides.section? sec.name).bind (·.at? key))) := by
  have hs := h.environment_sectioned henvironment
  have ho := hknown.2.2.sectioned h.overrides
  have hgiven := ((Environment.settings_of_forKeys h.singles henvironment).2 sec hsec).2 key
  have hfiles := h.global.overlay h.project
  have hupper := hs.overlay ho
  rw [merge, given_eq h.overrides, Mapping.within?_overlay hupper.distinct (hfiles.holds sec hsec) (hupper.holds sec hsec),
    Mapping.within?_overlay h.project.distinct (h.global.holds sec hsec) (h.project.holds sec hsec),
    Mapping.within?_overlay ho.distinct (hs.holds sec hsec) (ho.holds sec hsec), hgiven,
    hknown.2.2.within? h.overrides sec hsec key]

/-- So a check that refuses mappings sees only the uppermost value. -/
theorem Layered.given_merge (h : s.Layered global project) (hknown : s.Known global project)
    (henvironment : Environment.settings {} s.environment = .ok environment) {α : Type}
    {check : Data → Verdict α} (hcheck : Check.RefusesMappings check) (default a : α)
    {sec : Environment.Section} (hsec : sec ∈ sections) (key : String) :
    Check.given default check ((s.merge global project environment).within? sec.name key) =
        .valid a ↔
      Check.given default check (s.find? global project sec key) = .valid a := by
  rw [h.within?_merge hknown henvironment hsec]
  exact hcheck.given_layers default a _ _ _ _

theorem Layered.verdict_eq_valid (h : s.Layered global project) (hknown : s.Known global project)
    (henvironment : Environment.settings {} s.environment = .ok environment) (t : Settings) :
    Load.verdict s.homes s.given (s.merge global project environment) = .valid t ↔
      t.Follows s.homes (s.find? global project) := by
  have hsectioned := h.merge_sectioned hknown henvironment
  have hlogging : Environment.Section.logging ∈ sections := by decide
  have hbuilding : Environment.Section.building ∈ sections := by decide
  have hencoding : Check.RefusesMappings Check.encoding :=
    fun d m a hd => Check.refusesMappings_text _ d m a hd
  have hlevel := h.given_merge hknown henvironment
    (Check.refusesMappings_choice LogLevel.all LogLevel.name) .info t.logging.level hlogging "level"
  have houtputs := h.given_merge hknown henvironment (Check.refusesMappings_outputs s.homes) [{}]
    t.logging.outputs hlogging "outputs"
  have hname := h.given_merge hknown henvironment hencoding "utf-8" t.building.encoding hbuilding
    "encoding"
  have herrors := h.given_merge hknown henvironment
    (Check.refusesMappings_choice Leniency.all Leniency.name) .replace t.building.decodeErrors
    hbuilding "decode_errors"
  have hextras := h.given_merge hknown henvironment Check.refusesMappings_bool false
    t.building.keepFieldedExtras hbuilding "keep_fielded_extras"
  have hfields := h.given_merge hknown henvironment Check.refusesMappings_bool true
    t.building.validateFieldNames hbuilding "validate_field_names"
  rw [given_eq h.overrides, Load.verdict_eq_valid_of_plain h.overrides, h.merge_known_iff henvironment,
    LogSettings.given_eq_valid (hsectioned.holds _ hlogging),
    BuildOptions.given_eq_valid (hsectioned.holds _ hbuilding)]
  constructor
  · rintro ⟨⟨hl, ho⟩, ⟨he, hd, hk, hv⟩, -⟩
    exact ⟨hlevel.mp hl, houtputs.mp ho, hname.mp he, herrors.mp hd, hextras.mp hk, hfields.mp hv⟩
  · intro ht
    exact ⟨⟨hlevel.mpr ht.level, houtputs.mpr ht.outputs⟩, ⟨hname.mpr ht.encoding,
      herrors.mpr ht.decodeErrors, hextras.mpr ht.keepFieldedExtras,
      hfields.mpr ht.validateFieldNames⟩, hknown⟩

end Merged

/-- The names of sections are text, and none of them is that of the path. -/
theorem Known.called (h : s.Known global project) : s.Called := by
  constructor
  · intro e he
    obtain ⟨sec, -, hmeans⟩ := h.2.2 e he
    exact (Bool.and_eq_true_iff.mp hmeans).1
  · rw [Overrides.get?, List.lookup_eq_none_iff]
    intro e he
    obtain ⟨sec, hsec, hmeans⟩ := h.2.2 e he
    rw [bne, Bool.not_eq_true', Bool.eq_false_iff]
    intro hpath
    have hall : ∀ sec ∈ sections, Overrides.means (.text pathParameter) sec.name = false := by
      decide +kernel
    rw [Key.text_beq_iff.mp hpath, hall sec hsec] at hmeans
    cases hmeans

theorem finish_eq_ok (ho : s.given.Checked) {m : Mapping} {t : Settings} :
    s.finish m = .ok t ↔ Load.verdict s.homes s.given m = .valid t := by
  refine ⟨fun h => ?_, finish_of_verdict ho⟩
  cases hv : Load.verdict s.homes s.given m with
  | valid first =>
    rw [finish_of_verdict ho hv] at h
    cases h
    rfl
  | abandoned => cases (finish_of_abandoned hv).symm.trans h
  | invalid issues => cases (finish_of_invalid hv).symm.trans h

theorem Layered.naming_eq (h : s.Layered global project) :
    s.overrides.naming s.reader = .ok {} :=
  h.overrides.naming_eq s.reader

/-- Loading that succeeds has read the environment and finished with what was merged. -/
theorem Layered.exists_environment (h : s.Layered global project) {t : Settings}
    (hload : s.load = .ok t) : ∃ environment,
      Environment.settings {} s.environment = .ok environment ∧
        s.Untangled global project environment ∧
          s.finish (s.merge global project environment) = .ok t := by
  obtain ⟨_, -, hload⟩ := bind_eq_ok hload
  obtain ⟨m, hm, hfinish⟩ := bind_eq_ok hload
  obtain ⟨files, hfiles, -⟩ := bind_eq_ok hm
  rw [h.fileSettings_eq] at hfiles
  have huntangled := (Load.merge_eq_ok.mp hfiles).1
  rw [h.merged_eq huntangled] at hm
  obtain ⟨naming, hnaming, hm⟩ := bind_eq_ok hm
  cases h.naming_eq.symm.trans (mapError_eq_ok.mp hnaming)
  obtain ⟨environment, henvironment, hm⟩ := bind_eq_ok hm
  obtain ⟨upper, hmerge, hm⟩ := bind_eq_ok hm
  obtain ⟨hupper, rfl⟩ := Load.merge_eq_ok.mp hmerge
  obtain ⟨all, hmerge, hm⟩ := bind_eq_ok hm
  obtain ⟨hall, rfl⟩ := Load.merge_eq_ok.mp hmerge
  split at hm
  · cases hm
    exact ⟨environment, mapError_eq_ok.mp henvironment, ⟨huntangled, hupper, hall⟩, hfinish⟩
  · cases hm

theorem Layered.readable_iff (h : s.Layered global project) :
    (∃ environment, Environment.settings {} s.environment = .ok environment) ↔
      Environment.OutputsReadable s.environment :=
  (Environment.exists_settings_iff h.singles).trans (Environment.readable_iff s.environment)

theorem Layered.finish_merge (h : s.Layered global project) (hknown : s.Known global project)
    {environment : Mapping}
    (henvironment : Environment.settings {} s.environment = .ok environment) (t : Settings) :
    s.finish (s.merge global project environment) = .ok t ↔
      t.Follows s.homes (s.find? global project) := by
  rw [finish_eq_ok (checked_given h.overrides.checked)]
  exact h.verdict_eq_valid hknown henvironment t

/-- Loading succeeds with exactly the settings that follow the uppermost source of each, provided
that the sources name sections only, that the variable for the outputs can be read and that no sources
hold mappings within mappings without end. -/
theorem load_eq_ok_iff (h : s.Layered global project) (t : Settings) :
    s.load = .ok t ↔ s.Known global project ∧ Environment.OutputsReadable s.environment ∧
      s.Untangled global project (Environment.told {} s.environment) ∧
        t.Follows s.homes (s.find? global project) := by
  constructor
  · intro hload
    -- What was merged passed its check, so that no source named anything but sections.
    obtain ⟨environment, henvironment, huntangled, hfinish⟩ := h.exists_environment hload
    have hfirst := (finish_eq_ok (checked_given h.overrides.checked)).mp hfinish
    rw [given_eq h.overrides] at hfirst
    have hkeys := ((Load.verdict_eq_valid_of_plain h.overrides _ t).mp hfirst).2.2
    have hknown := (h.merge_known_iff henvironment).mp hkeys
    have htold := (Environment.settings_eq_ok.mp henvironment).2
    exact ⟨hknown, h.readable_iff.mp ⟨environment, henvironment⟩, htold ▸ huntangled,
      (h.finish_merge hknown henvironment t).mp hfinish⟩
  · rintro ⟨hknown, houtputs, huntangled, ht⟩
    obtain ⟨environment, henvironment⟩ := h.readable_iff.mpr houtputs
    rw [← (Environment.settings_eq_ok.mp henvironment).2] at huntangled
    have htext : (s.merge global project environment).all (fun e => e.1.isText) = true := by
      rw [List.all_eq_true]
      intro e he
      obtain ⟨sec, -, hkey⟩ := (h.merge_known_iff henvironment).mpr hknown e he
      rw [hkey]
      rfl
    rw [hknown.called.load_eq, h.merged_eq_merge h.naming_eq henvironment huntangled, if_pos htext]
    exact (h.finish_merge hknown henvironment t).mpr ht

end Sources

namespace Layers

/-- Sources without files. -/
def unfiled (environment : Variables) (overrides : Overrides) : Sources where
  files := ({ directory := "/work" } : FileStore).system
  globalFile := .ofText "/work/global.yaml"
  homes := { own := some (Text.points "/home/me") }
  environment := environment
  overrides := overrides

/-- The caller gives one key of a section. -/
def giving (sec : Environment.Section) (key : String) (d : Data) : Overrides :=
  [(.text sec.name, .data (.record [(key, d)]))]

variable {environment : Variables} {sec : Environment.Section} {key : String} {d : Data}

theorem giving_plain (hsec : sec ∈ sections) : (giving sec key d).Plain := by
  refine ⟨fun e he => ?_, fun name hname => ?_, fun _ _ given hgiven => ?_⟩
  · rw [List.mem_singleton.mp he]
    exact ⟨_, rfl⟩
  · have hall : ∀ sec ∈ sections, ∀ name ∈ Overrides.optionNames, name ≠ sec.name := by
      decide +kernel
    have hne : (Key.text name == Key.text sec.name) = false := by
      rw [Bool.eq_false_iff]
      exact fun hsame => hall sec hsec name hname (Key.text.inj (Key.beq_text_iff.mp hsame))
    rw [Overrides.get?, giving, List.lookup_cons, hne]
    rfl
  · obtain ⟨e, he, rfl⟩ := Option.map_eq_some_iff.mp hgiven
    rw [List.mem_singleton.mp (List.mem_of_find?_eq_some he)]
    exact ⟨_, rfl, List.pairwise_singleton _ _⟩

theorem giving_known (hsec : sec ∈ sections) : (giving sec key d).Known := by
  intro e he
  rw [List.mem_singleton.mp he]
  exact Overrides.means_of_isSection ⟨sec, hsec, rfl⟩

theorem unfiled_filed (environment : Variables) (o : Overrides) :
    (unfiled environment o).Filed [] [] := by
  have hentry : (unfiled environment o).files.entry = (FileStore.mk "/work" []).entry := rfl
  have hglobal : (FileStore.mk "/work" []).entry (.ofText "/work/global.yaml") = .absent := by
    decide +kernel
  have hproject : (FileStore.mk "/work" []).entry
      (.ofPoints (Text.points "/work" ++ Text.points ("/" ++ projectFileName))) = .absent := by
    decide +kernel
  refine ⟨.absent ?_, _, .here rfl rfl, .absent ?_⟩
  · rw [hentry]
    exact hglobal
  · rw [hentry]
    exact hproject

theorem unfiled_layered (h : ∀ sec ∈ sections, Environment.ForKeys sec environment)
    (hsec : sec ∈ sections) : (unfiled environment (giving sec key d)).Layered [] [] := by
  have hnone : Mapping.Sectioned [] := ⟨List.Pairwise.nil, fun _ _ _ h => by cases h⟩
  exact ⟨unfiled_filed _ _, hnone, hnone, h, giving_plain hsec⟩

theorem unfiled_known (hsec : sec ∈ sections) :
    (unfiled environment (giving sec key d)).Known [] [] :=
  ⟨List.forall_mem_nil _, List.forall_mem_nil _, giving_known hsec⟩

/-- Three variables, one of them for a setting that the caller gives as well. -/
def threeVariables : Variables :=
  [(Text.points "TSAST__UNMARSHAL__ENCODING", Text.points "nonsense"),
    (Text.points "tsast__unmarshal__decode_errors", Text.points "ignore"),
    (Text.points "TSAST__LOGGING__LEVEL", Text.points "DEBUG")]

def sources : Sources := unfiled threeVariables (giving .building "encoding" (.text "utf-16"))

def loaded : Settings where
  logging := { level := .debug }
  building := { encoding := "utf-16", decodeErrors := .ignore }

theorem sources_layered : sources.Layered [] [] := by
  refine unfiled_layered (fun sec hsec => ?_) (by decide)
  have hall : ∀ sec ∈ sections, ∀ v ∈ threeVariables, sec.Admits v.1 := by decide +kernel
  exact .of_admits (hall sec hsec)

theorem loaded_follows : loaded.Follows sources.homes (sources.find? [] []) where
  level := rfl
  outputs := rfl
  encoding := by
    have hgiven : sources.find? [] [] .building "encoding" = some (.text "utf-16") := rfl
    have hutf16 : ⟨"utf-16", true, ["utf_16"], ["u16", "utf16"]⟩ ∈ Text.encodings := by
      decide +kernel
    rw [hgiven]
    exact Check.encoding_name hutf16
  decodeErrors := rfl
  keepFieldedExtras := rfl
  validateFieldNames := rfl

/-- The encoding in the environment is none, but it is not looked at. -/
theorem load_sources : sources.load = .ok loaded := by
  have hreadable : Environment.OutputsReadable threeVariables := by
    have hlast : Environment.lastOf threeVariables
        (Environment.Section.logging.start ++ Text.points "outputs") = none := by
      decide +kernel
    intro text htext
    rw [hlast] at htext
    cases htext
  have huntangled : sources.Untangled [] [] (Environment.told {} sources.environment) :=
    ⟨by decide +kernel, by decide +kernel, by decide +kernel⟩
  exact (Sources.load_eq_ok_iff sources_layered loaded).mpr
    ⟨unfiled_known (by decide), hreadable, huntangled, loaded_follows⟩

/-- A variable for the outputs that holds no data, and outputs that the caller gives. -/
def unread : Sources :=
  unfiled [(Text.points "TSAST__LOGGING__OUTPUTS", Text.points "oops")]
    (giving .logging "outputs" (.list []))

/-- The outputs of the caller come before those of the environment and pass their check, and yet
nothing is loaded. -/
theorem unread_fails : unread.Layered [] [] ∧ unread.Known [] [] ∧
    ({ logging := { outputs := [] } } : Settings).Follows unread.homes (unread.find? [] []) ∧
      ∀ t, unread.load ≠ .ok t := by
  have hlayered : unread.Layered [] [] := by
    refine unfiled_layered (fun sec hsec => ?_) (by decide)
    have hall : ∀ sec ∈ sections, sec.Admits (Text.points "TSAST__LOGGING__OUTPUTS") := by
      decide +kernel
    refine .of_admits fun v hv => ?_
    rw [List.mem_singleton.mp hv]
    exact hall sec hsec
  refine ⟨hlayered, unfiled_known (by decide), ⟨rfl, rfl, rfl, rfl, rfl, rfl⟩, fun t hload => ?_⟩
  obtain ⟨environment, henvironment, -⟩ := hlayered.exists_environment hload
  have hlast : Environment.lastOf unread.environment
      (Environment.Section.logging.start ++ Text.points "outputs") = some (Text.points "oops") := by
    decide +kernel
  obtain ⟨d, hd⟩ := hlayered.readable_iff.mp ⟨environment, henvironment⟩ (Text.points "oops") hlast
    (by decide)
  have hnone : (Environment.readJson .logging (Text.points "oops")).toOption.isNone = true := by
    decide +kernel
  rw [hd] at hnone
  cases hnone

end Layers

end TypedTree
