import TypedTree.Proofs.Variables

/-! # Variables that cannot be read

A variable for a whole section has to hold data, and so has one for a key that is written as JSON. The
environment cannot be read exactly if some variable that counts is not as it has to be, and the first
such variable says why. -/

namespace TypedTree.Environment

open Text (CodePoints)

/-- A text holds data. -/
structure IsData (text : CodePoints) (d : Data) : Prop where
  read : Json.read depthLimit text = .ok d
  short : holdsTooLong d = false

/-- Why a text holds no data for a section. -/
inductive Section.NotData (sec : Section) (text : CodePoints) : Fault → Prop
  | malformed (read : Json.read depthLimit text = .error .malformed) :
      NotData sec text (.unreadable sec.name)
  | tooLong {d : Data} (read : Json.read depthLimit text = .ok d) (digits : holdsTooLong d = true) :
      NotData sec text (.unreadable sec.name)
  | tooDeep {reason : Json.Fault} (read : Json.read depthLimit text = .error reason)
      (other : reason ≠ .malformed) : NotData sec text (.tooDeep reason)

/-- A name is made of the start for the section and what leads to a row of keys. -/
def Section.Leads (sec : Section) (naming : Naming) (name : CodePoints) (keys : List CodePoints) :
    Prop :=
  ∃ rest, name = naming.variable sec.name ++ naming.delimiter ++ rest ∧ keys = naming.keys rest

/-- What is wrong with a variable for keys of the section. -/
inductive Section.Garbles (sec : Section) (naming : Naming) (v : CodePoints × CodePoints) :
    Fault → Prop
  | unsplit {keys : List CodePoints} {f : Fault} (leads : sec.Leads naming v.1 keys)
      (unsplit : naming.unsplit = some f) : Garbles sec naming v f
  | notData {key : CodePoints} {f : Fault} (leads : sec.Leads naming v.1 [key])
      (split : naming.unsplit = none) (json : isJsonKey naming sec key = true) (full : v.2 ≠ [])
      (notData : sec.NotData v.2 f) : Garbles sec naming v f

/-- Why the single keys of a section cannot be read. -/
def Section.KeysFail (sec : Section) (naming : Naming) (vars : Variables) (f : Fault) : Prop :=
  naming.delimiter ≠ [] ∧ First (sec.Garbles naming) vars f

/-- Why a section cannot be read: it is not given as data, or its single keys are not. They do not
count where the section is given as anything but a mapping. -/
inductive Section.Fails (sec : Section) (naming : Naming) (vars : Variables) : Fault → Prop
  | whole {text : CodePoints} {f : Fault}
      (given : vars.lookup (naming.variable sec.name) = some text)
      (notNull : naming.nullText ≠ some text) (notData : sec.NotData text f) : Fails sec naming vars f
  | keys {f : Fault} (absent : vars.lookup (naming.variable sec.name) = none)
      (keys : sec.KeysFail naming vars f) : Fails sec naming vars f
  | beside {text : CodePoints} {m : Mapping} {f : Fault}
      (given : vars.lookup (naming.variable sec.name) = some text)
      (notNull : naming.nullText ≠ some text) (data : IsData text (.map m))
      (keys : sec.KeysFail naming vars f) : Fails sec naming vars f

/-- Why the environment cannot be read. -/
def Fails (naming : Naming) (vars : Variables) (f : Fault) : Prop :=
  First (fun sec => Section.Fails sec naming (normal naming vars)) sections f

/-- The data in a text, if it holds any. -/
def dataOf (sec : Section) (text : CodePoints) : Data := (readJson sec text).toOption.getD .null

/-- What a text says under a row of keys is laid over a mapping. -/
def Section.laidUnder (sec : Section) (naming : Naming) (m : Mapping) (text : CodePoints) :
    List CodePoints → Mapping
  | [key] =>
    if isJsonKey naming sec key && !text.isEmpty then m.put (.ofPoints key) (dataOf sec text)
    else insertAt m (plainValue naming text) [key]
  | keys => insertAt m (plainValue naming text) keys

/-- What a variable says is laid over what those before it do. -/
def Section.laid (sec : Section) (naming : Naming) (m : Mapping) (v : CodePoints × CodePoints) :
    Mapping :=
  let start := naming.variable sec.name ++ naming.delimiter
  if start.isPrefixOf v.1 then sec.laidUnder naming m v.2 (naming.keys (v.1.drop start.length))
  else m

/-- What the single variables of a section say. -/
def Section.keysTold (sec : Section) (naming : Naming) (vars : Variables) : Mapping :=
  if naming.delimiter.isEmpty then [] else vars.foldl (sec.laid naming) []

/-- What the variables say about a section. -/
def Section.told (sec : Section) (naming : Naming) (vars : Variables) : Option Data :=
  let keys := sec.keysTold naming vars
  match vars.lookup (naming.variable sec.name) with
  | none => if keys.isEmpty then none else some (.map (respell naming sec keys))
  | some text =>
    if naming.nullText = some text then some .null
    else
      match dataOf sec text with
      | .map m => some (.map (respell naming sec (Mapping.overlay m keys)))
      | .null => none
      | d => some d

/-- What the environment says, where it can be read. -/
def told (naming : Naming) (vars : Variables) : Mapping :=
  sections.flatMap fun sec => entryOf sec.name (sec.told naming (normal naming vars))

variable {naming : Naming} {sec : Section} {vars : Variables} {text : CodePoints} {f : Fault}

theorem readJson_eq_error : readJson sec text = .error f ↔ sec.NotData text f := by
  constructor
  · intro h
    unfold readJson at h
    split at h
    · rename_i d read
      split at h
      · rename_i digits
        cases h
        exact .tooLong read digits
      · cases h
    · rename_i read
      cases h
      exact .malformed read
    · rename_i reason other read
      cases h
      exact .tooDeep read other
  · intro h
    cases h with
    | malformed read => simp only [readJson, read]
    | tooLong read digits => simp only [readJson, read, digits, if_true]
    | tooDeep read other => simp only [readJson, read]

theorem readJson_eq_ok {d : Data} : readJson sec text = .ok d ↔ IsData text d := by
  unfold readJson
  constructor
  · intro h
    split at h
    · rename_i d' read
      split at h
      · cases h
      · rename_i short
        cases h
        exact ⟨read, Bool.eq_false_iff.mpr short⟩
    · cases h
    · cases h
  · intro h
    simp only [h.read, h.short, Bool.false_eq_true, if_false]

theorem dataOf_eq {d : Data} (h : readJson sec text = .ok d) : dataOf sec text = d := by
  rw [dataOf, h]
  rfl

section Variable

variable {m m' : Mapping} {v : CodePoints × CodePoints}

/-- The step that `single` takes at a variable. -/
def Section.step (sec : Section) (naming : Naming) (m : Mapping) (v : CodePoints × CodePoints) :
    Except Fault Mapping :=
  let start := naming.variable sec.name ++ naming.delimiter
  if start.isPrefixOf v.1 then
    match naming.unsplit with
    | some f => .error f
    | none => lay naming sec m (naming.keys (v.1.drop start.length)) v.2
  else .ok m

theorem single_eq_foldlM : single naming sec m vars = vars.foldlM (sec.step naming) m := by
  induction vars generalizing m with
  | nil => rfl
  | cons v rest ih =>
    obtain ⟨name, value⟩ := v
    rw [single, List.foldlM_cons, Section.step]
    dsimp only
    split
    · cases naming.unsplit with
      | some f => rfl
      | none => exact bind_congr fun m => ih
    · exact ih

theorem isPrefixOf_iff_leads {name : CodePoints} :
    (naming.variable sec.name ++ naming.delimiter).isPrefixOf name = true ↔
      sec.Leads naming name
        (naming.keys (name.drop (naming.variable sec.name ++ naming.delimiter).length)) := by
  rw [List.isPrefixOf_iff_prefix]
  constructor
  · rintro ⟨rest, rfl⟩
    exact ⟨rest, rfl, by rw [List.drop_left]⟩
  · rintro ⟨rest, rfl, -⟩
    exact List.prefix_append _ _

theorem Section.Leads.keys_eq {name : CodePoints} {keys : List CodePoints}
    (h : sec.Leads naming name keys) :
    (naming.variable sec.name ++ naming.delimiter).isPrefixOf name = true ∧
      naming.keys (name.drop (naming.variable sec.name ++ naming.delimiter).length) = keys := by
  obtain ⟨rest, rfl, rfl⟩ := h
  exact ⟨List.isPrefixOf_iff_prefix.mpr (List.prefix_append _ _), by rw [List.drop_left]⟩

theorem lay_eq_error {keys : List CodePoints} : lay naming sec m keys text = .error f ↔
    ∃ key, keys = [key] ∧ isJsonKey naming sec key = true ∧ text ≠ [] ∧ sec.NotData text f := by
  unfold lay
  split
  · rename_i key
    split
    · rename_i hjson
      rw [Bool.and_eq_true, Bool.not_eq_true', List.isEmpty_eq_false_iff] at hjson
      rw [← readJson_eq_error]
      cases readJson sec text <;> simp [Except.map, hjson]
    · rename_i hplain
      simp_all
  · rename_i hother
    simp only [reduceCtorEq, false_iff]
    rintro ⟨key, rfl, -⟩
    exact hother key rfl

theorem Section.step_eq_error : sec.step naming m v = .error f ↔ sec.Garbles naming v f := by
  unfold Section.step
  dsimp only
  constructor
  · intro h
    split at h
    · rename_i hstart
      have hleads := isPrefixOf_iff_leads.mp hstart
      split at h
      · rename_i unsplit
        cases h
        exact .unsplit hleads unsplit
      · rename_i split
        obtain ⟨key, hkey, json, full, notData⟩ := lay_eq_error.mp h
        rw [hkey] at hleads
        exact .notData hleads split json full notData
    · cases h
  · intro h
    cases h with
    | unsplit leads unsplit => rw [if_pos leads.keys_eq.1, unsplit]
    | notData leads split json full notData =>
      rw [if_pos leads.keys_eq.1, split, leads.keys_eq.2]
      exact lay_eq_error.mpr ⟨_, rfl, json, full, notData⟩

theorem eq_laidUnder_of_lay {keys : List CodePoints} (h : lay naming sec m keys text = .ok m') :
    m' = sec.laidUnder naming m text keys := by
  match keys, h with
  | [], h =>
    cases h
    rfl
  | [key], h =>
    unfold lay at h
    unfold Section.laidUnder
    dsimp only at h ⊢
    split at h
    · rename_i hjson
      rw [if_pos hjson]
      cases hread : readJson sec text with
      | error f => rw [hread] at h; cases h
      | ok d =>
        rw [hread] at h
        cases h
        rw [dataOf_eq hread]
    · rename_i hplain
      cases h
      rw [if_neg hplain]
  | key :: next :: rest, h =>
    cases h
    rfl

theorem Section.eq_laid_of_step (h : sec.step naming m v = .ok m') : m' = sec.laid naming m v := by
  unfold Section.step at h
  dsimp only at h
  split at h
  · rename_i hstart
    split at h
    · cases h
    · rw [Section.laid, if_pos hstart]
      exact eq_laidUnder_of_lay h
  · rename_i hstart
    cases h
    rw [Section.laid, if_neg hstart]

end Variable

/-- The single keys of a section, where names are split. -/
def Section.readKeys (sec : Section) (naming : Naming) (vars : Variables) : Except Fault Mapping :=
  if naming.delimiter.isEmpty then .ok [] else single naming sec [] vars

theorem Section.readKeys_eq_error : sec.readKeys naming vars = .error f ↔
    sec.KeysFail naming vars f := by
  have hsteps : vars.foldlM (sec.step naming) [] = .error f ↔ First (sec.Garbles naming) vars f :=
    foldlM_eq_error fun m v f => Section.step_eq_error (m := m) (v := v) (f := f)
  unfold Section.readKeys Section.KeysFail
  rw [single_eq_foldlM, ← hsteps, ← List.isEmpty_eq_false_iff]
  cases naming.delimiter.isEmpty <;> simp

theorem Section.eq_keysTold {m : Mapping} (h : sec.readKeys naming vars = .ok m) :
    m = sec.keysTold naming vars := by
  unfold Section.readKeys at h
  unfold Section.keysTold
  split at h
  · rename_i hempty
    cases h
    rw [if_pos hempty]
  · rename_i hfull
    rw [if_neg hfull]
    rw [single_eq_foldlM] at h
    exact foldlM_eq_ok (fun _ _ _ => Section.eq_laid_of_step) h

theorem sectionData_eq_error :
    sectionData naming sec vars = .error f ↔ sec.Fails naming vars f := by
  unfold sectionData
  dsimp only
  constructor
  · intro h
    split at h
    · rename_i absent
      rcases bind_eq_error h with h | ⟨keys, -, h⟩
      · exact .keys absent (Section.readKeys_eq_error.mp h)
      · cases h
    · rename_i text given
      split at h
      · cases h
      · rename_i notNull
        rcases bind_eq_error h with h | ⟨d, data, h⟩
        · exact .whole given notNull (readJson_eq_error.mp h)
        · split at h
          · rcases bind_eq_error h with h | ⟨keys, -, h⟩
            · exact .beside given notNull (readJson_eq_ok.mp data) (Section.readKeys_eq_error.mp h)
            · cases h
          · cases h
          · cases h
  · intro h
    cases h with
    | whole given notNull notData =>
      rw [given]
      dsimp only
      rw [if_neg notNull, readJson_eq_error.mpr notData]
      rfl
    | keys absent keys =>
      rw [absent]
      change (sec.readKeys naming vars >>= _) = _
      rw [Section.readKeys_eq_error.mpr keys]
      rfl
    | beside given notNull data keys =>
      rw [given]
      dsimp only
      rw [if_neg notNull, readJson_eq_ok.mpr data]
      change (sec.readKeys naming vars >>= _) = _
      rw [Section.readKeys_eq_error.mpr keys]
      rfl

theorem eq_told_of_sectionData {d : Option Data} (h : sectionData naming sec vars = .ok d) :
    d = sec.told naming vars := by
  unfold sectionData at h
  unfold Section.told
  dsimp only at h ⊢
  cases hlookup : vars.lookup (naming.variable sec.name) with
  | none =>
    rw [hlookup] at h
    obtain ⟨keys, hkeys, h⟩ := bind_eq_ok h
    cases h
    rw [Section.eq_keysTold hkeys]
  | some text =>
    rw [hlookup] at h
    dsimp only at h ⊢
    by_cases null : naming.nullText = some text
    · rw [if_pos null] at h ⊢
      cases h
      rfl
    · rw [if_neg null] at h ⊢
      obtain ⟨d', data, h⟩ := bind_eq_ok h
      rw [dataOf_eq data]
      cases d' with
      | map m =>
        obtain ⟨keys, hkeys, h⟩ := bind_eq_ok h
        cases h
        rw [Section.eq_keysTold hkeys]
      | _ =>
        cases h
        rfl

theorem settings_eq_error : settings naming vars = .error f ↔ Fails naming vars f := by
  unfold settings Fails
  refine foldlM_eq_error fun m sec f => ?_
  rw [← sectionData_eq_error]
  cases sectionData naming sec (normal naming vars) with
  | error f' => exact ⟨fun h => (by cases h; rfl), fun h => (by cases h; rfl)⟩
  | ok d => cases d <;> exact ⟨fun h => (by cases h), fun h => (by cases h)⟩

/-- The environment says what it does where no variable is in the way. -/
theorem settings_eq_ok {m : Mapping} : settings naming vars = .ok m ↔
    (∀ f, ¬ Fails naming vars f) ∧ m = told naming vars := by
  have htold {m : Mapping} (h : settings naming vars = .ok m) : m = told naming vars := by
    unfold settings at h
    rw [told, List.flatMap_eq_foldl]
    refine foldlM_eq_ok (fun m sec m' hstep => ?_) h
    obtain ⟨d, hd, hstep⟩ := bind_eq_ok hstep
    rw [← eq_told_of_sectionData hd]
    cases d with
    | none =>
      cases hstep
      exact (List.append_nil m).symm
    | some d => cases hstep; rfl
  constructor
  · intro h
    refine ⟨fun f hfails => ?_, htold h⟩
    cases h.symm.trans (settings_eq_error.mpr hfails)
  · rintro ⟨hclean, rfl⟩
    cases h : settings naming vars with
    | error f => exact absurd (settings_eq_error.mp h) (hclean f)
    | ok m => rw [htold h]

end TypedTree.Environment
