import TypedTree.Proofs.Destinations
import TypedTree.Proofs.Overlay
import TypedTree.Proofs.Spelling
import TypedTree.Settings.Environment

/-! # What single variables say

Where every variable is for one key of a section, the environment gives each key the value of the
last variable that is called for it, in whatever case, and nothing else. It can be read exactly if
the values that are to be JSON are. -/

namespace TypedTree

namespace Key

theorem points_ofPoints (ps : Text.CodePoints) : (ofPoints ps).points = ps := by
  unfold ofPoints
  cases h : Text.ofPoints? ps with
  | none => rfl
  | some s => exact Text.points_of_ofPoints? h

theorem ofPoints_points (s : String) : ofPoints (Text.points s) = text s := by
  rw [ofPoints, Text.ofPoints?_points]

theorem ofPoints_eq_text {ps : Text.CodePoints} {s : String} :
    ofPoints ps = text s ↔ ps = Text.points s := by
  constructor
  · intro h
    rw [← points_ofPoints ps, h]
    rfl
  · rintro rfl
    exact ofPoints_points s

end Key

namespace Environment

open Text (CodePoints)

/-- The start of the names of the variables for the keys of a section. -/
def Section.start (s : Section) : CodePoints :=
  ({} : Naming).variable s.name ++ Text.points delimiter

/-- The data that the text of a variable is for a key. -/
def Section.read (s : Section) (key text : CodePoints) : Except Fault Data :=
  if key ∈ s.jsonKeys.map Text.points ∧ text.isEmpty = false then readJson s text
  else .ok (.ofPoints text)

/-- All code points are those of ASCII characters. -/
def IsAscii (ps : CodePoints) : Prop := ∀ n ∈ ps, n < 128

instance (ps : CodePoints) : Decidable (IsAscii ps) := List.decidableBAll _ ps

/-- The names in a section are as plain as names in lower case. -/
structure Section.Plain (s : Section) : Prop where
  keys : ∀ key ∈ s.keys, IsAscii (Text.points key)
  json : ∀ key ∈ s.jsonKeys,
    IsAscii (Text.points key) ∧ Text.lowerPoints (Text.points key) = Text.points key
  named : ∀ key ∈ s.jsonKeys, IsAscii (({} : Naming).variable key) ∧
    Text.points delimiter <:+: ({} : Naming).variable key

theorem mem_sections {s : Section} : s ∈ sections ↔ s = .logging ∨ s = .building := by
  rw [sections, List.mem_cons, List.mem_singleton]

theorem plain_of_mem {s : Section} (h : s ∈ sections) : s.Plain := by
  have hall : ∀ s ∈ sections, (∀ key ∈ s.keys, IsAscii (Text.points key)) ∧
      (∀ key ∈ s.jsonKeys,
        IsAscii (Text.points key) ∧ Text.lowerPoints (Text.points key) = Text.points key) ∧
      ∀ key ∈ s.jsonKeys, IsAscii (({} : Naming).variable key) ∧
        Text.points delimiter <:+: ({} : Naming).variable key := by
    decide +kernel
  obtain ⟨hkeys, hjson, hnamed⟩ := hall s h
  exact ⟨hkeys, hjson, hnamed⟩

/-- The rest of a name that is the key of a single variable. -/
structure IsKey (key : CodePoints) : Prop where
  small : ∀ n ∈ key, ¬ Text.Capital n
  whole : ¬ Text.points delimiter <:+: key

theorem partsAt_whole {mark ps : CodePoints} (h : ¬ mark <:+: ps) : partsAt mark ps = [ps] := by
  induction ps with
  | nil => rw [partsAt]
  | cons p rest ih =>
    have hstart : mark.isPrefixOf (p :: rest) = false := by
      rw [Bool.eq_false_iff]
      exact fun hp => h (List.isPrefixOf_iff_prefix.mp hp).isInfix
    have hrest : ¬ mark <:+: rest := fun hin => h (hin.trans (List.suffix_cons p rest).isInfix)
    rw [partsAt, hstart, ih hrest]
    rfl

theorem IsKey.keys_eq {key : CodePoints} (h : IsKey key) : ({} : Naming).keys key = [key] := by
  unfold Naming.keys
  dsimp only
  rw [partsAt_whole h.whole]

theorem IsKey.isJsonKey_iff {key : CodePoints} (h : IsKey key) {s : Section} (hs : s.Plain) :
    isJsonKey {} s key = true ↔ key ∈ s.jsonKeys.map Text.points := by
  unfold isJsonKey
  rw [List.any_eq_true, List.mem_map]
  constructor
  · rintro ⟨name, hname, hkey⟩
    rcases Bool.or_eq_true_iff.mp hkey with hkey | hkey
    · have hlower : Text.lowerPoints key = Text.points name := of_decide_eq_true hkey
      exact ⟨name, hname, (Text.eq_of_lowerPoints h.small (hs.json name hname).1 hlower).symm⟩
    · have hlower : Text.lowerPoints key = ({} : Naming).variable name := of_decide_eq_true hkey
      obtain ⟨hascii, hdelimiter⟩ := hs.named name hname
      rw [← Text.eq_of_lowerPoints h.small hascii hlower] at hdelimiter
      exact absurd hdelimiter h.whole
  · rintro ⟨name, hname, rfl⟩
    refine ⟨name, hname, Bool.or_eq_true_iff.mpr (.inl (decide_eq_true ?_))⟩
    exact (hs.json name hname).2

theorem insertAt_text (m : Mapping) (text key : CodePoints) :
    insertAt m (.ofPoints text) [key] = m.put (.ofPoints key) (.ofPoints text) := by
  unfold Data.ofPoints
  cases Text.ofPoints? text <;> rfl

theorem IsKey.lay_eq {key : CodePoints} (h : IsKey key) {s : Section} (hs : s.Plain) (m : Mapping)
    (text : CodePoints) :
    lay {} s m [key] text = (s.read key text).map fun d => m.put (.ofPoints key) d := by
  unfold lay Section.read
  dsimp only
  by_cases hjson : key ∈ s.jsonKeys.map Text.points ∧ text.isEmpty = false
  · rw [if_pos hjson, if_pos]
    rw [(h.isJsonKey_iff hs).mpr hjson.1, hjson.2]
    rfl
  · rw [if_neg hjson, if_neg]
    · exact congrArg Except.ok (insertAt_text m text key)
    · rw [Bool.and_eq_true, h.isJsonKey_iff hs, Bool.not_eq_true']
      exact hjson

/-- No two variables share a name, and those of the section are for single keys. -/
structure Settled (s : Section) (vars : Variables) : Prop where
  nodup : (vars.map Prod.fst).Nodup
  isKey : ∀ v ∈ vars, ∀ key, v.1 = s.start ++ key → IsKey key

variable {s : Section} {name text : CodePoints} {rest : Variables}

theorem Settled.tail (h : Settled s ((name, text) :: rest)) : Settled s rest :=
  ⟨(List.nodup_cons.mp h.nodup).2, fun v hv => h.isKey v (List.mem_cons_of_mem _ hv)⟩

theorem Settled.lookup_tail (h : Settled s ((name, text) :: rest)) : rest.lookup name = none := by
  rw [List.lookup_eq_none_iff]
  intro v hv
  rw [bne_iff_ne]
  intro hsame
  exact (List.nodup_cons.mp h.nodup).1 (List.mem_map.mpr ⟨v, hv, hsame.symm⟩)

theorem exists_key_or_other (s : Section) (name : CodePoints) :
    (∃ key, name = s.start ++ key) ∨ s.start.isPrefixOf name = false := by
  cases h : s.start.isPrefixOf name with
  | false => exact .inr rfl
  | true =>
    obtain ⟨key, hkey⟩ := List.isPrefixOf_iff_prefix.mp h
    exact .inl ⟨key, hkey.symm⟩

theorem ne_of_other (h : s.start.isPrefixOf name = false) (key : CodePoints) :
    (s.start ++ key == name) = false := by
  rw [beq_eq_false_iff_ne]
  rintro rfl
  rw [List.isPrefixOf_iff_prefix.mpr (List.prefix_append _ _)] at h
  cases h

theorem single_cons_other (h : s.start.isPrefixOf name = false) (m : Mapping) :
    single {} s m ((name, text) :: rest) = single {} s m rest := by
  unfold Section.start at h
  rw [single]
  simp only [h]
  rfl

theorem single_cons_key {key : CodePoints} (hs : s.Plain) (hkey : IsKey key) (m : Mapping) :
    single {} s m ((s.start ++ key, text) :: rest) =
      (s.read key text >>= fun d => single {} s (m.put (.ofPoints key) d) rest) := by
  have hstart : s.start.isPrefixOf (s.start ++ key) = true :=
    List.isPrefixOf_iff_prefix.mpr (List.prefix_append _ _)
  rw [single]
  change (if s.start.isPrefixOf (s.start ++ key) then _ else _) = _
  rw [if_pos hstart]
  change (do
    let keys := ({} : Naming).keys ((s.start ++ key).drop s.start.length)
    single {} s (← lay {} s m keys text) rest) = _
  rw [List.drop_left, hkey.keys_eq]
  dsimp only
  rw [hkey.lay_eq hs]
  cases s.read key text <;> rfl

/-- Each key has the value of its variable, or what it had before. -/
theorem get?_of_single (hs : s.Plain) {vars : Variables} (h : Settled s vars) {m m' : Mapping}
    (hsingle : single {} s m vars = .ok m') (key : String) :
    m'.get? key = ((vars.lookup (s.start ++ Text.points key)).bind fun text =>
      (s.read (Text.points key) text).toOption).or (m.get? key) := by
  induction vars generalizing m with
  | nil =>
    cases hsingle
    rfl
  | cons v rest ih =>
    obtain ⟨name, text⟩ := v
    rcases exists_key_or_other s name with ⟨own, rfl⟩ | hother
    · rw [single_cons_key hs (h.isKey _ List.mem_cons_self own rfl)] at hsingle
      obtain ⟨d, hd, hsingle⟩ := bind_eq_ok hsingle
      rw [ih h.tail hsingle, Mapping.get?_put, List.lookup_cons]
      by_cases hkey : Text.points key = own
      · -- No later variable has the same name and could set the key again.
        subst hkey
        rw [h.lookup_tail, Key.ofPoints_points, if_pos (Key.beq_text_iff.mpr rfl),
          beq_self_eq_true]
        dsimp only
        rw [Option.bind_some, hd]
        rfl
      · have hname : (s.start ++ Text.points key == s.start ++ own) = false := by
          rw [beq_eq_false_iff_ne, ne_eq, List.append_right_inj]
          exact hkey
        have hown : ¬ (Key.ofPoints own == Key.text key) = true := by
          rw [Key.beq_text_iff, Key.ofPoints_eq_text]
          exact fun hsame => hkey hsame.symm
        rw [hname, if_neg hown]
    · rw [single_cons_other hother] at hsingle
      rw [ih h.tail hsingle, List.lookup_cons, ne_of_other hother]

/-- The variables of a section can be read exactly if each of them can. -/
theorem exists_single_iff (hs : s.Plain) {vars : Variables} (h : Settled s vars) (m : Mapping) :
    (∃ m', single {} s m vars = .ok m') ↔
      ∀ key text, vars.lookup (s.start ++ key) = some text → ∃ d, s.read key text = .ok d := by
  induction vars generalizing m with
  | nil =>
    constructor
    · rintro - key text hlookup
      cases hlookup
    · exact fun _ => ⟨m, rfl⟩
  | cons v rest ih =>
    obtain ⟨name, text⟩ := v
    rcases exists_key_or_other s name with ⟨own, rfl⟩ | hother
    · rw [single_cons_key hs (h.isKey _ List.mem_cons_self own rfl)]
      constructor
      · rintro ⟨m', hsingle⟩ key given hgiven
        obtain ⟨d, hd, hsingle⟩ := bind_eq_ok hsingle
        rw [List.lookup_cons] at hgiven
        split at hgiven
        · rename_i hname
          cases hgiven
          cases List.append_right_inj _ |>.mp (eq_of_beq hname)
          exact ⟨d, hd⟩
        · exact (ih h.tail _).mp ⟨m', hsingle⟩ key given hgiven
      · intro hread
        obtain ⟨d, hd⟩ := hread own text (List.lookup_cons_self)
        rw [hd]
        refine (ih h.tail _).mpr fun key given hgiven => hread key given ?_
        rw [List.lookup_cons]
        split
        · rename_i hname
          rw [eq_of_beq hname, h.lookup_tail] at hgiven
          cases hgiven
        · exact hgiven
    · rw [single_cons_other hother, ih h.tail]
      refine forall_congr' fun key => forall_congr' fun given => ?_
      rw [List.lookup_cons, ne_of_other hother key]

/-- The entries of single keys. -/
structure Entries (m : Mapping) : Prop where
  distinct : m.Distinct
  isKey : ∀ e ∈ m, ∃ key, e.1 = .ofPoints key ∧ IsKey key

theorem Entries.put {m : Mapping} (h : Entries m) {key : CodePoints} (hkey : IsKey key)
    (d : Data) : Entries (m.put (.ofPoints key) d) := by
  refine ⟨Mapping.distinct_put h.distinct _ _, fun e he => ?_⟩
  rcases Mapping.mem_put he with ⟨f, hf, hsame⟩ | hsame
  · exact hsame ▸ h.isKey f hf
  · exact ⟨key, hsame, hkey⟩

theorem Entries.single (hs : s.Plain) {vars : Variables} (h : Settled s vars) {m m' : Mapping}
    (hm : Entries m) (hsingle : single {} s m vars = .ok m') : Entries m' := by
  induction vars generalizing m with
  | nil =>
    cases hsingle
    exact hm
  | cons v rest ih =>
    obtain ⟨name, text⟩ := v
    rcases exists_key_or_other s name with ⟨own, rfl⟩ | hother
    · have hown := h.isKey _ List.mem_cons_self own rfl
      rw [single_cons_key hs hown] at hsingle
      obtain ⟨d, -, hsingle⟩ := bind_eq_ok hsingle
      exact ih h.tail (hm.put hown d) hsingle
    · rw [single_cons_other hother] at hsingle
      exact ih h.tail hm hsingle

/-- Keys in lower case are spelled like the keys of the section already. -/
theorem Entries.respell_eq (hs : s.Plain) {m : Mapping} (h : Entries m) :
    respell {} s m = m := by
  unfold respell
  rw [if_neg (by decide)]
  refine (congrArg Mapping.ofList ?_).trans (Mapping.ofList_of_distinct h.distinct)
  refine (List.map_congr_left fun ⟨k, v⟩ he => ?_).trans (List.map_id m)
  obtain ⟨key, rfl, hkey⟩ := h.isKey (k, v) he
  dsimp only
  split
  · rename_i name hfind
    have hfound := List.find?_some hfind
    have hlower : Text.points name = Text.lowerPoints (Key.ofPoints key).points :=
      of_decide_eq_true hfound
    rw [Key.points_ofPoints] at hlower
    have hascii := hs.keys name (List.mem_of_find?_eq_some hfind)
    rw [Text.eq_of_lowerPoints hkey.small hascii hlower.symm, Key.ofPoints_points]
    rfl
  · rfl

theorem sectionData_eq (hs : s.Plain) {vars : Variables} (h : Settled s vars)
    (hwhole : vars.lookup (({} : Naming).variable s.name) = none) :
    sectionData {} s vars =
      (single {} s [] vars).map fun m => if m.isEmpty then none else some (.map m) := by
  have hempty : (({} : Naming).delimiter).isEmpty = false := rfl
  unfold sectionData
  rw [hempty, hwhole]
  dsimp only
  cases hsingle : single {} s [] vars with
  | error f => rfl
  | ok m =>
    have hentries : Entries m :=
      .single hs h ⟨List.Pairwise.nil, fun e he => by cases he⟩ hsingle
    change Except.ok (if m.isEmpty then none else some (Data.map (respell {} s m))) = _
    rw [hentries.respell_eq hs]
    rfl

theorem lookup_setVariable (name value : CodePoints) (vars : Variables) (n : CodePoints) :
    (setVariable name value vars).lookup n = if n = name then some value else vars.lookup n := by
  induction vars with
  | nil =>
    rw [setVariable, List.lookup_cons]
    by_cases hn : n = name
    · rw [if_pos hn, hn, beq_self_eq_true]
    · rw [if_neg hn, beq_eq_false_iff_ne.mpr hn]
  | cons v rest ih =>
    obtain ⟨m, w⟩ := v
    unfold setVariable
    by_cases hm : m = name
    · subst hm
      rw [if_pos rfl, List.lookup_cons, List.lookup_cons]
      by_cases hn : n = m
      · rw [if_pos hn, hn, beq_self_eq_true]
      · rw [if_neg hn, beq_eq_false_iff_ne.mpr hn]
    · rw [if_neg hm, List.lookup_cons, List.lookup_cons, ih]
      by_cases hn : n = m
      · simp only [hn, beq_self_eq_true, if_neg hm]
      · rw [beq_eq_false_iff_ne.mpr hn]

theorem mem_setVariable {name value : CodePoints} {vars : Variables} {v : CodePoints × CodePoints}
    (h : v ∈ setVariable name value vars) : v = (name, value) ∨ v ∈ vars := by
  induction vars with
  | nil => exact .inl (List.mem_singleton.mp h)
  | cons w rest ih =>
    obtain ⟨m, u⟩ := w
    unfold setVariable at h
    split at h
    · rename_i hname
      rcases List.mem_cons.mp h with rfl | h
      · exact .inl (by rw [hname])
      · exact .inr (List.mem_cons_of_mem _ h)
    · rcases List.mem_cons.mp h with rfl | h
      · exact .inr List.mem_cons_self
      · exact (ih h).imp_right (List.mem_cons_of_mem _)

theorem nodup_setVariable (name value : CodePoints) {vars : Variables}
    (h : (vars.map Prod.fst).Nodup) : ((setVariable name value vars).map Prod.fst).Nodup := by
  induction vars with
  | nil => exact List.nodup_cons.mpr ⟨List.not_mem_nil, List.nodup_nil⟩
  | cons w rest ih =>
    obtain ⟨m, u⟩ := w
    obtain ⟨hm, hrest⟩ := List.nodup_cons.mp h
    unfold setVariable
    by_cases hname : m = name
    · rw [if_pos hname]
      exact h
    · rw [if_neg hname]
      refine List.nodup_cons.mpr ⟨fun hmem => ?_, ih hrest⟩
      obtain ⟨v, hv, hsame⟩ := List.mem_map.mp hmem
      rcases mem_setVariable hv with rfl | hv
      · exact hname hsame.symm
      · exact hm (List.mem_map.mpr ⟨v, hv, hsame⟩)

/-- The text of the last variable of a name, in whatever case. -/
def lastOf (vars : Variables) (name : CodePoints) : Option CodePoints :=
  (vars.reverse.find? fun v => Text.lowerPoints v.1 = name).map Prod.snd

theorem lastOf_cons (v : CodePoints × CodePoints) (vars : Variables) (name : CodePoints) :
    lastOf (v :: vars) name =
      (lastOf vars name).or (if Text.lowerPoints v.1 = name then some v.2 else none) := by
  unfold lastOf
  rw [List.reverse_cons, List.find?_append, Option.map_or, List.find?_singleton]
  by_cases hv : Text.lowerPoints v.1 = name <;> simp [hv]

theorem normal_eq (vars : Variables) :
    normal {} vars = vars.foldl (fun acc v => setVariable (Text.lowerPoints v.1) v.2 acc) [] := by
  have hall : ∀ v ∈ vars, (!(({} : Naming).ignoreEmpty && v.2.isEmpty)) = true := fun _ _ => rfl
  unfold normal
  rw [List.filter_eq_self.mpr hall]
  rfl

/-- What holds of all variables once they are set one after the other. -/
theorem foldl_setVariable (vars acc : Variables) (hacc : (acc.map Prod.fst).Nodup) :
    let set := vars.foldl (fun acc v => setVariable (Text.lowerPoints v.1) v.2 acc) acc
    (set.map Prod.fst).Nodup ∧
      ∀ name, set.lookup name = (lastOf vars name).or (acc.lookup name) := by
  induction vars generalizing acc with
  | nil => exact ⟨hacc, fun name => rfl⟩
  | cons v rest ih =>
    obtain ⟨hnodup, hlookup⟩ :=
      ih (setVariable (Text.lowerPoints v.1) v.2 acc) (nodup_setVariable _ _ hacc)
    refine ⟨hnodup, fun name => ?_⟩
    rw [List.foldl_cons, hlookup, lookup_setVariable, lastOf_cons, Option.or_assoc]
    refine congrArg ((lastOf rest name).or) ?_
    by_cases hv : Text.lowerPoints v.1 = name
    · rw [if_pos hv, if_pos hv.symm, Option.some_or]
    · rw [if_neg hv, if_neg (Ne.symm hv), Option.none_or]

/-- All variables that are called like the section are for single keys of it. -/
structure ForKeys (s : Section) (vars : Variables) : Prop where
  notWhole : ∀ v ∈ vars, Text.lowerPoints v.1 ≠ ({} : Naming).variable s.name
  single : ∀ v ∈ vars, ∀ key, Text.lowerPoints v.1 = s.start ++ key →
    ¬ Text.points delimiter <:+: key

/-- The two conditions as a test of one name. -/
def Section.Admits (s : Section) (name : CodePoints) : Prop :=
  Text.lowerPoints name ≠ ({} : Naming).variable s.name ∧
    (s.start.isPrefixOf (Text.lowerPoints name) = true →
      ¬ Text.points delimiter <:+: (Text.lowerPoints name).drop s.start.length)

instance (s : Section) (name : CodePoints) : Decidable (s.Admits name) :=
  inferInstanceAs (Decidable (_ ∧ _))

theorem ForKeys.of_admits {vars : Variables} (h : ∀ v ∈ vars, s.Admits v.1) :
    ForKeys s vars := by
  refine ⟨fun v hv => (h v hv).1, fun v hv key hkey => ?_⟩
  have hsingle := (h v hv).2
  rw [hkey, List.drop_left] at hsingle
  exact hsingle (List.isPrefixOf_iff_prefix.mpr (List.prefix_append _ _))

theorem lookup_normal (vars : Variables) (name : CodePoints) :
    (normal {} vars).lookup name = lastOf vars name := by
  rw [normal_eq, (foldl_setVariable vars [] List.nodup_nil).2 name]
  exact Option.or_none

/-- A variable in normal form is one that is given, under its normal name. -/
theorem exists_of_mem_normal {naming : Naming} {vars : Variables} {v : CodePoints × CodePoints}
    (h : v ∈ normal naming vars) : ∃ w ∈ vars, v = (naming.normal w.1, w.2) := by
  have hfold : ∀ set acc : Variables,
      v ∈ set.foldl (fun acc w => setVariable (naming.normal w.1) w.2 acc) acc →
        v ∈ acc ∨ ∃ w ∈ set, v = (naming.normal w.1, w.2) := by
    intro set
    induction set with
    | nil => exact fun acc hv => .inl hv
    | cons w rest ih =>
      intro acc hv
      rcases ih _ hv with hv | ⟨x, hx, hv⟩
      · rcases mem_setVariable hv with hv | hv
        · exact .inr ⟨w, List.mem_cons_self, hv⟩
        · exact .inl hv
      · exact .inr ⟨x, List.mem_cons_of_mem _ hx, hv⟩
  rcases hfold _ _ h with hv | ⟨w, hw, hv⟩
  · cases hv
  · exact ⟨w, (List.mem_filter.mp hw).1, hv⟩

theorem ForKeys.settled {vars : Variables} (h : ForKeys s vars) : Settled s (normal {} vars) := by
  refine ⟨?_, fun v hv key hkey => ⟨fun n hn => ?_, ?_⟩⟩
  · rw [normal_eq]
    exact (foldl_setVariable vars [] List.nodup_nil).1
  · obtain ⟨w, -, hsame⟩ := exists_of_mem_normal hv
    have hname : v.1 = Text.lowerPoints w.1 := congrArg Prod.fst hsame
    have hmem : n ∈ Text.lowerPoints w.1 := by
      rw [← hname, hkey]
      exact List.mem_append_right _ hn
    exact Text.not_capital_of_mem_lowerPoints n hmem
  · obtain ⟨w, hw, hsame⟩ := exists_of_mem_normal hv
    have hname : v.1 = Text.lowerPoints w.1 := congrArg Prod.fst hsame
    exact h.single w hw key (hname.symm.trans hkey)

theorem ForKeys.lookup_whole {vars : Variables} (h : ForKeys s vars) :
    (normal {} vars).lookup (({} : Naming).variable s.name) = none := by
  rw [List.lookup_eq_none_iff]
  intro v hv
  obtain ⟨w, hw, rfl⟩ := exists_of_mem_normal hv
  rw [bne_iff_ne]
  exact Ne.symm (h.notWhole w hw)

/-- What the variables say about a key of a section. -/
def given? (s : Section) (vars : Variables) (key : String) : Option Data :=
  (lastOf vars (s.start ++ Text.points key)).bind fun text =>
    (s.read (Text.points key) text).toOption

/-- All variables of a section can be read. -/
def Readable (s : Section) (vars : Variables) : Prop :=
  ∀ key text, lastOf vars (s.start ++ key) = some text → ∃ d, s.read key text = .ok d

/-- Single variables make a mapping with their keys, or nothing where there are none. -/
theorem sectionData_of_forKeys (hs : s.Plain) {vars : Variables} (h : ForKeys s vars)
    {d : Option Data} (hd : sectionData {} s (normal {} vars) = .ok d) :
    (∀ m ∈ d, m.IsMapping) ∧ ∀ key, d.bind (·.at? key) = given? s vars key := by
  rw [sectionData_eq hs h.settled h.lookup_whole] at hd
  cases hsingle : single {} s [] (normal {} vars) with
  | error f => rw [hsingle] at hd; cases hd
  | ok m =>
    rw [hsingle] at hd
    have hentries : Entries m :=
      .single hs h.settled ⟨List.Pairwise.nil, fun e he => by cases he⟩ hsingle
    have hget : ∀ key, m.get? key = given? s vars key := by
      intro key
      rw [get?_of_single hs h.settled hsingle, lookup_normal]
      exact Option.or_none
    cases m with
    | nil =>
      cases hd
      exact ⟨fun m hm => (by cases hm), hget⟩
    | cons e rest =>
      cases hd
      refine ⟨fun m hm => ?_, hget⟩
      cases hm
      exact ⟨e :: rest, rfl, hentries.distinct⟩

theorem exists_sectionData_iff (hs : s.Plain) {vars : Variables} (h : ForKeys s vars) :
    (∃ d, sectionData {} s (normal {} vars) = .ok d) ↔ Readable s vars := by
  have hsingle := exists_single_iff hs h.settled []
  simp only [lookup_normal] at hsingle
  rw [sectionData_eq hs h.settled h.lookup_whole, Readable, ← hsingle]
  cases single {} s [] (normal {} vars) with
  | error f => exact ⟨fun ⟨d, hd⟩ => (by cases hd), fun ⟨m, hm⟩ => (by cases hm)⟩
  | ok m => exact ⟨fun _ => ⟨m, rfl⟩, fun _ => ⟨_, rfl⟩⟩

/-- A section under its name, if it is given. -/
def entryOf (name : String) : Option Data → Mapping
  | none => []
  | some d => [(.text name, d)]

theorem settings_eq (naming : Naming) (vars : Variables) :
    settings naming vars = (do
      let logging ← sectionData naming .logging (normal naming vars)
      let building ← sectionData naming .building (normal naming vars)
      return entryOf "logging" logging ++ entryOf "unmarshal" building) := by
  unfold settings sections
  dsimp only
  simp only [List.foldlM_cons, List.foldlM_nil]
  cases sectionData naming .logging (normal naming vars) with
  | error f => rfl
  | ok logging =>
    cases sectionData naming .building (normal naming vars) with
    | error f => cases logging <;> rfl
    | ok building => cases logging <;> cases building <;> rfl

/-- The environment can be read exactly if all its variables can. -/
theorem exists_settings_iff {vars : Variables} (h : ∀ s ∈ sections, ForKeys s vars) :
    (∃ m, settings {} vars = .ok m) ↔ ∀ s ∈ sections, Readable s vars := by
  have hsection : ∀ s ∈ sections,
      ((∃ d, sectionData {} s (normal {} vars) = .ok d) ↔ Readable s vars) :=
    fun s hs => exists_sectionData_iff (plain_of_mem hs) (h s hs)
  have hlogging := hsection .logging (by decide)
  have hbuilding := hsection .building (by decide)
  rw [settings_eq]
  constructor
  · rintro ⟨m, hm⟩ s hs
    obtain ⟨logging, hl, hm⟩ := bind_eq_ok hm
    obtain ⟨building, hb, -⟩ := bind_eq_ok hm
    rcases mem_sections.mp hs with rfl | rfl
    · exact hlogging.mp ⟨logging, hl⟩
    · exact hbuilding.mp ⟨building, hb⟩
  · intro hread
    obtain ⟨logging, hl⟩ := hlogging.mpr (hread .logging (by decide))
    obtain ⟨building, hb⟩ := hbuilding.mpr (hread .building (by decide))
    rw [hl, hb]
    exact ⟨_, rfl⟩

theorem get?_entries (logging building : Option Data) :
    Mapping.get? (entryOf "logging" logging ++ entryOf "unmarshal" building) "logging" = logging ∧
      Mapping.get? (entryOf "logging" logging ++ entryOf "unmarshal" building) "unmarshal" =
        building := by
  cases logging <;> cases building <;> exact ⟨rfl, rfl⟩

theorem distinct_entries (logging building : Option Data) :
    Mapping.Distinct (entryOf "logging" logging ++ entryOf "unmarshal" building) := by
  have hne : (Key.text "logging" == Key.text "unmarshal") = false := by decide
  cases logging <;> cases building <;> simp [entryOf, Mapping.Distinct, hne]

theorem section_of_settings {naming : Naming} {vars : Variables} {m : Mapping}
    (h : settings naming vars = .ok m) : ∀ e ∈ m, ∃ s ∈ sections, e.1 = .text s.name := by
  rw [settings_eq] at h
  obtain ⟨logging, -, h⟩ := bind_eq_ok h
  obtain ⟨building, -, h⟩ := bind_eq_ok h
  cases h
  intro e he
  rcases List.mem_append.mp he with he | he
  · cases logging with
    | none => cases he
    | some d => exact ⟨.logging, by decide, List.mem_singleton.mp he ▸ rfl⟩
  · cases building with
    | none => cases he
    | some d => exact ⟨.building, by decide, List.mem_singleton.mp he ▸ rfl⟩

/-- It has in its sections what the variables for their keys say. -/
theorem settings_of_forKeys {vars : Variables} (h : ∀ s ∈ sections, ForKeys s vars) {m : Mapping}
    (hm : settings {} vars = .ok m) : m.Distinct ∧
      ∀ s ∈ sections, m.Holds s.name ∧ ∀ key, m.within? s.name key = given? s vars key := by
  have hlaid : ∀ s ∈ sections, ∀ d, sectionData {} s (normal {} vars) = .ok d →
      (∀ m ∈ d, m.IsMapping) ∧ ∀ key, d.bind (·.at? key) = given? s vars key :=
    fun s hs d hd => sectionData_of_forKeys (plain_of_mem hs) (h s hs) hd
  rw [settings_eq] at hm
  obtain ⟨logging, hl, hm⟩ := bind_eq_ok hm
  obtain ⟨building, hb, hm⟩ := bind_eq_ok hm
  cases hm
  obtain ⟨hgetl, hgetb⟩ := get?_entries logging building
  obtain ⟨hmapl, hatl⟩ := hlaid .logging (by decide) _ hl
  obtain ⟨hmapb, hatb⟩ := hlaid .building (by decide) _ hb
  refine ⟨distinct_entries _ _, fun s hs => ?_⟩
  rcases mem_sections.mp hs with rfl | rfl
  · refine ⟨fun d hd => hmapl d (hgetl.symm.trans hd), fun key => ?_⟩
    exact (congrArg (Option.bind · fun d => d.at? key) hgetl).trans (hatl key)
  · refine ⟨fun d hd => hmapb d (hgetb.symm.trans hd), fun key => ?_⟩
    exact (congrArg (Option.bind · fun d => d.at? key) hgetb).trans (hatb key)

/-- The variable for the outputs of the log holds data, or nothing. -/
def OutputsReadable (vars : Variables) : Prop :=
  ∀ text, lastOf vars (Section.logging.start ++ Text.points "outputs") = some text →
    text.isEmpty = false → ∃ d, readJson .logging text = .ok d

/-- No other variable is to hold JSON. -/
theorem readable_iff (vars : Variables) :
    (∀ s ∈ sections, Readable s vars) ↔ OutputsReadable vars := by
  constructor
  · intro h text hlast htext
    obtain ⟨d, hd⟩ := h .logging (by decide) (Text.points "outputs") text hlast
    rw [Section.read, if_pos ⟨by decide, htext⟩] at hd
    exact ⟨d, hd⟩
  · intro h s hs key text hlast
    by_cases hjson : key ∈ s.jsonKeys.map Text.points ∧ text.isEmpty = false
    · rcases mem_sections.mp hs with rfl | rfl
      · obtain rfl : key = Text.points "outputs" := List.mem_singleton.mp hjson.1
        obtain ⟨d, hd⟩ := h text hlast hjson.2
        exact ⟨d, by rw [Section.read, if_pos hjson, hd]⟩
      · exact absurd hjson.1 List.not_mem_nil
    · exact ⟨.ofPoints text, by rw [Section.read, if_neg hjson]⟩

end Environment

end TypedTree
