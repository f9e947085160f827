import TypedTree.Proofs.Demands

/-! # What is refused in settings

Settings are looked at in certain spots: what is given there has to meet what is demanded of it. The
issues with settings are exactly those of the spots where it does not, in the order of the spots. -/

namespace TypedTree

/-- A spot in settings, with what is demanded there and what is given. -/
structure Spot where
  path : List Locus := []
  demand : Demand
  value : Data

def Spot.under (l : Locus) (s : Spot) : Spot := { s with path := l :: s.path }

/-- The issues of the spots where a demand is not met, one after the other. -/
inductive Refusals (homes : Homes) : List Spot → List Issue → Prop
  | nil : Refusals homes [] []
  | met {s : Spot} {spots : List Spot} {issues : List Issue}
      (met : ∀ kind, ¬ s.demand.Refuses homes s.value kind) (rest : Refusals homes spots issues) :
      Refusals homes (s :: spots) issues
  | refused {s : Spot} {spots : List Spot} {issues : List Issue} {kind : IssueKind}
      (refused : s.demand.Refuses homes s.value kind) (rest : Refusals homes spots issues) :
      Refusals homes (s :: spots) (⟨s.path, kind, s.value⟩ :: issues)

namespace Refusals

variable {homes : Homes} {spots more : List Spot} {issues others : List Issue}

theorem append (h : Refusals homes spots issues) (h' : Refusals homes more others) :
    Refusals homes (spots ++ more) (issues ++ others) := by
  induction h with
  | nil => exact h'
  | met met _ ih => exact .met met ih
  | refused refused _ ih => exact .refused refused ih

theorem under (h : Refusals homes spots issues) (l : Locus) :
    Refusals homes (spots.map (.under l)) (issues.map fun i => { i with path := l :: i.path }) := by
  induction h with
  | nil => exact .nil
  | met met _ ih => exact .met met ih
  | refused refused _ ih => exact .refused refused ih

theorem unique (h : Refusals homes spots issues) (h' : Refusals homes spots others) :
    issues = others := by
  induction h generalizing others with
  | nil =>
    cases h'
    rfl
  | met met _ ih =>
    cases h' with
    | met _ rest => exact ih rest
    | refused refused _ => exact absurd refused (met _)
  | refused refused _ ih =>
    cases h' with
    | met met _ => exact absurd refused (met _)
    | refused refused' rest => rw [refused.unique refused', ih rest]

end Refusals

namespace Verdict

variable {α β : Type} {homes : Homes} {spots more : List Spot} {v : Verdict α} {w : Verdict β}

/-- Unless it is abandoned, the verdict lists the issues of the spots. -/
inductive Lists (homes : Homes) (spots : List Spot) : Verdict α → Prop
  | valid (a : α) (none : Refusals homes spots []) : Lists homes spots (.valid a)
  | invalid {i : Issue} {rest : List Issue} (found : Refusals homes spots (i :: rest)) :
      Lists homes spots (.invalid (i :: rest))
  | abandoned : Lists homes spots .abandoned

theorem Lists.map (h : v.Lists homes spots) (f : α → β) : (v.map f).Lists homes spots := by
  cases h with
  | valid a none => exact .valid (f a) none
  | invalid found => exact .invalid found
  | abandoned => exact .abandoned

theorem Lists.both (h : v.Lists homes spots) (h' : w.Lists homes more) :
    (v.both w).Lists homes (spots ++ more) := by
  cases h with
  | valid a none =>
    cases h' with
    | valid b none' => exact .valid (a, b) (none.append none')
    | invalid found => exact .invalid (none.append found)
    | abandoned => exact .abandoned
  | invalid found =>
    cases h' with
    | valid b none =>
      have hfound := found.append none
      rw [List.append_nil] at hfound
      exact .invalid hfound
    | invalid found' => exact .invalid (found.append found')
    | abandoned => exact .abandoned
  | abandoned => exact .abandoned

theorem Lists.under (h : v.Lists homes spots) (l : Locus) :
    (v.under l).Lists homes (spots.map (.under l)) := by
  cases h with
  | valid a none => exact .valid a (none.under l)
  | invalid found => exact .invalid (found.under l)
  | abandoned => exact .abandoned

/-- Spots where nothing is wrong make no difference. -/
theorem Lists.after (h : v.Lists homes spots) (hmore : Refusals homes more []) :
    v.Lists homes (more ++ spots) := by
  cases h with
  | valid a none => exact .valid a (hmore.append none)
  | invalid found => exact .invalid (hmore.append found)
  | abandoned => exact .abandoned

theorem Lists.refusals_of_valid {a : α} (h : (Verdict.valid a).Lists homes spots) :
    Refusals homes spots [] := by
  cases h with
  | valid _ none => exact none

/-- What is wrong in the spots is the verdict. -/
theorem Lists.eq_invalid (h : v.Lists homes spots) (hv : v ≠ .abandoned) {i : Issue}
    {rest : List Issue} (hfound : Refusals homes spots (i :: rest)) : v = .invalid (i :: rest) := by
  cases h with
  | valid a none => cases none.unique hfound
  | invalid found => rw [found.unique hfound]
  | abandoned => exact absurd rfl hv

theorem Lists.exists_valid (h : v.Lists homes spots) (hv : v ≠ .abandoned)
    (hnone : Refusals homes spots []) : ∃ a, v = .valid a := by
  cases h with
  | valid a none => exact ⟨a, rfl⟩
  | invalid found => cases found.unique hnone
  | abandoned => exact absurd rfl hv

end Verdict

/-- The one spot of a value that stands for itself. -/
def Demand.spots (demand : Demand) (d : Data) : List Spot := [{ demand, value := d }]

/-- The spots below a key of a mapping. -/
def Mapping.spots (m : Mapping) (name : String) (inner : Data → List Spot) : List Spot :=
  match m.get? name with
  | some d => (inner d).map (.under (.named name))
  | none => []

/-- The spots of a value that has to be a mapping. -/
def groupSpots (title : String) (inner : Mapping → List Spot) (d : Data) : List Spot :=
  (Demand.group title).spots d ++
    match d.bare with
    | .map m => inner m
    | _ => []

/-- The spots of the items of a list. -/
def itemSpots (inner : Data → List Spot) (start : Nat) : List Data → List Spot
  | [] => []
  | d :: rest => (inner d).map (.under (.index start)) ++ itemSpots inner (start + 1) rest

namespace Check

variable {α : Type} {homes : Homes} {d : Data} {check : Data → Verdict α}

/-- A check with at most one issue refuses what does not meet the demand. -/
theorem lists_of_single {demand : Demand} {v : Verdict α}
    (hverdict : (v.map fun _ => ()) = demand.verdict homes d) (h : v = .abandoned ∨ v.Single d) :
    v.Lists homes (demand.spots d) := by
  rcases h with rfl | h
  · exact .abandoned
  cases h with
  | valid a =>
    refine .valid a (.met (fun kind refused => ?_) .nil)
    cases hverdict.trans refused.verdict_eq
  | refused kind =>
    exact .invalid (.refused (Demand.verdict_eq_refuse.mp hverdict.symm) .nil)

theorem map_choice (all : List α) (name : α → String) (d : Data) :
    ((choice all name d).map fun _ => ()) = (choice (all.map name) id d).map fun _ => () := by
  unfold choice
  rw [List.map_id]
  split
  · rename_i s
    have hname : (fun a => decide (id a = s)) ∘ name = fun a => decide (name a = s) := rfl
    rw [List.find?_map, hname]
    cases all.find? fun a => name a = s <;> rfl
  · rfl
  · rfl

theorem lists_choice (all : List α) (name : α → String) (d : Data) :
    (choice all name d).Lists homes ((Demand.choice (all.map name)).spots d) :=
  lists_of_single (map_choice all name d) (.inr (single_choice all name d))

theorem lists_optionalLevel (d : Data) : (optionalLevel d).Lists homes
    ((Demand.choiceOrNull (LogLevel.all.map LogLevel.name)).spots d) := by
  have hlevel : (((level d).map some).map fun _ => ()) =
      (choice (LogLevel.all.map LogLevel.name) id d).map fun _ => () := by
    rw [← map_choice]
    change ((choice LogLevel.all LogLevel.name d).map some).map _ = _
    cases choice LogLevel.all LogLevel.name d <;> rfl
  refine lists_of_single ?_ (.inr (single_optionalLevel d))
  cases d with
  | null => rfl
  | _ => exact hlevel

theorem lists_bool (d : Data) : (bool d).Lists homes (Demand.truth.spots d) :=
  lists_of_single rfl (.inr (single_bool d))

theorem lists_encoding (d : Data) : (encoding d).Lists homes ((Demand.text .encoding).spots d) :=
  lists_of_single rfl (.inr (single_encoding d))

theorem lists_destination (d : Data) :
    (destination homes d).Lists homes ((Demand.text .destination).spots d) := by
  refine lists_of_single rfl ?_
  refine holds_of_text (fun v => v = .abandoned ∨ v.Single d) d (fun kind => .inr (.refused kind))
    fun ps => ?_
  split
  · exact .inr (.valid _)
  · exact .inr (.refused _)
  · exact .inr (.refused _)
  · exact .inl rfl

theorem lists_field {inner : Data → List Spot} (h : ∀ d, (check d).Lists homes (inner d))
    (m : Mapping) (name : String) (default : α) :
    (field m name default check).Lists homes (m.spots name inner) := by
  unfold field Mapping.spots
  cases m.get? name with
  | none => exact .valid default .nil
  | some d => exact (h d).under _

theorem refusals_of_met {demand : Demand} (h : ∀ kind, ¬ demand.Refuses homes d kind) :
    Refusals homes (demand.spots d) [] := .met h .nil

theorem lists_model {title : String} {check : Mapping → Verdict α} {inner : Mapping → List Spot}
    (h : ∀ m, (check m).Lists homes (inner m)) (d : Data) :
    (model title check d).Lists homes (groupSpots title inner d) := by
  unfold model groupSpots
  by_cases hmap : ∃ m, d.bare = .map m
  · obtain ⟨m, hm⟩ := hmap
    rw [hm]
    refine (h m).after (refusals_of_met fun kind refused => ?_)
    cases refused with
    | group other => exact other m hm
  · have other := not_exists.mp hmap
    have hrefused : (Demand.group title).Refuses homes d (.notModel title) := .group other
    cases hbare : d.bare with
    | map m => exact absurd hbare (other m)
    | _ => exact .invalid (.refused hrefused .nil)

theorem lists_items {inner : Data → List Spot} (h : ∀ d, (check d).Lists homes (inner d))
    (start : Nat) (ds : List Data) :
    (items check start ds).Lists homes (itemSpots inner start ds) := by
  induction ds generalizing start with
  | nil => exact .valid [] .nil
  | cons d ds ih => exact (((h d).under _).both (ih (start + 1))).map _

end Check

def OutputSettings.spots : Data → List Spot :=
  groupSpots title fun m =>
    m.spots "format" (Demand.choice (LogFormat.all.map LogFormat.name)).spots ++
      (m.spots "destination" (Demand.text .destination).spots ++
        m.spots "level" (Demand.choiceOrNull (LogLevel.all.map LogLevel.name)).spots)

def LogSettings.outputSpots (d : Data) : List Spot :=
  Demand.list.spots d ++ itemSpots OutputSettings.spots 0 (d.listed?.getD [])

def LogSettings.spots : Data → List Spot :=
  groupSpots title fun m =>
    m.spots "level" (Demand.choice (LogLevel.all.map LogLevel.name)).spots ++
      m.spots "outputs" outputSpots

def BuildOptions.spots : Data → List Spot :=
  groupSpots title fun m =>
    m.spots "encoding" (Demand.text .encoding).spots ++
      (m.spots "decode_errors" (Demand.choice (Leniency.all.map Leniency.name)).spots ++
        (m.spots "keep_fielded_extras" Demand.truth.spots ++
          m.spots "validate_field_names" Demand.truth.spots))

variable {homes : Homes}

theorem OutputSettings.lists_check (d : Data) :
    (OutputSettings.check homes d).Lists homes (spots d) := by
  refine Check.lists_model (fun m => Verdict.Lists.map ?_ _) d
  refine (Check.lists_field (Check.lists_choice _ _) m _ _).both ?_
  exact (Check.lists_field Check.lists_destination m _ _).both
    (Check.lists_field Check.lists_optionalLevel m _ _)

theorem LogSettings.lists_checkOutputs (d : Data) :
    (LogSettings.checkOutputs homes d).Lists homes (outputSpots d) := by
  unfold LogSettings.checkOutputs outputSpots
  cases hlisted : d.listed? with
  | some ds =>
    refine (Check.lists_items OutputSettings.lists_check 0 ds).after
      (Check.refusals_of_met fun kind refused => ?_)
    cases refused with
    | list other => cases hlisted.symm.trans other
  | none => exact .invalid (.refused (.list hlisted) .nil)

theorem LogSettings.lists_check (d : Data) : (LogSettings.check homes d).Lists homes (spots d) := by
  refine Check.lists_model (fun m => Verdict.Lists.map ?_ _) d
  exact (Check.lists_field (Check.lists_choice _ _) m _ _).both
    (Check.lists_field lists_checkOutputs m _ _)

theorem BuildOptions.lists_check (d : Data) : (BuildOptions.check d).Lists homes (spots d) := by
  refine Check.lists_model (fun m => Verdict.Lists.map ?_ _) d
  refine (Check.lists_field Check.lists_encoding m _ _).both ?_
  refine (Check.lists_field (Check.lists_choice _ _) m _ _).both ?_
  exact (Check.lists_field Check.lists_bool m _ _).both (Check.lists_field Check.lists_bool m _ _)

namespace Load

/-- The keys that are no sections are not to be there. -/
def unknownSpots (m : Mapping) : List Spot :=
  (m.filter fun e => !Environment.sections.any fun s => e.1 == .text s.name).map fun e =>
    { path := [.key e.1.points], demand := .absence, value := e.2 }

/-- The spots of a section, unless a group is given for it. -/
def sectionSpots {α : Type} (o : Overrides) (m : Mapping) (name : String)
    (accept : Group → Option α) (inner : Data → List Spot) : List Spot :=
  if (o.group? name accept).isSome then [] else m.spots name inner

/-- The spots of the settings that all sources give. -/
def spots (o : Overrides) (m : Mapping) : List Spot :=
  sectionSpots o m "logging" Group.logging? LogSettings.spots ++
    (sectionSpots o m "unmarshal" Group.building? BuildOptions.spots ++ unknownSpots m)

/-- The spots of the group that the caller gives for a section. -/
def givenSpots {α : Type} (o : Overrides) (name : String) (accept : Group → Option α)
    (toData : α → Data) (inner : Data → List Spot) : List Spot :=
  match o.group? name accept with
  | some a => (inner (toData a)).map (.under (.named name))
  | none => []

/-- The spots of the groups that the caller gives. -/
def groupsSpots (o : Overrides) : List Spot :=
  givenSpots o "logging" Group.logging? LogSettings.toData LogSettings.spots ++
    givenSpots o "unmarshal" Group.building? BuildOptions.toData BuildOptions.spots

variable {o : Overrides}

theorem lists_unknownKeys (m : Mapping) : (unknownKeys m).Lists homes (unknownSpots m) := by
  have hfound : Refusals homes (unknownSpots m) (m.filterMap fun e =>
      if Environment.sections.any fun s => e.1 == .text s.name then none
      else some { path := [.key e.1.points], kind := .unknownKey, input := e.2 : Issue }) := by
    unfold unknownSpots
    induction m with
    | nil => exact .nil
    | cons e m ih =>
      rw [List.filter_cons, List.filterMap_cons]
      cases Environment.sections.any fun s => e.1 == .text s.name with
      | true => exact ih
      | false => exact .refused .absence ih
  unfold unknownKeys
  dsimp only
  cases hissues : m.filterMap _ with
  | nil =>
    rw [hissues] at hfound
    exact .valid () hfound
  | cons i rest =>
    rw [hissues] at hfound
    exact .invalid hfound

theorem lists_sectionOf {α : Type} {name : String} {default : α} {accept : Group → Option α}
    {check : Data → Verdict α} {inner : Data → List Spot}
    (h : ∀ d, (check d).Lists homes (inner d)) (m : Mapping) :
    (sectionOf o m name default accept check).Lists homes (sectionSpots o m name accept inner) := by
  unfold sectionOf sectionSpots
  cases o.group? name accept with
  | some a => exact .valid a .nil
  | none => exact Check.lists_field h m name default

theorem lists_verdict (m : Mapping) : (verdict homes o m).Lists homes (spots o m) := by
  have hlogging : (sectionOf o m "logging" {} Group.logging? (LogSettings.check homes)).Lists homes
      (sectionSpots o m "logging" Group.logging? LogSettings.spots) :=
    lists_sectionOf LogSettings.lists_check m
  have hbuilding : (sectionOf o m "unmarshal" {} Group.building? BuildOptions.check).Lists homes
      (sectionSpots o m "unmarshal" Group.building? BuildOptions.spots) :=
    lists_sectionOf BuildOptions.lists_check m
  exact (hlogging.both (hbuilding.both (lists_unknownKeys m))).map _

end Load

end TypedTree
