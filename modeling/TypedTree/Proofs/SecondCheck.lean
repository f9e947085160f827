import TypedTree.Proofs.Keys
import TypedTree.Proofs.Rechecking
import TypedTree.Proofs.Refusals

/-! # What a second check leaves as it is

A group of settings that has passed its check passes it again in its written-out form, and is the
same afterwards. Loading checks settings twice, also those that the caller hands over as a group, and
the second time nothing is refused and nothing changes. -/

namespace TypedTree

theorem LogSettings.Settled.elsewhere {homes : Homes} {l : LogSettings} (h : l.Settled homes)
    (other : Homes) : l.Settled other :=
  fun o ho => normalDestination_again (h o ho) other

namespace Group

variable {homes : Homes} {title : String} {check : Data → Verdict Group} {d : Data} {g : Group}

/-- A group of settings in normal form. -/
def Settled (homes : Homes) : Group → Prop
  | output o => o.Settled homes
  | logging l => l.Settled homes
  | building o => o.Settled
  | all t => t.logging.Settled homes ∧ t.building.Settled

/-- There are four checks of groups. -/
theorem check?_eq_some (h : check? homes title = some check) :
    (check = fun d => (OutputSettings.check homes d).map output) ∨
    (check = fun d => (LogSettings.check homes d).map logging) ∨
    (check = fun d => (BuildOptions.check d).map building) ∨
    (check = fun d => (Settings.check homes d).map all) := by
  unfold check? at h
  split at h
  · exact .inl (Option.some.inj h).symm
  split at h
  · exact .inr (.inl (Option.some.inj h).symm)
  split at h
  · exact .inr (.inr (.inl (Option.some.inj h).symm))
  split at h
  · exact .inr (.inr (.inr (Option.some.inj h).symm))
  · cases h

theorem settled_of_check (htitle : check? homes title = some check) (h : check d = .valid g) :
    g.Settled homes := by
  rcases check?_eq_some htitle with rfl | rfl | rfl | rfl <;>
    obtain ⟨a, ha, rfl⟩ := Verdict.map_eq_valid.mp h
  · exact OutputSettings.settled_of_check ha
  · exact LogSettings.settled_of_check ha
  · exact BuildOptions.settled_of_check ha
  · exact Settings.settled_of_check ha

end Group

namespace Overrides

/-- Every group that the caller gives was once accepted by its check, perhaps when home was
elsewhere. -/
def Checked (o : Overrides) : Prop :=
  ∀ e ∈ o, ∀ g, e.2 = .group g → ∃ homes title check d,
    Group.check? homes title = some check ∧ check d = .valid g

theorem exists_group_of_settings {o : Overrides} {e : Key × Given} {g : Group}
    (he : e ∈ o.settings) (hg : e.2 = .group g) : ∃ f ∈ o, f.2 = .group g := by
  -- Where groups become data, there is none among the settings.
  have hkept : ∀ f : Key × Given, f ∈ (if o.isSet "_nested_model_default_partial_update" then
      o.map fun e => (e.1, e.2.plain) else o) → f.2 = .group g → f ∈ o := by
    intro f hf hfg
    split at hf
    · obtain ⟨⟨k, given⟩, -, rfl⟩ := List.mem_map.mp hf
      cases given <;> cases hfg
    · exact hf
  unfold settings at he
  dsimp only at he
  rcases List.mem_append.mp he with he | he
  · obtain ⟨name, -, hname⟩ := List.mem_filterMap.mp he
    obtain ⟨f, hf, rfl⟩ := Option.map_eq_some_iff.mp hname
    have hmem := (List.mem_filter.mp (List.mem_of_find?_eq_some hf)).1
    exact ⟨f, hkept f hmem hg, hg⟩
  · have hmem := (List.mem_filter.mp (List.mem_filter.mp he).1).1
    exact ⟨e, hkept e hmem hg, hg⟩

theorem mem_put {o : Overrides} {k : Key} {g : Given} {e : Key × Given} (h : e ∈ put k g o) :
    e ∈ o ∨ e.2 = g ∧ (e.1 = k ∨ ∃ f ∈ o, f.1 = e.1) := by
  induction o with
  | nil =>
    rw [put, List.mem_singleton] at h
    exact .inr ⟨h ▸ rfl, .inl (h ▸ rfl)⟩
  | cons f rest ih =>
    rw [put] at h
    split at h
    · rcases List.mem_cons.mp h with rfl | h
      · exact .inr ⟨rfl, .inr ⟨f, List.mem_cons_self, rfl⟩⟩
      · exact .inl (List.mem_cons_of_mem f h)
    · rcases List.mem_cons.mp h with rfl | h
      · exact .inl List.mem_cons_self
      · rcases ih h with h | ⟨hg, hk | ⟨f', hf', hk⟩⟩
        · exact .inl (List.mem_cons_of_mem f h)
        · exact .inr ⟨hg, .inl hk⟩
        · exact .inr ⟨hg, .inr ⟨f', List.mem_cons_of_mem f hf', hk⟩⟩

/-- What is laid over what is given is data. -/
theorem forall_below {o : Overrides} {line : Mapping} {P : Key × Given → Prop}
    (hdata : ∀ k g d, P (k, g) → P (k, .data d)) (hline : ∀ e ∈ line, ∀ d, P (e.1, .data d))
    (ho : ∀ e ∈ o, P e) (hsettings : ∀ e ∈ o.settings, P e) : ∀ e ∈ o.below line, P e := by
  unfold below
  split
  · exact ho
  · rename_i hsome
    clear hsome ho
    generalize o.settings = laid at hsettings ⊢
    induction line generalizing laid with
    | nil => exact hsettings
    | cons e line ih =>
      refine ih (fun e' he' => hline e' (List.mem_cons_of_mem e he')) _ fun e' he' => ?_
      rcases mem_put he' with he' | ⟨hd, hk | ⟨f, hf, hk⟩⟩
      · exact hsettings e' he'
      · rw [show e' = (e.1, .data _) from Prod.ext hk hd]
        exact hline e List.mem_cons_self _
      · rw [show e' = (f.1, .data _) from Prod.ext hk.symm hd]
        exact hdata f.1 f.2 _ (hsettings f hf)

theorem Checked.below {o : Overrides} (h : o.Checked) (line : Mapping) : (o.below line).Checked := by
  refine forall_below (P := fun e => ∀ g, e.2 = .group g → ∃ homes title check d,
    Group.check? homes title = some check ∧ check d = .valid g) ?_ ?_ h ?_
  · intro k g d _ g' hg'
    cases hg'
  · intro e _ d g hg
    cases hg
  · intro e he g hg
    obtain ⟨f, hf, hfg⟩ := exists_group_of_settings he hg
    exact h f hf g hfg

theorem section_of_line {o : Overrides} {r : OptionReader} {line : Mapping}
    (h : o.line r = .ok line) : ∀ e ∈ line, ∃ s ∈ Environment.sections, e.1 = .text s.name := by
  unfold Overrides.line at h
  split at h
  · cases h
    exact List.forall_mem_nil _
  · obtain ⟨given, -, h⟩ := bind_eq_ok h
    cases h
    intro e he
    obtain ⟨s, hs, he⟩ := List.mem_filterMap.mp he
    obtain ⟨d, -, rfl⟩ := Option.map_eq_some_iff.mp he
    exact ⟨s, hs, rfl⟩

theorem group?_eq_some {α : Type} {o : Overrides} {name : String} {accept : Group → Option α}
    {a : α} (h : o.group? name accept = some a) :
    ∃ g, o.settings.get? name = some (.group g) ∧ accept g = some a := by
  unfold group? at h
  split at h
  · rename_i g hg
    exact ⟨g, hg, h⟩
  · cases h

theorem Checked.settled {α : Type} {o : Overrides} (h : o.Checked) {name : String}
    {accept : Group → Option α} {a : α} (ha : o.group? name accept = some a) :
    ∃ g, accept g = some a ∧ ∃ homes, g.Settled homes := by
  obtain ⟨g, hg, haccept⟩ := group?_eq_some ha
  obtain ⟨e, he, -, hgroup⟩ := exists_mem_of_lookup hg
  obtain ⟨f, hf, hfg⟩ := exists_group_of_settings he hgroup
  obtain ⟨homes, title, check, d, htitle, hcheck⟩ := h f hf g hfg
  exact ⟨g, haccept, homes, Group.settled_of_check htitle hcheck⟩

end Overrides

namespace Load

variable {o : Overrides} {homes : Homes}

/-- A section that is accepted is a group of the caller's or has passed its check. -/
theorem sectionOf_eq_valid {α : Type} {m : Mapping} {name : String} {default a : α}
    {accept : Group → Option α} {check : Data → Verdict α} :
    sectionOf o m name default accept check = .valid a ↔ o.group? name accept = some a ∨
      o.group? name accept = none ∧ Check.given default check (m.get? name) = .valid a := by
  unfold sectionOf
  cases o.group? name accept with
  | some b => simp
  | none => simp [Check.field_eq_valid]

theorem verdict_eq_valid {m : Mapping} {t : Settings} : verdict homes o m = .valid t ↔
    sectionOf o m "logging" {} Group.logging? (LogSettings.check homes) = .valid t.logging ∧
      sectionOf o m "unmarshal" {} Group.building? BuildOptions.check = .valid t.building ∧
        unknownKeys m = .valid () := by
  unfold verdict
  dsimp only
  rw [Verdict.map_eq_valid_of_inverse (fun s : Settings => (s.logging, s.building, ()))
    (fun _ => rfl) fun _ => rfl, Verdict.both_eq_valid, Verdict.both_eq_valid]

theorem settled_of_verdict (ho : o.Checked) {m : Mapping} {t : Settings}
    (h : verdict homes o m = .valid t) : t.logging.Settled homes ∧ t.building.Settled := by
  obtain ⟨hlogging, hbuilding, -⟩ := verdict_eq_valid.mp h
  constructor
  · rcases sectionOf_eq_valid.mp hlogging with hgroup | ⟨-, hgiven⟩
    · obtain ⟨g, haccept, elsewhere, hsettled⟩ := ho.settled hgroup
      cases g <;> cases haccept
      exact LogSettings.Settled.elsewhere hsettled homes
    · exact LogSettings.settled_of_section hgiven
  · rcases sectionOf_eq_valid.mp hbuilding with hgroup | ⟨-, hgiven⟩
    · obtain ⟨g, haccept, _, hsettled⟩ := ho.settled hgroup
      cases g <;> cases haccept
      exact hsettled
    · exact BuildOptions.settled_of_section hgiven

section Again

variable {m : Mapping} {t : Settings}

/-- What has passed its check passes it again, so that only a group can be refused. -/
theorem lists_again_of_section {α : Type} {name : String} {default a : α}
    {accept : Group → Option α} {check : Data → Verdict α} {toData : α → Data}
    {inner : Data → List Spot} (h : sectionOf o m name default accept check = .valid a)
    (hcheck : ∀ d, (check d).Lists homes (inner d))
    (hagain : Check.given default check (m.get? name) = .valid a → check (toData a) = .valid a) :
    ((check (toData a)).under (.named name)).Lists homes
      (givenSpots o name accept toData inner) := by
  unfold givenSpots
  rcases sectionOf_eq_valid.mp h with hgroup | ⟨hnone, hgiven⟩
  · rw [hgroup]
    exact (hcheck (toData a)).under _
  · rw [hnone, hagain hgiven]
    exact .valid a .nil

theorem check_toData_eq (t : Settings) : Settings.check homes t.toData =
    (((LogSettings.check homes t.logging.toData).under (.named "logging")).both
      ((BuildOptions.check t.building.toData).under (.named "unmarshal"))).map
        fun (l, u) => ⟨l, u⟩ := rfl

/-- A second check lists the issues with the groups that the caller gives. -/
theorem lists_again (h : verdict homes o m = .valid t) :
    (Settings.check homes t.toData).Lists homes (groupsSpots o) := by
  obtain ⟨hlogging, hbuilding, -⟩ := verdict_eq_valid.mp h
  rw [check_toData_eq]
  refine Verdict.Lists.map (Verdict.Lists.both ?_ ?_) _
  · exact lists_again_of_section hlogging LogSettings.lists_check
      fun hgiven => (LogSettings.settled_of_section hgiven).check
  · exact lists_again_of_section hbuilding BuildOptions.lists_check
      fun hgiven => (BuildOptions.settled_of_section hgiven).check

theorem abandoned_again (h : verdict homes o m = .valid t) :
    Settings.check homes t.toData = .abandoned ↔
      ∃ l, o.group? "logging" Group.logging? = some l ∧ LogSettings.Homeless homes l.toData := by
  obtain ⟨hlogging, -, -⟩ := verdict_eq_valid.mp h
  rw [check_toData_eq, Verdict.map_eq_abandoned, Verdict.both_eq_abandoned,
    Verdict.under_eq_abandoned, Verdict.under_eq_abandoned, LogSettings.check_eq_abandoned]
  simp only [BuildOptions.check_ne_abandoned, or_false]
  rcases sectionOf_eq_valid.mp hlogging with hgroup | ⟨hnone, hgiven⟩
  · simp [hgroup]
  · have hagain := (LogSettings.settled_of_section hgiven).check
    simp [hnone, ← LogSettings.check_eq_abandoned, hagain]

end Again

theorem verdict_again (ho : o.Checked) {m : Mapping} {t : Settings}
    (h : verdict homes o m = .valid t) : Settings.check homes t.toData = .valid t := by
  obtain ⟨hlogging, hbuilding⟩ := settled_of_verdict ho h
  exact Settings.check_toData hlogging hbuilding

end Load

/-- A group of settings as its check has accepted it, perhaps when homes were elsewhere. -/
structure AcceptedGroup where
  group : Group
  accepted : ∃ homes title check d, Group.check? homes title = some check ∧ check d = .valid group

/-- What can be offered under a name: raw data, or a group that is still as it was accepted. -/
inductive Offer where
  | raw (d : Data)
  | group (g : AcceptedGroup)

def Offer.given : Offer → Given
  | raw d => .data d
  | group g => .group g.group

namespace Sources

variable {s : Sources} {m : Mapping} {t : Settings}

theorem checked_given (h : s.overrides.Checked) : s.given.Checked := h.below _

theorem finish_of_abandoned (h : Load.verdict s.homes s.given m = .abandoned) :
    s.finish m = .error .unknownHome := by
  unfold finish
  rw [h]

theorem finish_of_invalid {issues : List Issue}
    (h : Load.verdict s.homes s.given m = .invalid issues) :
    s.finish m = .error (Load.firstIssue issues) := by
  unfold finish
  rw [h]

theorem finish_of_valid {again : Settings} (h : Load.verdict s.homes s.given m = .valid t)
    (hagain : Settings.check s.homes t.toData = .valid again) : s.finish m = .ok again := by
  unfold finish
  rw [h]
  dsimp only
  rw [hagain]

theorem finish_of_refused {issues : List Issue} (h : Load.verdict s.homes s.given m = .valid t)
    (hagain : Settings.check s.homes t.toData = .invalid issues) :
    s.finish m = .error (.recheck issues) := by
  unfold finish
  rw [h]
  dsimp only
  rw [hagain]

theorem finish_of_homeless (h : Load.verdict s.homes s.given m = .valid t)
    (hagain : Settings.check s.homes t.toData = .abandoned) :
    s.finish m = .error .unknownHome := by
  unfold finish
  rw [h]
  dsimp only
  rw [hagain]

/-- Settings that pass their check are what is loaded. -/
theorem finish_of_verdict (ho : s.given.Checked)
    (h : Load.verdict s.homes s.given m = .valid t) : s.finish m = .ok t :=
  finish_of_valid h (Load.verdict_again ho h)

theorem finish_ne_recheck (ho : s.given.Checked) (issues : List Issue) :
    s.finish m ≠ .error (.recheck issues) := by
  cases hv : Load.verdict s.homes s.given m with
  | valid t =>
    rw [finish_of_verdict ho hv]
    exact fun h => by cases h
  | abandoned =>
    rw [finish_of_abandoned hv]
    exact fun h => by cases h
  | invalid found =>
    have hlists : (Load.verdict s.homes s.given m).Lists s.homes (Load.spots s.given m) :=
      Load.lists_verdict m
    rw [finish_of_invalid hv]
    rw [hv] at hlists
    cases hlists
    dsimp only [Load.firstIssue]
    split <;> exact fun h => by cases h

theorem project_ne_recheck (issues : List Issue) : s.project ≠ .error (.recheck issues) := by
  unfold project
  split
  · cases s.files.inside projectFileName <;> exact fun h => by cases h
  · split <;> exact fun h => by cases h

theorem fileSettings_ne_recheck (issues : List Issue) :
    s.fileSettings ≠ .error (.recheck issues) := by
  intro h
  rcases bind_eq_error h with h | ⟨path, -, h⟩
  · exact project_ne_recheck issues h
  rcases bind_eq_error h with h | ⟨global, -, h⟩
  · cases hglobal : s.files.settings s.globalFile <;> rw [hglobal] at h <;> cases h
  rcases bind_eq_error h with h | ⟨project, -, h⟩
  · cases hproject : s.files.settings path <;> rw [hproject] at h <;> cases h
  · unfold Load.merge at h
    split at h <;> cases h

theorem merged_ne_recheck (issues : List Issue) : s.merged ≠ .error (.recheck issues) := by
  intro h
  rcases bind_eq_error h with h | ⟨files, -, h⟩
  · exact fileSettings_ne_recheck issues h
  rcases bind_eq_error h with h | ⟨naming, -, h⟩
  · cases hnaming : s.overrides.naming s.reader <;> rw [hnaming] at h <;> cases h
  rcases bind_eq_error h with h | ⟨environment, -, h⟩
  · cases hread : Environment.settings naming s.environment <;> rw [hread] at h <;> cases h
  rcases bind_eq_error h with h | ⟨upper, -, h⟩
  · unfold Load.merge at h
    split at h <;> cases h
  rcases bind_eq_error h with h | ⟨m, -, h⟩
  · unfold Load.merge at h
    split at h <;> cases h
  · split at h <;> cases h

theorem call_ne_recheck (issues : List Issue) : s.call ≠ .error (.recheck issues) := by
  unfold call
  split
  · exact fun h => by cases h
  · split <;> exact fun h => by cases h

theorem load_ne_recheck (ho : s.overrides.Checked) (issues : List Issue) :
    s.load ≠ .error (.recheck issues) := by
  intro h
  rcases bind_eq_error h with h | ⟨_, -, h⟩
  · exact call_ne_recheck issues h
  rcases bind_eq_error h with h | ⟨m, -, h⟩
  · exact merged_ne_recheck issues h
  · exact finish_ne_recheck (checked_given ho) issues h

end Sources

namespace Load

end Load

end TypedTree
