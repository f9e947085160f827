import TypedTree.Proofs.Destinations
import TypedTree.Proofs.Verdicts

/-! # Checking settings again

Settings that have passed are in a normal form: their encoding goes by its own name and their
destinations are written in full. So they pass again, and are the same afterwards. -/

namespace TypedTree

namespace Check

theorem text_ofPoints {α : Type} (use : Text.CodePoints → Verdict α) (ps : Text.CodePoints) :
    text use (.ofPoints ps) = use ps := by
  unfold Data.ofPoints
  cases h : Text.ofPoints? ps with
  | none => rfl
  | some s => exact congrArg use (Text.points_of_ofPoints? h)

theorem encoding_name {e : Text.Encoding} (he : e ∈ Text.encodings) :
    encoding (.text e.name) = .valid e.name := by
  have hplain : e.name.contains '\x00' = false := by
    rw [String.contains_char_eq, decide_eq_false_iff_not]
    exact Text.Encoding.noNul he
  unfold encoding text
  dsimp only
  rw [Text.ofPoints?_points]
  dsimp only
  rw [hplain, Text.findEncoding_name he]
  rfl

/-- A destination that passes is in normal form. -/
theorem normal_of_destination {homes : Homes} {d : Data} {t : Text.CodePoints}
    (h : destination homes d = .valid t) : normalDestination homes t = .ok t := by
  obtain ⟨ps, h⟩ := exists_of_text h
  split at h
  · rename_i t' ht
    cases h
    exact normalDestination_again ht homes
  · cases h
  · cases h
  · cases h

theorem destination_normal {homes : Homes} {t : Text.CodePoints}
    (h : normalDestination homes t = .ok t) : destination homes (.ofPoints t) = .valid t := by
  unfold destination
  rw [text_ofPoints]
  simp only [h]

variable {α : Type} {check : Data → Verdict α}

theorem exists_of_items {start : Nat} {ds : List Data} {as : List α}
    (h : items check start ds = .valid as) : ∀ a ∈ as, ∃ d, check d = .valid a := by
  induction ds generalizing start as with
  | nil =>
    cases h
    exact fun a ha => by cases ha
  | cons d ds ih =>
    rw [items] at h
    obtain ⟨⟨first, rest⟩, hboth, rfl⟩ := Verdict.map_eq_valid.mp h
    obtain ⟨hfirst, hrest⟩ := Verdict.both_eq_valid.mp hboth
    intro a ha
    rcases List.mem_cons.mp ha with rfl | ha
    · exact ⟨d, Verdict.under_eq_valid.mp hfirst⟩
    · exact ih hrest a ha

theorem items_map {toData : α → Data} {as : List α} (h : ∀ a ∈ as, check (toData a) = .valid a)
    (start : Nat) : items check start (as.map toData) = .valid as := by
  induction as generalizing start with
  | nil => rfl
  | cons a as ih =>
    have hrest := ih (fun b hb => h b (List.mem_cons_of_mem _ hb)) (start + 1)
    rw [List.map_cons, items, h a List.mem_cons_self, hrest]
    rfl

end Check

variable {homes : Homes}

theorem LogLevel.check_name (l : LogLevel) : Check.level (.text l.name) = .valid l := by
  cases l <;> rfl

theorem LogFormat.check_name (f : LogFormat) :
    Check.choice LogFormat.all LogFormat.name (.text f.name) = .valid f := by
  cases f <;> rfl

theorem Leniency.check_name (l : Leniency) :
    Check.choice Leniency.all Leniency.name (.text l.name) = .valid l := by
  cases l <;> rfl

/-- The output is written to a destination in normal form. -/
def OutputSettings.Settled (homes : Homes) (o : OutputSettings) : Prop :=
  normalDestination homes o.destination = .ok o.destination

/-- All outputs of the settings are. -/
def LogSettings.Settled (homes : Homes) (l : LogSettings) : Prop :=
  ∀ o ∈ l.outputs, o.Settled homes

/-- The options name an encoding of the table. -/
def BuildOptions.Settled (o : BuildOptions) : Prop := ∃ e ∈ Text.encodings, e.name = o.encoding

theorem OutputSettings.settled_of_check {d : Data} {o : OutputSettings}
    (h : OutputSettings.check homes d = .valid o) : o.Settled homes := by
  obtain ⟨m, -, -, hdestination, -⟩ := OutputSettings.check_eq_valid.mp h
  exact Check.holds_of_given (fun t => normalDestination homes t = .ok t) hdestination rfl
    fun _ _ => Check.normal_of_destination

theorem OutputSettings.Settled.check {o : OutputSettings} (h : o.Settled homes) :
    OutputSettings.check homes o.toData = .valid o := by
  obtain ⟨format, destination, level⟩ := o
  refine OutputSettings.check_eq_valid.mpr
    ⟨_, rfl, format.check_name, Check.destination_normal h, ?_⟩
  cases level with
  | none => rfl
  | some l => exact congrArg (Verdict.map some) l.check_name

theorem LogSettings.settled_of_outputs {d : Data} {os : List OutputSettings}
    (h : LogSettings.checkOutputs homes d = .valid os) : ∀ o ∈ os, o.Settled homes := by
  have hitems : ∃ ds, Check.items (OutputSettings.check homes) 0 ds = .valid os := by
    unfold LogSettings.checkOutputs at h
    split at h
    · exact ⟨_, h⟩
    · exact absurd h Verdict.refuse_ne_valid
  obtain ⟨ds, hitems⟩ := hitems
  intro o ho
  obtain ⟨d, hd⟩ := Check.exists_of_items hitems o ho
  exact OutputSettings.settled_of_check hd

theorem LogSettings.settled_of_given {d : Option Data} {os : List OutputSettings}
    (h : Check.given [{}] (LogSettings.checkOutputs homes) d = .valid os) :
    ∀ o ∈ os, o.Settled homes :=
  Check.holds_of_given (fun os => ∀ o ∈ os, o.Settled homes) h
    (fun _ ho => List.mem_singleton.mp ho ▸ rfl) fun _ _ => LogSettings.settled_of_outputs

theorem LogSettings.settled_of_check {d : Data} {l : LogSettings}
    (h : LogSettings.check homes d = .valid l) : l.Settled homes := by
  obtain ⟨m, -, -, houtputs⟩ := LogSettings.check_eq_valid.mp h
  exact LogSettings.settled_of_given houtputs

theorem LogSettings.Settled.check {l : LogSettings} (h : l.Settled homes) :
    LogSettings.check homes l.toData = .valid l := by
  have houtputs : LogSettings.checkOutputs homes (.list (l.outputs.map OutputSettings.toData)) =
      .valid l.outputs := Check.items_map (fun o ho => (h o ho).check) 0
  exact LogSettings.check_eq_valid.mpr ⟨_, rfl, l.level.check_name, houtputs⟩

theorem BuildOptions.settled_of_given {d : Option Data} {name : String}
    (h : Check.given "utf-8" Check.encoding d = .valid name) :
    ∃ e ∈ Text.encodings, e.name = name :=
  Check.holds_of_given (fun name => ∃ e ∈ Text.encodings, e.name = name) h (by decide +kernel)
    fun _ _ => Check.exists_of_encoding

theorem BuildOptions.settled_of_check {d : Data} {o : BuildOptions}
    (h : BuildOptions.check d = .valid o) : o.Settled := by
  obtain ⟨m, -, hencoding, -⟩ := BuildOptions.check_eq_valid.mp h
  exact BuildOptions.settled_of_given hencoding

theorem BuildOptions.Settled.check {o : BuildOptions} (h : o.Settled) :
    BuildOptions.check o.toData = .valid o := by
  obtain ⟨e, he, hname⟩ := h
  have hencoding : Check.encoding (.text o.encoding) = .valid o.encoding :=
    hname ▸ Check.encoding_name he
  exact BuildOptions.check_eq_valid.mpr ⟨_, rfl, hencoding, o.decodeErrors.check_name, rfl, rfl⟩

theorem LogSettings.settled_of_section {d : Option Data} {l : LogSettings}
    (h : Check.given {} (LogSettings.check homes) d = .valid l) : l.Settled homes :=
  Check.holds_of_given (LogSettings.Settled homes) h
    (fun _ ho => List.mem_singleton.mp ho ▸ rfl) fun _ _ => LogSettings.settled_of_check

theorem BuildOptions.settled_of_section {d : Option Data} {o : BuildOptions}
    (h : Check.given {} BuildOptions.check d = .valid o) : o.Settled :=
  Check.holds_of_given BuildOptions.Settled h (BuildOptions.settled_of_given (d := none) rfl)
    fun _ _ => BuildOptions.settled_of_check

theorem Settings.settled_of_check {d : Data} {t : Settings} (h : Settings.check homes d = .valid t) :
    t.logging.Settled homes ∧ t.building.Settled := by
  obtain ⟨m, -, hlogging, hbuilding⟩ := Settings.check_eq_valid.mp h
  exact ⟨LogSettings.settled_of_section hlogging, BuildOptions.settled_of_section hbuilding⟩

/-- Settled settings pass as a whole, and are the same afterwards. -/
theorem Settings.check_toData {s : Settings} (hlogging : s.logging.Settled homes)
    (hbuilding : s.building.Settled) : Settings.check homes s.toData = .valid s :=
  Settings.check_eq_valid.mpr ⟨_, rfl, hlogging.check, hbuilding.check⟩

end TypedTree
