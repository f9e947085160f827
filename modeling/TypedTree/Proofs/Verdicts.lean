import TypedTree.Proofs.EncodingNames
import TypedTree.Proofs.Results
import TypedTree.Settings.Check

/-! # Checks that pass

A check passes exactly if all its parts do. A setting passes by its own value alone, or by its default
where it is not given. -/

namespace TypedTree

namespace Verdict

variable {α β : Type}

theorem both_eq_valid {v : Verdict α} {w : Verdict β} {a : α} {b : β} :
    v.both w = .valid (a, b) ↔ v = .valid a ∧ w = .valid b := by
  constructor
  · intro h
    cases v <;> cases w <;> cases h
    exact ⟨rfl, rfl⟩
  · rintro ⟨rfl, rfl⟩
    rfl

theorem map_eq_valid {v : Verdict α} {f : α → β} {b : β} :
    v.map f = .valid b ↔ ∃ a, v = .valid a ∧ f a = b := by
  constructor
  · intro h
    cases v <;> cases h
    exact ⟨_, rfl, rfl⟩
  · rintro ⟨a, rfl, rfl⟩
    rfl

/-- Where the map can be undone, the value before it is what undoing gives. -/
theorem map_eq_valid_of_inverse {v : Verdict α} {f : α → β} (g : β → α) (hleft : ∀ a, g (f a) = a)
    (hright : ∀ b, f (g b) = b) {b : β} : v.map f = .valid b ↔ v = .valid (g b) := by
  rw [map_eq_valid]
  constructor
  · rintro ⟨a, h, rfl⟩
    rw [hleft]
    exact h
  · exact fun h => ⟨g b, h, hright b⟩

theorem under_eq_valid {v : Verdict α} {l : Locus} {a : α} :
    v.under l = .valid a ↔ v = .valid a := by
  cases v with
  | valid b => exact Iff.rfl
  | abandoned => exact Iff.rfl
  | invalid issues => constructor <;> intro h <;> cases h

theorem refuse_ne_valid {kind : IssueKind} {input : Data} {a : α} :
    (refuse kind input : Verdict α) ≠ .valid a :=
  fun h => by cases h

end Verdict

namespace Check

variable {α : Type}

/-- The check of a value that may be absent, and then counts as its default. -/
def given (default : α) (check : Data → Verdict α) : Option Data → Verdict α
  | some d => check d
  | none => .valid default

/-- What holds of the default and of all that passes holds of the outcome. -/
theorem holds_of_given (P : α → Prop) {default a : α} {check : Data → Verdict α} {d : Option Data}
    (h : given default check d = .valid a) (hdefault : P default)
    (hcheck : ∀ d a, check d = .valid a → P a) : P a := by
  cases d with
  | none => exact Verdict.valid.inj h ▸ hdefault
  | some d => exact hcheck d a h

theorem field_eq_valid {m : Mapping} {name : String} {default a : α} {check : Data → Verdict α} :
    field m name default check = .valid a ↔ given default check (m.get? name) = .valid a := by
  unfold field
  cases m.get? name with
  | none => exact Iff.rfl
  | some d => exact Verdict.under_eq_valid

theorem model_eq_valid {title : String} {check : Mapping → Verdict α} {d : Data} {a : α} :
    model title check d = .valid a ↔ ∃ m : Mapping, d.bare = .map m ∧ check m = .valid a := by
  unfold model
  split
  · rename_i m hm
    rw [hm]
    constructor
    · exact fun h => ⟨m, rfl, h⟩
    · rintro ⟨m', hm', h⟩
      cases hm'
      exact h
  · rename_i hno
    constructor
    · exact fun h => absurd h Verdict.refuse_ne_valid
    · rintro ⟨m, hm, -⟩
      exact absurd hm (hno m)

/-- Text that passes a check is text that can be put to use. -/
theorem exists_of_text {use : Text.CodePoints → Verdict α} {d : Data} {a : α}
    (h : text use d = .valid a) : ∃ ps, use ps = .valid a := by
  unfold text at h
  split at h
  · exact ⟨_, h⟩
  · exact ⟨_, h⟩
  · split at h
    · exact ⟨_, h⟩
    · cases h
  · cases h

/-- The check of an encoding gives the name of one. -/
theorem exists_of_encoding {d : Data} {name : String} (h : encoding d = .valid name) :
    ∃ e ∈ Text.encodings, e.name = name := by
  obtain ⟨ps, h⟩ := exists_of_text h
  dsimp only at h
  split at h
  · cases h
  · split at h
    · cases h
    · split at h
      · rename_i e he
        cases h
        exact ⟨e, Text.mem_of_findEncoding he, rfl⟩
      · cases h

end Check

theorem BuildOptions.check_eq_valid {d : Data} {o : BuildOptions} :
    BuildOptions.check d = .valid o ↔ ∃ m : Mapping, d.bare = .map m ∧
      Check.given "utf-8" Check.encoding (m.get? "encoding") = .valid o.encoding ∧
      Check.given .replace (Check.choice Leniency.all Leniency.name) (m.get? "decode_errors") =
        .valid o.decodeErrors ∧
      Check.given false Check.bool (m.get? "keep_fielded_extras") = .valid o.keepFieldedExtras ∧
      Check.given true Check.bool (m.get? "validate_field_names") =
        .valid o.validateFieldNames := by
  unfold BuildOptions.check
  rw [Check.model_eq_valid]
  refine exists_congr fun m => and_congr_right fun _ => ?_
  rw [Verdict.map_eq_valid_of_inverse
    (fun o => (o.encoding, o.decodeErrors, o.keepFieldedExtras, o.validateFieldNames))
    (fun _ => rfl) fun _ => rfl]
  simp only [Verdict.both_eq_valid, Check.field_eq_valid]

theorem OutputSettings.check_eq_valid {homes : Homes} {d : Data} {o : OutputSettings} :
    OutputSettings.check homes d = .valid o ↔ ∃ m : Mapping, d.bare = .map m ∧
      Check.given .console (Check.choice LogFormat.all LogFormat.name) (m.get? "format") =
        .valid o.format ∧
      Check.given (Text.points "stderr") (Check.destination homes) (m.get? "destination") =
        .valid o.destination ∧
      Check.given none Check.optionalLevel (m.get? "level") = .valid o.level := by
  unfold OutputSettings.check
  rw [Check.model_eq_valid]
  refine exists_congr fun m => and_congr_right fun _ => ?_
  rw [Verdict.map_eq_valid_of_inverse (fun o => (o.format, o.destination, o.level))
    (fun _ => rfl) fun _ => rfl]
  simp only [Verdict.both_eq_valid, Check.field_eq_valid]

theorem LogSettings.check_eq_valid {homes : Homes} {d : Data} {l : LogSettings} :
    LogSettings.check homes d = .valid l ↔ ∃ m : Mapping, d.bare = .map m ∧
      Check.given .info Check.level (m.get? "level") = .valid l.level ∧
      Check.given [{}] (LogSettings.checkOutputs homes) (m.get? "outputs") = .valid l.outputs := by
  unfold LogSettings.check
  rw [Check.model_eq_valid]
  refine exists_congr fun m => and_congr_right fun _ => ?_
  rw [Verdict.map_eq_valid_of_inverse (fun l => (l.level, l.outputs))
    (fun _ => rfl) fun _ => rfl]
  simp only [Verdict.both_eq_valid, Check.field_eq_valid]

theorem Settings.check_eq_valid {homes : Homes} {d : Data} {s : Settings} :
    Settings.check homes d = .valid s ↔ ∃ m : Mapping, d.bare = .map m ∧
      Check.given {} (LogSettings.check homes) (m.get? "logging") = .valid s.logging ∧
      Check.given {} BuildOptions.check (m.get? "unmarshal") = .valid s.building := by
  unfold Settings.check
  rw [Check.model_eq_valid]
  refine exists_congr fun m => and_congr_right fun _ => ?_
  rw [Verdict.map_eq_valid_of_inverse (fun s => (s.logging, s.building))
    (fun _ => rfl) fun _ => rfl]
  simp only [Verdict.both_eq_valid, Check.field_eq_valid]

end TypedTree
