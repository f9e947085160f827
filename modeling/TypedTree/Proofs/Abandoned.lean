import TypedTree.Proofs.Verdicts
import TypedTree.Settings.Load
import Mathlib.Data.List.DropRight

/-! # Checks that are abandoned

A check is abandoned in one case only: where the destination of an output is below a home directory
that nobody knows. -/

namespace TypedTree

namespace Verdict

variable {α β : Type} {v : Verdict α} {w : Verdict β}

theorem both_eq_abandoned : v.both w = .abandoned ↔ v = .abandoned ∨ w = .abandoned := by
  cases v <;> cases w <;> simp [both]

theorem map_eq_abandoned {f : α → β} : v.map f = .abandoned ↔ v = .abandoned := by
  cases v <;> simp [map]

theorem under_eq_abandoned {l : Locus} : v.under l = .abandoned ↔ v = .abandoned := by
  cases v <;> simp [under]

/-- The verdict on a single value: it is valid, or there is one issue with it. -/
inductive Single (d : Data) : Verdict α → Prop
  | valid (a : α) : Single d (.valid a)
  | refused (kind : IssueKind) : Single d (.refuse kind d)

theorem Single.ne_abandoned {d : Data} (h : v.Single d) : v ≠ .abandoned := by
  cases h with
  | valid a => exact fun h => by cases h
  | refused kind => exact fun h => by cases h

theorem Single.map {d : Data} (h : v.Single d) (f : α → β) : (v.map f).Single d := by
  cases h with
  | valid a => exact .valid (f a)
  | refused kind => exact .refused kind

end Verdict

namespace FilePath

/-- The path is below a home that is not known: that of a user whom nobody knows, or one that is
written with a tilde itself. -/
def Homeless (homes : Homes) (p : FilePath) : Prop :=
  p.isAbsolute = false ∧ ∃ user rest, p.segments = (tilde :: user) :: rest ∧
    Text.fileNameFault? user = none ∧
      ∀ home, homes.directory? user = some home → home.head? = some tilde

theorem ofHome_eq_none {home : Text.CodePoints} :
    ofHome? home = none ↔ home.head? = some tilde := by
  -- Only slashes are taken from the end, and a tilde is none.
  have hbare : (home.rdropWhile (· == slash)).head? = some tilde ↔ home.head? = some tilde := by
    have hsplit : home.rdropWhile (· == slash) ++ home.rtakeWhile (· == slash) = home :=
      List.rdropWhile_append_rtakeWhile
    cases hkept : home.rdropWhile (· == slash) with
    | nil =>
      have hslashes := List.rdropWhile_eq_nil_iff.mp hkept
      constructor
      · intro h
        cases h
      · intro h
        exact absurd (hslashes tilde (List.mem_of_head? h)) (by decide)
    | cons c cs =>
      rw [hkept] at hsplit
      rw [← hsplit]
      rfl
  rw [← hbare]
  change (if (home.rdropWhile (· == slash)).head? = some tilde then _ else _) = _ ↔ _
  split <;> simp_all

theorem expandHome_eq_unknownHome {homes : Homes} {p : FilePath} :
    p.expandHome homes = .error .unknownHome ↔ p.Homeless homes := by
  have hunknown (user : Text.CodePoints) : (homes.directory? user).bind ofHome? = none ↔
      ∀ home, homes.directory? user = some home → home.head? = some tilde := by
    rw [Option.bind_eq_none_iff]
    simp only [ofHome_eq_none]
  unfold expandHome Homeless
  split
  · rename_i c user rest habsolute hsegments
    by_cases hc : c = tilde
    · subst hc
      simp only [habsolute, hsegments, if_true, true_and, List.cons.injEq]
      cases hname : Text.fileNameFault? user with
      | some reason => simp [hname]
      | none =>
        cases hhome : (homes.directory? user).bind ofHome? with
        | none => simpa [hname] using (hunknown user).mp hhome
        | some base =>
          simp only [reduceCtorEq, false_iff]
          rintro ⟨_, _, ⟨rfl, -⟩, -, hall⟩
          rw [(hunknown _).mpr hall] at hhome
          cases hhome
    · simp [hsegments, hc]
  · rename_i hother
    refine iff_of_false (fun h => by cases h) ?_
    rintro ⟨habsolute, user, rest, hsegments, -⟩
    exact hother _ _ _ habsolute hsegments

theorem expandHome_ne_relative {homes : Homes} {p : FilePath} :
    p.expandHome homes ≠ .error .relative := by
  unfold expandHome
  split
  · split
    · split <;> exact fun h => by cases h
    · exact fun h => by cases h
  · exact fun h => by cases h

end FilePath

/-- The standard streams are no paths below a home. -/
theorem not_homeless_of_isStandardStream {homes : Homes} {ps : Text.CodePoints}
    (h : isStandardStream ps = true) : ¬ (FilePath.ofPoints ps).Homeless homes := by
  have hstreams : ∀ s ∈ standardStreams, ∀ first ∈ (FilePath.ofText s).segments,
      first.head? ≠ some FilePath.tilde := by
    decide +kernel
  obtain ⟨s, hs, hps⟩ := List.any_eq_true.mp h
  rw [← eq_of_beq hps]
  rintro ⟨-, user, rest, hsegments, -⟩
  refine hstreams s hs (FilePath.tilde :: user) ?_ rfl
  change _ ∈ (FilePath.ofPoints (Text.points s)).segments
  rw [hsegments]
  exact List.mem_cons_self

theorem normalDestination_eq_error {homes : Homes} {ps : Text.CodePoints} {f : DestinationFault} :
    normalDestination homes ps = .error f ↔ isStandardStream ps = false ∧
      ((FilePath.ofPoints ps).expandHome homes = .error f ∨ ∃ p,
        (FilePath.ofPoints ps).expandHome homes = .ok p ∧ p.isAbsolute = false ∧ f = .relative) := by
  unfold normalDestination
  split
  · simp [*]
  · rename_i file
    simp only [Bool.eq_false_iff.mpr file, true_and]
    cases (FilePath.ofPoints ps).expandHome homes with
    | error e => simp [Bind.bind, Except.bind]
    | ok p =>
      change (if p.isAbsolute then Except.ok p.points else .error DestinationFault.relative) = _ ↔ _
      cases habsolute : p.isAbsolute <;> simp [habsolute, @eq_comm _ f]

theorem normalDestination_eq_unknownHome {homes : Homes} {ps : Text.CodePoints} :
    normalDestination homes ps = .error .unknownHome ↔ (FilePath.ofPoints ps).Homeless homes := by
  rw [normalDestination_eq_error, ← FilePath.expandHome_eq_unknownHome]
  constructor
  · rintro ⟨-, h | ⟨p, -, -, h⟩⟩
    · exact h
    · cases h
  · intro h
    refine ⟨Bool.eq_false_iff.mpr fun hstream => ?_, .inl h⟩
    exact not_homeless_of_isStandardStream hstream (FilePath.expandHome_eq_unknownHome.mp h)

/-- The text that a value is for a check of text. -/
def Data.points? : Data → Option Text.CodePoints
  | .text s => some (Text.points s)
  | .wide ps => some ps
  | .bytes content => Check.textOfBytes? content
  | _ => none

namespace Check

variable {α : Type} {check : Data → Verdict α}

theorem field_eq_abandoned {m : Mapping} {name : String} {default : α} :
    field m name default check = .abandoned ↔
      ∃ d, m.get? name = some d ∧ check d = .abandoned := by
  unfold field
  cases m.get? name with
  | none => simp
  | some d => simp [Verdict.under_eq_abandoned]

theorem model_eq_abandoned {title : String} {check : Mapping → Verdict α} {d : Data} :
    model title check d = .abandoned ↔ ∃ m : Mapping, d.bare = .map m ∧ check m = .abandoned := by
  unfold model
  split
  · rename_i m hm
    simp [hm]
  · rename_i hno
    refine iff_of_false (Verdict.Single.refused (d := d) _).ne_abandoned ?_
    rintro ⟨m, hm, -⟩
    exact hno m hm

theorem items_eq_abandoned {start : Nat} {ds : List Data} :
    items check start ds = .abandoned ↔ ∃ d ∈ ds, check d = .abandoned := by
  induction ds generalizing start with
  | nil => simp [items]
  | cons d ds ih =>
    rw [items, Verdict.map_eq_abandoned, Verdict.both_eq_abandoned, Verdict.under_eq_abandoned, ih]
    simp

theorem text_eq_abandoned {use : Text.CodePoints → Verdict α} {d : Data} :
    text use d = .abandoned ↔ ∃ ps, d.points? = some ps ∧ use ps = .abandoned := by
  cases d with
  | text s => simp [text, Data.points?]
  | wide ps => simp [text, Data.points?]
  | bytes content =>
    cases h : textOfBytes? content with
    | none => simp [text, Data.points?, h, Verdict.refuse]
    | some ps => simp [text, Data.points?, h]
  | _ => simp [text, Data.points?, Verdict.refuse]

/-- What holds of a refusal and of all that the text is used for holds of the check. -/
theorem holds_of_text (P : Verdict α → Prop) (d : Data) (hrefuse : ∀ kind, P (.refuse kind d))
    {use : Text.CodePoints → Verdict α} (huse : ∀ ps, P (use ps)) : P (text use d) := by
  unfold text
  split
  · exact huse _
  · exact huse _
  · split
    · exact huse _
    · exact hrefuse _
  · exact hrefuse _

theorem single_choice (all : List α) (name : α → String) (d : Data) :
    (choice all name d).Single d := by
  unfold choice
  split
  · split
    · exact .valid _
    · exact .refused _
  · exact .refused _
  · exact .refused _

theorem single_optionalLevel (d : Data) : (optionalLevel d).Single d := by
  unfold optionalLevel
  split
  · exact .valid none
  · exact (single_choice _ _ _).map some

theorem single_boolWord (ps : Text.CodePoints) (d : Data) : (boolWord ps d).Single d := by
  unfold boolWord
  split
  · exact .valid true
  · split
    · exact .valid false
    · exact .refused _

theorem single_boolNumber (n : Int) (d : Data) : (boolNumber n d).Single d := by
  unfold boolNumber
  split
  · exact .valid false
  · split
    · exact .valid true
    · split
      · exact .refused _
      · exact .refused _

theorem single_bool (d : Data) : (bool d).Single d := by
  unfold bool
  split
  · exact .valid _
  · exact single_boolNumber _ _
  · split
    · split
      · exact single_boolNumber _ _
      · exact .refused _
    · exact .refused _
  · exact single_boolWord _ _
  · exact .refused _
  · split
    · exact single_boolWord _ _
    · exact .refused _
  · exact .refused _

theorem single_encoding (d : Data) : (encoding d).Single d := by
  refine holds_of_text (Verdict.Single d) d .refused fun ps => ?_
  dsimp only
  split
  · exact .refused _
  · split
    · exact .refused _
    · split
      · exact .valid _
      · exact .refused _

theorem destination_eq_abandoned {homes : Homes} {d : Data} :
    destination homes d = .abandoned ↔
      ∃ ps, d.points? = some ps ∧ (FilePath.ofPoints ps).Homeless homes := by
  unfold destination
  rw [text_eq_abandoned]
  refine exists_congr fun ps => and_congr_right fun _ => ?_
  rw [← normalDestination_eq_unknownHome]
  split <;> simp_all [Verdict.refuse]

end Check

variable {homes : Homes} {d : Data}

/-- The destination of the output is below a home that is not known. -/
def OutputSettings.Homeless (homes : Homes) (d : Data) : Prop :=
  ∃ m : Mapping, d.bare = .map m ∧ ∃ given, m.get? "destination" = some given ∧
    ∃ ps, given.points? = some ps ∧ (FilePath.ofPoints ps).Homeless homes

/-- That of some output is. -/
def LogSettings.Homeless (homes : Homes) (d : Data) : Prop :=
  ∃ m : Mapping, d.bare = .map m ∧ ∃ given, m.get? "outputs" = some given ∧
    ∃ outputs, given.listed? = some outputs ∧ ∃ o ∈ outputs, OutputSettings.Homeless homes o

theorem OutputSettings.check_eq_abandoned :
    OutputSettings.check homes d = .abandoned ↔ OutputSettings.Homeless homes d := by
  unfold OutputSettings.check OutputSettings.Homeless
  rw [Check.model_eq_abandoned]
  refine exists_congr fun m => and_congr_right fun _ => ?_
  rw [Verdict.map_eq_abandoned, Verdict.both_eq_abandoned, Verdict.both_eq_abandoned,
    Check.field_eq_abandoned, Check.field_eq_abandoned, Check.field_eq_abandoned]
  simp only [(Check.single_choice _ _ _).ne_abandoned, (Check.single_optionalLevel _).ne_abandoned,
    Check.destination_eq_abandoned, and_false, exists_false, false_or, or_false]

theorem LogSettings.checkOutputs_eq_abandoned :
    LogSettings.checkOutputs homes d = .abandoned ↔
      ∃ outputs, d.listed? = some outputs ∧ ∃ o ∈ outputs, OutputSettings.Homeless homes o := by
  unfold LogSettings.checkOutputs
  cases d.listed? <;>
    simp [Check.items_eq_abandoned, OutputSettings.check_eq_abandoned, Verdict.refuse]

theorem LogSettings.check_eq_abandoned :
    LogSettings.check homes d = .abandoned ↔ LogSettings.Homeless homes d := by
  unfold LogSettings.check LogSettings.Homeless
  rw [Check.model_eq_abandoned]
  refine exists_congr fun m => and_congr_right fun _ => ?_
  rw [Verdict.map_eq_abandoned, Verdict.both_eq_abandoned, Check.field_eq_abandoned,
    Check.field_eq_abandoned]
  simp only [Check.level, (Check.single_choice _ _ _).ne_abandoned,
    LogSettings.checkOutputs_eq_abandoned, and_false, exists_false, false_or]

theorem BuildOptions.check_ne_abandoned : BuildOptions.check d ≠ .abandoned := by
  unfold BuildOptions.check
  rw [ne_eq, Check.model_eq_abandoned]
  simp only [Verdict.map_eq_abandoned, Verdict.both_eq_abandoned, Check.field_eq_abandoned,
    (Check.single_encoding _).ne_abandoned, (Check.single_choice _ _ _).ne_abandoned,
    (Check.single_bool _).ne_abandoned, and_false, exists_false, or_self, not_false_eq_true]

namespace Load

variable {o : Overrides} {m : Mapping}

theorem unknownKeys_ne_abandoned : unknownKeys m ≠ .abandoned := by
  unfold unknownKeys
  dsimp only
  split <;> exact fun h => by cases h

theorem sectionOf_eq_abandoned {α : Type} {name : String} {default : α}
    {accept : Group → Option α} {check : Data → Verdict α} :
    sectionOf o m name default accept check = .abandoned ↔
      o.group? name accept = none ∧ ∃ d, m.get? name = some d ∧ check d = .abandoned := by
  have hfield : Check.field m name default check = .abandoned ↔
      ∃ d, m.get? name = some d ∧ check d = .abandoned := Check.field_eq_abandoned
  rw [← hfield]
  unfold sectionOf
  cases o.group? name accept <;> simp

/-- A group of logging that the caller gives has been checked before. -/
theorem verdict_eq_abandoned : verdict homes o m = .abandoned ↔
    o.group? "logging" Group.logging? = none ∧
      ∃ d, m.get? "logging" = some d ∧ LogSettings.Homeless homes d := by
  unfold verdict
  dsimp only
  rw [Verdict.map_eq_abandoned, Verdict.both_eq_abandoned, Verdict.both_eq_abandoned,
    sectionOf_eq_abandoned, sectionOf_eq_abandoned]
  simp only [BuildOptions.check_ne_abandoned, unknownKeys_ne_abandoned, and_false, exists_false,
    or_self, or_false, LogSettings.check_eq_abandoned]

end Load

end TypedTree
