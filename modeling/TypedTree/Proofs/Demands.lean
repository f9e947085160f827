import TypedTree.Proofs.Abandoned

/-! # What is demanded of a setting

Each setting has to be a value of some kind: a choice from a list, yes or no, a text that names an
encoding or a destination. For each demand it is said which values do not meet it and what is said of
them then; the checks refuse exactly these. -/

namespace TypedTree

/-- What a text has to name. -/
inductive Purpose where
  | encoding
  | destination

/-- What is demanded of a value. -/
inductive Demand where
  | group (title : String)
  | list
  | choice (names : List String)
  | choiceOrNull (names : List String)
  | truth
  | text (purpose : Purpose)
  /-- That there be no such value. -/
  | absence

/-- The whole number that a number is, if it fits into a machine word. -/
def Data.machineWord? : Data → Option Int
  | int n => if n.natAbs < twoTo 63 || n = -(twoTo 63 : Nat) then some n else none
  | float x => x.toInt?.filter fun n => n.natAbs < twoTo 63
  | _ => none

namespace Demand

/-- Why a demand is not met. -/
inductive Refuses (homes : Homes) : Demand → Data → IssueKind → Prop
  | group {title : String} {d : Data} (other : ∀ m, d.bare ≠ .map m) :
      Refuses homes (.group title) d (.notModel title)
  | list {d : Data} (other : d.listed? = none) : Refuses homes .list d .notList
  | absence {d : Data} : Refuses homes .absence d .unknownKey
  | wideChoice {names : List String} {ps : Text.CodePoints} :
      Refuses homes (.choice names) (.wide ps) .notUnicode
  | choice {names : List String} {d : Data} (noWide : ∀ ps, d ≠ .wide ps)
      (other : ∀ name ∈ names, d ≠ .text name) : Refuses homes (.choice names) d (.notOneOf names)
  | choiceOrNull {names : List String} {d : Data} {kind : IssueKind} (given : d ≠ .null)
      (refused : Refuses homes (.choice names) d kind) : Refuses homes (.choiceOrNull names) d kind
  | notText {purpose : Purpose} {d : Data} (other : d.isText = false)
      (noBytes : ∀ content, d ≠ .bytes content) : Refuses homes (.text purpose) d .notText
  | notUnicode {purpose : Purpose} {content : Text.Bytes}
      (broken : Check.textOfBytes? content = none) :
      Refuses homes (.text purpose) (.bytes content) .notUnicode
  | surrogates {d : Data} {ps : Text.CodePoints} (text : d.points? = some ps)
      (wide : Text.ofPoints? ps = none) :
      Refuses homes (.text .encoding) d (.rejected (Text.points (Check.surrogatesMessage ps)))
  | nul {d : Data} {ps : Text.CodePoints} {s : String} (text : d.points? = some ps)
      (spelled : Text.ofPoints? ps = some s) (nul : s.contains '\x00' = true) :
      Refuses homes (.text .encoding) d (.rejected (Text.points "embedded null character"))
  | unknownEncoding {d : Data} {ps : Text.CodePoints} {s : String} (text : d.points? = some ps)
      (spelled : Text.ofPoints? ps = some s) (plain : s.contains '\x00' = false)
      (unknown : Text.findEncoding s = none) :
      Refuses homes (.text .encoding) d (.rejected (Text.points ("Unknown encoding: " ++ s)))
  | relative {d : Data} {ps : Text.CodePoints} {p : FilePath} (text : d.points? = some ps)
      (file : isStandardStream ps = false)
      (expanded : (FilePath.ofPoints ps).expandHome homes = .ok p)
      (relative : p.isAbsolute = false) : Refuses homes (.text .destination) d
        (.rejected (Text.points "File destination must be absolute path: " ++ ps))
  | badUser {d : Data} {ps : Text.CodePoints} {reason : Text.NameFault} (text : d.points? = some ps)
      (file : isStandardStream ps = false)
      (expanded : (FilePath.ofPoints ps).expandHome homes = .error (.badUser reason)) :
      Refuses homes (.text .destination) d (.rejected (Text.points reason.message))
  | unclearWord {d : Data} {ps : Text.CodePoints} (text : d.points? = some ps)
      (noWide : ∀ ps, d ≠ .wide ps) (noYes : Check.lowerWord ps ∉ Check.trueWords)
      (noNo : Check.lowerWord ps ∉ Check.falseWords) : Refuses homes .truth d .unclearBool
  | unclearBytes {content : Text.Bytes} (broken : Check.textOfBytes? content = none) :
      Refuses homes .truth (.bytes content) .unclearBool
  | unclearNumber {d : Data} {n : Int} (number : d.machineWord? = some n) (noNo : n ≠ 0)
      (noYes : n ≠ 1) : Refuses homes .truth d .unclearBool
  | wideTruth {ps : Text.CodePoints} : Refuses homes .truth (.wide ps) .notUnicode
  | noTruth {d : Data} (noText : d.isText = false) (noBytes : ∀ content, d ≠ .bytes content)
      (noBool : ∀ b, d ≠ .bool b) (noNumber : d.machineWord? = none) :
      Refuses homes .truth d .notBool

/-- The check of what is demanded. -/
def verdict (homes : Homes) : Demand → Data → Verdict Unit
  | group title, d => Check.model title (fun _ => .valid ()) d
  | list, d =>
    match d.listed? with
    | some _ => .valid ()
    | none => .refuse .notList d
  | choice names, d => (Check.choice names id d).map fun _ => ()
  | choiceOrNull names, d =>
    match d with
    | .null => .valid ()
    | d => (Check.choice names id d).map fun _ => ()
  | truth, d => (Check.bool d).map fun _ => ()
  | text .encoding, d => (Check.encoding d).map fun _ => ()
  | text .destination, d => (Check.destination homes d).map fun _ => ()
  | absence, d => .refuse .unknownKey d

variable {homes : Homes} {d : Data} {kind : IssueKind}

theorem find_names_eq_none {names : List String} {s : String} :
    names.find? (fun a => decide (id a = s)) = none ↔ s ∉ names := by
  rw [List.find?_eq_none]
  constructor
  · exact fun h hs => h s hs (decide_eq_true rfl)
  · exact fun h a ha hsame => h (of_decide_eq_true hsame ▸ ha)

theorem refuses_of_choice {names : List String} (h : Check.choice names id d = .refuse kind d) :
    (choice names).Refuses homes d kind := by
  unfold Check.choice at h
  rw [List.map_id] at h
  split at h
  · rename_i s
    split at h
    · cases h
    · rename_i hnone
      cases h
      refine .choice (by simp) fun name hname hsame => find_names_eq_none.mp hnone ?_
      cases hsame
      exact hname
  · cases h
    exact .wideChoice
  · rename_i noText noWide
    cases h
    exact .choice noWide fun name _ => noText name

theorem refuses_of_text {purpose : Purpose} {α : Type} {use : Text.CodePoints → Verdict α}
    (h : Check.text use d = .refuse kind d)
    (huse : ∀ ps, d.points? = some ps → use ps = .refuse kind d →
      (text purpose).Refuses homes d kind) : (text purpose).Refuses homes d kind := by
  unfold Check.text at h
  split at h
  · exact huse _ rfl h
  · exact huse _ rfl h
  · rename_i content
    split at h
    · rename_i ps hps
      exact huse ps hps h
    · rename_i broken
      cases h
      exact .notUnicode broken
  · rename_i noText noWide noBytes
    cases h
    refine .notText ?_ noBytes
    cases d <;> simp_all [Data.isText]

theorem refuses_of_encoding (h : Check.encoding d = .refuse kind d) :
    (text .encoding).Refuses homes d kind := by
  refine refuses_of_text h fun ps text h => ?_
  dsimp only at h
  split at h
  · rename_i wide
    cases h
    exact .surrogates text wide
  · rename_i s spelled
    split at h
    · rename_i nul
      cases h
      exact .nul text spelled nul
    · rename_i plain
      split at h
      · cases h
      · rename_i unknown
        cases h
        exact .unknownEncoding text spelled (Bool.eq_false_iff.mpr plain) unknown

theorem refuses_of_destination (h : Check.destination homes d = .refuse kind d) :
    (text .destination).Refuses homes d kind := by
  refine refuses_of_text h fun ps text h => ?_
  split at h
  · cases h
  · rename_i hnormal
    cases h
    obtain ⟨file, hexpand | ⟨p, expanded, relative, -⟩⟩ := normalDestination_eq_error.mp hnormal
    · exact absurd hexpand FilePath.expandHome_ne_relative
    · exact .relative text file expanded relative
  · rename_i reason hnormal
    cases h
    obtain ⟨file, expanded | ⟨p, -, -, hreason⟩⟩ := normalDestination_eq_error.mp hnormal
    · exact .badUser text file expanded
    · cases hreason
  · cases h

theorem refuses_of_boolNumber {n : Int} (hd : d.isText = false)
    (hbytes : ∀ content, d ≠ .bytes content) (hbool : ∀ b, d ≠ .bool b)
    (hword : d.machineWord? = if n.natAbs < twoTo 63 || n = -(twoTo 63 : Nat) then some n else none)
    (h : Check.boolNumber n d = .refuse kind d) : truth.Refuses homes d kind := by
  unfold Check.boolNumber at h
  split at h
  · cases h
  · rename_i noNo
    split at h
    · cases h
    · rename_i noYes
      split at h
      · rename_i fits
        cases h
        exact .unclearNumber (hword.trans (if_pos fits)) noNo noYes
      · rename_i large
        cases h
        exact .noTruth hd hbytes hbool (hword.trans (if_neg large))

theorem refuses_of_boolWord {ps : Text.CodePoints} (text : d.points? = some ps)
    (noWide : ∀ ps, d ≠ .wide ps) (h : Check.boolWord ps d = .refuse kind d) :
    truth.Refuses homes d kind := by
  unfold Check.boolWord at h
  split at h
  · cases h
  · rename_i noYes
    split at h
    · cases h
    · rename_i noNo
      cases h
      exact .unclearWord text noWide noYes noNo

theorem refuses_of_bool (h : Check.bool d = .refuse kind d) : truth.Refuses homes d kind := by
  cases d with
  | bool b => cases h
  | int n => exact refuses_of_boolNumber rfl (by simp) (by simp) rfl h
  | float x =>
    unfold Check.bool at h
    dsimp only at h
    split at h
    · rename_i n hn
      split at h
      · rename_i small
        have hword : (Data.float x).machineWord? = some n := by
          simp [Data.machineWord?, hn, Option.filter, small]
        refine refuses_of_boolNumber rfl (by simp) (by simp) ?_ h
        rw [hword, if_pos (by simp [small])]
      · rename_i large
        cases h
        refine .noTruth rfl (by simp) (by simp) ?_
        simp [Data.machineWord?, hn, Option.filter, large]
    · rename_i hn
      cases h
      refine .noTruth rfl (by simp) (by simp) ?_
      simp [Data.machineWord?, hn]
  | text s => exact refuses_of_boolWord rfl (by simp) h
  | wide ps =>
    cases h
    exact .wideTruth
  | bytes content =>
    unfold Check.bool at h
    dsimp only at h
    split at h
    · rename_i ps hps
      exact refuses_of_boolWord hps (by simp) h
    · rename_i broken
      cases h
      exact .unclearBytes broken
  | _ =>
    cases h
    exact .noTruth rfl (by simp) (by simp) rfl

theorem map_eq_refuse {α : Type} {v : Verdict α} :
    (v.map fun _ => ()) = .refuse kind d ↔ v = .refuse kind d := by
  cases v <;> simp [Verdict.map, Verdict.refuse]

theorem refuses_of_verdict {demand : Demand} (h : demand.verdict homes d = .refuse kind d) :
    demand.Refuses homes d kind := by
  cases demand with
  | group title =>
    dsimp only [verdict, Check.model] at h
    split at h
    · cases h
    · rename_i other
      cases h
      exact .group other
  | list =>
    dsimp only [verdict] at h
    split at h
    · cases h
    · rename_i other
      cases h
      exact .list other
  | choice names => exact refuses_of_choice (map_eq_refuse.mp h)
  | choiceOrNull names =>
    dsimp only [verdict] at h
    split at h
    · cases h
    · rename_i given
      exact .choiceOrNull given (refuses_of_choice (map_eq_refuse.mp h))
  | truth => exact refuses_of_bool (map_eq_refuse.mp h)
  | text purpose =>
    cases purpose with
    | encoding => exact refuses_of_encoding (map_eq_refuse.mp h)
    | destination => exact refuses_of_destination (map_eq_refuse.mp h)
  | absence =>
    cases h
    exact .absence

theorem text_of_points {α : Type} {use : Text.CodePoints → Verdict α} {ps : Text.CodePoints}
    (h : d.points? = some ps) : Check.text use d = use ps := by
  cases d with
  | bytes content =>
    unfold Check.text
    change Check.textOfBytes? content = some ps at h
    dsimp only
    rw [h]
  | text s => cases h; rfl
  | wide qs => cases h; rfl
  | _ => cases h

theorem choice_of_refuses {names : List String} (h : (choice names).Refuses homes d kind) :
    Check.choice names id d = .refuse kind d := by
  cases h with
  | wideChoice => rfl
  | choice noWide other =>
    unfold Check.choice
    rw [List.map_id]
    split
    · rename_i s
      rw [find_names_eq_none.mpr fun hs => other s hs rfl]
    · exact absurd rfl (noWide _)
    · rfl

theorem boolNumber_of_small {n : Int} (noNo : n ≠ 0) (noYes : n ≠ 1)
    (small : (n.natAbs < twoTo 63 || n = -(twoTo 63 : Nat)) = true) :
    Check.boolNumber n d = .refuse .unclearBool d := by
  unfold Check.boolNumber
  rw [if_neg noNo, if_neg noYes, if_pos small]

theorem boolNumber_of_large {n : Int}
    (large : ¬ (n.natAbs < twoTo 63 || n = -(twoTo 63 : Nat)) = true) :
    Check.boolNumber n d = .refuse .notBool d := by
  have hsmall (b : Int) (hb : b.natAbs < twoTo 63) : n ≠ b := by
    rintro rfl
    exact large (by simp [hb])
  unfold Check.boolNumber
  rw [if_neg (hsmall 0 (by decide)), if_neg (hsmall 1 (by decide)), if_neg large]

theorem bool_of_refuses (h : truth.Refuses homes d kind) : Check.bool d = .refuse kind d := by
  cases h with
  | unclearWord text noWide noYes noNo =>
    have hword (ps : Text.CodePoints) (noYes : Check.lowerWord ps ∉ Check.trueWords)
        (noNo : Check.lowerWord ps ∉ Check.falseWords) :
        Check.boolWord ps d = .refuse .unclearBool d := by
      rw [Check.boolWord, if_neg noYes, if_neg noNo]
    cases d with
    | wide ps => exact absurd rfl (noWide ps)
    | text s =>
      cases text
      exact hword _ noYes noNo
    | bytes content =>
      have hcontent : Check.textOfBytes? content = some _ := text
      simp only [Check.bool, hcontent]
      exact hword _ noYes noNo
    | _ => cases text
  | unclearBytes broken => simp [Check.bool, broken]
  | unclearNumber number noNo noYes =>
    cases d with
    | int n =>
      unfold Data.machineWord? at number
      dsimp only at number
      split at number
      · rename_i small
        cases number
        exact boolNumber_of_small noNo noYes small
      · cases number
    | float x =>
      obtain ⟨hx, small⟩ := Option.filter_eq_some_iff.mp number
      have hsmall := of_decide_eq_true small
      simp only [Check.bool, hx, if_pos hsmall]
      exact boolNumber_of_small noNo noYes (by simp [hsmall])
    | _ => cases number
  | wideTruth => rfl
  | noTruth noText noBytes noBool noNumber =>
    cases d with
    | bool b => exact absurd rfl (noBool b)
    | bytes content => exact absurd rfl (noBytes content)
    | text s => cases noText
    | wide ps => cases noText
    | int n =>
      unfold Data.machineWord? at noNumber
      dsimp only at noNumber
      split at noNumber
      · cases noNumber
      · rename_i large
        exact boolNumber_of_large large
    | float x =>
      unfold Check.bool
      dsimp only
      split
      · rename_i n hn
        have large : ¬ n.natAbs < twoTo 63 := by
          simpa [Data.machineWord?, hn, Option.filter] using noNumber
        rw [if_neg large]
      · rfl
    | _ => rfl

/-- A value that is no text is refused whatever a text has to name. -/
theorem verdict_of_text {purpose : Purpose}
    (h : ∀ {α : Type} (use : Text.CodePoints → Verdict α), Check.text use d = .refuse kind d) :
    (text purpose).verdict homes d = .refuse kind d := by
  cases purpose with
  | encoding => exact map_eq_refuse.mpr (h _)
  | destination => exact map_eq_refuse.mpr (h _)

theorem text_of_refuses {purpose : Purpose} (h : (text purpose).Refuses homes d kind) :
    (text purpose).verdict homes d = .refuse kind d := by
  cases h with
  | notText other noBytes =>
    refine verdict_of_text fun use => ?_
    cases d <;> simp_all [Check.text, Data.isText]
  | notUnicode broken =>
    refine verdict_of_text fun use => ?_
    simp only [Check.text, broken]
  | surrogates text wide =>
    refine map_eq_refuse.mpr ?_
    rw [Check.encoding, text_of_points text, wide]
  | nul text spelled nul =>
    refine map_eq_refuse.mpr ?_
    rw [Check.encoding, text_of_points text, spelled]
    dsimp only
    rw [nul]
    rfl
  | unknownEncoding text spelled plain unknown =>
    refine map_eq_refuse.mpr ?_
    rw [Check.encoding, text_of_points text, spelled]
    dsimp only
    rw [plain, unknown]
    rfl
  | relative text file expanded relative =>
    refine map_eq_refuse.mpr ?_
    have hnormal := normalDestination_eq_error.mpr ⟨file, .inr ⟨_, expanded, relative, rfl⟩⟩
    rw [Check.destination, text_of_points text, hnormal]
  | badUser text file expanded =>
    refine map_eq_refuse.mpr ?_
    have hnormal := normalDestination_eq_error.mpr ⟨file, .inl expanded⟩
    rw [Check.destination, text_of_points text, hnormal]

theorem Refuses.verdict_eq {demand : Demand} (h : demand.Refuses homes d kind) :
    demand.verdict homes d = .refuse kind d := by
  cases demand with
  | group title =>
    cases h with
    | group other =>
      dsimp only [verdict, Check.model]
      split
      · rename_i m hm
        exact absurd hm (other m)
      · rfl
  | list =>
    cases h with
    | list other =>
      dsimp only [verdict]
      rw [other]
  | choice names => exact map_eq_refuse.mpr (choice_of_refuses h)
  | choiceOrNull names =>
    cases h with
    | choiceOrNull given refused =>
      have h := map_eq_refuse.mpr (choice_of_refuses refused)
      cases d with
      | null => exact absurd rfl given
      | _ => exact h
  | truth => exact map_eq_refuse.mpr (bool_of_refuses h)
  | text purpose => exact text_of_refuses h
  | absence =>
    cases h
    rfl

/-- A check refuses a value exactly if the value does not meet what is demanded. -/
theorem verdict_eq_refuse {demand : Demand} :
    demand.verdict homes d = .refuse kind d ↔ demand.Refuses homes d kind :=
  ⟨refuses_of_verdict, Refuses.verdict_eq⟩

/-- There is only one thing that is said of a value. -/
theorem Refuses.unique {demand : Demand} {other : IssueKind} (h : demand.Refuses homes d kind)
    (h' : demand.Refuses homes d other) : kind = other := by
  have hsame := h.verdict_eq.symm.trans h'.verdict_eq
  cases hsame
  rfl

end Demand

end TypedTree
