import TypedTree.Settings.Destination

/-! # Destinations in normal form

A destination that has been brought to its normal form stays as it is: its path has no segment that
would be left out, and joining the segments and splitting them again changes nothing. -/

namespace TypedTree

namespace Text

theorem toNat_ofNat {n : Nat} (h : n.isValidChar) : (Char.ofNat n).toNat = n := by
  unfold Char.ofNat
  rw [dif_pos h]
  rfl

theorem ofPoints?_points (s : String) : ofPoints? (points s) = some s := by
  have hvalid : ∀ n ∈ points s, n.isValidChar := by
    intro n hn
    obtain ⟨c, -, rfl⟩ := List.mem_map.mp hn
    exact c.valid
  rw [ofPoints?, if_pos hvalid, points, List.map_map]
  simp only [Function.comp_def, Char.ofNat_toNat, List.map_id', String.ofList_toList]

theorem points_of_ofPoints? {ps : CodePoints} {s : String} (h : ofPoints? ps = some s) :
    points s = ps := by
  unfold ofPoints? at h
  split at h
  · rename_i hvalid
    cases h
    rw [points, String.toList_ofList, List.map_map]
    exact (List.map_congr_left fun n hn => toNat_ofNat (hvalid n hn)).trans (List.map_id ps)
  · cases h

theorem splitAt_ne_nil (separator : Nat) (ps : CodePoints) : splitAt separator ps ≠ [] := by
  cases ps with
  | nil => exact List.cons_ne_nil _ _
  | cons n rest =>
    unfold splitAt
    split
    · split <;> exact List.cons_ne_nil _ _
    · exact List.cons_ne_nil _ _

theorem splitAt_cons_same (separator : Nat) (ps : CodePoints) :
    splitAt separator (separator :: ps) = [] :: splitAt separator ps := by
  rw [splitAt]
  cases h : splitAt separator ps with
  | nil => exact absurd h (splitAt_ne_nil _ _)
  | cons part parts => exact if_pos rfl

theorem splitAt_append {separator : Nat} {part : CodePoints} (hpart : separator ∉ part)
    (ps : CodePoints) :
    splitAt separator (part ++ separator :: ps) = part :: splitAt separator ps := by
  induction part with
  | nil => exact splitAt_cons_same separator ps
  | cons n part ih =>
    rw [List.mem_cons, not_or] at hpart
    obtain ⟨hn, hpart⟩ := hpart
    rw [List.cons_append, splitAt, ih hpart]
    exact if_neg (Ne.symm hn)

theorem splitAt_part {separator : Nat} {part : CodePoints} (hpart : separator ∉ part) :
    splitAt separator part = [part] := by
  induction part with
  | nil => rfl
  | cons n part ih =>
    rw [List.mem_cons, not_or] at hpart
    obtain ⟨hn, hpart⟩ := hpart
    rw [splitAt, ih hpart]
    exact if_neg (Ne.symm hn)

/-- Parts that are joined are the parts of the whole. -/
theorem splitAt_intercalate {separator : Nat} {parts : List CodePoints} (hne : parts ≠ [])
    (hparts : ∀ part ∈ parts, separator ∉ part) :
    splitAt separator ([separator].intercalate parts) = parts := by
  induction parts with
  | nil => exact absurd rfl hne
  | cons part parts ih =>
    have hpart := hparts part List.mem_cons_self
    cases parts with
    | nil => rw [List.intercalate_singleton, splitAt_part hpart]
    | cons next parts =>
      have hlater := ih (List.cons_ne_nil _ _) fun p hp => hparts p (List.mem_cons_of_mem _ hp)
      rw [List.intercalate_cons_cons, List.append_assoc, List.singleton_append,
        splitAt_append hpart, hlater]

/-- No part holds the separator. -/
theorem not_mem_of_mem_splitAt {separator : Nat} {ps part : CodePoints}
    (h : part ∈ splitAt separator ps) : separator ∉ part := by
  induction ps generalizing part with
  | nil => exact List.mem_singleton.mp h ▸ List.not_mem_nil
  | cons n rest ih =>
    rw [splitAt] at h
    cases hrest : splitAt separator rest with
    | nil => exact absurd hrest (splitAt_ne_nil _ _)
    | cons first parts =>
      rw [hrest] at h ih
      dsimp only at h
      split at h
      · rcases List.mem_cons.mp h with rfl | h
        · exact List.not_mem_nil
        · exact ih h
      · rename_i hn
        rcases List.mem_cons.mp h with rfl | h
        · rw [List.mem_cons, not_or]
          exact ⟨Ne.symm hn, ih List.mem_cons_self⟩
        · exact ih (List.mem_cons_of_mem _ h)

end Text

namespace FilePath

/-- A segment that a path in normal form may have. -/
def PlainSegment (s : Text.CodePoints) : Prop := s ≠ [] ∧ s ≠ Text.points "." ∧ slash ∉ s

/-- An absolute path in normal form. -/
structure Settled (p : FilePath) : Prop where
  root : p.root = "/" ∨ p.root = "//"
  segments : ∀ s ∈ p.segments, PlainSegment s

theorem plainSegment_of_mem {ps s : Text.CodePoints} (h : s ∈ segmentsOf ps) : PlainSegment s := by
  obtain ⟨hmem, hplain⟩ := List.mem_filter.mp h
  rw [Bool.and_eq_true, Bool.not_eq_true', List.isEmpty_eq_false_iff, decide_eq_true_iff] at hplain
  exact ⟨hplain.1, hplain.2, Text.not_mem_of_mem_splitAt hmem⟩

theorem rootOf_eq (ps : Text.CodePoints) : rootOf ps = "" ∨ rootOf ps = "/" ∨ rootOf ps = "//" := by
  unfold rootOf
  split <;> simp

theorem segmentsOf_cons_slash (ps : Text.CodePoints) :
    segmentsOf (slash :: ps) = segmentsOf ps := by
  rw [segmentsOf, Text.splitAt_cons_same]
  rfl

theorem segmentsOf_intercalate {segments : List Text.CodePoints}
    (h : ∀ s ∈ segments, PlainSegment s) :
    segmentsOf ([slash].intercalate segments) = segments := by
  cases segments with
  | nil => rfl
  | cons s rest =>
    rw [segmentsOf, Text.splitAt_intercalate (List.cons_ne_nil _ _) fun s hs => (h s hs).2.2,
      List.filter_eq_self]
    intro s hs
    rw [Bool.and_eq_true, Bool.not_eq_true', List.isEmpty_eq_false_iff, decide_eq_true_iff]
    exact ⟨(h s hs).1, (h s hs).2.1⟩

theorem takeWhile_cons_slash (ps : Text.CodePoints) :
    (slash :: ps).takeWhile (· == slash) = slash :: ps.takeWhile (· == slash) := rfl

theorem takeWhile_intercalate {segments : List Text.CodePoints}
    (h : ∀ s ∈ segments, PlainSegment s) :
    ([slash].intercalate segments).takeWhile (· == slash) = [] := by
  cases segments with
  | nil => rfl
  | cons s rest =>
    obtain ⟨hne, -, hslash⟩ := h s List.mem_cons_self
    cases s with
    | nil => exact absurd rfl hne
    | cons n s =>
      have hn : (n == slash) = false :=
        beq_eq_false_iff_ne.mpr (List.ne_of_not_mem_cons hslash).symm
      cases rest with
      | nil => rw [List.intercalate_singleton, List.takeWhile_cons_of_neg (by simp [hn])]
      | cons next rest =>
        rw [List.intercalate_cons_cons, List.append_assoc, List.cons_append,
          List.takeWhile_cons_of_neg (by simp [hn])]

theorem Settled.points_eq {p : FilePath} (h : p.Settled) :
    p.points = Text.points p.root ++ [slash].intercalate p.segments := by
  have hroot : Text.points p.root ≠ [] := by
    rcases h.root with hr | hr <;> rw [hr] <;> decide
  unfold FilePath.points
  dsimp only
  rw [if_neg]
  simp [hroot]

/-- A path in normal form is read back from its text. -/
theorem Settled.ofPoints_points {p : FilePath} (h : p.Settled) : ofPoints p.points = p := by
  have hslashes := takeWhile_intercalate h.segments
  obtain ⟨root, segments⟩ := p
  rw [h.points_eq, ofPoints]
  rcases h.root with hr | hr <;> dsimp only at hr hslashes ⊢ <;> subst hr
  · have hpoints : Text.points "/" = [slash] := by decide
    rw [hpoints, List.singleton_append, segmentsOf_cons_slash, segmentsOf_intercalate h.segments,
      rootOf, takeWhile_cons_slash, hslashes]
    rfl
  · have hpoints : Text.points "//" = [slash, slash] := by decide
    rw [hpoints, List.cons_append, List.singleton_append, segmentsOf_cons_slash,
      segmentsOf_cons_slash, segmentsOf_intercalate h.segments, rootOf, takeWhile_cons_slash,
      takeWhile_cons_slash, hslashes]
    rfl

/-- The text of an absolute path begins with a slash. -/
theorem Settled.exists_points {p : FilePath} (h : p.Settled) :
    ∃ rest, p.points = slash :: rest := by
  rw [h.points_eq]
  rcases h.root with hr | hr <;> rw [hr] <;> exact ⟨_, rfl⟩

theorem ofHome_plain {home : Text.CodePoints} {p : FilePath} (h : ofHome? home = some p) :
    (p.root = "" ∨ p.root = "/" ∨ p.root = "//") ∧ ∀ s ∈ p.segments, PlainSegment s := by
  unfold ofHome? at h
  dsimp only at h
  split at h
  · cases h
  · split at h
    · cases h
      exact ⟨.inr (.inl rfl), fun s hs => by cases hs⟩
    · cases h
      exact ⟨rootOf_eq _, fun s hs => plainSegment_of_mem hs⟩

theorem expandHome_plain {homes : Homes} {given : Text.CodePoints} {p : FilePath}
    (h : (ofPoints given).expandHome homes = .ok p) :
    (p.root = "" ∨ p.root = "/" ∨ p.root = "//") ∧ ∀ s ∈ p.segments, PlainSegment s := by
  have hgiven : ∀ s ∈ (ofPoints given).segments, PlainSegment s := fun _ => plainSegment_of_mem
  have hroot : (ofPoints given).root = "" ∨ (ofPoints given).root = "/" ∨
      (ofPoints given).root = "//" := rootOf_eq given
  unfold expandHome at h
  split at h
  · rename_i c user rest _ hsegments
    split at h
    · split at h
      · cases h
      · cases h
      · rename_i base _ hbase
        cases h
        obtain ⟨home, -, hhome⟩ := Option.bind_eq_some_iff.mp hbase
        obtain ⟨hbaseRoot, hbaseSegments⟩ := ofHome_plain hhome
        refine ⟨hbaseRoot, fun t ht => ?_⟩
        rcases List.mem_append.mp ht with ht | ht
        · exact hbaseSegments t ht
        · exact hgiven t (hsegments ▸ List.mem_cons_of_mem _ ht)
    · cases h
      exact ⟨hroot, hgiven⟩
  · cases h
    exact ⟨hroot, hgiven⟩

theorem Settled.isAbsolute {p : FilePath} (h : p.Settled) : p.isAbsolute = true := by
  unfold FilePath.isAbsolute
  rcases h.root with hr | hr <;> rw [hr] <;> decide

theorem Settled.expandHome {p : FilePath} (h : p.Settled) (homes : Homes) :
    p.expandHome homes = .ok p := by
  unfold FilePath.expandHome
  rw [h.isAbsolute]

theorem Settled.not_standard {p : FilePath} (h : p.Settled) :
    isStandardStream p.points = false := by
  obtain ⟨rest, hpoints⟩ := h.exists_points
  rw [hpoints, isStandardStream, List.any_eq_false]
  intro name hname
  have hhead : (Text.points name).head? ≠ some slash := by
    have hall : ∀ name ∈ standardStreams, (Text.points name).head? ≠ some slash := by decide
    exact hall name hname
  intro hsame
  rw [eq_of_beq hsame] at hhead
  exact hhead rfl

/-- A path in normal form is accepted as it is. -/
theorem Settled.normalDestination {p : FilePath} (h : p.Settled) (homes : Homes) :
    normalDestination homes p.points = .ok p.points := by
  unfold TypedTree.normalDestination
  rw [h.not_standard, h.ofPoints_points, h.expandHome]
  exact if_pos h.isAbsolute

end FilePath

/-- The normal form of a destination is its own normal form, wherever the homes are by then. -/
theorem normalDestination_again {homes : Homes} {given t : Text.CodePoints}
    (h : normalDestination homes given = .ok t) (other : Homes) :
    normalDestination other t = .ok t := by
  by_cases hstandard : isStandardStream given = true
  · rw [normalDestination, if_pos hstandard] at h
    cases h
    rw [normalDestination, if_pos hstandard]
  · rw [normalDestination, if_neg hstandard] at h
    cases hp : (FilePath.ofPoints given).expandHome homes with
    | error f => rw [hp] at h; cases h
    | ok p =>
      rw [hp] at h
      -- Only its root can be missing from the normal form, and an absolute path has one.
      obtain ⟨hroot, hsegments⟩ := FilePath.expandHome_plain hp
      by_cases habsolute : p.isAbsolute = true
      · have hpoints : .ok p.points = (.ok t : Except DestinationFault Text.CodePoints) :=
          (if_pos habsolute).symm.trans h
        cases hpoints
        refine FilePath.Settled.normalDestination ⟨hroot.resolve_left fun hr => ?_, hsegments⟩ other
        rw [FilePath.isAbsolute, hr] at habsolute
        exact absurd habsolute (by decide)
      · have hfault : .error .relative = (.ok t : Except DestinationFault Text.CodePoints) :=
          (if_neg habsolute).symm.trans h
        cases hfault

end TypedTree
