import TypedTree.Proofs.Overlay

/-! # The leaves of a merge

A nested mapping is seen along paths of keys: at the end of a path there is nothing, a mapping or a
leaf. Merging keeps all leaves of the upper mapping, and a leaf of the lower one exactly where the
upper mapping has nothing at its path and no leaf on the way. Merging the same mapping once more
changes nothing. -/

namespace TypedTree

namespace Data

/-- The entries of a mapping, also of one that contains itself. -/
def entries? (d : Data) : Option Mapping :=
  match d.bare with
  | .map m => some m
  | _ => none

/-- The value under a key of a mapping. -/
def child? (d : Data) (k : Key) : Option Data := d.entries?.bind (·.lookup k)

/-- What is seen at the end of a path. -/
inductive View where
  | absent
  | mapping
  | leaf (v : Data)

/-- Follows a path of keys into nested mappings. -/
def view (d : Data) : List Key → View
  | [] => if d.entries?.isSome then .mapping else .leaf d
  | k :: path =>
    match d.child? k with
    | some e => e.view path
    | none => .absent

/-- Equal as mappings: the same is seen along every path, whatever the order of the entries. -/
def Alike (d e : Data) : Prop := ∀ path, d.view path = e.view path

/-- Nothing stands at the path, and no leaf on the way to it. -/
def LeavesOpen (d : Data) (path : List Key) : Prop :=
  d.view path = .absent ∧ ∀ start, start <+: path → start ≠ path → ∀ v, d.view start ≠ .leaf v

/-- In no mapping is a key there twice. -/
inductive WellKeyed : Data → Prop where
  | leaf {d : Data} (h : d.entries? = none) : WellKeyed d
  | mapping {d : Data} {m : Mapping} (h : d.entries? = some m) (distinct : m.Distinct)
      (values : ∀ e ∈ m, WellKeyed e.2) : WellKeyed d

variable {d e : Data} {m : Mapping} {k : Key} {path : List Key}

theorem entries?_eq_some : d.entries? = some m ↔ d.bare = .map m := by
  unfold entries?
  split
  · rename_i m' hm'
    rw [hm', Option.some.injEq, Data.map.injEq]
  · rename_i hno
    exact iff_of_false (Option.some_ne_none m).symm (hno m)

theorem child?_of_mapping (h : d.entries? = some m) (k : Key) : d.child? k = m.lookup k := by
  rw [child?, h, Option.bind_some]

theorem child?_of_leaf (h : d.entries? = none) (k : Key) : d.child? k = none := by
  rw [child?, h, Option.bind_none]

theorem view_nil_of_mapping (h : d.entries? = some m) : d.view [] = .mapping := by
  simp [view, h]

theorem view_nil_of_leaf (h : d.entries? = none) : d.view [] = .leaf d := by
  simp [view, h]

theorem view_cons_of_some (h : d.child? k = some e) : d.view (k :: path) = e.view path := by
  simp [view, h]

theorem view_cons_of_none (h : d.child? k = none) : d.view (k :: path) = .absent := by
  simp [view, h]

theorem not_leavesOpen_nil (d : Data) : ¬ d.LeavesOpen [] := by
  rintro ⟨h, -⟩
  cases hd : d.entries? with
  | some m => rw [view_nil_of_mapping hd] at h; cases h
  | none => rw [view_nil_of_leaf hd] at h; cases h

theorem not_leavesOpen_of_leaf (h : d.entries? = none) (path : List Key) :
    ¬ d.LeavesOpen path := by
  cases path with
  | nil => exact not_leavesOpen_nil d
  | cons k path =>
    rintro ⟨-, hway⟩
    exact hway [] List.nil_prefix (List.cons_ne_nil k path).symm d (view_nil_of_leaf h)

/-- A mapping leaves a path open if what it has under the first key leaves the rest open. -/
theorem leavesOpen_cons (h : d.entries? = some m) :
    d.LeavesOpen (k :: path) ↔ ∀ e, d.child? k = some e → e.LeavesOpen path := by
  constructor
  · rintro ⟨hend, hway⟩ e hk
    rw [view_cons_of_some hk] at hend
    refine ⟨hend, fun start hstart hne v hv => ?_⟩
    have hne : k :: start ≠ k :: path := fun hsame => hne (List.cons.inj hsame).2
    refine hway (k :: start) ((List.prefix_cons_inj k).mpr hstart) hne v ?_
    rw [view_cons_of_some hk, hv]
  · intro hbelow
    refine ⟨?_, fun start hstart hne v hv => ?_⟩
    · cases hk : d.child? k with
      | none => exact view_cons_of_none hk
      | some e => rw [view_cons_of_some hk]; exact (hbelow e hk).1
    · cases start with
      | nil => rw [view_nil_of_mapping h] at hv; cases hv
      | cons j start =>
        obtain ⟨rfl, hrest⟩ := List.cons_prefix_cons.mp hstart
        cases hk : d.child? j with
        | none => rw [view_cons_of_none hk] at hv; cases hv
        | some e =>
          rw [view_cons_of_some hk] at hv
          exact (hbelow e hk).2 start hrest (fun hsame => hne (congrArg (j :: ·) hsame)) v hv

theorem WellKeyed.distinct (h : d.WellKeyed) (hm : d.entries? = some m) : m.Distinct := by
  cases h with
  | leaf hleaf => rw [hleaf] at hm; cases hm
  | mapping hentries hdistinct => rw [hentries] at hm; cases hm; exact hdistinct

theorem WellKeyed.child (h : d.WellKeyed) (hk : d.child? k = some e) : e.WellKeyed := by
  cases h with
  | leaf hleaf => rw [child?_of_leaf hleaf] at hk; cases hk
  | mapping hentries _ hvalues =>
    rw [child?_of_mapping hentries] at hk
    obtain ⟨entry, hentry, -, rfl⟩ := exists_mem_of_lookup hk
    exact hvalues entry hentry

/-- A leaf replaces what was there. -/
theorem over_leaf (lower : Option Data) (h : d.entries? = none) : Data.over lower d = d := by
  rcases over_eq lower d with heq | ⟨⟨m, hm⟩, -⟩
  · exact heq
  · rw [entries?_eq_some.mpr hm] at h
    cases h

/-- So does a mapping, unless there was one. -/
theorem over_no_mapping {lower : Option Data} (h : lower.bind entries? = none) (d : Data) :
    Data.over lower d = d := by
  have hno : ∀ m, lower.map bare ≠ some (.map m) := by
    intro m hm
    obtain ⟨l, rfl, hl⟩ := Option.map_eq_some_iff.mp hm
    rw [Option.bind_some, entries?_eq_some.mpr hl] at h
    cases h
  cases d with
  | map entries =>
    unfold Data.over
    split
    · exact absurd ‹_› (hno _)
    · rfl
  | loop id content =>
    unfold Data.over
    split
    · rename_i hbase _
      exact absurd hbase (hno _)
    · rfl
  | _ => rfl

end Data

namespace Mapping

theorem overlay_eq_append {acc m : Mapping} (h : Distinct (acc ++ m)) : overlay acc m = acc ++ m := by
  induction m generalizing acc with
  | nil => exact (List.append_nil acc).symm
  | cons e rest ih =>
    obtain ⟨k, v⟩ := e
    have hnew : ∀ f ∈ acc, (f.1 == k) = false :=
      fun f hf => (List.pairwise_append.mp h).2.2 f hf (k, v) List.mem_cons_self
    have hnone : acc.lookup k = none := by
      rw [List.lookup_eq_none_iff]
      intro f hf
      rw [bne, BEq.comm, hnew f hf]
      rfl
    rw [overlay, hnone, Data.over_none, put_of_new hnew, ih (by rw [List.append_assoc]; exact h),
      List.append_assoc]
    rfl

theorem overlay_nil {m : Mapping} (h : m.Distinct) : overlay [] m = m := overlay_eq_append h

end Mapping

namespace Data

variable {m : Mapping} {path : List Key}

/-- A mapping is laid over the entries that were there, if there were any. -/
theorem entries?_over (lower : Option Data) {upper : Data} (h : upper.entries? = some m)
    (hm : m.Distinct) : (Data.over lower upper).entries? =
      some (Mapping.overlay ((lower.bind entries?).getD []) m) := by
  cases hlower : lower.bind entries? with
  | none => rw [over_no_mapping hlower, h, Option.getD_none, Mapping.overlay_nil hm]
  | some base =>
    obtain ⟨l, rfl, hl⟩ := Option.bind_eq_some_iff.mp hlower
    rw [over_map (entries?_eq_some.mp hl) (entries?_eq_some.mp h)]
    rfl

theorem child?_over (lower : Option Data) {upper : Data} (h : upper.entries? = some m)
    (hm : m.Distinct) (k : Key) : (Data.over lower upper).child? k =
      Mapping.laid (lower.bind (·.child? k)) (upper.child? k) := by
  have hbase : List.lookup k ((lower.bind entries?).getD []) = lower.bind (·.child? k) := by
    cases lower with
    | none => rfl
    | some l =>
      rw [Option.bind_some, Option.bind_some]
      cases hl : l.entries? with
      | none => rw [child?_of_leaf hl]; rfl
      | some base => rw [child?_of_mapping hl]; rfl
  rw [child?_of_mapping (entries?_over lower h hm), Mapping.lookup_overlay _ hm, hbase,
    child?_of_mapping h]

/-- A leaf of two values laid over each other is one of the upper value, or one of the lower value
that is left open. -/
theorem view_over_eq_leaf {lower upper : Data} (h : upper.WellKeyed) (v : Data) :
    (Data.over (some lower) upper).view path = .leaf v ↔
      upper.view path = .leaf v ∨ lower.view path = .leaf v ∧ upper.LeavesOpen path := by
  induction path generalizing lower upper with
  | nil =>
    have hopen := not_leavesOpen_nil upper
    cases hupper : upper.entries? with
    | none => simp only [over_leaf _ hupper, hopen, and_false, or_false]
    | some m =>
      have hover := entries?_over (some lower) hupper (h.distinct hupper)
      simp only [view_nil_of_mapping hover, view_nil_of_mapping hupper, hopen, and_false, or_false]
  | cons k path ih =>
    cases hupper : upper.entries? with
    | none =>
      have hopen := not_leavesOpen_of_leaf hupper (k :: path)
      simp only [over_leaf _ hupper, hopen, and_false, or_false]
    | some m =>
      have hover := child?_over (some lower) hupper (h.distinct hupper) k
      rw [Option.bind_some] at hover
      rw [leavesOpen_cons hupper]
      cases hk : upper.child? k with
      | none =>
        -- Nothing is laid over what the lower mapping has under this key.
        rw [hk, Mapping.laid] at hover
        have hsame : (Data.over (some lower) upper).view (k :: path) = lower.view (k :: path) := by
          rw [view, view, hover]
        simp [hsame, view_cons_of_none hk]
      | some e =>
        rw [hk] at hover
        have hopen : (∀ e', some e = some e' → e'.LeavesOpen path) ↔ e.LeavesOpen path := by simp
        rw [view_cons_of_some hk, hopen]
        cases hl : lower.child? k with
        | none =>
          rw [hl, Mapping.laid_none] at hover
          rw [view_cons_of_some hover, view_cons_of_none hl]
          simp
        | some l =>
          rw [hl] at hover
          rw [view_cons_of_some hover, view_cons_of_some hl]
          exact ih (h.child hk)

/-- To lay a value over what it was laid over before changes nothing. -/
theorem view_over_again (lower : Option Data) {upper : Data} (h : upper.WellKeyed) :
    (Data.over (some (Data.over lower upper)) upper).view path =
      (Data.over lower upper).view path := by
  induction path generalizing lower upper with
  | nil =>
    cases hupper : upper.entries? with
    | none => rw [over_leaf _ hupper, over_leaf _ hupper]
    | some m =>
      have hm := h.distinct hupper
      rw [view_nil_of_mapping (entries?_over _ hupper hm),
        view_nil_of_mapping (entries?_over _ hupper hm)]
  | cons k path ih =>
    cases hupper : upper.entries? with
    | none => rw [over_leaf _ hupper, over_leaf _ hupper]
    | some m =>
      have hm := h.distinct hupper
      have honce := child?_over lower hupper hm k
      have htwice := child?_over (some (Data.over lower upper)) hupper hm k
      rw [Option.bind_some, honce] at htwice
      cases hk : upper.child? k with
      | none =>
        rw [hk, Mapping.laid] at honce htwice
        rw [view, view, htwice, honce]
        rfl
      | some e =>
        rw [hk, Mapping.laid] at honce htwice
        rw [view_cons_of_some honce, view_cons_of_some htwice]
        exact ih _ (h.child hk)

end Data

namespace Mapping

theorem over_some_map (base top : Mapping) :
    Data.over (some (.map base)) (.map top) = .map (overlay base top) :=
  Data.over_map rfl rfl

/-- Merging keeps exactly the right leaves: all of the upper mapping, and those of the lower one
whose path the upper mapping leaves open. An empty mapping adds nothing on either side, and neither
does a mapping that was merged before. -/
theorem overlay_leaves (base : Mapping) {top : Mapping} (htop : (Data.map top).WellKeyed) :
    (∀ path v, (Data.map (overlay base top)).view path = .leaf v ↔
      (Data.map top).view path = .leaf v ∨
        (Data.map base).view path = .leaf v ∧ (Data.map top).LeavesOpen path) ∧
    overlay base [] = base ∧ overlay [] top = top ∧
    (Data.map (overlay top top)).Alike (.map top) ∧
    (Data.map (overlay (overlay base top) top)).Alike (.map (overlay base top)) := by
  refine ⟨fun path v => ?_, rfl, overlay_nil (htop.distinct rfl), fun path => ?_, fun path => ?_⟩
  · rw [← over_some_map]
    exact Data.view_over_eq_leaf htop v
  · rw [← over_some_map]
    exact Data.view_over_again none htop
  · rw [← over_some_map, ← over_some_map]
    exact Data.view_over_again _ htop

/-- Two leaves under a key, and one beside it. -/
def nested : Mapping :=
  [(.text "a", .map [(.text "x", .int 1), (.text "y", .int 2)]), (.text "b", .int 3)]

/-- Empty mappings in the place of two of these leaves. -/
def emptied : Mapping := [(.text "a", .map [(.text "y", .map [])]), (.text "b", .map [])]

/-- Only the leaf that the upper mapping leaves open is kept. -/
theorem leaves_emptied : (Data.map emptied).WellKeyed ∧
    (Data.map (overlay nested emptied)).view [.text "a", .text "x"] = .leaf (.int 1) ∧
    (∀ v, (Data.map (overlay nested emptied)).view [.text "a", .text "y"] ≠ .leaf v) ∧
    (∀ v, (Data.map (overlay nested emptied)).view [.text "b"] ≠ .leaf v) := by
  have hempty : (Data.map []).WellKeyed := .mapping rfl .nil (fun _ he => by cases he)
  have hinner : (Data.map [(.text "y", .map [])]).WellKeyed :=
    .mapping rfl (List.pairwise_singleton _ _) (List.forall_mem_singleton.mpr hempty)
  have hemptied : (Data.map emptied).WellKeyed := by
    refine .mapping rfl (List.pairwise_pair.mpr rfl) ?_
    exact List.forall_mem_cons.mpr ⟨hinner, List.forall_mem_singleton.mpr hempty⟩
  have hleaf := (overlay_leaves nested hemptied).1
  refine ⟨hemptied, (hleaf _ _).mpr (.inr ⟨rfl, ?_⟩), fun v hv => ?_, fun v hv => ?_⟩
  · rw [Data.leavesOpen_cons rfl]
    intro e he
    cases he
    rw [Data.leavesOpen_cons rfl]
    intro e he
    cases he
  · rcases (hleaf _ v).mp hv with hupper | ⟨-, hopen, -⟩
    · cases hupper
    · cases hopen
  · rcases (hleaf _ v).mp hv with hupper | ⟨-, hopen, -⟩
    · cases hupper
    · cases hopen

end Mapping

end TypedTree
