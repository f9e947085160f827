import TypedTree.Data.Merge
import TypedTree.Proofs.Keys
import TypedTree.Proofs.Verdicts

/-! # What an overlay holds

Under each key a mapping that is laid over another has the upper value, or the lower one where the
upper mapping has none; two mappings under one key are merged in turn. For a check that refuses
mappings it makes no difference whether they were merged. -/

namespace TypedTree

namespace Key

theorem beq_text_iff {k : Key} {s : String} : (k == text s) = true ↔ k = text s := by
  constructor
  · intro h
    change same k (text s) = true at h
    cases k with
    | text a => exact congrArg text (eq_of_beq h)
    | float x =>
      simp only [same, ratio?] at h
      split at h <;> simp_all
    | _ => simp [same, ratio?] at h
  · rintro rfl
    exact BEq.rfl

theorem text_beq (k : Key) (s : String) : (text s == k) = (k == text s) := BEq.comm

theorem text_beq_iff {k : Key} {s : String} : (text s == k) = true ↔ k = text s := by
  rw [text_beq, beq_text_iff]

end Key

namespace Mapping

/-- No key is there twice. -/
def Distinct (m : Mapping) : Prop := m.Pairwise fun e f => (e.1 == f.1) = false

theorem lookup_cons_eq (k : Key) (v : Data) (m : Mapping) (l : Key) :
    List.lookup l ((k, v) :: m) = if k == l then some v else m.lookup l := by
  rw [List.lookup_cons, BEq.comm]
  cases k == l <;> rfl

/-- The same key finds the same value. -/
theorem lookup_congr {k l : Key} (h : (k == l) = true) (m : Mapping) : m.lookup k = m.lookup l := by
  induction m with
  | nil => rfl
  | cons e rest ih =>
    obtain ⟨j, w⟩ := e
    rw [lookup_cons_eq, lookup_cons_eq, BEq.congr_right h, ih]

theorem lookup_put (k : Key) (v : Data) (m : Mapping) (l : Key) :
    (put k v m).lookup l = if k == l then some v else m.lookup l := by
  induction m with
  | nil => exact lookup_cons_eq k v [] l
  | cons e rest ih =>
    obtain ⟨j, w⟩ := e
    unfold put
    by_cases hj : (j == k) = true
    · rw [if_pos hj, lookup_cons_eq, lookup_cons_eq, BEq.congr_left hj]
      by_cases hk : (k == l) = true
      · rw [if_pos hk, if_pos hk]
      · rw [if_neg hk, if_neg hk, if_neg hk]
    · rw [if_neg hj, lookup_cons_eq, lookup_cons_eq, ih]
      by_cases hk : (k == l) = true
      · have hl : ¬ (j == l) = true := fun h => hj (BEq.trans h (BEq.symm hk))
        rw [if_neg hl, if_pos hk, if_pos hk]
      · rw [if_neg hk, if_neg hk]

theorem get?_put (k : Key) (v : Data) (m : Mapping) (name : String) :
    (put k v m).get? name = if k == .text name then some v else m.get? name :=
  lookup_put k v m (.text name)

theorem mem_put {k : Key} {v : Data} {m : Mapping} {e : Key × Data} (h : e ∈ put k v m) :
    (∃ f ∈ m, e.1 = f.1) ∨ e.1 = k := by
  induction m with
  | nil => exact .inr (List.mem_singleton.mp h ▸ rfl)
  | cons f rest ih =>
    obtain ⟨l, w⟩ := f
    unfold put at h
    split at h
    · rcases List.mem_cons.mp h with rfl | h
      · exact .inl ⟨(l, w), List.mem_cons_self, rfl⟩
      · exact .inl ⟨e, List.mem_cons_of_mem _ h, rfl⟩
    · rcases List.mem_cons.mp h with rfl | h
      · exact .inl ⟨(l, w), List.mem_cons_self, rfl⟩
      · rcases ih h with ⟨f, hf, he⟩ | he
        · exact .inl ⟨f, List.mem_cons_of_mem _ hf, he⟩
        · exact .inr he

/-- The property of keys is one that equal keys share. -/
theorem forall_put {P : Key → Prop} (hP : ∀ k l : Key, (l == k) = true → (P l ↔ P k)) (k : Key)
    (v : Data) (m : Mapping) : (∀ e ∈ put k v m, P e.1) ↔ P k ∧ ∀ e ∈ m, P e.1 := by
  induction m with
  | nil => simp [put]
  | cons e rest ih =>
    obtain ⟨l, w⟩ := e
    unfold put
    by_cases hl : (l == k) = true
    · rw [if_pos hl, List.forall_mem_cons, List.forall_mem_cons]
      exact ⟨fun h => ⟨(hP k l hl).mp h.1, h⟩, fun h => h.2⟩
    · rw [if_neg hl, List.forall_mem_cons, List.forall_mem_cons, ih]
      exact and_left_comm

theorem distinct_put {m : Mapping} (h : m.Distinct) (k : Key) (v : Data) :
    (put k v m).Distinct := by
  induction m with
  | nil => exact List.pairwise_singleton _ _
  | cons e rest ih =>
    obtain ⟨l, w⟩ := e
    obtain ⟨hfirst, hrest⟩ := List.pairwise_cons.mp h
    unfold put
    by_cases hl : (l == k) = true
    · rw [if_pos hl]
      exact List.pairwise_cons.mpr ⟨hfirst, hrest⟩
    · rw [if_neg hl]
      refine List.pairwise_cons.mpr ⟨fun f hf => ?_, ih hrest⟩
      rcases mem_put hf with ⟨g, hg, hsame⟩ | hsame
      · exact hsame ▸ hfirst g hg
      · exact hsame ▸ Bool.eq_false_iff.mpr hl

theorem put_of_new {m : Mapping} {k : Key} (h : ∀ e ∈ m, (e.1 == k) = false) (v : Data) :
    put k v m = m ++ [(k, v)] := by
  induction m with
  | nil => rfl
  | cons e rest ih =>
    have he : ¬ (e.1 == k) = true := Bool.eq_false_iff.mp (h e List.mem_cons_self)
    rw [put, if_neg he, ih fun f hf => h f (List.mem_cons_of_mem _ hf), List.cons_append]

theorem foldl_put_of_distinct {acc m : Mapping} (h : Distinct (acc ++ m)) :
    m.foldl (fun m e => put e.1 e.2 m) acc = acc ++ m := by
  induction m generalizing acc with
  | nil => exact (List.append_nil acc).symm
  | cons e rest ih =>
    have hnew : ∀ f ∈ acc, (f.1 == e.1) = false :=
      fun f hf => (List.pairwise_append.mp h).2.2 f hf e List.mem_cons_self
    rw [List.foldl_cons, put_of_new hnew, ih (by rw [List.append_assoc]; exact h),
      List.append_assoc]
    rfl

/-- A mapping is made from its own entries. -/
theorem ofList_of_distinct {m : Mapping} (h : m.Distinct) : ofList m = m :=
  foldl_put_of_distinct h

/-- What stands under a key once an upper value may be laid over a lower one. -/
def laid (lower : Option Data) : Option Data → Option Data
  | none => lower
  | some d => some (Data.over lower d)

theorem lookup_overlay (base : Mapping) {top : Mapping} (htop : top.Distinct) (l : Key) :
    (overlay base top).lookup l = laid (base.lookup l) (top.lookup l) := by
  induction top generalizing base with
  | nil => rfl
  | cons e rest ih =>
    obtain ⟨k, v⟩ := e
    obtain ⟨hfirst, hrest⟩ := List.pairwise_cons.mp htop
    rw [overlay, ih _ hrest, lookup_put, lookup_cons_eq]
    by_cases hk : (k == l) = true
    · -- The later entries have other keys, so that none of them replaces this one.
      have hnone : rest.lookup l = none := by
        rw [List.lookup_eq_none_iff]
        intro f hf
        rw [bne, ← BEq.congr_left hk, hfirst f hf]
        rfl
      have hbase : base.lookup k = base.lookup l := lookup_congr hk base
      rw [if_pos hk, if_pos hk, hnone, hbase]
      rfl
    · rw [if_neg hk, if_neg hk]

theorem get?_overlay (base : Mapping) {top : Mapping} (htop : top.Distinct) (name : String) :
    (overlay base top).get? name = laid (base.get? name) (top.get? name) :=
  lookup_overlay base htop (.text name)

theorem distinct_overlay {base : Mapping} (h : base.Distinct) (top : Mapping) :
    (overlay base top).Distinct := by
  induction top generalizing base with
  | nil => exact h
  | cons e rest ih => exact ih (distinct_put h _ _)

/-- All keys of both mappings are keys of the overlay, and it has no others. -/
theorem forall_overlay {P : Key → Prop} (hP : ∀ k l : Key, (l == k) = true → (P l ↔ P k))
    (base top : Mapping) :
    (∀ e ∈ overlay base top, P e.1) ↔ (∀ e ∈ base, P e.1) ∧ ∀ e ∈ top, P e.1 := by
  induction top generalizing base with
  | nil => simp [overlay]
  | cons e rest ih =>
    rw [overlay, ih, forall_put hP, List.forall_mem_cons]
    exact ⟨fun ⟨⟨hk, hbase⟩, hrest⟩ => ⟨hbase, hk, hrest⟩,
      fun ⟨hbase, hk, hrest⟩ => ⟨⟨hk, hbase⟩, hrest⟩⟩

end Mapping

namespace Data

/-- The data is a mapping in which no key is there twice. -/
def IsMapping (d : Data) : Prop := ∃ m : Mapping, d.bare = .map m ∧ m.Distinct

/-- The value under a name in a mapping, also in one that contains itself. -/
def at? (d : Data) (name : String) : Option Data :=
  match d.bare with
  | .map entries => Mapping.get? entries name
  | _ => none

theorem at?_of_bare {d : Data} {m : Mapping} (h : d.bare = .map m) (name : String) :
    d.at? name = m.get? name := by
  rw [at?, h]

theorem over_none (d : Data) : Data.over none d = d := by
  cases d <;> rfl

/-- One mapping over another is the overlay of their entries. -/
theorem over_map {lower : Data} {base m : Mapping} (hlower : lower.bare = .map base) :
    ∀ {d : Data}, d.bare = .map m → Data.over (some lower) d = .map (Mapping.overlay base m)
  | .map entries, h => by
    cases h
    simp only [Data.over, Option.map_some, hlower]
  | .loop id d, h => by
    have hd : d.bare = .map m := h
    simp only [Data.over, Option.map_some, hlower, over_map hlower hd]

theorem eq_of_bare_map {d : Data} {m : Mapping} (h : d.bare = .map m) :
    d = .map m ∨ ∃ id content, d = .loop id content := by
  cases d with
  | loop id content => exact .inr ⟨id, content, rfl⟩
  | _ => exact .inl h

/-- Anything else replaces what was there. -/
theorem over_eq (lower : Option Data) : ∀ d : Data, Data.over lower d = d ∨
    (∃ m, d.bare = .map m) ∧ ∃ m, Data.over lower d = .map m
  | .map entries => by
    refine .inr ⟨⟨entries, rfl⟩, ?_⟩
    unfold Data.over
    split <;> exact ⟨_, rfl⟩
  | .loop id d => by
    unfold Data.over
    -- Only if its content was merged does a loop become a mapping.
    split
    · rename_i hmerged
      rcases over_eq lower d with hd | ⟨hd, -⟩
      · exact .inr ⟨⟨_, by rw [bare, ← hd, hmerged]; rfl⟩, _, rfl⟩
      · exact .inr ⟨hd, _, rfl⟩
    · exact .inl rfl
  | .null | .bool _ | .int _ | .float _ | .text _ | .wide _ | .bytes _ | .atom _ | .list _
  | .tuple _ | .set _ => .inl rfl

end Data

namespace Mapping

/-- What the mapping has under a name, if anything, is a mapping. -/
def Holds (m : Mapping) (name : String) : Prop := ∀ d, m.get? name = some d → d.IsMapping

/-- What stands under a name in a mapping that stands under another. -/
def within? (m : Mapping) (outer inner : String) : Option Data :=
  (m.get? outer).bind fun d => d.at? inner

theorem within?_of_none {m : Mapping} {outer : String} (h : m.get? outer = none) (inner : String) :
    m.within? outer inner = none := by
  rw [within?, h]
  rfl

theorem within?_of_some {m entries : Mapping} {outer : String} {d : Data}
    (h : m.get? outer = some d) (hd : d.bare = .map entries) (inner : String) :
    m.within? outer inner = entries.get? inner := by
  rw [within?, h, Option.bind_some, Data.at?_of_bare hd]

theorem laid_none (upper : Option Data) : laid none upper = upper := by
  cases upper with
  | none => rfl
  | some d => exact congrArg some (Data.over_none d)

variable {base top : Mapping} {outer : String}

/-- Two mappings under one name are laid over each other key by key. -/
theorem within?_overlay (htop : top.Distinct) (hbase : base.Holds outer) (hholds : top.Holds outer)
    (inner : String) :
    (overlay base top).within? outer inner =
      laid (base.within? outer inner) (top.within? outer inner) := by
  have hget := get?_overlay base htop outer
  cases hupper : top.get? outer with
  | none =>
    rw [hupper] at hget
    rw [within?_of_none hupper, within?, hget]
    rfl
  | some d =>
    obtain ⟨entries, hd, hdistinct⟩ := hholds d hupper
    rw [within?_of_some hupper hd]
    cases hlower : base.get? outer with
    | none =>
      rw [hupper, hlower, laid_none] at hget
      rw [within?_of_none hlower, within?_of_some hget hd, laid_none]
    | some lower =>
      obtain ⟨below, hbelow, -⟩ := hbase lower hlower
      rw [hupper, hlower] at hget
      rw [within?_of_some hget (congrArg Data.bare (Data.over_map hbelow hd)),
        within?_of_some hlower hbelow]
      exact get?_overlay below hdistinct inner

theorem holds_overlay (htop : top.Distinct) (hbase : base.Holds outer) (hholds : top.Holds outer) :
    (overlay base top).Holds outer := by
  intro merged hmerged
  rw [get?_overlay base htop] at hmerged
  cases hupper : top.get? outer with
  | none =>
    rw [hupper] at hmerged
    exact hbase merged hmerged
  | some d =>
    obtain ⟨entries, hd, hdistinct⟩ := hholds d hupper
    rw [hupper] at hmerged
    cases hlower : base.get? outer with
    | none =>
      rw [hlower, laid_none] at hmerged
      cases hmerged
      exact ⟨entries, hd, hdistinct⟩
    | some lower =>
      obtain ⟨below, hbelow, hbelowDistinct⟩ := hbase lower hlower
      rw [hlower] at hmerged
      cases hmerged
      exact ⟨_, congrArg Data.bare (Data.over_map hbelow hd), distinct_overlay hbelowDistinct _⟩

end Mapping

namespace Check

variable {α : Type} {check : Data → Verdict α}

/-- No mapping passes the check. -/
def RefusesMappings (check : Data → Verdict α) : Prop :=
  ∀ (d : Data) (m : Mapping) (a : α), d.bare = .map m → check d ≠ .valid a

theorem RefusesMappings.over (h : RefusesMappings check) (lower : Option Data) (d : Data) (a : α) :
    check (Data.over lower d) = .valid a ↔ check d = .valid a := by
  rcases Data.over_eq lower d with heq | ⟨⟨m, hm⟩, m', hm'⟩
  · rw [heq]
  · exact ⟨fun hvalid => absurd hvalid (h _ m' a (congrArg Data.bare hm')),
      fun hvalid => absurd hvalid (h d m a hm)⟩

/-- For such a check the upper of two values stands for both, if there is one. -/
theorem RefusesMappings.given_laid (h : RefusesMappings check) (default a : α)
    (lower upper : Option Data) :
    given default check (Mapping.laid lower upper) = .valid a ↔
      given default check (upper.or lower) = .valid a := by
  cases upper with
  | none => exact Iff.rfl
  | some d => exact h.over lower d a

/-- So the uppermost of four values stands for all of them, in whatever order they were laid over
each other. -/
theorem RefusesMappings.given_layers (h : RefusesMappings check) (default a : α)
    (first second third fourth : Option Data) :
    given default check
        (Mapping.laid (Mapping.laid fourth third) (Mapping.laid second first)) = .valid a ↔
      given default check (((first.or second).or third).or fourth) = .valid a := by
  rw [h.given_laid]
  cases first with
  | some d => exact h.over second d a
  | none =>
    cases second with
    | some d => exact Iff.rfl
    | none => exact h.given_laid default a fourth third

theorem refusesMappings_of (hmap : ∀ m a, check (.map m) ≠ .valid a)
    (hloop : ∀ id content a, check (.loop id content) ≠ .valid a) : RefusesMappings check := by
  intro d m a hd
  rcases Data.eq_of_bare_map hd with rfl | ⟨id, content, rfl⟩
  · exact hmap m a
  · exact hloop id content a

theorem refusesMappings_text (use : Text.CodePoints → Verdict α) : RefusesMappings (text use) :=
  refusesMappings_of (fun _ _ => Verdict.refuse_ne_valid) fun _ _ _ => Verdict.refuse_ne_valid

theorem refusesMappings_choice (all : List α) (name : α → String) :
    RefusesMappings (choice all name) :=
  refusesMappings_of (fun _ _ => Verdict.refuse_ne_valid) fun _ _ _ => Verdict.refuse_ne_valid

theorem refusesMappings_bool : RefusesMappings bool :=
  refusesMappings_of (fun _ _ => Verdict.refuse_ne_valid) fun _ _ _ => Verdict.refuse_ne_valid

theorem refusesMappings_outputs (homes : Homes) :
    RefusesMappings (LogSettings.checkOutputs homes) := by
  intro d m a hd h
  have hlisted : d.listed? = none := by rw [Data.listed?, hd]
  rw [LogSettings.checkOutputs, hlisted] at h
  exact Verdict.refuse_ne_valid h

end Check

end TypedTree
