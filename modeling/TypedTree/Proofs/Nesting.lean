import TypedTree.Proofs.Overlay
import TypedTree.Settings.Load

/-! # Mappings that are merged without end

Merging goes down wherever both sides hold a mapping under a key. With two mappings that contain
themselves under the same key there is always one more level, so merging them never ends; it does
end if one of the two is not nested so deeply. -/

namespace TypedTree

namespace Mapping

/-- Both hold mappings under the same keys, `n` levels within each other. -/
inductive Meets : Nat → Mapping → Mapping → Prop
  | here (base top : Mapping) : Meets 0 base top
  | under {n : Nat} {base top lower upper : Mapping} {k : Key} {v w : Data} (given : (k, v) ∈ top)
      (found : base.lookup k = some w) (below : w.opened? = some lower)
      (above : v.opened? = some upper) (meets : Meets n lower upper) : Meets (n + 1) base top

variable {n : Nat} {base top : Mapping}

theorem meets_iff : base.meets n top = true ↔ base.Meets n top := by
  induction n generalizing base top with
  | zero => exact iff_of_true rfl (.here base top)
  | succ n ih =>
    rw [meets, List.any_eq_true]
    constructor
    · rintro ⟨⟨k, v⟩, given, h⟩
      dsimp only at h
      split at h
      · rename_i lower upper hlower habove
        obtain ⟨w, found, below⟩ := Option.bind_eq_some_iff.mp hlower
        exact .under given found below habove (ih.mp h)
      · cases h
    · intro h
      cases h with
      | @under _ _ _ lower upper k v w given found below above meets =>
        refine ⟨(k, v), given, ?_⟩
        have hlower : (base.lookup k).bind Data.opened? = some lower := by rw [found]; exact below
        dsimp only
        rw [hlower, above]
        exact ih.mpr meets

instance : Decidable (base.Meets n top) := decidable_of_iff _ meets_iff

/-- No mapping stands within more than `n` others. -/
def Shallow : Nat → Mapping → Prop
  | 0, m => ∀ e ∈ m, e.2.opened? = none
  | n + 1, m => ∀ e ∈ m, ∀ inner, e.2.opened? = some inner → Shallow n inner

theorem Shallow.not_meets (h : top.Shallow n) : ¬ base.Meets (n + 1) top := by
  induction n generalizing base top with
  | zero =>
    intro hmeets
    cases hmeets with
    | under given _ _ above _ => cases (h _ given).symm.trans above
  | succ n ih =>
    intro hmeets
    cases hmeets with
    | under given _ _ above meets => exact ih (h _ given _ above) meets

theorem Meets.of_le {m : Nat} (h : base.Meets n top) (hm : m ≤ n) : base.Meets m top := by
  induction h generalizing m with
  | here base top =>
    rw [Nat.le_zero.mp hm]
    exact .here base top
  | under given found below above _ ih =>
    cases m with
    | zero => exact .here _ _
    | succ m => exact .under given found below above (ih (Nat.le_of_succ_le_succ hm))

end Mapping

namespace Data

/-- A mapping that stands within itself under a key. -/
structure Endless (k : Key) (d : Data) : Prop where
  exists_loop : ∃ id m inner, d = .loop id (.map m) ∧ m.lookup k = some (.loop id inner)

theorem lookup_rewoundEntries (id : Nat) (whole : Data) (k : Key) (m : Mapping) :
    (rewoundEntries id whole m).lookup k = (m.lookup k).map (rewound id whole) := by
  induction m with
  | nil => rfl
  | cons e rest ih =>
    obtain ⟨l, v⟩ := e
    rw [rewoundEntries, List.lookup_cons, List.lookup_cons, ih]
    cases k == l <;> rfl

/-- What is found in it under the key is the mapping itself. -/
theorem Endless.opened {k : Key} {d : Data} (h : d.Endless k) :
    ∃ m : Mapping, d.opened? = some m ∧ m.lookup k = some d := by
  obtain ⟨id, m, inner, rfl, hinner⟩ := h.exists_loop
  refine ⟨rewoundEntries id (.map m) m, rfl, ?_⟩
  rw [lookup_rewoundEntries, hinner, Option.map_some, rewound, if_pos rfl]

end Data

namespace Mapping

/-- Two mappings that hold, under the same key, mappings which stand within themselves meet however
deep one looks. -/
theorem meets_of_endless {base top : Mapping} {k l : Key} {v w : Data} (hw : w.Endless l)
    (hv : v.Endless l) (below : base.lookup k = some w) (above : top.lookup k = some v) (n : Nat) :
    base.Meets n top := by
  induction n generalizing base top k with
  | zero => exact .here base top
  | succ n ih =>
    obtain ⟨lower, hlower, hagain⟩ := hw.opened
    obtain ⟨upper, hupper, hagain'⟩ := hv.opened
    obtain ⟨e, he, hsame, rfl⟩ := exists_mem_of_lookup above
    have hfound : base.lookup e.1 = some w := (lookup_congr hsame base).symm.trans below
    exact .under he hfound hlower hupper (ih hagain hagain')

/-- A section that stands within itself, as it does in `logging: &a {x: *a}`. -/
example : let m : Mapping := [(.text "logging", .loop 0 (.map [(.text "x", .loop 0 .null)]))]
    m.meets Mapping.mergeLimit m = true := by
  decide +kernel

end Mapping

namespace Load

variable {base top m : Mapping} {f : LoadFault}

theorem merge_eq_ok :
    merge base top = .ok m ↔ ¬ base.Meets Mapping.mergeLimit top ∧ Mapping.overlay base top = m := by
  unfold merge
  rw [← Mapping.meets_iff]
  split
  · rename_i h
    simp [h]
  · rename_i h
    simp [h]

theorem merge_eq_error :
    merge base top = .error f ↔ base.Meets Mapping.mergeLimit top ∧ f = .tooNested := by
  unfold merge
  rw [← Mapping.meets_iff]
  split
  · rename_i h
    simp [h, eq_comm]
  · rename_i h
    simp [h]

/-- Mappings can be merged where one of them is not nested deeply. -/
theorem merge_of_shallow {n : Nat} (h : top.Shallow n) (hn : n < Mapping.mergeLimit) :
    merge base top = .ok (Mapping.overlay base top) := by
  have hapart : ¬ base.Meets Mapping.mergeLimit top := fun hmeets => h.not_meets (hmeets.of_le hn)
  exact merge_eq_ok.mpr ⟨hapart, rfl⟩

/-- They cannot where both hold mappings that contain themselves. -/
theorem merge_of_endless {k l : Key} {v w : Data} (hw : w.Endless l) (hv : v.Endless l)
    (below : base.lookup k = some w) (above : top.lookup k = some v) :
    merge base top = .error .tooNested :=
  merge_eq_error.mpr ⟨Mapping.meets_of_endless hw hv below above Mapping.mergeLimit, rfl⟩

end Load

end TypedTree
