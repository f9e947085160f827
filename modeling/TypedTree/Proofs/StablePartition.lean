import Mathlib.Logic.ExistsUnique
import TypedTree.Proofs.Partition

/-! # Collecting is a stable partition

A child falls in the bucket of its field name, in that of the unlabelled children, or in none. The
pass over a row of siblings keeps the buckets grouped: one bucket for each name that occurs, in the
order of first occurrence, with exactly the children that fall in it, from left to right. -/

namespace TypedTree

theorem nodup_eraseDups (names : List String) : names.eraseDups.Nodup := by
  cases names with
  | nil => simp
  | cons name rest =>
    rw [List.eraseDups_cons, List.nodup_cons]
    refine ⟨?_, nodup_eraseDups _⟩
    simp [List.mem_eraseDups]
termination_by names.length
decreasing_by
  have := List.length_filter_le (fun other : String => !other == name) rest
  simp only [List.length_cons]
  omega

/-- A name at the end only counts if it is new. -/
theorem eraseDups_concat (names : List String) (name : String) :
    (names ++ [name]).eraseDups =
      if name ∈ names then names.eraseDups else names.eraseDups ++ [name] := by
  rw [List.eraseDups_append]
  by_cases h : name ∈ names
  · simp only [List.removeAll, if_pos h]
    rw [List.filter_eq_nil_iff.mpr (by simpa using h)]
    simp
  · simp only [List.removeAll, if_neg h]
    rw [List.filter_eq_self.mpr (by simpa using h)]
    rfl

namespace Tree

variable {keepExtras : Bool}

/-- The child belongs in a bucket: by its field name, unless it is an extra node that is not to be
kept, or else for want of one. -/
def FallsIn (keepExtras : Bool) (t : Tree) (name : String) : Prop :=
  (∃ field, t.label = some field ∧ FieldName.toAttr field = name ∧
      (t.info.extra = false ∨ keepExtras = true)) ∨
    t.label = none ∧ name = FieldName.unlabelled ∧ t.info.named = true ∧ t.info.extra = false

theorem bucket_eq_some_iff {t : Tree} {name : String} :
    t.bucket keepExtras = some name ↔ t.FallsIn keepExtras name := by
  unfold bucket Buckets.key FallsIn
  cases t.label with
  | none =>
    simp only [Option.map_none, Bool.and_eq_true, Bool.not_eq_true', Option.ite_none_right_eq_some,
      Option.some.injEq, reduceCtorEq, false_and, exists_false, false_or, true_and]
    exact ⟨fun ⟨h, hname⟩ => ⟨hname.symm, h⟩, fun ⟨hname, h⟩ => ⟨h, hname.symm⟩⟩
  | some field => simp [and_comm]

instance (t : Tree) (name : String) : Decidable (t.FallsIn keepExtras name) :=
  decidable_of_iff _ bucket_eq_some_iff

/-- The child belongs in some bucket. -/
def Kept (keepExtras : Bool) (t : Tree) : Prop := ∃ name, t.FallsIn keepExtras name

theorem isSome_bucket_iff {t : Tree} : (t.bucket keepExtras).isSome ↔ t.Kept keepExtras := by
  simp only [Option.isSome_iff_exists, bucket_eq_some_iff, Kept]

instance (t : Tree) : Decidable (t.Kept keepExtras) := decidable_of_iff _ isSome_bucket_iff

theorem FallsIn.unique {t : Tree} {name other : String} (h : t.FallsIn keepExtras name)
    (ho : t.FallsIn keepExtras other) : name = other :=
  Option.some.inj ((bucket_eq_some_iff.mpr h).symm.trans (bucket_eq_some_iff.mpr ho))

end Tree

namespace Buckets

variable {keepExtras : Bool}

/-- The names of the buckets that the nodes of a row fall in, in the order of first occurrence. -/
def namesOf (keepExtras : Bool) (ts : List Tree) : List String :=
  (ts.filterMap (Tree.bucket keepExtras)).eraseDups

/-- A row of nodes sorted by bucket. -/
def grouped (keepExtras : Bool) (ts : List Tree) : Buckets :=
  (namesOf keepExtras ts).map fun name => (name, ts.filter fun t => t.FallsIn keepExtras name)

theorem nodup_namesOf (ts : List Tree) : (namesOf keepExtras ts).Nodup := nodup_eraseDups _

theorem mem_namesOf {ts : List Tree} {name : String} :
    name ∈ namesOf keepExtras ts ↔ ∃ t ∈ ts, t.FallsIn keepExtras name := by
  rw [namesOf, List.mem_eraseDups, List.mem_filterMap]
  simp only [Tree.bucket_eq_some_iff]

theorem namesOf_concat {ts : List Tree} {t : Tree} {name : String}
    (h : t.bucket keepExtras = some name) :
    namesOf keepExtras (ts ++ [t]) =
      if name ∈ namesOf keepExtras ts then namesOf keepExtras ts
      else namesOf keepExtras ts ++ [name] := by
  simp only [namesOf, List.filterMap_append, List.filterMap_cons, h, List.filterMap_nil,
    eraseDups_concat, List.mem_eraseDups]

/-- Adding to a row of buckets with different names touches one of them, or opens a new one. -/
theorem add_map (f : String → List Tree) (name : String) (t : Tree) {names : List String}
    (hnodup : names.Nodup) :
    add name t (names.map fun n => (n, f n)) =
      if name ∈ names then names.map fun n => (n, if n = name then f n ++ [t] else f n)
      else names.map (fun n => (n, f n)) ++ [(name, [t])] := by
  induction names with
  | nil => rfl
  | cons n rest ih =>
    obtain ⟨hn, hrest⟩ := List.nodup_cons.mp hnodup
    by_cases heq : n = name
    · subst heq
      have hsame : rest.map (fun m => (m, f m)) =
          rest.map fun m => (m, if m = n then f m ++ [t] else f m) := by
        apply List.map_congr_left
        intro m hm
        rw [if_neg]
        rintro rfl
        exact hn hm
      simp [add, hsame]
    · simp only [List.map_cons, add, if_neg heq, ih hrest, List.mem_cons, Ne.symm heq, false_or]
      split <;> rfl

/-- One more node keeps the buckets grouped. -/
theorem put_grouped (ts : List Tree) (t : Tree) :
    put keepExtras (grouped keepExtras ts) t = grouped keepExtras (ts ++ [t]) := by
  cases h : t.bucket keepExtras with
  | none =>
    have hno : ∀ name, ¬ t.FallsIn keepExtras name := by
      intro name hname
      rw [← Tree.bucket_eq_some_iff, h] at hname
      cases hname
    simp [put, h, grouped, namesOf, hno]
  | some name =>
    have hfalls : ∀ n, t.FallsIn keepExtras n ↔ n = name := by
      intro n
      rw [← Tree.bucket_eq_some_iff, h]
      exact ⟨fun heq => (Option.some.inj heq).symm, fun heq => heq ▸ rfl⟩
    have hfilter : ∀ n, (ts ++ [t]).filter (fun u => u.FallsIn keepExtras n) =
        if n = name then ts.filter (fun u => u.FallsIn keepExtras n) ++ [t]
        else ts.filter fun u => u.FallsIn keepExtras n := by
      intro n
      by_cases hn : n = name <;> simp [hfalls, hn]
    have hput : put keepExtras (grouped keepExtras ts) t = add name t (grouped keepExtras ts) := by
      simp only [put, h]
    rw [hput, grouped, add_map _ _ _ (nodup_namesOf ts), grouped, namesOf_concat h]
    simp only [hfilter]
    by_cases hnew : name ∈ namesOf keepExtras ts
    · rw [if_pos hnew, if_pos hnew]
    · -- No earlier node falls in the new bucket.
      have hnone : ts.filter (fun u => u.FallsIn keepExtras name) = [] := by
        rw [List.filter_eq_nil_iff]
        intro u hu hname
        exact hnew (mem_namesOf.mpr ⟨u, hu, by simpa using hname⟩)
      rw [if_neg hnew, if_neg hnew, List.map_append]
      congr 1
      · apply List.map_congr_left
        intro n hn
        rw [if_neg]
        rintro rfl
        exact hnew hn
      · simp [hnone]

/-- Going through a row keeps the buckets grouped. -/
theorem foldl_put_grouped (done ts : List Tree) :
    ts.foldl (put keepExtras) (grouped keepExtras done) = grouped keepExtras (done ++ ts) := by
  induction ts generalizing done with
  | nil => simp
  | cons t ts ih => rw [List.foldl_cons, put_grouped, ih, List.append_assoc, List.singleton_append]

theorem buckets_eq_grouped (t : Tree) : t.buckets keepExtras = grouped keepExtras t.children :=
  foldl_put_grouped [] t.children

theorem ne_nil_of_mem_grouped {ts : List Tree} {entry : String × List Tree}
    (h : entry ∈ grouped keepExtras ts) : entry.2 ≠ [] := by
  obtain ⟨name, hname, rfl⟩ := List.mem_map.mp h
  obtain ⟨t, ht, hfalls⟩ := mem_namesOf.mp hname
  exact List.ne_nil_of_mem (List.mem_filter.mpr ⟨ht, by simpa using hfalls⟩)

/-- Sorting under different names loses nothing that falls under one of them, and copies nothing. -/
theorem flatMap_filter_perm (ts : List Tree) {names : List String} (hnodup : names.Nodup) :
    (names.flatMap fun name => ts.filter fun t => t.FallsIn keepExtras name).Perm
      (ts.filter fun t => ∃ name ∈ names, t.FallsIn keepExtras name) := by
  induction names with
  | nil => simp
  | cons name rest ih =>
    obtain ⟨hname, hrest⟩ := List.nodup_cons.mp hnodup
    -- The union splits into the nodes of the first name and those of the others.
    have hsplit := List.filter_append_perm (fun t => t.FallsIn keepExtras name)
      (ts.filter fun t => ∃ n ∈ name :: rest, t.FallsIn keepExtras n)
    rw [List.flatMap_cons]
    refine ((ih hrest).append_left _).trans (List.Perm.trans (List.Perm.of_eq ?_) hsplit)
    rw [List.filter_filter, List.filter_filter]
    congr 1
    · apply List.filter_congr
      intro t _
      by_cases h : t.FallsIn keepExtras name <;> simp [h]
    · apply List.filter_congr
      intro t _
      by_cases h : t.FallsIn keepExtras name
      · have hno : ∀ n ∈ rest, ¬ t.FallsIn keepExtras n := by
          intro n hn hfalls
          exact hname (h.unique hfalls ▸ hn)
        simpa [h] using hno
      · simp [h]

theorem flatMap_grouped_perm (ts : List Tree) :
    ((grouped keepExtras ts).flatMap Prod.snd).Perm (ts.filter fun t => t.Kept keepExtras) := by
  rw [grouped, List.flatMap_map]
  refine (flatMap_filter_perm ts (nodup_namesOf ts)).trans (List.Perm.of_eq ?_)
  apply List.filter_congr
  intro t ht
  have hiff : (∃ name ∈ namesOf keepExtras ts, t.FallsIn keepExtras name) ↔ t.Kept keepExtras :=
    ⟨fun ⟨name, _, h⟩ => ⟨name, h⟩, fun ⟨name, h⟩ => ⟨name, mem_namesOf.mpr ⟨t, ht, h⟩, h⟩⟩
  exact decide_eq_decide.mpr hiff

/-- Sorting the children of a node from its first child on groups them by bucket: the names are
those that occur, in the order of first occurrence, and under each are the children that fall in it,
from left to right. Every kept child is in one bucket, and no other is in any. The cursor takes one
step for each child and ends on the last. -/
theorem collect_partitions (keepExtras : Bool) (c : Cursor) (hne : c.focus.children ≠ []) :
    let children := c.focus.children
    let start := c.firstChild.2
    let (buckets, stop) := collect keepExtras start
    buckets.map Prod.fst = namesOf keepExtras children ∧ (buckets.map Prod.fst).Nodup ∧
      (∀ entry ∈ buckets, entry.2 = children.filter (fun t => t.FallsIn keepExtras entry.1) ∧
        entry.2 ≠ []) ∧
      (∀ name, buckets.get name = children.filter fun t => t.FallsIn keepExtras name) ∧
      (∀ t ∈ children, t.Kept keepExtras →
        ∃! name, name ∈ buckets.map Prod.fst ∧ t.FallsIn keepExtras name) ∧
      (buckets.flatMap Prod.snd).Perm (children.filter fun t => t.Kept keepExtras) ∧
      stop = { focus := children.getLast hne, trail := ⟨c.focus, []⟩ :: c.trail
               calls := { start.calls with
                 nextSibling := start.calls.nextSibling + children.length } } := by
  obtain ⟨focus, trail, calls⟩ := c
  obtain ⟨info, label, children⟩ := focus
  cases children with
  | nil => exact absurd rfl hne
  | cons t ts =>
    have hrow := collectInto_row keepExtras t (.node info label (t :: ts)) ts trail
      { calls with firstChild := calls.firstChild + 1 } []
    have hgrouped : (t :: ts).foldl (put keepExtras) [] = grouped keepExtras (t :: ts) :=
      buckets_eq_grouped (.node info label (t :: ts))
    have hget := @get_foldl_put keepExtras [] (t :: ts)
    rw [hgrouped] at hrow hget
    have hnames : (grouped keepExtras (t :: ts)).map Prod.fst = namesOf keepExtras (t :: ts) := by
      simp [grouped, Function.comp_def]
    simp only [Tree.children, Cursor.firstChild, collect, hrow, hnames]
    refine ⟨trivial, nodup_namesOf _, fun entry hentry => ⟨?_, ne_nil_of_mem_grouped hentry⟩,
      fun name => ?_, fun u hu hkept => ?_, flatMap_grouped_perm _, rfl⟩
    · obtain ⟨name, -, rfl⟩ := List.mem_map.mp hentry
      rfl
    · rw [hget]
      simp only [Tree.bucket_eq_some_iff]
      rfl
    · obtain ⟨name, hfalls⟩ := hkept
      exact ⟨name, ⟨mem_namesOf.mpr ⟨u, hu, hfalls⟩, hfalls⟩, fun other h => h.2.unique hfalls⟩

end Buckets

namespace Tree

/-- A node without children of its own. -/
def bare (kind : String) (named extra : Bool) (label : Option String) : Tree :=
  .node ⟨0, kind, named, extra, 0, 0, ⟨0, 0⟩, ⟨0, 0⟩⟩ label []

/-- A node whose children meet in two buckets: one under both spellings of a reserved word, and one
for want of a field name and under the name that stands for that. -/
def meeting : Tree :=
  .node ⟨0, "call", true, false, 0, 0, ⟨0, 0⟩, ⟨0, 0⟩⟩ none
    [bare "name" true false (some "async"), bare "(" false false none,
     bare "value" true false none, bare "comment" true true none,
     bare "word" true false (some "async_"), bare "rest" true false (some "extra_children"),
     bare "comment" true true (some "async")]

end Tree

theorem Buckets.collect_meeting :
    let (buckets, stop) := collect false (Cursor.start Tree.meeting).firstChild.2
    Tree.meeting.children ≠ [] ∧ buckets.map Prod.fst = ["async_", "extra_children"] ∧
      (buckets.get "async_").map (fun t => t.info.kind) = ["name", "word"] ∧
      (buckets.get "extra_children").map (fun t => t.info.kind) = ["value", "rest"] ∧
      stop.focus.info.kind = "comment" ∧ stop.calls = { firstChild := 1, nextSibling := 7 } := by
  have hne : Tree.meeting.children ≠ [] := List.cons_ne_nil _ _
  obtain ⟨hnames, -, -, hget, -, -, hstop⟩ :=
    collect_partitions false (Cursor.start Tree.meeting) hne
  refine ⟨hne, hnames.trans (by decide), ?_, ?_, by rw [hstop]; rfl, by rw [hstop]; rfl⟩
  · rw [hget]
    decide
  · rw [hget]
    decide

end TypedTree
