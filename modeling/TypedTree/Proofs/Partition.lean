import TypedTree.Tree.Buckets

/-! # Buckets as sublists

One pass over the children of a node leaves under every name exactly the children that fall in that
bucket, from left to right, and takes one step to a sibling for each child. -/

namespace TypedTree

/-- The bucket that a child falls in, if it is not dropped. -/
def Tree.bucket (keepExtras : Bool) (t : Tree) : Option String :=
  Buckets.key keepExtras (t.label.map FieldName.toAttr) t.info

/-- The children of a node that fall in a bucket, from left to right. -/
def Tree.under (keepExtras : Bool) (name : String) (t : Tree) : List Tree :=
  t.children.filter fun c => c.bucket keepExtras = some name

theorem Tree.mem_children_of_mem_under {keepExtras : Bool} {name : String} {t c : Tree}
    (h : c ∈ t.under keepExtras name) : c ∈ t.children :=
  (List.mem_filter.mp h).1

namespace Buckets

variable {keepExtras : Bool}

def put (keepExtras : Bool) (b : Buckets) (t : Tree) : Buckets :=
  match t.bucket keepExtras with
  | some name => b.add name t
  | none => b

theorem get_cons (n : String) (ts : List Tree) (b : Buckets) (name : String) :
    get ((n, ts) :: b) name = if n = name then ts else get b name := by
  by_cases h : n = name
  · simp [get, h]
  · have hne : (name == n) = false := by simpa using Ne.symm h
    simp [get, List.lookup_cons, hne, h]

theorem get_add (b : Buckets) (name other : String) (t : Tree) :
    (b.add name t).get other = if name = other then b.get other ++ [t] else b.get other := by
  induction b with
  | nil => simp only [add, get_cons]; rfl
  | cons entry rest ih =>
    obtain ⟨n, ts⟩ := entry
    by_cases hn : n = name
    · subst hn
      by_cases h : n = other <;> simp [add, get_cons, h]
    · by_cases ho : n = other
      · subst ho
        simp [add, get_cons, hn, Ne.symm hn]
      · simp [add, get_cons, hn, ho, ih]

theorem get_put (b : Buckets) (name : String) (t : Tree) :
    (put keepExtras b t).get name =
      b.get name ++ [t].filter fun c => c.bucket keepExtras = some name := by
  unfold put
  cases h : t.bucket keepExtras with
  | none => simp [h]
  | some own =>
    simp only [get_add]
    by_cases hn : own = name <;> simp [h, hn]

theorem get_foldl_put (b : Buckets) (ts : List Tree) (name : String) :
    (ts.foldl (put keepExtras) b).get name =
      b.get name ++ ts.filter fun c => c.bucket keepExtras = some name := by
  induction ts generalizing b with
  | nil => simp
  | cons t ts ih =>
    simp only [List.foldl_cons, ih, get_put, List.append_assoc, ← List.filter_append]
    rfl

/-- Below its root a cursor reads the label of the node it stands on. -/
theorem place_eq_put (t : Tree) (step : Step) (trail : List Step) (calls : Calls) (b : Buckets) :
    place keepExtras ⟨t, step :: trail, calls⟩ b = put keepExtras b t := rfl

/-- The pass over a row of siblings: every one is put in its bucket, each costs one step, and the
cursor ends on the last of them. -/
theorem collectInto_row (keepExtras : Bool) (t p : Tree) (later : List Tree) (trail : List Step)
    (calls : Calls) (b : Buckets) :
    collectInto keepExtras ⟨t, ⟨p, later⟩ :: trail, calls⟩ b =
      ((t :: later).foldl (put keepExtras) b,
        ⟨(t :: later).getLast (List.cons_ne_nil t later), ⟨p, []⟩ :: trail,
          { calls with nextSibling := calls.nextSibling + (later.length + 1) }⟩) := by
  induction later generalizing t calls b with
  | nil =>
    rw [collectInto]
    simp [Cursor.nextSibling, place_eq_put]
  | cons u later ih =>
    have hrest := ih u { calls with nextSibling := calls.nextSibling + 1 } (put keepExtras b t)
    rw [collectInto]
    simp only [Cursor.nextSibling, place_eq_put, hrest, List.foldl_cons, List.length_cons]
    simp only [Nat.add_assoc, Nat.add_comm 1, List.getLast_cons_cons]

end Buckets

def Tree.buckets (keepExtras : Bool) (t : Tree) : Buckets :=
  t.children.foldl (Buckets.put keepExtras) []

theorem Tree.get_buckets (keepExtras : Bool) (t : Tree) (name : String) :
    (t.buckets keepExtras).get name = t.under keepExtras name := by
  rw [buckets, Buckets.get_foldl_put]
  rfl

/-- Collecting from the first child of a node sorts all its children, and one step up leads back to
the node. -/
theorem Buckets.collect_firstChild (keepExtras : Bool) {c d : Cursor}
    (hd : c.firstChild = (true, d)) :
    (collect keepExtras d).1 = c.focus.buckets keepExtras ∧
      (collect keepExtras d).2.parent =
        { c with calls := { c.calls with
            firstChild := c.calls.firstChild + 1
            nextSibling := c.calls.nextSibling + c.focus.children.length
            parent := c.calls.parent + 1 } } := by
  obtain ⟨focus, trail, calls⟩ := c
  cases hc : focus.children with
  | nil => simp [Cursor.firstChild, hc] at hd
  | cons t ts =>
    simp only [Cursor.firstChild, hc, Prod.mk.injEq, true_and] at hd
    subst hd
    have hrow := collectInto_row keepExtras t focus ts trail
      { calls with firstChild := calls.firstChild + 1 } []
    constructor
    · rw [collect, hrow, Tree.buckets, hc]
    · rw [collect, hrow]
      simp only [Cursor.parent, List.length_cons]

end TypedTree
