import Mathlib.Data.List.Infix
import Mathlib.Data.List.Nodup
import Mathlib.Data.List.Perm.Subperm
import TypedTree.Proofs.Layers
import TypedTree.Proofs.Origins
import TypedTree.Proofs.Violations

/-! # No node is built twice

If the child fields of each product in reach have buckets of their own, the nodes that a build
visits are all different, as occurrences in the tree: a child falls in one bucket, and what is below
one child is not below another. On success the instances in a value come from different nodes. -/

namespace TypedTree

namespace Tree

mutual

/-- The number of nodes of a tree. -/
def size : Tree → Nat
  | node _ _ children => sizeRow children + 1

def sizeRow : List Tree → Nat
  | [] => 0
  | t :: rest => size t + sizeRow rest

end

end Tree

namespace Occurrence

variable {o c d x y : Occurrence}

mutual

def within (place : List Nat) : Tree → List Occurrence
  | .node info label children => ⟨place, .node info label children⟩ :: withinRow place 0 children

def withinRow (place : List Nat) (i : Nat) : List Tree → List Occurrence
  | [] => []
  | t :: rest => within (place ++ [i]) t ++ withinRow place (i + 1) rest

end

mutual

theorem length_within (place : List Nat) (t : Tree) : (within place t).length = t.size := by
  cases t with
  | node info label children =>
    rw [within, Tree.size, List.length_cons, length_withinRow]

theorem length_withinRow (place : List Nat) (i : Nat) (ts : List Tree) :
    (withinRow place i ts).length = Tree.sizeRow ts := by
  cases ts with
  | nil => rfl
  | cons t rest =>
    rw [withinRow, Tree.sizeRow, List.length_append, length_within, length_withinRow]

end

/-- A node and all nodes below it. -/
def below (o : Occurrence) : List Occurrence := within o.place o.node

theorem below_eq (o : Occurrence) : o.below = o :: o.children.flatMap below := by
  have hrow : ∀ i ts, withinRow o.place i ts =
      (ts.zipIdx i).flatMap fun entry => within (o.place ++ [entry.2]) entry.1 := by
    intro i ts
    induction ts generalizing i with
    | nil => rfl
    | cons t rest ih => rw [withinRow, ih, List.zipIdx_cons, List.flatMap_cons]
  obtain ⟨place, info, label, ts⟩ := o
  rw [below, within, hrow, children, List.flatMap_map]
  rfl

theorem exists_place_of_mem_children (h : c ∈ o.children) : ∃ i, c.place = o.place ++ [i] := by
  obtain ⟨⟨t, i⟩, -, rfl⟩ := List.mem_map.mp h
  exact ⟨i, rfl⟩

theorem node_mem_children (h : c ∈ o.children) : c.node ∈ o.node.children := by
  rw [← map_node_children]
  exact List.mem_map_of_mem h

theorem nodup_places_children (o : Occurrence) : (o.children.map place).Nodup := by
  have hplaces : o.children.map place =
      (o.node.children.zipIdx.map Prod.snd).map fun i => o.place ++ [i] := by
    rw [children, List.map_map, List.map_map]
    rfl
  rw [hplaces, List.zipIdx_map_snd]
  refine List.Nodup.map (fun i j hij => ?_) List.nodup_range'
  exact List.head_eq_of_cons_eq (List.append_cancel_left hij)

/-- The place of a node is where the way to any node below it begins. -/
theorem place_starts (h : x ∈ o.below) : o.place <+: x.place := by
  obtain ⟨place, t⟩ := o
  induction t using Tree.induction_children generalizing place with
  | step t ih =>
    rw [below_eq] at h
    rcases List.mem_cons.mp h with rfl | h
    · exact List.prefix_refl _
    · obtain ⟨c, hc, hx⟩ := List.mem_flatMap.mp h
      obtain ⟨i, hi⟩ := exists_place_of_mem_children hc
      have hstart := ih c.node (node_mem_children hc) c.place hx
      rw [hi] at hstart
      exact (List.prefix_append place [i]).trans hstart

theorem place_ne_of_mem_children (hc : c ∈ o.children) (hx : x ∈ c.below) :
    o.place ≠ x.place := by
  intro heq
  obtain ⟨i, hi⟩ := exists_place_of_mem_children hc
  have hlength := (place_starts hx).length_le
  rw [hi, ← heq, List.length_append, List.length_singleton] at hlength
  omega

/-- Nothing is below two children of one node. -/
theorem eq_of_below_children (hc : c ∈ o.children) (hd : d ∈ o.children) (hx : x ∈ c.below)
    (hy : y ∈ d.below) (hxy : x.place = y.place) : c = d := by
  obtain ⟨i, hi⟩ := exists_place_of_mem_children hc
  obtain ⟨j, hj⟩ := exists_place_of_mem_children hd
  have hstart := place_starts hx
  have hstart' := place_starts hy
  rw [← hxy] at hstart'
  have hlength : c.place.length = d.place.length := by
    rw [hi, hj, List.length_append, List.length_append]
    rfl
  have hplace : c.place = d.place :=
    (List.prefix_of_prefix_length_le hstart hstart' (Nat.le_of_eq hlength)).eq_of_length hlength
  exact List.inj_on_of_nodup_map o.nodup_places_children hc hd hplace

end Occurrence

section Buckets

def Slot.bucket? (slot : Slot) : Option String :=
  match slot.rule with
  | .child bucket _ _ _ => some bucket
  | _ => none

/-- No two child fields take their nodes from the same bucket. -/
def Plan.DistinctBuckets (p : Plan) : Prop := (p.slots.filterMap Slot.bucket?).Nodup

/-- Every product in reach has distinct buckets. -/
def Schema.DistinctBuckets (s : Schema) (g : Grammar) (target : TypeId) : Prop :=
  ∀ type, s.Reaches g target type → ∀ table, s.dispatch g type = .ok table →
    ∀ id ∈ table.map Prod.snd, ∀ plan, s.plan id = .ok plan → plan.DistinctBuckets

theorem Schema.DistinctBuckets.element {s : Schema} {g : Grammar} {target element id : TypeId}
    {table : DispatchTable} {plan : Plan} {slot : Slot} {bucket name : String}
    {cardinality : Cardinality} (h : s.DistinctBuckets g target)
    (dispatch : s.dispatch g target = .ok table) (product : id ∈ table.map Prod.snd)
    (planned : s.plan id = .ok plan) (mem : slot ∈ plan.slots)
    (child : slot.rule = .child bucket name cardinality element) : s.DistinctBuckets g element :=
  fun _ hreach => h _ (.element dispatch product planned mem child hreach)

theorem FieldDecl.Becomes.bucket_of_unnamed {s : Schema} {f : FieldDecl} {slot : Slot}
    (h : f.Becomes s slot)
    (hunnamed : ∀ element cardinality name, f.rule = .child element cardinality name → name = "") :
    slot.bucket? = none ∨ slot.bucket? = some f.attr := by
  cases h with
  | @child attr name element cardinality id resolved =>
    obtain rfl := hunnamed element cardinality name rfl
    exact .inr rfl
  | requested => exact .inl rfl
  | fixed compiled => exact .inl rfl

/-- Without names of the grammar's own, each child field has the bucket of its attribute. -/
theorem Schema.distinctBuckets_of_unnamed {s : Schema} {id : TypeId} {plan : Plan}
    (hp : s.plan id = .ok plan)
    (hunnamed : ∀ f ∈ (s.decl id).fields, ∀ element cardinality name,
      f.rule = .child element cardinality name → name = "") : plan.DistinctBuckets := by
  have hsublist : ∀ fs : List FieldDecl, ∀ slots,
      fs.mapM (FieldDecl.slot s (s.decl id).name) = .ok slots →
        (∀ f ∈ fs, ∀ element cardinality name,
          f.rule = .child element cardinality name → name = "") →
          (slots.filterMap Slot.bucket?).Sublist (fs.map FieldDecl.attr) := by
    intro fs
    induction fs with
    | nil =>
      intro slots h _
      cases h
      exact List.Sublist.refl _
    | cons f fs ih =>
      intro slots h hunnamed
      obtain ⟨slot, later, hslot, hlater, rfl⟩ := mapM_cons_eq_ok h
      have hrest := ih later hlater fun f hf => hunnamed f (by simp [hf])
      rw [List.map_cons]
      rcases (FieldDecl.becomes_of_slot hslot).bucket_of_unnamed (hunnamed f (by simp)) with hb | hb
      · rw [List.filterMap_cons_none hb]
        exact hrest.cons _
      · rw [List.filterMap_cons_some hb]
        exact hrest.cons_cons _
  exact (s.decl id).nodup_fields.sublist (hsublist _ _ (slots_of_plan_ok hp).1 hunnamed)

end Buckets

namespace Journey

variable {α β : Type}

theorem visits_bind_sublist {x : Journey α} {f : α → Journey β} {visits : List Visit}
    (h : ∀ a, x.ending = .ok a → (f a).visits.Sublist visits) :
    (x >>= f).visits.Sublist (x.visits ++ visits) := by
  cases hx : x.ending with
  | error e =>
    rw [bind_error hx]
    exact List.sublist_append_left _ _
  | ok a =>
    rw [bind_ok hx]
    exact (List.Sublist.refl _).append (h a hx)

/-- However a row of steps ends, it visits no more than its steps do. -/
theorem visits_mapM_sublist (f : α → Journey β) (xs : List α) :
    (xs.mapM f).visits.Sublist (xs.flatMap fun x => (f x).visits) := by
  induction xs with
  | nil => exact List.Sublist.refl _
  | cons x xs ih =>
    rw [List.mapM_cons, List.flatMap_cons]
    refine visits_bind_sublist fun y _ => ?_
    rw [visits_bind_pure]
    exact ih

end Journey

/-- The children of a node that a slot takes, each with the type it is built into. -/
def Slot.parts (keepExtras : Bool) (o : Occurrence) (slot : Slot) : List (TypeId × Occurrence) :=
  match slot.rule with
  | .child bucket _ _ element => (o.under keepExtras bucket).map fun c => (element, c)
  | _ => []

section Parts

variable {keepExtras : Bool} {o : Occurrence} {slots : List Slot}

theorem Slot.exists_of_mem_parts {slot : Slot} {part : TypeId × Occurrence}
    (h : part ∈ slot.parts keepExtras o) : ∃ bucket name cardinality,
      slot.rule = .child bucket name cardinality part.1 ∧ slot.bucket? = some bucket ∧
        part.2 ∈ o.children ∧ part.2.node.bucket keepExtras = some bucket := by
  unfold parts at h
  cases hr : slot.rule with
  | requested => simp [hr] at h
  | fixed e => simp [hr] at h
  | child bucket name cardinality element =>
    rw [hr] at h
    obtain ⟨c, hc, rfl⟩ := List.mem_map.mp h
    have hbucket := (List.mem_filter.mp hc).2
    refine ⟨bucket, name, cardinality, rfl, by rw [bucket?, hr], ?_, by simpa using hbucket⟩
    exact Occurrence.mem_children_of_mem_under hc

/-- Slots with distinct buckets take each child at most once. -/
theorem nodup_parts (h : (slots.filterMap Slot.bucket?).Nodup) :
    ((slots.flatMap (Slot.parts keepExtras o)).map Prod.snd).Nodup := by
  induction slots with
  | nil => exact List.nodup_nil
  | cons slot slots ih =>
    rw [List.flatMap_cons, List.map_append]
    have hrest : (slots.filterMap Slot.bucket?).Nodup := by
      refine h.sublist ?_
      cases hb : slot.bucket? with
      | none => rw [List.filterMap_cons_none hb]
      | some b =>
        rw [List.filterMap_cons_some hb]
        exact List.sublist_cons_self _ _
    have hown : ((slot.parts keepExtras o).map Prod.snd).Nodup := by
      have hchildren : o.children.Nodup := List.Nodup.of_map _ o.nodup_places_children
      unfold Slot.parts
      cases slot.rule with
      | child bucket name cardinality element =>
        rw [List.map_map]
        exact (List.map_id' _).symm ▸ hchildren.filter _
      | _ => exact List.nodup_nil
    refine hown.append (ih hrest) fun c hc hc' => ?_
    obtain ⟨part, hpart, rfl⟩ := List.mem_map.mp hc
    obtain ⟨other, hother, heq⟩ := List.mem_map.mp hc'
    obtain ⟨later, hlater, hother⟩ := List.mem_flatMap.mp hother
    obtain ⟨bucket, -, -, -, hslot, -, hbucket⟩ := Slot.exists_of_mem_parts hpart
    obtain ⟨bucket', -, -, -, hslot', -, hbucket'⟩ := Slot.exists_of_mem_parts hother
    -- A child in both rows would fall in both buckets, and these are different.
    rw [heq] at hbucket'
    obtain rfl : bucket = bucket' := Option.some.inj (hbucket.symm.trans hbucket')
    rw [List.filterMap_cons_some hslot, List.nodup_cons] at h
    exact h.1 (List.mem_filterMap.mpr ⟨later, hlater, hslot'⟩)

end Parts

namespace BuildContext

variable {ctx : BuildContext} {g : Grammar} {o : Occurrence}
  {build : TypeId → Occurrence → Journey Value}

theorem visits_slotJourney_sublist (slot : Slot) : (ctx.slotJourney build o slot).visits.Sublist
    ((slot.parts ctx.options.keepFieldedExtras o).flatMap fun (element, c) =>
      (build element c).visits) := by
  unfold slotJourney Slot.parts
  cases slot.rule with
  | requested => exact List.Sublist.refl _
  | fixed e => exact List.Sublist.refl _
  | child bucket name cardinality element =>
    rw [List.flatMap_map]
    refine Journey.visits_bind_sublist fun _ _ => ?_
    rw [Journey.visits_bind_pure]
    exact Journey.visits_mapM_sublist _ _

theorem visits_fields_sublist (slots : List Slot) :
    (slots.mapM (ctx.fieldJourney build o)).visits.Sublist
      ((slots.flatMap (Slot.parts ctx.options.keepFieldedExtras o)).flatMap fun (element, c) =>
        (build element c).visits) := by
  refine (Journey.visits_mapM_sublist _ _).trans ?_
  induction slots with
  | nil => exact List.Sublist.refl _
  | cons slot slots ih =>
    rw [List.flatMap_cons, List.flatMap_cons, List.flatMap_append]
    refine List.Sublist.append ?_ ih
    rw [fieldJourney, Journey.visits_bind_pure]
    exact visits_slotJourney_sublist slot

/-- The nodes that a journey visits are different nodes at or below the one it starts from. -/
structure Separate (o : Occurrence) (visits : List Visit) : Prop where
  nodup : (visits.map fun v => v.source.place).Nodup
  below : ∀ v ∈ visits, v.source ∈ o.below

theorem Separate.sublist {visits later : List Visit} (h : Separate o visits)
    (hlater : later.Sublist visits) : Separate o later where
  nodup := h.nodup.sublist (hlater.map _)
  below v hv := h.below v (hlater.mem hv)

/-- A node and the parts below it, if each part is visited by itself and no child is in two. -/
theorem separate_parts {parts : List (TypeId × Occurrence)} (id : TypeId) (toured : Bool)
    (hparts : (parts.map Prod.snd).Nodup) (hchildren : ∀ part ∈ parts, part.2 ∈ o.children)
    (h : ∀ part ∈ parts, Separate part.2 (build part.1 part.2).visits) :
    Separate o (⟨o, id, toured⟩ :: parts.flatMap fun (element, c) => (build element c).visits) := by
  constructor
  · rw [List.map_cons, List.nodup_cons, List.map_flatMap, List.nodup_flatMap]
    refine ⟨fun hmem => ?_, fun part hpart => (h part hpart).nodup, ?_⟩
    · obtain ⟨part, hpart, hmem⟩ := List.mem_flatMap.mp hmem
      obtain ⟨v, hv, hplace⟩ := List.mem_map.mp hmem
      have hbelow := (h part hpart).below v hv
      exact Occurrence.place_ne_of_mem_children (hchildren part hpart) hbelow hplace.symm
    · refine (List.pairwise_map.mp hparts).imp_of_mem fun {part other} hpart hother hne => ?_
      intro place hmem hmem'
      obtain ⟨v, hv, rfl⟩ := List.mem_map.mp hmem
      obtain ⟨w, hw, hplace⟩ := List.mem_map.mp hmem'
      exact hne (Occurrence.eq_of_below_children (hchildren part hpart) (hchildren other hother)
        ((h part hpart).below v hv) ((h other hother).below w hw) hplace.symm)
  · intro v hv
    rw [Occurrence.below_eq]
    rcases List.mem_cons.mp hv with rfl | hv
    · exact List.mem_cons_self
    · obtain ⟨part, hpart, hv⟩ := List.mem_flatMap.mp hv
      have hbelow := (h part hpart).below v hv
      exact List.mem_cons_of_mem _ (List.mem_flatMap.mpr ⟨_, hchildren part hpart, hbelow⟩)

theorem separate_nil : Separate o [] := ⟨List.nodup_nil, fun _ hv => by simp at hv⟩

theorem separate_single (id : TypeId) (toured : Bool) : Separate o [⟨o, id, toured⟩] := by
  refine ⟨List.nodup_singleton _, fun v hv => ?_⟩
  obtain rfl := List.mem_singleton.mp hv
  rw [Occurrence.below_eq]
  exact List.mem_cons_self

/-- However it ends, a build visits no node twice. The induction is on the bound on the depth. -/
theorem journey_separate (ctx : BuildContext) (g : Grammar) (depth : Nat) {target : TypeId}
    (hdistinct : ctx.schema.DistinctBuckets g target) (o : Occurrence) :
    Separate o (ctx.journey g depth target o).visits := by
  induction depth generalizing target o with
  | zero => exact separate_nil
  | succ depth ih =>
    rw [journey]
    cases hid : ctx.matched g target o.node.info with
    | error e => exact separate_nil
    | ok id =>
      change Separate o (ctx.visit g id o >>= _).visits
      cases hadmitted : ctx.admitted g id with
      | error e =>
        have hvisit : (ctx.visit g id o).ending = .error e := hadmitted
        rw [Journey.bind_error hvisit]
        exact separate_single id _
      | ok plan =>
        have hvisit : (ctx.visit g id o).ending = .ok plan := hadmitted
        have hvisits : (ctx.visit g id o).visits = [⟨o, id, plan.hasChildren⟩] := by
          rw [visit, hadmitted]
        rw [Journey.bind_ok hvisit, hvisits]
        obtain ⟨table, ht, hproduct⟩ := product_of_matched hid
        have hplan := plan_of_admitted hadmitted
        have hbuckets := hdistinct target (.self target) table ht id hproduct plan hplan
        let parts := plan.slots.flatMap (Slot.parts ctx.options.keepFieldedExtras o)
        have hparts : ∀ part ∈ parts, part.2 ∈ o.children ∧
            ctx.schema.DistinctBuckets g part.1 := by
          intro part hpart
          obtain ⟨slot, hslot, hpart⟩ := List.mem_flatMap.mp hpart
          obtain ⟨bucket, name, cardinality, hrule, -, hchild, -⟩ := Slot.exists_of_mem_parts hpart
          exact ⟨hchild, hdistinct.element ht hproduct hplan hslot hrule⟩
        have hall := separate_parts id plan.hasChildren (nodup_parts hbuckets)
          (fun part hpart => (hparts part hpart).1)
          fun part hpart => ih (hparts part hpart).2 part.2
        refine hall.sublist (List.Sublist.append (List.Sublist.refl _) ?_)
        rw [Journey.visits_bind_pure]
        exact visits_fields_sublist plan.slots

end BuildContext

section Holders

variable {s : Schema} {keepExtras : Bool}

mutual

/-- An instance in a child field comes from a child of the node that the instance with the field
comes from. The recursion is on the value. -/
theorem Value.mem_origins {holder : Option Occurrence} {row : List Occurrence} {v : Value}
    {x : Origin} (h : x ∈ v.origins s keepExtras holder row) :
    (x.holder = holder ∧ x.source ∈ row) ∨ ∃ y ∈ v.origins s keepExtras holder row,
      x.holder = some y.source ∧ x.source ∈ y.source.children := by
  cases v with
  | tuple items =>
    rw [origins] at h ⊢
    exact mem_originsItems h
  | node id fields =>
    cases row with
    | nil => simp [origins] at h
    | cons o row =>
      rw [origins] at h ⊢
      rcases List.mem_cons.mp h with rfl | h
      · exact .inl ⟨rfl, List.mem_cons_self⟩
      · rcases mem_originsFields h with ⟨hholder, hsource⟩ | ⟨y, hy, hholder, hsource⟩
        · exact .inr ⟨_, List.mem_cons_self, hholder, hsource⟩
        · exact .inr ⟨y, List.mem_cons_of_mem _ hy, hholder, hsource⟩
  | _ => simp [origins] at h

theorem Value.mem_originsItems {holder : Option Occurrence} {row : List Occurrence}
    {items : List Value} {x : Origin} (h : x ∈ originsItems s keepExtras holder row items) :
    (x.holder = holder ∧ x.source ∈ row) ∨ ∃ y ∈ originsItems s keepExtras holder row items,
      x.holder = some y.source ∧ x.source ∈ y.source.children := by
  cases items with
  | nil => simp [originsItems] at h
  | cons v items =>
    cases row with
    | nil => simp [originsItems] at h
    | cons o row =>
      rw [originsItems] at h ⊢
      rcases List.mem_append.mp h with h | h
      · rcases mem_origins h with ⟨hholder, hsource⟩ | ⟨y, hy, hholder, hsource⟩
        · obtain hsource := List.mem_singleton.mp hsource
          exact .inl ⟨hholder, hsource ▸ List.mem_cons_self⟩
        · exact .inr ⟨y, List.mem_append_left _ hy, hholder, hsource⟩
      · rcases mem_originsItems h with ⟨hholder, hsource⟩ | ⟨y, hy, hholder, hsource⟩
        · exact .inl ⟨hholder, List.mem_cons_of_mem _ hsource⟩
        · exact .inr ⟨y, List.mem_append_right _ hy, hholder, hsource⟩

theorem Value.mem_originsFields {o : Occurrence} {slots : List Slot}
    {fields : List (String × Value)} {x : Origin}
    (h : x ∈ originsFields s keepExtras o slots fields) :
    (x.holder = some o ∧ x.source ∈ o.children) ∨
      ∃ y ∈ originsFields s keepExtras o slots fields,
        x.holder = some y.source ∧ x.source ∈ y.source.children := by
  cases fields with
  | nil => cases slots <;> simp [originsFields] at h
  | cons field fields =>
    obtain ⟨attr, v⟩ := field
    cases slots with
    | nil => simp [originsFields] at h
    | cons slot slots =>
      rw [originsFields] at h ⊢
      rcases List.mem_append.mp h with h | h
      · cases hr : slot.rule with
        | requested => simp [hr] at h
        | fixed e => simp [hr] at h
        | child bucket name cardinality element =>
          rw [hr] at h
          rcases mem_origins h with ⟨hholder, hsource⟩ | ⟨y, hy, hholder, hsource⟩
          · exact .inl ⟨hholder, Occurrence.mem_children_of_mem_under hsource⟩
          · exact .inr ⟨y, List.mem_append_left _ hy, hholder, hsource⟩
      · rcases mem_originsFields h with hown | ⟨y, hy, hholder, hsource⟩
        · exact .inl hown
        · exact .inr ⟨y, List.mem_append_right _ hy, hholder, hsource⟩

end

end Holders

namespace BuildRequest

variable {r : BuildRequest} {g : Grammar} {table : SymbolTable} {plans : PlanCache} {e : Extractor}
  {target : TypeId} {root : Tree}

theorem length_le_size {visits : List Visit}
    (h : BuildContext.Separate (.root root) visits) : visits.length ≤ root.size := by
  have hsubset : visits.map (fun v => v.source.place) ⊆
      (Occurrence.root root).below.map Occurrence.place := by
    intro place hplace
    obtain ⟨v, hv, rfl⟩ := List.mem_map.mp hplace
    exact List.mem_map_of_mem (h.below v hv)
  have hlength := (List.subperm_of_subset h.nodup hsubset).length_le
  rw [List.length_map, List.length_map] at hlength
  exact Nat.le_trans hlength (Nat.le_of_eq (Occurrence.length_within [] root))

/-- If the products in reach have distinct buckets, a build resets its cursor to each node of the
tree at most once. So on success the instances in the value come from different nodes, each from a
child of the node that its holder comes from, and there are no more of them than nodes. A product
whose child fields are given no name of the grammar's own has distinct buckets. -/
theorem visited_once (htable : table.Sound r.schema g) (hplans : plans.Sound r.schema)
    (hroot : r.root = some root) (hspec : r.requested.compile = .ok e)
    (htarget : r.target.asTarget = .ok target) (hdistinct : r.schema.DistinctBuckets g target) :
    r.cursorAfter e target root table plans =
        (Cursor.start root).walk ((r.journey g e target root).visits.flatMap Visit.moves) ∧
      ((r.journey g e target root).visits.map fun v => v.source.place).Nodup ∧
      (∀ v ∈ (r.journey g e target root).visits, v.source ∈ (Occurrence.root root).below) ∧
      (∀ outcome, (r.run table plans).result = .ok outcome → outcome.ok = true →
        ∃ v, outcome.value = some v ∧
          (r.origins root v).map Origin.type = v.instances r.schema ∧
          ((r.origins root v).map fun x => x.source.place).Nodup ∧
          (∀ x ∈ r.origins root v, (x.holder = none ∧ x.source = .root root) ∨
            ∃ y ∈ r.origins root v, x.holder = some y.source ∧ x.source ∈ y.source.children) ∧
          (v.instances r.schema).length ≤ root.size) ∧
      ∀ id plan, r.schema.plan id = .ok plan → (∀ f ∈ (r.schema.decl id).fields,
        ∀ element cardinality name, f.rule = .child element cardinality name → name = "") →
        plan.DistinctBuckets := by
  have hseparate : BuildContext.Separate (.root root) (r.journey g e target root).visits :=
    (r.context e).journey_separate g levelLimit hdistinct (.root root)
  refine ⟨cursorAfter_eq htable hplans, hseparate.nodup, hseparate.below, ?_,
    fun id plan hp => Schema.distinctBuckets_of_unnamed hp⟩
  intro outcome hresult hok
  obtain ⟨root', e', target', v, hroot', hspec', htarget', hvalue, hvisits, htypes, -⟩ :=
    walk_of_ok htable hplans hresult hok
  cases hroot.symm.trans hroot'
  cases hspec.symm.trans hspec'
  cases htarget.symm.trans htarget'
  rw [hvisits] at hseparate
  refine ⟨v, hvalue, htypes, ?_, fun x hx => ?_, ?_⟩
  · have hnodup := hseparate.nodup
    rw [List.map_map] at hnodup
    exact hnodup
  · rcases Value.mem_origins hx with ⟨hholder, hsource⟩ | hinner
    · exact .inl ⟨hholder, List.mem_singleton.mp hsource⟩
    · exact .inr hinner
  · rw [← htypes, List.length_map]
    have hlength := length_le_size hseparate
    rwa [List.length_map] at hlength

end BuildRequest

namespace Sums

theorem distinctBuckets_expression : schema.DistinctBuckets grammar 10 := by
  intro type hreach table ht id hid plan hplan
  obtain rfl := reaches_expression hreach
  cases dispatch_expression.symm.trans ht
  have hnumber : numberPlan.DistinctBuckets := List.nodup_nil
  have hsum : sumPlan.DistinctBuckets := show ["left", "right"].Nodup by decide
  have hid : id = 9 ∨ id = 11 := by simpa using hid
  rcases hid with rfl | rfl
  · have hown : schema.plan 9 = .ok numberPlan := rfl
    cases hown.symm.trans hplan
    exact hnumber
  · have hown : schema.plan 11 = .ok sumPlan := rfl
    cases hown.symm.trans hplan
    exact hsum

theorem tree_visited_once : schema.DistinctBuckets grammar 10 ∧
    (treeValue.instances schema).length ≤ tree.size ∧
    ((request tree).origins tree treeValue).map (fun x => x.source.place) = [[], [0], [1]] ∧
    (((request tree).origins tree treeValue).map fun x => x.source.place).Nodup := by
  have hresult := result_request (t := tree) (by decide)
  rw [plain_tree] at hresult
  obtain ⟨-, -, -, hbuilt, -⟩ := BuildRequest.visited_once (r := request tree)
    (SymbolTable.sound_fresh schema (.refl grammar)) (PlanCache.sound_nil schema) rfl rfl rfl
    distinctBuckets_expression
  obtain ⟨v, hvalue, -, hnodup, -, hsize⟩ := hbuilt _ hresult rfl
  cases hvalue
  exact ⟨distinctBuckets_expression, hsize, rfl, hnodup⟩

end Sums

end TypedTree
