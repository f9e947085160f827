import TypedTree.Proofs.Occurrences
import TypedTree.Proofs.Simulation

/-! # Ranges follow the tree

Each instance that holds the range asked for holds that of the node it was built from. So where the
ranges of a tree are nested, and those of siblings come one after the other, this is so for the
instances in a value too, however many children are left out in between. -/

namespace TypedTree

/-- A range that lies in another: it starts there, ends there, and not before it starts. -/
structure Range.Within (a b : Range) : Prop where
  start_le : b.start ≤ a.start
  ordered : a.start ≤ a.stop
  stop_le : a.stop ≤ b.stop

instance (a b : Range) : Decidable (a.Within b) :=
  decidable_of_iff (b.start ≤ a.start ∧ a.start ≤ a.stop ∧ a.stop ≤ b.stop)
    ⟨fun ⟨hstart, hordered, hstop⟩ => ⟨hstart, hordered, hstop⟩,
      fun h => ⟨h.start_le, h.ordered, h.stop_le⟩⟩

/-- A range that ends before another starts; they may touch. -/
def Range.Before (a b : Range) : Prop := a.stop ≤ b.start

instance (a b : Range) : Decidable (a.Before b) := inferInstanceAs (Decidable (a.stop ≤ b.start))

/-- At every node the ranges of the children lie in that of the node, and each child ends before the
next one starts. -/
inductive Tree.WellNested : Tree → Prop
  | intro {t : Tree} (within : ∀ c ∈ t.children, c.info.range.Within t.info.range)
      (apart : t.children.IsChain fun c d => c.info.range.Before d.info.range)
      (below : ∀ c ∈ t.children, WellNested c) : WellNested t

theorem Range.before_of_isChain {α : Type} {range : α → Range} {x : α} {xs : List α}
    (hordered : ∀ y ∈ xs, (range y).start ≤ (range y).stop)
    (hchain : (x :: xs).IsChain fun a b => (range a).Before (range b)) :
    ∀ y ∈ xs, (range x).Before (range y) := by
  induction xs generalizing x with
  | nil => simp
  | cons z xs ih =>
    obtain ⟨hxz, hchain⟩ := List.isChain_cons_cons.mp hchain
    obtain ⟨hz, hordered⟩ := List.forall_mem_cons.mp hordered
    refine List.forall_mem_cons.mpr ⟨hxz, fun y hy => ?_⟩
    have hzy : (range z).stop ≤ (range y).start := ih hordered hchain y hy
    exact Int.le_trans hxz (Int.le_trans hz hzy)

/-- Ranges that are not empty backwards are apart if each is apart from the next. -/
theorem Range.pairwise_of_isChain {α : Type} {range : α → Range} {xs : List α}
    (hordered : ∀ y ∈ xs, (range y).start ≤ (range y).stop)
    (hchain : xs.IsChain fun a b => (range a).Before (range b)) :
    xs.Pairwise fun a b => (range a).Before (range b) := by
  induction xs with
  | nil => exact .nil
  | cons x xs ih =>
    obtain ⟨-, hlater⟩ := List.forall_mem_cons.mp hordered
    exact .cons (before_of_isChain hlater hchain) (ih hlater hchain.of_cons)

theorem Tree.WellNested.within_of_mem {t c : Tree} (h : t.WellNested) (hc : c ∈ t.children) :
    c.info.range.Within t.info.range := by
  obtain ⟨within, -, -⟩ := h
  exact within c hc

theorem Tree.WellNested.of_mem_children {t c : Tree} (h : t.WellNested) (hc : c ∈ t.children) :
    c.WellNested := by
  obtain ⟨-, -, below⟩ := h
  exact below c hc

theorem Tree.WellNested.pairwise {t : Tree} (h : t.WellNested) :
    t.children.Pairwise fun c d => c.info.range.Before d.info.range := by
  obtain ⟨within, apart, -⟩ := h
  exact Range.pairwise_of_isChain (fun c hc => (within c hc).ordered) apart

theorem Occurrence.pairwise_under {o : Occurrence} (h : o.node.WellNested) (keepExtras : Bool)
    (bucket : String) : (o.under keepExtras bucket).Pairwise fun c d =>
      c.node.info.range.Before d.node.info.range := by
  have hchildren : (o.children.map Occurrence.node).Pairwise fun c d =>
      c.info.range.Before d.info.range := by
    rw [map_node_children]
    exact h.pairwise
  exact (List.pairwise_map.mp hchildren).filter _

section Forall₂

variable {α β : Type} {R : α → β → Prop} {as : List α} {bs : List β}

theorem pairwise_of_forall₂ {S : α → α → Prop} {T : β → β → Prop}
    (hST : ∀ a a' b b', R a b → R a' b' → S a a' → T b b') (h : List.Forall₂ R as bs)
    (hS : as.Pairwise S) : bs.Pairwise T := by
  induction h with
  | nil => exact .nil
  | cons hab hrest ih =>
    obtain ⟨ha, hlater⟩ := List.pairwise_cons.mp hS
    refine .cons (fun b' hb' => ?_) (ih hlater)
    obtain ⟨a', ha', hR⟩ := exists_of_mem_right hrest hb'
    exact hST _ _ _ _ hab hR (ha a' ha')

end Forall₂

/-- The type leaves the annotation of its instances to the caller. -/
def Schema.KeepsAnnotation (s : Schema) (id : TypeId) : Prop := ⟨"ann", .requested⟩ ∈ s.slots id

namespace Value

mutual

/-- The instances in a value, from the outside in. -/
def nodes (s : Schema) : Value → List Value
  | tuple items => nodesItems s items
  | node id fields => node id fields :: nodesFields s (s.slots id) fields
  | _ => []

def nodesItems (s : Schema) : List Value → List Value
  | [] => []
  | v :: items => nodes s v ++ nodesItems s items

def nodesFields (s : Schema) : List Slot → List (String × Value) → List Value
  | slot :: slots, (_, v) :: fields =>
    (if slot.isChild then nodes s v else []) ++ nodesFields s slots fields
  | _, _ => []

end

/-- An instance that holds a range where its type keeps the annotation. -/
inductive Ranged (s : Schema) : Value → Range → Prop
  | intro {id : TypeId} {fields : List (String × Value)} {range : Range}
      (keeps : s.KeepsAnnotation id) (held : fields.lookup "ann" = some (.range range)) :
      Ranged s (.node id fields) range

/-- The values that a child field holds. -/
def row : Value → List Value
  | none => []
  | tuple items => items
  | v => [v]

/-- The ranges of the instances in a field lie in that of the instance with the field, and come one
after the other. -/
structure Nested (s : Schema) (p w : Value) : Prop where
  within : ∀ q ∈ w.row, ∀ outer inner, Ranged s p outer → Ranged s q inner → inner.Within outer
  apart : w.row.Pairwise fun q q' => ∀ a b, Ranged s q a → Ranged s q' b → a.Before b

/-- This is so for all child fields of all instances in a value. -/
def WellNested (s : Schema) (v : Value) : Prop :=
  ∀ id fields, .node id fields ∈ v.nodes s → ∀ slot attr w,
    (slot, attr, w) ∈ (s.slots id).zip fields → slot.isChild → Nested s (.node id fields) w

/-- The instance that an origin is of, with the range of the node it was built from. -/
def Shows (s : Schema) (p : Value) (x : Origin) : Prop :=
  ∃ fields, p = .node x.type fields ∧
    (s.KeepsAnnotation x.type → fields.lookup "ann" = some (.range x.source.node.info.range))

variable {s : Schema} {p : Value}

theorem nodesItems_eq (items : List Value) : nodesItems s items = items.flatMap (nodes s) := by
  induction items with
  | nil => rfl
  | cons v items ih => rw [nodesItems, ih, List.flatMap_cons]

theorem mem_nodesFields {slots : List Slot} {fields : List (String × Value)}
    (h : p ∈ nodesFields s slots fields) :
    ∃ slot attr w, (slot, attr, w) ∈ slots.zip fields ∧ slot.isChild ∧ p ∈ w.nodes s := by
  induction slots generalizing fields with
  | nil => simp [nodesFields] at h
  | cons slot slots ih =>
    cases fields with
    | nil => simp [nodesFields] at h
    | cons field fields =>
      obtain ⟨attr, w⟩ := field
      rw [nodesFields] at h
      rcases List.mem_append.mp h with h | h
      · by_cases hchild : slot.isChild = true
        · rw [if_pos hchild] at h
          exact ⟨slot, attr, w, List.mem_cons_self, hchild, h⟩
        · rw [if_neg hchild] at h
          simp at h
      · obtain ⟨slot, attr, w, hmem, hw⟩ := ih h
        exact ⟨slot, attr, w, List.mem_cons_of_mem _ hmem, hw⟩

end Value

section Annotation

variable {s : Schema} {id : TypeId}

theorem Schema.nodup_slots (s : Schema) (id : TypeId) : ((s.slots id).map Slot.attr).Nodup := by
  cases hplan : s.plan id with
  | error e =>
    rw [slots, hplan]
    exact List.nodup_nil
  | ok plan =>
    rw [slots_of_plan hplan, map_attr_slots (slots_of_plan_ok hplan).1]
    exact (s.decl id).nodup_fields

end Annotation

namespace BuildContext

variable {ctx : BuildContext} {g : Grammar} {o : Occurrence} {P : Occurrence → Value → Prop}

/-- What a field of a node holds, where `P` relates the nodes under it to their values. -/
inductive Filled (ctx : BuildContext) (P : Occurrence → Value → Prop) (o : Occurrence) :
    Slot → String × Value → Prop
  | requested {attr : String} {v : Value}
      (run : ctx.extracted ctx.requested o.node.info = .ok v) :
      Filled ctx P o ⟨attr, .requested⟩ (attr, v)
  | fixed {attr : String} {e : Extractor} {v : Value}
      (run : ctx.extracted e o.node.info = .ok v) : Filled ctx P o ⟨attr, .fixed e⟩ (attr, v)
  | child {attr bucket name : String} {cardinality : Cardinality} {element : TypeId}
      {vs : List Value}
      (count : counted attr cardinality o.node.info
        (o.under ctx.options.keepFieldedExtras bucket).length = .ok ())
      (row : List.Forall₂ P (o.under ctx.options.keepFieldedExtras bucket) vs) :
      Filled ctx P o ⟨attr, .child bucket name cardinality element⟩ (attr, gathered cardinality vs)

theorem filled_of_fieldJourney {build : TypeId → Occurrence → Journey Value} {slot : Slot}
    {field : String × Value} (h : ∀ element c v, (build element c).ending = .ok v → P c v)
    (hfield : (ctx.fieldJourney build o slot).ending = .ok field) : ctx.Filled P o slot field := by
  obtain ⟨v, hv, hfield, -⟩ := Journey.bind_eq_ok hfield
  cases hfield
  obtain ⟨attr, rule⟩ := slot
  cases rule with
  | requested => exact .requested hv
  | fixed e => exact .fixed hv
  | child bucket name cardinality element =>
    obtain ⟨_, hcount, hv, -⟩ := Journey.bind_eq_ok hv
    obtain ⟨vs, hvs, hv, -⟩ := Journey.bind_eq_ok hv
    cases hv
    exact .child hcount ((Journey.mapM_eq_ok hvs).1.imp fun c w hw => h element c w hw)

/-- What holds of a node and its value if it holds of the nodes that its fields come from, holds of
all that is built. -/
theorem journey_induction (step : ∀ o id fields,
      List.Forall₂ (ctx.Filled P o) (ctx.schema.slots id) fields → P o (.node id fields))
    (depth : Nat) {target : TypeId} {v : Value}
    (hv : (ctx.journey g depth target o).ending = .ok v) : P o v := by
  induction depth generalizing target o v with
  | zero => cases hv
  | succ depth ih =>
    unfold journey at hv
    obtain ⟨id, -, hv, -⟩ := Journey.bind_eq_ok hv
    obtain ⟨plan, hplan, hv, -⟩ := Journey.bind_eq_ok hv
    obtain ⟨fields, hfields, hv, -⟩ := Journey.bind_eq_ok hv
    cases hv
    have hadmitted : ctx.admitted g id = .ok plan := hplan
    refine step o id fields ?_
    rw [Schema.slots_of_plan (plan_of_admitted hadmitted)]
    have hbuilt : ∀ element c v, (ctx.journey g depth element c).ending = .ok v → P c v :=
      fun element c v hv => ih hv
    obtain ⟨hslots, -⟩ := Journey.mapM_eq_ok hfields
    exact hslots.imp fun slot field hfield => filled_of_fieldJourney hbuilt hfield

theorem map_fst_of_filled {slots : List Slot} {fields : List (String × Value)}
    (h : List.Forall₂ (ctx.Filled P o) slots fields) :
    fields.map Prod.fst = slots.map Slot.attr := by
  induction h with
  | nil => rfl
  | cons hfield _ ih =>
    rw [List.map_cons, List.map_cons, ih]
    cases hfield <;> rfl

/-- An instance holds the range of the node, if its type keeps the annotation. -/
def Holds (ctx : BuildContext) (o : Occurrence) (v : Value) : Prop :=
  ∃ id fields, v = .node id fields ∧
    (ctx.schema.KeepsAnnotation id → fields.lookup "ann" = some (.range o.node.info.range))

theorem holds_of_filled (hrange : ctx.requested = .range) {id : TypeId}
    {fields : List (String × Value)}
    (h : List.Forall₂ (ctx.Filled P o) (ctx.schema.slots id) fields) :
    ctx.Holds o (.node id fields) := by
  refine ⟨id, fields, rfl, fun hkeeps => ?_⟩
  have hnodup : (fields.map Prod.fst).Nodup := by
    rw [map_fst_of_filled h]
    exact ctx.schema.nodup_slots id
  obtain ⟨field, hmem, hfilled⟩ := exists_of_mem_left h hkeeps
  cases hfilled with
  | requested run =>
    rw [hrange] at run
    cases run
    exact (lookup_eq_some_of_nodup hnodup).mpr hmem

theorem Holds.eq_of_ranged {v : Value} {range : Range} (h : ctx.Holds o v)
    (hranged : v.Ranged ctx.schema range) :
    range = o.node.info.range := by
  obtain ⟨id, fields, rfl, hheld⟩ := h
  obtain ⟨keeps, held⟩ := hranged
  cases held.symm.trans (hheld keeps)
  rfl

section Gathered

variable {attr : String} {cardinality : Cardinality} {parent : NodeInfo} {row : List Occurrence}
  {vs : List Value}

/-- A row of values is kept as it is, or one value stands for itself. -/
theorem gathered_cases (hcount : counted attr cardinality parent row.length = .ok ())
    (hlength : row.length = vs.length) :
    gathered cardinality vs = .tuple vs ∨ (∃ v, vs = [v] ∧ gathered cardinality vs = v) ∨
      vs = [] ∧ gathered cardinality vs = .none := by
  match cardinality, row, vs with
  | .required, [], _ => cases hcount
  | .required, [o], [v] => exact .inr (.inl ⟨v, rfl, rfl⟩)
  | .required, _ :: _ :: _, _ => cases hcount
  | .optional, [], [] => exact .inr (.inr ⟨rfl, rfl⟩)
  | .optional, [o], [v] => exact .inr (.inl ⟨v, rfl, rfl⟩)
  | .optional, _ :: _ :: _, _ => cases hcount
  | .repeated, _, _ => exact .inl rfl
  | .nonEmpty, _, _ => exact .inl rfl

variable (hcount : counted attr cardinality parent row.length = .ok ())

include hcount

theorem nodes_gathered (s : Schema) (hlength : row.length = vs.length) :
    (gathered cardinality vs).nodes s = vs.flatMap (Value.nodes s) := by
  rcases gathered_cases hcount hlength with hv | ⟨v, rfl, hv⟩ | ⟨rfl, hv⟩
  · rw [hv, Value.nodes, Value.nodesItems_eq]
  · rw [hv, List.flatMap_singleton]
  · rw [hv]
    rfl

theorem row_gathered (hrow : List.Forall₂ ctx.Holds row vs) :
    (gathered cardinality vs).row = vs := by
  rcases gathered_cases hcount hrow.length_eq with hv | ⟨v, rfl, hv⟩ | ⟨rfl, hv⟩
  · rw [hv]
    rfl
  · obtain ⟨c, -, ⟨id, fields, rfl, -⟩, -⟩ := List.forall₂_cons_right_iff.mp hrow
    rw [hv]
    rfl
  · rw [hv]
    rfl

theorem shows_gathered {s : Schema} {keepExtras : Bool} {holder : Option Occurrence}
    (hrow : List.Forall₂ (fun c w => List.Forall₂ (Value.Shows s) (w.nodes s)
      (w.origins s keepExtras holder [c])) row vs) :
    List.Forall₂ (Value.Shows s) ((gathered cardinality vs).nodes s)
      ((gathered cardinality vs).origins s keepExtras holder row) := by
  have hitems : List.Forall₂ (Value.Shows s) (Value.nodesItems s vs)
      (Value.originsItems s keepExtras holder row vs) := by
    clear hcount
    induction hrow with
    | nil => exact .nil
    | cons hw _ ih =>
      rw [Value.nodesItems, Value.originsItems]
      exact List.rel_append hw ih
  rcases gathered_cases hcount hrow.length_eq with hv | ⟨v, rfl, hv⟩ | ⟨rfl, hv⟩
  · rw [hv, Value.nodes, Value.origins]
    exact hitems
  · obtain ⟨c, row, hw, hrest, rfl⟩ := List.forall₂_cons_right_iff.mp hrow
    cases hrest
    rw [hv]
    exact hw
  · rw [hv]
    exact .nil

end Gathered

theorem shows_fields {slots : List Slot} {fields : List (String × Value)}
    (h : List.Forall₂ (ctx.Filled (fun c w => ∀ holder, List.Forall₂ (Value.Shows ctx.schema)
      (w.nodes ctx.schema)
      (w.origins ctx.schema ctx.options.keepFieldedExtras holder [c])) o) slots fields) :
    List.Forall₂ (Value.Shows ctx.schema) (Value.nodesFields ctx.schema slots fields)
      (Value.originsFields ctx.schema ctx.options.keepFieldedExtras o slots fields) := by
  induction h with
  | nil => exact .nil
  | cons hfield _ ih =>
    cases hfield with
    | requested run => exact ih
    | fixed run => exact ih
    | child count row =>
      exact List.rel_append (shows_gathered count (row.imp fun c w hw => hw (some o))) ih

/-- The instances in a value are those of its origins, each with the range of the node it was built
from. -/
theorem journey_shows (hrange : ctx.requested = .range) (depth : Nat) {target : TypeId} {v : Value}
    (hv : (ctx.journey g depth target o).ending = .ok v) (holder : Option Occurrence) :
    List.Forall₂ (Value.Shows ctx.schema) (v.nodes ctx.schema)
      (v.origins ctx.schema ctx.options.keepFieldedExtras holder [o]) := by
  refine journey_induction (P := fun o v => ∀ holder, List.Forall₂ (Value.Shows ctx.schema)
    (v.nodes ctx.schema) (v.origins ctx.schema ctx.options.keepFieldedExtras holder [o]))
    (fun o id fields hfields holder => ?_) depth hv holder
  rw [Value.nodes, Value.origins]
  obtain ⟨_, _, hnode, hheld⟩ := holds_of_filled hrange hfields
  cases hnode
  exact .cons ⟨fields, rfl, hheld⟩ (shows_fields hfields)

/-- The row of a child field is nested as the children of the node are. -/
theorem nested_of_row {attr bucket : String} {cardinality : Cardinality} {vs : List Value}
    {p : Value} (hp : ctx.Holds o p) (htree : o.node.WellNested)
    (hcount : counted attr cardinality o.node.info
      (o.under ctx.options.keepFieldedExtras bucket).length = .ok ())
    (hrow : List.Forall₂ ctx.Holds (o.under ctx.options.keepFieldedExtras bucket) vs) :
    Value.Nested ctx.schema p (gathered cardinality vs) := by
  constructor
  · rw [row_gathered hcount hrow]
    intro q hq outer inner houter hinner
    obtain ⟨c, hc, hholds⟩ := exists_of_mem_right hrow hq
    have hchild := Occurrence.node_mem_children (Occurrence.mem_children_of_mem_under hc)
    rw [hp.eq_of_ranged houter, hholds.eq_of_ranged hinner]
    exact htree.within_of_mem hchild
  · rw [row_gathered hcount hrow]
    refine pairwise_of_forall₂ ?_ hrow (Occurrence.pairwise_under htree _ bucket)
    intro c d q q' hq hq' hbefore a b ha hb
    rw [hq.eq_of_ranged ha, hq'.eq_of_ranged hb]
    exact hbefore

/-- A value is nested as the tree is that it was built from. -/
theorem journey_nested (hrange : ctx.requested = .range) (depth : Nat) {target : TypeId} {v : Value}
    (hv : (ctx.journey g depth target o).ending = .ok v) (htree : o.node.WellNested) :
    v.WellNested ctx.schema := by
  have hboth : ctx.Holds o v ∧ (o.node.WellNested → v.WellNested ctx.schema) := by
    refine journey_induction (P := fun o v => ctx.Holds o v ∧
      (o.node.WellNested → v.WellNested ctx.schema)) (fun o id fields hfields => ?_) depth hv
    have hnode : ctx.Holds o (.node id fields) := holds_of_filled hrange hfields
    refine ⟨hnode, fun htree => ?_⟩
    -- The fields of the node itself, and those of the instances in its fields.
    intro id' fields' hmem slot attr w hzip hchild
    rw [Value.nodes] at hmem
    rcases List.mem_cons.mp hmem with heq | hmem
    · cases heq
      cases List.forall₂_zip hfields hzip with
      | requested run => cases hchild
      | fixed run => cases hchild
      | child count row => exact nested_of_row hnode htree count (row.imp fun _ _ h => h.1)
    · obtain ⟨slot', attr', w', hzip', hchild', hinner⟩ := Value.mem_nodesFields hmem
      cases List.forall₂_zip hfields hzip' with
      | requested run => cases hchild'
      | fixed run => cases hchild'
      | child count row =>
        rw [nodes_gathered count _ row.length_eq] at hinner
        obtain ⟨q, hq, hinner⟩ := List.mem_flatMap.mp hinner
        obtain ⟨c, hc, -, hnested⟩ := exists_of_mem_right row hq
        have hchildren := Occurrence.node_mem_children (Occurrence.mem_children_of_mem_under hc)
        exact hnested (htree.of_mem_children hchildren) id' fields' hinner slot attr w hzip hchild
  exact hboth.2 htree

end BuildContext

namespace BuildRequest

variable {r : BuildRequest} {g : Grammar} {table : SymbolTable} {plans : PlanCache}

/-- Where the range is asked for and a build succeeds, each instance in the value holds the range of
the node that it was built from, if its type keeps the annotation. If the ranges of the tree are
nested, those of the instances are. -/
theorem ranges_follow (htable : table.Sound r.schema g) (hplans : plans.Sound r.schema)
    (hrange : r.requested = .range) {outcome : Outcome Value}
    (hresult : (r.run table plans).result = .ok outcome) (hok : outcome.ok = true) :
    ∃ root e target v, r.root = some root ∧ r.requested.compile = .ok e ∧
      r.target.asTarget = .ok target ∧ outcome.value = some v ∧
      (r.journey g e target root).visits = (r.origins root v).map (Origin.visit r.schema) ∧
      List.Forall₂ (Value.Shows r.schema) (v.nodes r.schema) (r.origins root v) ∧
      (root.WellNested → v.WellNested r.schema) := by
  obtain ⟨root, e, target, v, hroot, hspec, htarget, hending, rfl⟩ :=
    account_of_ok htable hplans hresult hok
  have hv : (r.journey g e target root).ending = .ok v := by
    rw [← account_journey] at hending
    exact hending
  have hrequested : (r.context e).requested = .range := by
    rw [hrange] at hspec
    cases hspec
    rfl
  have hrecords : Value.Records r.schema r.options.keepFieldedExtras none [.root root] v
      (r.journey g e target root).visits := (r.context e).journey_records g levelLimit hv
  refine ⟨root, e, target, v, hroot, hspec, htarget, rfl, hrecords.visits_eq, ?_, fun htree => ?_⟩
  · exact BuildContext.journey_shows hrequested levelLimit hv none
  · exact BuildContext.journey_nested hrequested levelLimit hv htree

end BuildRequest

namespace Sums

open BuildContext

/-- Sums of any number of left operands. -/
def listed : Schema :=
  schema.set 11 { name := "Sum", path := "sums.Sum", shape := .product
                  layers := [{ owner := "Sum", kind := some "sum"
                               fields := [⟨"left", .child (.direct 10) .repeated ""⟩,
                                 ⟨"right", .child (.direct 10) .optional ""⟩] }, Schema.rootLayer] }

def listing : BuildContext := context.declaring listed

theorem dispatch_listed : listed.dispatch grammar 10 = .ok [(1, 9), (2, 11)] := by
  have hvariants : listed.variants 10 = ⟨[9, 11], none⟩ := by
    rw [Schema.variants, Schema.expand_sum rfl (by simp) rfl]
    change listed.expand [10] [.direct 9, .deferred "Expression" 10, .deferred "Sum" 11] = _
    rw [Schema.expand_product rfl (by simp) rfl rfl, Schema.expand_met rfl (by simp),
      Schema.expand_product rfl (by simp) rfl rfl, Schema.expand]
    rfl
  rw [Schema.dispatch, hvariants]
  rfl

/-- The right operand stands between two left ones. -/
def mixed : Tree :=
  .node ⟨2, "sum", true, false, 0, 5, ⟨0, 0⟩, ⟨0, 5⟩⟩ none
    [number (some "left") 0 1, number (some "right") 2 3, number (some "left") 4 5]

def numberValue (start stop : Int) : Value :=
  .node 9 [("ann", .range ⟨start, stop⟩), ("place", .tuple [.pos ⟨0, start⟩, .none])]

def mixedValue : Value :=
  .node 11 [("ann", .range ⟨0, 5⟩), ("left", .tuple [numberValue 0 1, numberValue 4 5]),
    ("right", numberValue 2 3)]

theorem account_listed (depth : Nat) (label : Option String) (start stop : Int) :
    listing.account grammar (depth + 1) 10 (number label start stop) =
      { ending := .ok (numberValue start stop), cost := { reset := 1 } } := by
  have hmatched : listing.matched grammar 10 (number label start stop).info = .ok 9 :=
    matched_some dispatch_listed rfl
  rw [account, hmatched]
  rfl

def mixedPlan : Plan :=
  ⟨11, [⟨"ann", .requested⟩, ⟨"left", .child "left" "left" .repeated 10⟩,
    ⟨"right", .child "right" "right" .optional 10⟩]⟩

theorem ending_mixed : (listing.account grammar levelLimit 10 mixed).ending = .ok mixedValue := by
  have hmatched : listing.matched grammar 10 mixed.info = pure 11 :=
    matched_some dispatch_listed rfl
  have hplan : listing.admitted grammar 11 = pure mixedPlan := rfl
  have hleft : mixed.under false "left" =
      [number (some "left") 0 1, number (some "left") 4 5] := rfl
  have hright : mixed.under false "right" = [number (some "right") 2 3] := rfl
  have hkeep : listing.options.keepFieldedExtras = false := rfl
  change (listing.account grammar (331 + 2) 10 mixed).ending = _
  rw [account]
  simp only [hmatched, hplan, Account.still_pure, pure_bind]
  simp only [plannedAccount, mixedPlan, List.mapM_cons, fieldAccount, slotAccount, rowAccount,
    hkeep, hleft, hright, account_listed]
  rfl

theorem wellNested_number (label : Option String) (start stop : Int) :
    (number label start stop).WellNested :=
  .intro (fun _ hc => by cases hc) .nil (fun _ hc => by cases hc)

theorem wellNested_mixed : mixed.WellNested := by
  refine .intro (by decide) (by decide) fun c hc => ?_
  have hc : c = number (some "left") 0 1 ∨ c = number (some "right") 2 3 ∨
      c = number (some "left") 4 5 := by simpa [mixed, Tree.children] using hc
  rcases hc with rfl | rfl | rfl <;> exact wellNested_number _ _ _

theorem mixed_ranges : mixed.WellNested ∧
    (((request mixed).declaring listed).run { grammar } []).result =
      .ok { value := some mixedValue } ∧
    List.Forall₂ (Value.Shows listed) (mixedValue.nodes listed)
      (((request mixed).declaring listed).origins mixed mixedValue) ∧
    mixedValue.WellNested listed := by
  have htable := SymbolTable.sound_fresh listed (.refl grammar)
  have hplans := PlanCache.sound_nil listed
  have hresult : (((request mixed).declaring listed).run { grammar } []).result =
      .ok { value := some mixedValue } := by
    rw [(BuildRequest.run_account (r := (request mixed).declaring listed) (e := .range) rfl rfl rfl
      htable hplans).1]
    change ((request mixed).declaring listed).resultOf 10
      (listing.account grammar levelLimit 10 mixed).ending = _
    rw [ending_mixed]
    rfl
  obtain ⟨root, e, target, v, hroot, -, -, hvalue, -, hshows, hnested⟩ :=
    BuildRequest.ranges_follow (r := (request mixed).declaring listed) htable hplans rfl hresult rfl
  cases hroot
  cases hvalue
  exact ⟨wellNested_mixed, hresult, hshows, hnested wellNested_mixed⟩

end Sums

end TypedTree
