import TypedTree.Grammar.Dispatch

/-! # Products of a type, and types in reach

Flattening a type yields products only, each of them once, and a dispatch table holds exactly the
products that flattening yields, in the same order. From a type a build may come to the types of the
child fields of these products, and so on. -/

namespace TypedTree

theorem mem_of_lookup_eq_some {α β : Type} [BEq α] [LawfulBEq α] {l : List (α × β)} {k : α} {b : β}
    (h : l.lookup k = some b) : (k, b) ∈ l := by
  rw [List.lookup_eq_some_iff] at h
  obtain ⟨before, after, he, -⟩ := h
  simp [he]

theorem lookup_eq_some_of_nodup {α β : Type} [BEq α] [LawfulBEq α] {entries : List (α × β)}
    {k : α} {v : β} (hk : (entries.map Prod.fst).Nodup) :
    entries.lookup k = some v ↔ (k, v) ∈ entries := by
  constructor
  · exact mem_of_lookup_eq_some
  · intro h
    induction entries with
    | nil => simp at h
    | cons e rest ih =>
      obtain ⟨hnew, hrest⟩ := List.nodup_cons.mp hk
      rcases List.mem_cons.mp h with rfl | h
      · simp
      · have hne : k ≠ e.1 := by
          rintro rfl
          exact hnew (List.mem_map.mpr ⟨_, h, rfl⟩)
        have hbeq : (k == e.1) = false := by simpa using hne
        rw [List.lookup_cons, hbeq]
        exact ih hrest h

namespace Schema

variable {s : Schema} {g : Grammar} {met : List TypeId} {r : TypeRef} {rest : List TypeRef}
  {id target : TypeId}

theorem expand_sum (hr : r.resolve s = .ok id) (hmet : id ∉ met) (hs : (s.decl id).shape = .sum) :
    s.expand met (r :: rest) = s.expand (id :: met) ((s.decl id).variants ++ rest) := by
  have hc : ¬ met.contains id = true := by simpa using hmet
  rw [expand, hr]
  dsimp only
  rw [dif_neg hc]
  split <;> simp_all

theorem expand_product (hr : r.resolve s = .ok id) (hmet : id ∉ met)
    (hs : (s.decl id).shape = .product) (hk : (s.decl id).kind.isEmpty = false) :
    s.expand met (r :: rest) = (s.expand (id :: met) rest).cons id := by
  have hc : ¬ met.contains id = true := by simpa using hmet
  rw [expand, hr]
  dsimp only
  rw [dif_neg hc]
  split <;> simp_all

theorem expand_kindless (hr : r.resolve s = .ok id) (hmet : id ∉ met)
    (hs : (s.decl id).shape = .product) (hk : (s.decl id).kind.isEmpty = true) :
    s.expand met (r :: rest) =
      ⟨[], some (.unsupportedTarget (s.decl id).shown "no grammar kind declared")⟩ := by
  have hc : ¬ met.contains id = true := by simpa using hmet
  rw [expand, hr]
  dsimp only
  rw [dif_neg hc]
  split <;> simp_all

theorem expand_foreign (hr : r.resolve s = .ok id) (hmet : id ∉ met)
    (hs : (s.decl id).shape = .foreign) : s.expand met (r :: rest) =
      ⟨[], some (.unsupportedTarget (s.decl id).shown "not a Syntax or Choice subclass")⟩ := by
  have hc : ¬ met.contains id = true := by simpa using hmet
  rw [expand, hr]
  dsimp only
  rw [dif_neg hc]
  split <;> simp_all

theorem expand_met (hr : r.resolve s = .ok id) (hmet : id ∈ met) :
    s.expand met (r :: rest) = s.expand met rest := by
  have hc : met.contains id = true := by simpa using hmet
  rw [expand, hr]
  dsimp only
  rw [dif_pos hc]

/-- What is yielded is a product that was not met before. -/
theorem mem_expand {x : TypeId} {refs : List TypeRef} (h : x ∈ (s.expand met refs).products) :
    (s.decl x).shape = .product ∧ x ∉ met := by
  fun_induction expand s met refs with
  | case1 => simp at h
  | case2 => simp at h
  | case3 met r rest id hr hmet ih => exact ih h
  | case4 met r rest id hr hmet hs ih =>
    obtain ⟨hshape, hx⟩ := ih h
    exact ⟨hshape, fun hm => hx (List.mem_cons_of_mem _ hm)⟩
  | case5 => simp at h
  | case6 met r rest id hr hmet hs hk ih =>
    rcases List.mem_cons.mp h with rfl | h
    · exact ⟨hs, by simpa using hmet⟩
    · obtain ⟨hshape, hx⟩ := ih h
      exact ⟨hshape, fun hm => hx (List.mem_cons_of_mem _ hm)⟩
  | case7 => simp at h

theorem nodup_expand (s : Schema) (met : List TypeId) (refs : List TypeRef) :
    (s.expand met refs).products.Nodup := by
  fun_induction expand s met refs with
  | case1 => exact List.nodup_nil
  | case2 => exact List.nodup_nil
  | case3 met r rest id hr hmet ih => exact ih
  | case4 met r rest id hr hmet hs ih => exact ih
  | case5 => exact List.nodup_nil
  | case6 met r rest id hr hmet hs hk ih =>
    refine List.nodup_cons.mpr ⟨fun h => ?_, ih⟩
    exact (mem_expand h).2 (by simp)
  | case7 => exact List.nodup_nil

theorem enter_values {name : String} {table table' : DispatchTable} {ids : List TypeId}
    (h : s.enter g name table ids = .ok table') :
    table'.map Prod.snd = table.map Prod.snd ++ ids := by
  fun_induction enter s g name table ids with
  | case1 table =>
    cases h
    simp
  | case2 => cases h
  | case3 => cases h
  | case4 table id rest symbol hs hl ih =>
    rw [ih h]
    simp

/-- The products of a dispatch table are those of its type, in the same order. -/
theorem dispatch_values {table : DispatchTable} (h : s.dispatch g target = .ok table) :
    table.map Prod.snd = (s.variants target).products := by
  unfold dispatch at h
  cases he : s.enter g (s.nameOf target) [] (s.variants target).products with
  | error e => simp [he] at h
  | ok entered =>
    cases hf : (s.variants target).fault with
    | some e => simp [he, hf] at h
    | none =>
      simp only [he, hf, Except.ok.injEq] at h
      rw [← h, enter_values he]
      rfl

theorem mem_variants_of_lookup {table : DispatchTable} {symbol : Int}
    (h : s.dispatch g target = .ok table) (hl : table.lookup symbol = some id) :
    id ∈ (s.variants target).products := by
  rw [← dispatch_values h]
  exact List.mem_map.mpr ⟨_, mem_of_lookup_eq_some hl, rfl⟩

/-- The types that a build into a type may come to, by the child fields of its products. -/
inductive Reaches (s : Schema) (g : Grammar) : TypeId → TypeId → Prop
  | self (target : TypeId) : Reaches s g target target
  | element {target element other id : TypeId} {table : DispatchTable} {plan : Plan} {slot : Slot}
      {bucket name : String} {cardinality : Cardinality}
      (dispatch : s.dispatch g target = .ok table) (product : id ∈ table.map Prod.snd)
      (planned : s.plan id = .ok plan) (mem : slot ∈ plan.slots)
      (child : slot.rule = .child bucket name cardinality element)
      (rest : Reaches s g element other) : Reaches s g target other

/-- Every type in reach has a dispatch table, and all its products have plans whose fields pass
where they are checked. -/
def WellDeclared (s : Schema) (g : Grammar) (validate : Bool) (target : TypeId) : Prop :=
  ∀ type, s.Reaches g target type → ∃ table, s.dispatch g type = .ok table ∧
    ∀ id ∈ table.map Prod.snd, (∃ plan, s.plan id = .ok plan) ∧
      (validate = true → s.checkFields g id = .ok ())

theorem WellDeclared.element {validate : Bool} {element : TypeId} {table : DispatchTable}
    {plan : Plan} {slot : Slot} {bucket name : String} {cardinality : Cardinality}
    (h : s.WellDeclared g validate target) (dispatch : s.dispatch g target = .ok table)
    (product : id ∈ table.map Prod.snd) (planned : s.plan id = .ok plan)
    (mem : slot ∈ plan.slots) (child : slot.rule = .child bucket name cardinality element) :
    s.WellDeclared g validate element :=
  fun _ hreach => h _ (.element dispatch product planned mem child hreach)

/-- What the target has, and an element has if the type with the field has it, all types in reach
have. -/
theorem Reaches.invariant {P : TypeId → Prop} {type : TypeId} (h : s.Reaches g target type)
    (htarget : P target) (hstep : ∀ type, P type → ∃ table, s.dispatch g type = .ok table ∧
      ∀ id ∈ table.map Prod.snd, ∃ plan, s.plan id = .ok plan ∧ ∀ slot ∈ plan.slots,
        ∀ bucket name cardinality element,
          slot.rule = .child bucket name cardinality element → P element) : P type := by
  induction h with
  | self => exact htarget
  | element dispatch product planned mem child rest ih =>
    obtain ⟨table, ht, hproducts⟩ := hstep _ htarget
    cases ht.symm.trans dispatch
    obtain ⟨plan, hplan, helements⟩ := hproducts _ product
    cases hplan.symm.trans planned
    exact ih (helements _ mem _ _ _ _ child)

end Schema

/-! A small language: numbers, sums of two expressions, and expressions, which refer to
themselves. -/

namespace Sums

def grammar : Grammar :=
  { kinds := [("number", true, 1), ("sum", true, 2)], fields := ["left", "right"] }

def schema : Schema :=
  Schema.prelude ++
    [{ name := "Number", path := "sums.Number", shape := .product
       layers := [{ owner := "Number", kind := some "number"
                    fields := [⟨"place", .fixed (.tuple [.pos, .unit])⟩] }, Schema.rootLayer] },
     { name := "Expression", path := "sums.Expression", shape := .sum
       layers := [{ owner := "Expression"
                    variants := some [.direct 9, .deferred "Expression" 10, .deferred "Sum" 11]
                    laidOut := false }, Schema.choiceLayer] },
     { name := "Sum", path := "sums.Sum", shape := .product
       layers := [{ owner := "Sum", kind := some "sum"
                    fields := [⟨"left", .child (.direct 10) .required ""⟩,
                      ⟨"right", .child (.direct 10) .required ""⟩] }, Schema.rootLayer] }]

theorem variants_expression : schema.variants 10 = ⟨[9, 11], none⟩ := by
  rw [Schema.variants, Schema.expand_sum rfl (by simp) rfl]
  change schema.expand [10] [.direct 9, .deferred "Expression" 10, .deferred "Sum" 11] = _
  rw [Schema.expand_product rfl (by simp) rfl rfl, Schema.expand_met rfl (by simp),
    Schema.expand_product rfl (by simp) rfl rfl, Schema.expand]
  rfl

theorem dispatch_expression : schema.dispatch grammar 10 = .ok [(1, 9), (2, 11)] := by
  rw [Schema.dispatch, variants_expression]
  rfl

end Sums

end TypedTree
