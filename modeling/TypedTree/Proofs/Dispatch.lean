import TypedTree.Proofs.Caches
import TypedTree.Proofs.Flattening

/-! # Dispatch tables are exact

A type has a dispatch table exactly if all references in reach can be used, all products in reach
have a symbol, and no two of them have the same one. The table then has one entry for each product,
under its symbol, in the order of the variants. If only the symbols clash, the fault names the first
product whose symbol was taken and the product that had taken it. -/

namespace TypedTree

namespace Schema

variable {s : Schema} {g : Grammar} {name : String} {done ids : List TypeId}
  {table table' : DispatchTable} {id target : TypeId} {symbol : Int}

/-- The kind of a product, named as it is, has a symbol other than zero in the grammar. -/
def HasSymbol (s : Schema) (g : Grammar) (id : TypeId) : Prop :=
  ∃ symbol, symbol ≠ 0 ∧
    Grammar.lastOf ((s.decl id).kind, (s.decl id).named) g.symbolEntries = some symbol

theorem hasSymbol_iff : s.HasSymbol g id ↔ ∃ symbol, s.symbolFor g id = .ok symbol := by
  simp only [HasSymbol, symbolFor, Grammar.symbol?]
  cases h : Grammar.lastOf ((s.decl id).kind, (s.decl id).named) g.symbolEntries with
  | none => simp
  | some symbol => by_cases hz : symbol = 0 <;> simp [Option.filter, hz]

/-- A table has the given products in order, each under its symbol and no two under one. -/
structure Entered (s : Schema) (g : Grammar) (ids : List TypeId) (table : DispatchTable) : Prop where
  products : table.map Prod.snd = ids
  symbols : ∀ e ∈ table, s.symbolFor g e.2 = .ok e.1
  keys : (table.map Prod.fst).Nodup

theorem entered_nil : s.Entered g [] [] :=
  ⟨rfl, by simp, List.nodup_nil⟩

theorem Entered.lookup_iff (h : s.Entered g ids table) :
    table.lookup symbol = some id ↔ id ∈ ids ∧ s.symbolFor g id = .ok symbol := by
  rw [lookup_eq_some_of_nodup h.keys, ← h.products]
  constructor
  · exact fun hmem => ⟨List.mem_map.mpr ⟨_, hmem, rfl⟩, h.symbols _ hmem⟩
  · rintro ⟨hid, hsymbol⟩
    obtain ⟨⟨own, i⟩, he, rfl⟩ := List.mem_map.mp hid
    obtain rfl : own = symbol := Except.ok.inj ((h.symbols _ he).symm.trans hsymbol)
    exact he

theorem Entered.snoc (h : s.Entered g done table) (hs : s.symbolFor g id = .ok symbol)
    (hl : table.lookup symbol = none) : s.Entered g (done ++ [id]) (table ++ [(symbol, id)]) := by
  refine ⟨by simp [h.products], fun e he => ?_, ?_⟩
  · rcases List.mem_append.mp he with he | he
    · exact h.symbols e he
    · rw [List.mem_singleton.mp he]
      exact hs
  · have hnew : symbol ∉ table.map Prod.fst := by
      intro hmem
      obtain ⟨e, he, rfl⟩ := List.mem_map.mp hmem
      simpa using List.lookup_eq_none_iff.mp hl e he
    rw [List.map_append, List.nodup_append]
    refine ⟨h.keys, by simp, fun a ha b hb => ?_⟩
    rintro rfl
    obtain rfl : a = symbol := by simpa using hb
    exact hnew ha

theorem entered_of_enter (h : s.Entered g done table) (he : s.enter g name table ids = .ok table') :
    s.Entered g (done ++ ids) table' := by
  induction ids generalizing done table with
  | nil =>
    cases he
    simpa using h
  | cons id rest ih =>
    rw [enter] at he
    cases hs : s.symbolFor g id with
    | error e => simp [hs] at he
    | ok symbol =>
      cases hl : table.lookup symbol with
      | some other => simp [hs, hl] at he
      | none =>
        simp only [hs, hl] at he
        simpa using ih (h.snoc hs hl) he

/-- Products with symbols of their own can all be entered. -/
theorem exists_enter (name : String) (h : s.Entered g done table)
    (hknown : ∀ id ∈ ids, s.HasSymbol g id)
    (hdistinct : (done ++ ids).Pairwise fun a b => s.symbolFor g a ≠ s.symbolFor g b) :
    ∃ table', s.enter g name table ids = .ok table' := by
  induction ids generalizing done table with
  | nil => exact ⟨table, rfl⟩
  | cons id rest ih =>
    obtain ⟨symbol, hs⟩ := hasSymbol_iff.mp (hknown id (by simp))
    have hl : table.lookup symbol = none := by
      cases hl : table.lookup symbol with
      | none => rfl
      | some other =>
        obtain ⟨hother, hsymbol⟩ := h.lookup_iff.mp hl
        have hne := (List.pairwise_append.mp hdistinct).2.2 other hother id (by simp)
        exact absurd (hsymbol.trans hs.symm) hne
    obtain ⟨table', ht⟩ := ih (h.snoc hs hl) (fun i hi => hknown i (by simp [hi]))
      (by simpa using hdistinct)
    refine ⟨table', ?_⟩
    rw [enter]
    simp only [hs, hl, ht]

theorem Entered.pairwise (h : s.Entered g ids table) :
    ids.Pairwise fun a b => s.symbolFor g a ≠ s.symbolFor g b := by
  rw [← h.products, List.pairwise_map]
  refine (List.pairwise_map.mp h.keys).imp_of_mem fun he hf hne heq => hne ?_
  exact Except.ok.inj ((h.symbols _ he).symm.trans (heq.trans (h.symbols _ hf)))

/-- Where symbols clash, entering the products ends at the first one whose symbol is taken. -/
theorem enter_clash (name : String) (h : s.Entered g done table)
    (hknown : ∀ id ∈ ids, s.HasSymbol g id)
    (hclash : ¬ (done ++ ids).Pairwise fun a b => s.symbolFor g a ≠ s.symbolFor g b) :
    ∃ before id after other symbol, ids = before ++ id :: after ∧
      ((done ++ before).Pairwise fun a b => s.symbolFor g a ≠ s.symbolFor g b) ∧
      other ∈ done ++ before ∧ s.symbolFor g other = .ok symbol ∧
      s.symbolFor g id = .ok symbol ∧
      s.enter g name table ids = .error (.duplicateSymbol name symbol (s.nameOf other)
        (s.nameOf id)) := by
  induction ids generalizing done table with
  | nil =>
    rw [List.append_nil] at hclash
    exact absurd h.pairwise hclash
  | cons id rest ih =>
    obtain ⟨symbol, hs⟩ := hasSymbol_iff.mp (hknown id (by simp))
    cases hl : table.lookup symbol with
    | some other =>
      obtain ⟨hother, hsymbol⟩ := h.lookup_iff.mp hl
      refine ⟨[], id, rest, other, symbol, rfl, ?_, ?_, hsymbol, hs, ?_⟩
      · simpa using h.pairwise
      · simpa using hother
      · rw [enter]
        simp only [hs, hl]
    | none =>
      obtain ⟨before, i, after, other, own, rfl, hbefore, hother, hfirst, hsecond, he⟩ :=
        ih (h.snoc hs hl) (fun i hi => hknown i (by simp [hi])) (by simpa using hclash)
      refine ⟨id :: before, i, after, other, own, rfl, by simpa using hbefore,
        by simpa using hother, hfirst, hsecond, ?_⟩
      rw [enter]
      simp only [hs, hl, he]

/-- All that one comes to from a type is declared for the grammar: the references can be used, the
products have symbols, and no two of them have the same one. -/
structure Dispatchable (s : Schema) (g : Grammar) (target : TypeId) : Prop where
  usable : ∀ r, s.Comes (.direct target) r → s.Usable r
  known : ∀ id, s.Yields (.direct target) id → s.HasSymbol g id
  distinct : ∀ id other symbol, s.Yields (.direct target) id → s.Yields (.direct target) other →
    s.symbolFor g id = .ok symbol → s.symbolFor g other = .ok symbol → id = other

theorem entered_of_dispatch (h : s.dispatch g target = .ok table) :
    (s.variants target).fault = none ∧ s.Entered g (s.variants target).products table := by
  unfold dispatch at h
  cases he : s.enter g (s.nameOf target) [] (s.variants target).products with
  | error e => simp [he] at h
  | ok entered =>
    cases hf : (s.variants target).fault with
    | some e => simp [he, hf] at h
    | none =>
      simp only [he, hf, Except.ok.injEq] at h
      subst h
      exact ⟨rfl, entered_of_enter entered_nil he⟩

theorem dispatchable_of_dispatch (h : s.dispatch g target = .ok table) :
    s.Dispatchable g target := by
  obtain ⟨hfault, hentered⟩ := entered_of_dispatch h
  refine ⟨variants_fault_eq_none_iff.mp hfault, fun id hid => ?_, ?_⟩
  · rw [← mem_variants_iff hfault, ← hentered.products] at hid
    obtain ⟨e, he, rfl⟩ := List.mem_map.mp hid
    exact hasSymbol_iff.mpr ⟨_, hentered.symbols e he⟩
  · intro id other symbol hid hother hs ho
    rw [← mem_variants_iff hfault] at hid hother
    have hfirst := hentered.lookup_iff.mpr ⟨hid, hs⟩
    exact Option.some.inj (hfirst.symm.trans (hentered.lookup_iff.mpr ⟨hother, ho⟩))

theorem Dispatchable.dispatch (h : s.Dispatchable g target) :
    ∃ table, s.dispatch g target = .ok table := by
  have hfault : (s.variants target).fault = none := variants_fault_eq_none_iff.mpr h.usable
  have hyields : ∀ id ∈ (s.variants target).products, s.Yields (.direct target) id :=
    fun id hid => yields_of_mem_variants hid
  have hdistinct : (s.variants target).products.Pairwise
      fun a b => s.symbolFor g a ≠ s.symbolFor g b := by
    refine (s.nodup_expand [] [.direct target]).imp_of_mem fun ha hb hne heq => hne ?_
    obtain ⟨symbol, hs⟩ := hasSymbol_iff.mp (h.known _ (hyields _ ha))
    exact h.distinct _ _ symbol (hyields _ ha) (hyields _ hb) hs (heq.symm.trans hs)
  obtain ⟨table, ht⟩ := exists_enter (s.nameOf target) entered_nil
    (fun id hid => h.known id (hyields id hid)) hdistinct
  refine ⟨table, ?_⟩
  simp only [Schema.dispatch, ht, hfault]

theorem exists_dispatch_iff : (∃ table, s.dispatch g target = .ok table) ↔ s.Dispatchable g target :=
  ⟨fun ⟨_, ht⟩ => dispatchable_of_dispatch ht, Dispatchable.dispatch⟩

theorem mem_dispatch_iff {table : DispatchTable} (ht : s.dispatch g target = .ok table)
    {e : Int × TypeId} :
    e ∈ table ↔ s.Yields (.direct target) e.2 ∧ s.symbolFor g e.2 = .ok e.1 := by
  obtain ⟨hfault, hentered⟩ := entered_of_dispatch ht
  rw [← mem_variants_iff hfault, ← hentered.lookup_iff, lookup_eq_some_of_nodup hentered.keys]

theorem dispatch_clash (husable : ∀ r, s.Comes (.direct target) r → s.Usable r)
    (hknown : ∀ id, s.Yields (.direct target) id → s.HasSymbol g id)
    (hclash : ¬ s.Dispatchable g target) :
    ∃ before id after other symbol,
      (s.variants target).toExcept = .ok (before ++ id :: after) ∧
      (before.Pairwise fun a b => s.symbolFor g a ≠ s.symbolFor g b) ∧ other ∈ before ∧
      s.symbolFor g other = .ok symbol ∧ s.symbolFor g id = .ok symbol ∧
      s.dispatch g target = .error (.duplicateSymbol (s.nameOf target) symbol (s.nameOf other)
        (s.nameOf id)) := by
  have hfault : (s.variants target).fault = none := variants_fault_eq_none_iff.mpr husable
  have hproducts : ∀ id ∈ (s.variants target).products, s.HasSymbol g id :=
    fun id hid => hknown id (yields_of_mem_variants hid)
  have hpairwise : ¬ (s.variants target).products.Pairwise
      fun a b => s.symbolFor g a ≠ s.symbolFor g b := by
    intro hpairwise
    obtain ⟨table, ht⟩ := exists_enter (s.nameOf target) entered_nil hproducts hpairwise
    have hd : s.dispatch g target = .ok table := by
      simp only [Schema.dispatch, ht, hfault]
    exact hclash (dispatchable_of_dispatch hd)
  obtain ⟨before, id, after, other, symbol, hsplit, hbefore, hother, ho, hs, he⟩ :=
    enter_clash (s.nameOf target) entered_nil hproducts hpairwise
  refine ⟨before, id, after, other, symbol, ?_, hbefore, hother, ho, hs, ?_⟩
  · simp only [Expansion.toExcept, hfault, hsplit]
  · simp only [Schema.dispatch, he]

end Schema

/-- A type has a dispatch table exactly if what one comes to from it is declared for the grammar.
The table has one entry for each product, in the order of the variants, and finds a product exactly
under its symbol. Where only symbols clash, the fault names the first product whose symbol was taken
after the one that had taken it. -/
theorem SymbolTable.dispatchFor_exact {s : Schema} {g : Grammar} {symbols : SymbolTable}
    (h : symbols.Sound s g) (target : TypeId) :
    ((∃ table, (symbols.dispatchFor s target).1 = .ok table) ↔ s.Dispatchable g target) ∧
      (∀ table, (symbols.dispatchFor s target).1 = .ok table →
        (∀ symbol id, table.lookup symbol = some id ↔
          s.Yields (.direct target) id ∧ s.symbolFor g id = .ok symbol) ∧
        (∀ id, id ∈ table.map Prod.snd ↔ s.Yields (.direct target) id) ∧
        (table.map Prod.snd).Nodup ∧ (table.map Prod.fst).Nodup ∧
        (s.variants target).toExcept = .ok (table.map Prod.snd)) ∧
      ((∀ r, s.Comes (.direct target) r → s.Usable r) →
        (∀ id, s.Yields (.direct target) id → s.HasSymbol g id) → ¬ s.Dispatchable g target →
        ∃ before id after other symbol,
          (s.variants target).toExcept = .ok (before ++ id :: after) ∧
          (before.Pairwise fun a b => s.symbolFor g a ≠ s.symbolFor g b) ∧ other ∈ before ∧
          s.symbolFor g other = .ok symbol ∧ s.symbolFor g id = .ok symbol ∧
          (symbols.dispatchFor s target).1 = .error (.duplicateSymbol (s.nameOf target) symbol
            (s.nameOf other) (s.nameOf id))) := by
  rw [dispatchFor_answer h]
  refine ⟨⟨?_, Schema.Dispatchable.dispatch⟩, fun table ht => ?_, Schema.dispatch_clash⟩
  · exact fun ⟨_, ht⟩ => Schema.dispatchable_of_dispatch ht
  · obtain ⟨hfault, hentered⟩ := Schema.entered_of_dispatch ht
    rw [hentered.products]
    refine ⟨fun symbol id => ?_, fun id => Schema.mem_variants_iff hfault,
      s.nodup_expand [] [.direct target], hentered.keys, ?_⟩
    · rw [hentered.lookup_iff, Schema.mem_variants_iff hfault]
    · simp only [Schema.Expansion.toExcept, hfault]

namespace Sums

/-- A grammar that has one symbol for numbers and sums. -/
def clashing : Grammar := { grammar with kinds := [("number", true, 1), ("sum", true, 1)] }

theorem expression_clashes : schema.Dispatchable grammar 10 ∧ ¬ schema.Dispatchable clashing 10 ∧
    (SymbolTable.dispatchFor schema 10 { grammar := clashing }).1 =
      .error (.duplicateSymbol "Expression" 1 "Number" "Sum") := by
  have hclash : schema.dispatch clashing 10 =
      .error (.duplicateSymbol "Expression" 1 "Number" "Sum") := by
    rw [Schema.dispatch, variants_expression]
    rfl
  have hsound := SymbolTable.sound_fresh schema (.refl clashing)
  obtain ⟨hiff, htable, -⟩ :=
    SymbolTable.dispatchFor_exact (SymbolTable.sound_fresh schema (.refl grammar)) 10
  obtain ⟨hclashing, -, hfirst⟩ := SymbolTable.dispatchFor_exact hsound 10
  rw [SymbolTable.dispatchFor_answer (SymbolTable.sound_fresh schema (.refl grammar)),
    dispatch_expression] at hiff htable
  have hgood : schema.Dispatchable grammar 10 := hiff.mp ⟨_, rfl⟩
  have hbad : ¬ schema.Dispatchable clashing 10 := by
    rw [← hclashing, SymbolTable.dispatchFor_answer hsound, hclash]
    rintro ⟨_, h⟩
    cases h
  refine ⟨hgood, hbad, ?_⟩
  have hknown : ∀ id, schema.Yields (.direct 10) id → schema.HasSymbol clashing id := by
    intro id hid
    rw [← (htable _ rfl).2.1 id] at hid
    have hid : id = 9 ∨ id = 11 := by simpa using hid
    rcases hid with rfl | rfl <;> exact ⟨1, by decide, rfl⟩
  obtain ⟨before, id, after, other, symbol, hsplit, -, hother, ho, -, he⟩ :=
    hfirst hgood.usable hknown hbad
  rw [variants_expression] at hsplit
  obtain ⟨rfl, rfl⟩ : before = [9] ∧ id = 11 := by
    cases before with
    | nil => simp at hother
    | cons a rest =>
      obtain ⟨rfl, hrest⟩ := List.cons.inj (Except.ok.inj hsplit)
      cases rest with
      | nil => exact ⟨rfl, (List.cons.inj hrest).1.symm⟩
      | cons b later => simp at hrest
  obtain rfl : other = 9 := by simpa using hother
  cases ho
  exact he

end Sums

end TypedTree
