import TypedTree.Build.State
import TypedTree.Proofs.Variants

/-! # Sound caches

A symbol table and the cache of plans are sound if all they remember is what the declarations give
when they are asked afresh, for a grammar that answers as the table's own does. Asking a sound cache
gives the fresh answer and leaves it sound, also where the answer is a fault. -/

namespace TypedTree

/-- Two grammars that answer every question alike. -/
structure Grammar.Alike (a b : Grammar) : Prop where
  symbol (kind : String) (named : Bool) : a.symbol? kind named = b.symbol? kind named
  kindName (symbol : Int) : a.kindName? symbol = b.kindName? symbol
  field (name : String) : a.hasField name = b.hasField name

namespace Grammar.Alike

theorem refl (g : Grammar) : g.Alike g := ⟨fun _ _ => rfl, fun _ => rfl, fun _ => rfl⟩

theorem symm {a b : Grammar} (h : a.Alike b) : b.Alike a :=
  ⟨fun kind named => (h.symbol kind named).symm, fun symbol => (h.kindName symbol).symm,
    fun name => (h.field name).symm⟩

theorem trans {a b c : Grammar} (h : a.Alike b) (k : b.Alike c) : a.Alike c :=
  ⟨fun kind named => (h.symbol kind named).trans (k.symbol kind named),
    fun symbol => (h.kindName symbol).trans (k.kindName symbol),
    fun name => (h.field name).trans (k.field name)⟩

variable {a b : Grammar}

theorem symbolFor_eq (h : a.Alike b) (s : Schema) (id : TypeId) :
    s.symbolFor a id = s.symbolFor b id := by
  simp only [Schema.symbolFor, h.symbol]

theorem enter_eq (h : a.Alike b) (s : Schema) (target : String) (table : DispatchTable)
    (ids : List TypeId) : s.enter a target table ids = s.enter b target table ids := by
  induction ids generalizing table with
  | nil => rfl
  | cons id rest ih => simp only [Schema.enter, h.symbolFor_eq, ih]

theorem dispatch_eq (h : a.Alike b) (s : Schema) (target : TypeId) :
    s.dispatch a target = s.dispatch b target := by
  simp only [Schema.dispatch, h.enter_eq]

theorem nameFor_eq (h : a.Alike b) (symbol : Int) : a.nameFor symbol = b.nameFor symbol := by
  simp only [Grammar.nameFor, h.kindName]

theorem expected_eq (h : a.Alike b) (s : Schema) (table : DispatchTable) :
    table.expected s a = table.expected s b := by
  simp only [DispatchTable.expected, h.nameFor_eq]

theorem planCheck_eq (h : a.Alike b) (s : Schema) (p : Plan) :
    p.checkFields s a = p.checkFields s b := by
  simp only [Plan.checkFields, Plan.unknownField?, h.field]

theorem checkFields_eq (h : a.Alike b) (s : Schema) (id : TypeId) :
    s.checkFields a id = s.checkFields b id := by
  simp only [Schema.checkFields, h.planCheck_eq]

end Grammar.Alike

variable {s : Schema} {g : Grammar}

def PlanCache.Sound (s : Schema) (plans : PlanCache) : Prop :=
  ∀ id p, (id, p) ∈ plans → s.plan id = .ok p

structure SymbolTable.Sound (s : Schema) (g : Grammar) (table : SymbolTable) : Prop where
  grammar : table.grammar.Alike g
  dispatch : ∀ target d, (target, d) ∈ table.dispatch → s.dispatch g target = .ok d
  checked : ∀ id ∈ table.checked, s.checkFields g id = .ok ()

theorem PlanCache.sound_nil (s : Schema) : PlanCache.Sound s [] := by
  intro id p h
  simp at h

theorem SymbolTable.sound_fresh {h : Grammar} (s : Schema) (hg : h.Alike g) :
    SymbolTable.Sound s g { grammar := h } :=
  ⟨hg, fun _ _ hm => by simp at hm, fun _ hm => by simp at hm⟩

theorem SymbolTable.Sound.of_alike {table : SymbolTable} {h : Grammar} (hs : table.Sound s g)
    (hg : g.Alike h) : table.Sound s h where
  grammar := hs.grammar.trans hg
  dispatch target d hm := (hg.dispatch_eq s target).symm.trans (hs.dispatch target d hm)
  checked id hm := (hg.checkFields_eq s id).symm.trans (hs.checked id hm)

theorem PlanCache.planFor_answer {plans : PlanCache} (h : plans.Sound s) (id : TypeId) :
    (plans.planFor s id).1 = s.plan id := by
  unfold planFor
  cases hl : plans.lookup id with
  | some p => exact (h id p (mem_of_lookup_eq_some hl)).symm
  | none => cases hp : s.plan id <;> rfl

theorem PlanCache.planFor_sound {plans : PlanCache} (h : plans.Sound s) (id : TypeId) :
    (plans.planFor s id).2.Sound s := by
  unfold planFor
  cases plans.lookup id with
  | some p => exact h
  | none =>
    cases hp : s.plan id with
    | error e => exact h
    | ok p =>
      intro i q hm
      rcases List.mem_append.mp hm with hm | hm
      · exact h i q hm
      · obtain ⟨rfl, rfl⟩ : i = id ∧ q = p := by simpa using hm
        exact hp

namespace SymbolTable

variable {table : SymbolTable}

theorem dispatchFor_answer (h : table.Sound s g) (target : TypeId) :
    (table.dispatchFor s target).1 = s.dispatch g target := by
  unfold dispatchFor
  cases hl : table.dispatch.lookup target with
  | some d => exact (h.dispatch target d (mem_of_lookup_eq_some hl)).symm
  | none =>
    rw [← h.grammar.dispatch_eq]
    cases s.dispatch table.grammar target <;> rfl

theorem dispatchFor_sound (h : table.Sound s g) (target : TypeId) :
    (table.dispatchFor s target).2.1.Sound s g := by
  unfold dispatchFor
  cases table.dispatch.lookup target with
  | some d => exact h
  | none =>
    cases hd : s.dispatch table.grammar target with
    | error e => exact h
    | ok d =>
      refine ⟨h.grammar, fun i q hm => ?_, h.checked⟩
      rcases List.mem_append.mp hm with hm | hm
      · exact h.dispatch i q hm
      · obtain ⟨rfl, rfl⟩ : i = target ∧ q = d := by simpa using hm
        rw [← h.grammar.dispatch_eq]
        exact hd

theorem dispatchFor_grammar (table : SymbolTable) (s : Schema) (target : TypeId) :
    (table.dispatchFor s target).2.1.grammar = table.grammar := by
  unfold dispatchFor
  cases table.dispatch.lookup target with
  | some d => rfl
  | none => cases s.dispatch table.grammar target <;> rfl

theorem checkFields_grammar (table : SymbolTable) (s : Schema) (id : TypeId) (plans : PlanCache) :
    (table.checkFields s id plans).2.1.grammar = table.grammar := by
  unfold checkFields
  by_cases hc : table.checked.contains id = true
  · rw [if_pos hc]
  · rw [if_neg hc]
    rcases plans.planFor s id with ⟨answer, plans'⟩
    cases answer with
    | error e => rfl
    | ok plan =>
      simp only
      cases plan.checkFields s table.grammar <;> rfl

variable {plans : PlanCache}

theorem checkFields_answer (h : table.Sound s g) (hp : plans.Sound s) (id : TypeId) :
    (table.checkFields s id plans).1 = s.checkFields g id := by
  unfold checkFields
  by_cases hc : table.checked.contains id = true
  · rw [if_pos hc]
    exact (h.checked id (by simpa using hc)).symm
  · rw [if_neg hc]
    have hplan := PlanCache.planFor_answer hp id
    rcases hq : plans.planFor s id with ⟨answer, plans'⟩
    rw [hq] at hplan
    unfold Schema.checkFields
    rw [← hplan]
    cases answer with
    | error e => rfl
    | ok plan =>
      simp only [← h.grammar.planCheck_eq]
      cases plan.checkFields s table.grammar <;> rfl

theorem checkFields_sound (h : table.Sound s g) (hp : plans.Sound s) (id : TypeId) :
    (table.checkFields s id plans).2.1.Sound s g := by
  have hanswer := checkFields_answer h hp id
  unfold checkFields at hanswer ⊢
  by_cases hc : table.checked.contains id = true
  · rw [if_pos hc]
    exact h
  · rw [if_neg hc] at hanswer ⊢
    rcases hq : plans.planFor s id with ⟨answer, plans'⟩
    rw [hq] at hanswer
    cases answer with
    | error e => exact h
    | ok plan =>
      simp only at hanswer ⊢
      cases hk : plan.checkFields s table.grammar with
      | error e => exact h
      | ok _ =>
        rw [hk] at hanswer
        refine ⟨h.grammar, h.dispatch, fun i hm => ?_⟩
        rcases List.mem_cons.mp hm with rfl | hm
        · exact hanswer.symm
        · exact h.checked i hm

theorem checkFields_plans (table : SymbolTable) (hp : plans.Sound s) (id : TypeId) :
    (table.checkFields s id plans).2.2.Sound s := by
  have hs := PlanCache.planFor_sound hp id
  unfold checkFields
  by_cases hc : table.checked.contains id = true
  · rw [if_pos hc]
    exact hp
  · rw [if_neg hc]
    rcases hq : plans.planFor s id with ⟨answer, plans'⟩
    rw [hq] at hs
    cases answer with
    | error e => exact hs
    | ok plan =>
      simp only
      cases plan.checkFields s table.grammar <;> exact hs

end SymbolTable

end TypedTree
