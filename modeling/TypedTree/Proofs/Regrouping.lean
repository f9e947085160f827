import TypedTree.Proofs.Grouping
import TypedTree.Proofs.Simulation
import TypedTree.Proofs.Violations

/-! # Builds do not see how variants are grouped

A change to how the variants of sums are ordered and grouped changes the order of dispatch tables
and nothing else. The order shows in no product that is chosen, and not in a report either: there
the alternatives are sorted. So builds have the same result before and after the change. -/

namespace TypedTree

theorem inOrder_antisymm {as bs : List Char} (hab : inOrder as bs = true)
    (hba : inOrder bs as = true) : as = bs := by
  induction as generalizing bs with
  | nil =>
    cases bs with
    | nil => rfl
    | cons b bs => simp [inOrder] at hba
  | cons a as ih =>
    cases bs with
    | nil => simp [inOrder] at hab
    | cons b bs =>
      simp only [inOrder, Bool.or_eq_true, Bool.and_eq_true, decide_eq_true_eq] at hab hba
      rcases hab with hlt | ⟨hnat, hab⟩
      · rcases hba with hgt | ⟨heq, -⟩ <;> omega
      · rcases hba with hgt | ⟨-, hba⟩
        · omega
        · rw [ih hab hba, Char.toNat_inj.mp hnat]

/-- Sorting forgets in which order the texts came. -/
theorem sortStrings_eq_of_perm {xs ys : List String} (h : xs.Perm ys) :
    sortStrings xs = sortStrings ys := by
  have hperm : (sortStrings xs).Perm (sortStrings ys) :=
    (sortStrings_perm xs).trans (h.trans (sortStrings_perm ys).symm)
  refine hperm.eq_of_pairwise (fun a b _ _ hab hba => ?_) (sortStrings_sorted xs)
    (sortStrings_sorted ys)
  exact String.toList_inj.mp (inOrder_antisymm hab hba)

/-- The same mismatch, with the alternatives in the order in which they are reported. -/
def Mismatch.sorted : Mismatch → Mismatch
  | noMatch target expected site => noMatch target (sortStrings expected) site
  | m => m

theorem Mismatch.report_sorted (m : Mismatch) : m.sorted.report = m.report := by
  cases m with
  | noMatch target expected site =>
    simp only [sorted, report, sortStrings_eq_of_perm (sortStrings_perm expected)]
  | _ => rfl

def Stop.sorted : Stop → Stop
  | mismatch m => mismatch m.sorted
  | stop => stop

namespace Account

variable {α β : Type}

/-- The two accounts cost the same, and end alike but for the order of alternatives. -/
def SameReport (α : Type) (x y : Account α) : Prop :=
  y.cost = x.cost ∧ y.ending.mapError Stop.sorted = x.ending.mapError Stop.sorted

theorem sameReport_congruence : Congruence SameReport where
  refl x := ⟨rfl, rfl⟩
  bind {α β x y f h} first rest := by
    obtain ⟨hcost, hending⟩ := first
    cases hx : x.ending with
    | error e =>
      cases hy : y.ending with
      | ok b =>
        rw [hx, hy] at hending
        cases hending
      | error e' =>
        rw [hx, hy] at hending
        have hstop : e'.sorted = e.sorted := Except.error.inj hending
        rw [bind_error hx, bind_error hy]
        exact ⟨hcost, congrArg Except.error hstop⟩
    | ok a =>
      cases hy : y.ending with
      | error e =>
        rw [hx, hy] at hending
        cases hending
      | ok b =>
        rw [hx, hy] at hending
        cases hending
        obtain ⟨hcost', hending'⟩ := rest a hx
        rw [bind_ok hx, bind_ok hy]
        exact ⟨by rw [hcost, hcost'], hending'⟩

end Account

namespace Schema

variable {s s' : Schema} {g : Grammar} {id target : TypeId}

theorem plan_eq_of_sameBody (h : (s.decl id).SameBody (s'.decl id)) : s'.plan id = s.plan id := by
  have hshown : (s'.decl id).shown = (s.decl id).shown := by rw [Decl.shown, h.path, Decl.shown]
  have hslots : FieldDecl.slot s' (s'.decl id).name = FieldDecl.slot s (s.decl id).name := by
    rw [h.name]
    exact funext (slot_eq s s' _)
  simp only [plan, h.laidOut, h.fields, hshown, hslots]

theorem checkFields_eq_of_sameBody (h : (s.decl id).SameBody (s'.decl id)) :
    s'.checkFields g id = s.checkFields g id := by
  unfold checkFields
  rw [plan_eq_of_sameBody h]
  cases hp : s.plan id with
  | error e => rfl
  | ok plan => simp only [Plan.checkFields, nameOf, (slots_of_plan_ok hp).2, h.name]

theorem expected_perm {table table' : DispatchTable} (h : table'.Perm table)
    (hnames : ∀ e ∈ table, s'.nameOf e.2 = s.nameOf e.2) :
    (table'.expected s' g).Perm (table.expected s g) := by
  have heq : table.expected s' g = table.expected s g := by
    refine List.map_congr_left fun e he => ?_
    simp only [hnames e he]
  rw [← heq]
  exact h.map _

/-- Every type in reach of the target has a dispatch table. -/
def Tabled (s : Schema) (g : Grammar) (target : TypeId) : Prop :=
  ∀ type, s.Reaches g target type → ∃ table, s.dispatch g type = .ok table

theorem Tabled.lt_length (h : s.Tabled g target) : target < s.length := by
  obtain ⟨table, ht⟩ := h target (.self target)
  obtain ⟨id, hid, hshape⟩ := (dispatchable_of_dispatch ht).usable _ (.here _)
  cases hid
  refine lt_length_of_shape fun hforeign => ?_
  rcases hshape with hshape | ⟨hshape, -⟩ <;> cases hforeign.symm.trans hshape

theorem Tabled.element {element : TypeId} {table : DispatchTable} {plan : Plan} {slot : Slot}
    {bucket name : String} {cardinality : Cardinality} (h : s.Tabled g target)
    (dispatch : s.dispatch g target = .ok table) (product : id ∈ table.map Prod.snd)
    (planned : s.plan id = .ok plan) (mem : slot ∈ plan.slots)
    (child : slot.rule = .child bucket name cardinality element) : s.Tabled g element :=
  fun _ hreach => h _ (.element dispatch product planned mem child hreach)

theorem hasElement_of_slot {element : TypeId} {plan : Plan} {slot : Slot} {bucket name : String}
    {cardinality : Cardinality} (hp : s.plan id = .ok plan) (hslot : slot ∈ plan.slots)
    (hr : slot.rule = .child bucket name cardinality element) : s.HasElement id element := by
  obtain ⟨f, hmem, hbecomes⟩ := exists_field_of_slot hp hslot
  cases hbecomes with
  | child resolved =>
    cases hr
    exact ⟨_, hmem, _, _, _, rfl, resolved⟩
  | requested => cases hr
  | fixed compiled => cases hr

/-- The tables in reach can be built before a change if they can be after it. -/
theorem Regrouped.tabled (h : s.Regrouped s') (htarget : target < s.length)
    (htabled : s'.Tabled g target) : s.Tabled g target := by
  intro type hreach
  induction hreach with
  | self target =>
    obtain ⟨table', ht'⟩ := htabled target (.self target)
    exact ((h.dispatchable_iff htarget).mp (dispatchable_of_dispatch ht')).dispatch
  | @element target element other id table plan slot bucket name cardinality dispatch product
      planned mem child rest ih =>
    obtain ⟨table', ht', hperm, -⟩ := h.dispatch_perm htarget dispatch
    have hid : id ∈ table'.map Prod.snd := (hperm.map Prod.snd).mem_iff.mpr product
    have hlt : id < s.length := by
      obtain ⟨e, he, rfl⟩ := List.mem_map.mp product
      exact lt_length_of_yields ((mem_dispatch_iff dispatch).mp he).1
    have hplan : s'.plan id = .ok plan := (plan_eq_of_sameBody (h.sameBody hlt)).trans planned
    have helement : s'.Tabled g element := htabled.element ht' hid hplan mem child
    refine ih ?_ helement
    -- A field of the family before the change mentions no declaration that is new.
    obtain ⟨i, hi, hshape⟩ := (dispatchable_of_dispatch
      (helement element (.self element)).choose_spec).usable _ (.here _)
    cases hi
    refine Nat.lt_of_not_le fun hle => ?_
    have hforeign := h.elements id _ (hasElement_of_slot planned mem child) hle
    rcases hshape with hshape | ⟨hshape, -⟩ <;> cases hforeign.symm.trans hshape

end Schema

namespace BuildContext

variable {ctx : BuildContext} {s : Schema} {g : Grammar} {target id : TypeId} {info : NodeInfo}

theorem matched_regrouped (h : ctx.schema.Regrouped s) (htarget : ctx.schema.Tabled g target)
    (info : NodeInfo) : Account.SameReport TypeId (.still (ctx.matched g target info))
      (.still ((ctx.declaring s).matched g target info)) := by
  have hlt := htarget.lt_length
  obtain ⟨table, ht⟩ := htarget target (.self target)
  obtain ⟨table', ht', hperm, hlookup⟩ := h.dispatch_perm hlt ht
  have hd : (ctx.declaring s).schema.dispatch g target = .ok table' := ht'
  cases hl : table.lookup info.symbol with
  | some id =>
    rw [matched_some ht hl, matched_some hd ((hlookup _).trans hl)]
    exact Account.sameReport_congruence.refl _
  | none =>
    rw [matched_none ht hl, matched_none hd ((hlookup _).trans hl)]
    have hexpected : (table'.expected s g).Perm (table.expected ctx.schema g) := by
      refine Schema.expected_perm hperm fun e he => ?_
      have hid := Schema.lt_length_of_yields ((Schema.mem_dispatch_iff ht).mp he).1
      exact (h.sameBody hid).name
    have hname : s.nameOf target = ctx.schema.nameOf target := (h.sameBody hlt).name
    refine ⟨rfl, ?_⟩
    simp only [Account.still, Except.mapError, Stop.sorted, Mismatch.sorted, declaring, hname,
      sortStrings_eq_of_perm hexpected]

theorem admitted_regrouped (h : ctx.schema.Regrouped s) (hid : id < ctx.schema.length) :
    (ctx.declaring s).admitted g id = ctx.admitted g id := by
  have hbody := h.sameBody hid
  simp only [admitted, declaring, Schema.checkFields_eq_of_sameBody hbody,
    Schema.plan_eq_of_sameBody hbody]

theorem simulated_regrouped (h : ctx.schema.Regrouped s) :
    ctx.Simulated Account.SameReport g s fun target => ctx.schema.Tabled g target where
  congruence := Account.sameReport_congruence
  matched target htarget info := matched_regrouped h htarget info
  admitted target htarget info id hid plan hplan := by
    refine ⟨plan, (admitted_regrouped h (lt_length_of_matched hid)).trans hplan, ?_⟩
    refine List.forall₂_same.mpr fun slot hslot => ?_
    refine .self Account.sameReport_congruence fun bucket name cardinality element hrule => ?_
    obtain ⟨table, ht, hproduct⟩ := product_of_matched hid
    exact htarget.element ht hproduct (plan_of_admitted hplan) hslot hrule
  refused target _ info id hid e _ := by
    rw [admitted_regrouped h (lt_length_of_matched hid)]
    exact Account.sameReport_congruence.refl _

end BuildContext

namespace BuildRequest

variable {r : BuildRequest} {s : Schema} {g : Grammar} {table table' : SymbolTable}
  {plans plans' : PlanCache} {target : TypeId}

theorem exists_error_iff {ε α : Type} {x : Except ε α} :
    (∃ e, x = .error e) ↔ ¬ ∃ a, x = .ok a := by
  cases x <;> simp

theorem resultOf_eq_of_sorted (hname : s.nameOf target = r.schema.nameOf target)
    {ending ending' : Except Stop Value}
    (h : ending'.mapError Stop.sorted = ending.mapError Stop.sorted) :
    (r.declaring s).resultOf target ending' = r.resultOf target ending ∧
      ∀ calls, walkOf calls ending' = walkOf calls ending := by
  have hsorted (r : BuildRequest) (ending : Except Stop Value) :
      r.resultOf target (ending.mapError Stop.sorted) = r.resultOf target ending ∧
        ∀ calls, walkOf calls (ending.mapError Stop.sorted) = walkOf calls ending := by
    rcases ending with (m | e | _) | v
    · simp only [Except.mapError, Stop.sorted, resultOf, Mismatch.report_sorted, walkOf,
        implies_true, and_self]
    all_goals exact ⟨rfl, fun _ => rfl⟩
  have hdeclaring : (r.declaring s).resultOf target ending' = r.resultOf target ending' := by
    rcases ending' with (m | e | _) | v
    · rfl
    · rfl
    · simp only [resultOf, declaring, hname]
    · rfl
  constructor
  · rw [hdeclaring, ← (hsorted r ending').1, h, (hsorted r ending).1]
  · intro calls
    rw [← (hsorted r ending').2, h, (hsorted r ending).2]

theorem run_regrouped_of_tabled (h : r.schema.Regrouped s) (htable : table.Sound r.schema g)
    (hplans : plans.Sound r.schema) (htable' : table'.Sound s g) (hplans' : plans'.Sound s)
    (htabled : ∀ target, r.target.asTarget = .ok target → r.schema.Tabled g target) :
    ((r.declaring s).run table' plans').result = (r.run table plans).result ∧
      ((r.declaring s).run table' plans').walk = (r.run table plans).walk := by
  by_cases hready : ∃ root e target, r.root = some root ∧ r.requested.compile = .ok e ∧
      r.target.asTarget = .ok target
  · obtain ⟨root, e, target, hroot, hspec, htarget⟩ := hready
    have hreach := htabled target htarget
    have hsimulated : (r.context e).Simulated Account.SameReport g s fun target =>
        r.schema.Tabled g target := BuildContext.simulated_regrouped h
    obtain ⟨hcost, hending⟩ := BuildContext.account_simulated hsimulated levelLimit hreach root
    have hname : s.nameOf target = r.schema.nameOf target := (h.sameBody hreach.lt_length).name
    obtain ⟨hresult, hwalk, -⟩ := run_account hroot hspec htarget htable hplans
    obtain ⟨hresult', hwalk', -⟩ :=
      run_account (r := r.declaring s) hroot hspec htarget htable' hplans'
    obtain ⟨heq, hwalks⟩ := resultOf_eq_of_sorted hname hending
    rw [hresult, hresult', hwalk, hwalk']
    exact ⟨heq, (hwalks _).trans (congrArg (walkOf · _) hcost)⟩
  · exact run_declaring_of_unready s table table' plans plans' hready

/-- However the variants of sums are ordered and grouped, a type has a dispatch table or has none,
and builds have the same result and take the same moves. The tables in reach of the target have to
exist with one of the two families. -/
theorem run_regrouped (h : Relation.ReflTransGen Schema.Regroups r.schema s)
    (htable : table.Sound r.schema g) (hplans : plans.Sound r.schema) (htable' : table'.Sound s g)
    (hplans' : plans'.Sound s) :
    (∀ type < r.schema.length, (∃ f, (table.dispatchFor r.schema type).1 = .error f) ↔
        ∃ f, (table'.dispatchFor s type).1 = .error f) ∧
      ((∀ target, r.target.asTarget = .ok target → target < r.schema.length ∧
          (r.schema.Tabled g target ∨ s.Tabled g target)) →
        ((r.declaring s).run table' plans').result = (r.run table plans).result ∧
          ((r.declaring s).run table' plans').walk = (r.run table plans).walk) := by
  have hregrouped := Schema.regrouped_of_steps h
  constructor
  · intro type htype
    rw [SymbolTable.dispatchFor_answer htable, SymbolTable.dispatchFor_answer htable']
    rw [exists_error_iff, exists_error_iff, Schema.exists_dispatch_iff, Schema.exists_dispatch_iff,
      hregrouped.dispatchable_iff htype]
  · intro htabled
    refine run_regrouped_of_tabled hregrouped htable hplans htable' hplans' fun target htarget => ?_
    obtain ⟨hlt, hs | hs⟩ := htabled target htarget
    · exact hs
    · exact hregrouped.tabled hlt hs

end BuildRequest

namespace Sums

def expressionOf (variants : List TypeRef) : Decl :=
  { name := "Expression", path := "sums.Expression", shape := .sum
    layers := [{ owner := "Expression", variants := some variants, laidOut := false },
      Schema.choiceLayer] }

def compound : Decl :=
  { name := "Compound", path := "sums.Compound", shape := .sum
    layers := [{ owner := "Compound"
                 variants := some [.deferred "Expression" 10, .deferred "Sum" 11]
                 laidOut := false }, Schema.choiceLayer] }

/-- Two variants of an expression are wrapped in a sum of their own. -/
def wrapped : Schema :=
  (schema ++ [compound]).set 10 (expressionOf [.direct 9, .deferred "Compound" 12])

/-- And that sum comes first. -/
def regrouped : Schema := wrapped.set 10 (expressionOf [.deferred "Compound" 12, .direct 9])

theorem schema_regroups : Relation.ReflTransGen Schema.Regroups schema regrouped := by
  have hfresh : ¬ schema.Mentions schema.length := by decide +kernel
  have hold : (schema.decl 10).variants = [.direct 9] ++ compound.variants ++ [] := rfl
  have hnew : (wrapped.decl 10).variants = [.direct 9] ++ .deferred "Compound" 12 :: [] := rfl
  have hwrap : schema.Regroups wrapped :=
    .wrap hfresh rfl (by decide) (.set rfl) rfl hold hnew
  have hpermute : wrapped.Regroups regrouped := .permute (.set rfl) (.swap _ _ [])
  exact .tail (.single hwrap) hpermute

def stray : Tree := .node ⟨7, "name", true, false, 0, 1, ⟨0, 0⟩, ⟨0, 1⟩⟩ none []

theorem plain_stray : context.plain grammar 10 stray =
    .error (.mismatch (.noMatch "Expression" ["Number (number, symbol 1)", "Sum (sum, symbol 2)"]
      stray.info.site)) := by
  rw [BuildContext.plain_eq, BuildContext.matched_none dispatch_expression rfl]
  rfl

theorem tabled_expression : schema.Tabled grammar 10 := by
  intro type h
  obtain ⟨table, ht, -⟩ := wellDeclared_expression false type h
  exact ⟨table, ht⟩

theorem stray_regrouped : Relation.ReflTransGen Schema.Regroups schema regrouped ∧
    (((request stray).declaring regrouped).run { grammar } []).result =
      .ok { failure := some (Mismatch.noMatch "Expression"
        ["Number (number, symbol 1)", "Sum (sum, symbol 2)"] stray.info.site).report } := by
  have hresult := result_request (t := stray) (by decide)
  rw [plain_stray] at hresult
  obtain ⟨-, hsame⟩ := BuildRequest.run_regrouped (r := request stray) schema_regroups
    (SymbolTable.sound_fresh schema (.refl grammar)) (PlanCache.sound_nil schema)
    (SymbolTable.sound_fresh regrouped (.refl grammar)) (PlanCache.sound_nil regrouped)
  have htabled : ∀ target, (request stray).target.asTarget = .ok target →
      target < schema.length ∧
        (schema.Tabled grammar target ∨ regrouped.Tabled grammar target) := by
    rintro target ⟨⟩
    exact ⟨by decide, .inl tabled_expression⟩
  exact ⟨schema_regroups, (hsame htabled).1.trans hresult⟩

end Sums

end TypedTree
