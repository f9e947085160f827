import TypedTree.Build.Run
import TypedTree.Proofs.Caches
import TypedTree.Proofs.Journey

/-! # The engine builds what the plain recursion builds

One cursor and two caches are shared by the whole recursion of a build. From every state whose
caches are sound, and wherever the cursor stands, building a node ends as its journey says and takes
the cursor the same way. So it gives what `BuildContext.plain` gives, as long as the tree does not
nest more deeply than the build may follow. -/

namespace TypedTree

structure BuildState.Sound (s : Schema) (g : Grammar) (st : BuildState) : Prop where
  table : st.table.Sound s g
  plans : st.plans.Sound s

namespace BuildM

variable {α β : Type} {s : Schema} {g : Grammar} {P Q R : Cursor → Prop}

theorem run_bind_ok {m : BuildM α} {f : α → BuildM β} {st st' : BuildState} {a : α}
    (h : m.run st = (.ok a, st')) : (m >>= f).run st = (f a).run st' := by
  change ExceptT.bindCont f (m.run st).1 (m.run st).2 = (f a).run st'
  rw [h]
  rfl

theorem run_bind_error {m : BuildM α} {f : α → BuildM β} {st st' : BuildState} {e : Stop}
    (h : m.run st = (.error e, st')) : (m >>= f).run st = (.error e, st') := by
  change ExceptT.bindCont f (m.run st).1 (m.run st).2 = (.error e, st')
  rw [h]
  rfl

theorem run_get_bind (f : BuildState → BuildM α) (st : BuildState) :
    ((get : BuildM BuildState) >>= f).run st = (f st).run st := rfl

theorem run_set_bind (st' : BuildState) (f : PUnit → BuildM α) (st : BuildState) :
    ((set st' : BuildM PUnit) >>= f).run st = (f ⟨⟩).run st' := rfl

/-- A step of a build always ends with `r`: from every state with sound caches whose cursor is as
`P` says. It leaves the caches sound and the grammar as it was, calls the cursor as often as `cost`
says and, if it does not end the build, leaves it as `Q` says. -/
def Ends (s : Schema) (g : Grammar) (P : Cursor → Prop) (m : BuildM α) (r : Except Stop α)
    (cost : Calls) (Q : Cursor → Prop) : Prop :=
  ∀ st : BuildState, st.Sound s g → P st.cursor →
    ∃ st', m.run st = (r, st') ∧ st'.Sound s g ∧ st'.table.grammar = st.table.grammar ∧
      st'.cursor.calls = st.cursor.calls + cost ∧ ((∃ a, r = .ok a) → Q st'.cursor)

/-- A step of a build ends, and costs, as an account says. -/
abbrev Gives (s : Schema) (g : Grammar) (P : Cursor → Prop) (m : BuildM α) (x : Account α)
    (Q : Cursor → Prop) : Prop :=
  Ends s g P m x.ending x.cost Q

/-- A step of a build always ends with `r` and makes the cursor take the same moves, as `Ends` says
of their number. -/
def Takes (s : Schema) (g : Grammar) (P : Cursor → Prop) (m : BuildM α) (r : Except Stop α)
    (moves : List Move) (Q : Cursor → Prop) : Prop :=
  ∀ st : BuildState, st.Sound s g → P st.cursor →
    ∃ st', m.run st = (r, st') ∧ st'.Sound s g ∧ st'.table.grammar = st.table.grammar ∧
      st'.cursor = st.cursor.walk moves ∧ ((∃ a, r = .ok a) → Q st'.cursor)

/-- A step of a build ends as a journey does, and takes the cursor along it. -/
abbrev Travels (s : Schema) (g : Grammar) (P : Cursor → Prop) (m : BuildM α) (x : Journey α)
    (Q : Cursor → Prop) : Prop :=
  Takes s g P m x.ending x.moves Q

theorem takes_pure (a : α) : Takes s g P (pure a : BuildM α) (.ok a) [] P :=
  fun st hst hP => ⟨st, rfl, hst, rfl, rfl, fun _ => hP⟩

theorem takes_throw (e : Stop) : Takes s g P (throw e : BuildM α) (.error e) [] Q :=
  fun st hst _ => ⟨st, rfl, hst, rfl, rfl, fun ⟨_, h⟩ => by cases h⟩

theorem Takes.bind_ok {m : BuildM α} {f : α → BuildM β} {a : α} {r : Except Stop β}
    {ms ns : List Move} (hm : Takes s g P m (.ok a) ms Q) (hf : Takes s g Q (f a) r ns R) :
    Takes s g P (m >>= f) r (ms ++ ns) R := by
  intro st hst hP
  obtain ⟨st₁, hrun₁, hst₁, hgrammar₁, hcursor₁, hQ⟩ := hm st hst hP
  obtain ⟨st₂, hrun₂, hst₂, hgrammar₂, hcursor₂, hR⟩ := hf st₁ hst₁ (hQ ⟨a, rfl⟩)
  refine ⟨st₂, (run_bind_ok hrun₁).trans hrun₂, hst₂, hgrammar₂.trans hgrammar₁, ?_, hR⟩
  rw [hcursor₂, hcursor₁, Cursor.walk_append]

theorem Takes.bind_error {m : BuildM α} {f : α → BuildM β} {e : Stop} {ms : List Move}
    (hm : Takes s g P m (.error e) ms Q) : Takes s g P (m >>= f) (.error e) ms R := by
  intro st hst hP
  obtain ⟨st₁, hrun, hst₁, hgrammar, hcursor, -⟩ := hm st hst hP
  exact ⟨st₁, run_bind_error hrun, hst₁, hgrammar, hcursor, fun ⟨_, h⟩ => by cases h⟩

theorem Takes.weaken {m : BuildM α} {r : Except Stop α} {ms : List Move}
    (hm : Takes s g P m r ms Q) (hP : ∀ c, R c → P c) : Takes s g R m r ms Q :=
  fun st hst hR => hm st hst (hP _ hR)

theorem Takes.ends {m : BuildM α} {r : Except Stop α} {ms : List Move}
    (hm : Takes s g P m r ms Q) : Ends s g P m r (Move.tally ms) Q := by
  intro st hst hP
  obtain ⟨st', hrun, hst', hgrammar, hcursor, hQ⟩ := hm st hst hP
  refine ⟨st', hrun, hst', hgrammar, ?_, hQ⟩
  rw [hcursor, Cursor.calls_walk]

theorem Travels.bind {m : BuildM α} {f : α → BuildM β} {x : Journey α} {y : α → Journey β}
    (hm : Travels s g P m x Q) (hf : ∀ a, x.ending = .ok a → Travels s g Q (f a) (y a) R) :
    Travels s g P (m >>= f) (x >>= y) R := by
  cases hx : x.ending with
  | ok a =>
    rw [Travels, hx] at hm
    rw [Travels, Journey.moves_bind_ok hx, Journey.bind_ok hx]
    exact hm.bind_ok (hf a hx)
  | error e =>
    rw [Travels, hx] at hm
    rw [Travels, Journey.moves_bind_error hx, Journey.bind_error hx]
    exact hm.bind_error

theorem travels_pure (a : α) : Travels s g P (pure a : BuildM α) (pure a) P := takes_pure a

theorem dispatchFor_takes (target : TypeId) :
    Takes s g P (dispatchFor s target)
      ((s.dispatch g target).mapError fun e => .raised (.declared (.schema e))) [] P := by
  intro st hst hP
  have hanswer := SymbolTable.dispatchFor_answer hst.table target
  have hsound := SymbolTable.dispatchFor_sound hst.table target
  have hgrammar := st.table.dispatchFor_grammar s target
  rcases hq : st.table.dispatchFor s target with ⟨answer, table, events⟩
  rw [hq] at hanswer hsound hgrammar
  refine ⟨{ st with table, events := st.events ++ events }, ?_, ⟨hsound, hst.plans⟩, hgrammar, rfl,
    fun _ => hP⟩
  rw [← hanswer]
  simp only [dispatchFor, run_get_bind, hq, run_set_bind]
  cases answer <;> rfl

theorem checkFields_takes (id : TypeId) :
    Takes s g P (checkFields s id)
      ((s.checkFields g id).mapError fun e => .raised (.declared e)) [] P := by
  intro st hst hP
  have hanswer := SymbolTable.checkFields_answer hst.table hst.plans id
  have hsound := SymbolTable.checkFields_sound hst.table hst.plans id
  have hplans := SymbolTable.checkFields_plans st.table hst.plans id
  have hgrammar := st.table.checkFields_grammar s id st.plans
  rcases hq : st.table.checkFields s id st.plans with ⟨answer, table, plans⟩
  rw [hq] at hanswer hsound hplans hgrammar
  refine ⟨{ st with table, plans }, ?_, ⟨hsound, hplans⟩, hgrammar, rfl, fun _ => hP⟩
  rw [← hanswer]
  simp only [checkFields, run_get_bind, hq, run_set_bind]
  cases answer <;> rfl

theorem planFor_takes (id : TypeId) :
    Takes s g P (planFor s id) ((s.plan id).mapError fun e => .raised (.declared e)) [] P := by
  intro st hst hP
  have hanswer := PlanCache.planFor_answer hst.plans id
  have hplans := PlanCache.planFor_sound hst.plans id
  rcases hq : st.plans.planFor s id with ⟨answer, plans⟩
  rw [hq] at hanswer hplans
  refine ⟨{ st with plans }, ?_, ⟨hst.table, hplans⟩, rfl, rfl, fun _ => hP⟩
  rw [← hanswer]
  simp only [planFor, run_get_bind, hq, run_set_bind]
  cases answer <;> rfl

theorem reset_takes (t : Tree) :
    Takes s g (fun _ => True) (reset t) (.ok ()) [.reset t] fun c => c.focus = t :=
  fun st hst _ =>
    ⟨{ st with cursor := st.cursor.reset t }, rfl, ⟨hst.table, hst.plans⟩, rfl, rfl, fun _ => rfl⟩

/-- The children of the node the cursor stands on are sorted in one tour: down to the first of them,
along the whole row, and back up. -/
theorem children_run (keepExtras : Bool) (st : BuildState) :
    (children keepExtras).run st =
      (.ok (st.cursor.focus.buckets keepExtras),
        { st with cursor := st.cursor.walk st.cursor.focus.tourMoves }) := by
  rcases hmove : st.cursor.firstChild with ⟨moved, d⟩
  cases moved with
  | false =>
    -- The move down fails, so there are no children.
    have hnone : st.cursor.focus.children = [] := by
      cases hc : st.cursor.focus.children with
      | nil => rfl
      | cons u us => simp [Cursor.firstChild, hc] at hmove
    have hcursor : d = st.cursor.walk st.cursor.focus.tourMoves := by
      rw [Tree.tourMoves_of_nil hnone]
      exact (congrArg Prod.snd hmove).symm
    simp only [children, run_get_bind, hmove, run_set_bind, Tree.buckets, hnone, ← hcursor]
    rfl
  | true =>
    obtain ⟨hbuckets, -⟩ := Buckets.collect_firstChild keepExtras hmove
    have hcursor := Cursor.parent_collect keepExtras hmove
    simp only [children, run_get_bind, hmove, run_set_bind, ← hbuckets, ← hcursor]
    rfl

/-- The children of the node the cursor stands on; the cursor comes back to the node. -/
theorem children_takes (keepExtras : Bool) (t : Tree) :
    Takes s g (fun c => c.focus = t) (children keepExtras) (.ok (t.buckets keepExtras)) t.tourMoves
      fun c => c.focus = t := by
  intro st hst hfocus
  have hrun := children_run keepExtras st
  rw [hfocus] at hrun
  refine ⟨_, hrun, ⟨hst.table, hst.plans⟩, rfl, rfl, fun _ => ?_⟩
  rw [Cursor.walk_tourMoves hfocus]
  exact hfocus

end BuildM

namespace BuildContext

open BuildM

variable {ctx : BuildContext} {g : Grammar} {P : Cursor → Prop}

/-- A step that leaves the cursor anywhere and may start from anywhere. -/
abbrev Follows (ctx : BuildContext) (g : Grammar) {α : Type} (m : BuildM α) (x : Account α) :
    Prop :=
  Gives ctx.schema g (fun _ => True) m x fun _ => True

/-- Such a step goes along a journey. -/
abbrev Goes (ctx : BuildContext) (g : Grammar) {α : Type} (m : BuildM α) (x : Journey α) : Prop :=
  Travels ctx.schema g (fun _ => True) m x fun _ => True

theorem annotate_takes (e : Extractor) (info : NodeInfo) :
    Takes ctx.schema g P (ctx.annotate e info) (ctx.extracted e info) [] P := by
  unfold annotate extracted
  cases e.run info ctx.source ctx.options.decoder with
  | ok v => exact takes_pure v
  | error f => exact takes_throw _

theorem each_goes {build : Tree → BuildM Value} {p : Occurrence → Journey Value}
    {row : List Occurrence} (h : ∀ o ∈ row, ctx.Goes g (build o.node) (p o)) :
    ctx.Goes g (each build (row.map Occurrence.node)) (row.mapM p) := by
  induction row with
  | nil => exact travels_pure []
  | cons o rest ih =>
    rw [List.mapM_cons]
    refine Travels.bind (h o (by simp)) fun v _ => ?_
    exact Travels.bind (ih fun u hu => h u (by simp [hu])) fun vs _ => travels_pure (v :: vs)

theorem mapM_singleton_head (p : Occurrence → Journey Value) (o : Occurrence) :
    (do let vs ← [o].mapM p; return vs.headD .none) = p o := by
  simp

theorem rowJourney_counted {build : Occurrence → Journey Value} {attr : String}
    {cardinality : Cardinality} {parent : NodeInfo} {row : List Occurrence}
    (h : counted attr cardinality parent row.length = .ok ()) :
    rowJourney build attr cardinality parent row = do
      let vs ← row.mapM build
      return gathered cardinality vs := by
  rw [rowJourney, h]
  rfl

theorem fillChild_goes {build : Tree → BuildM Value} {p : Occurrence → Journey Value}
    {row : List Occurrence} (h : ∀ o ∈ row, ctx.Goes g (build o.node) (p o)) (attr : String)
    (cardinality : Cardinality) (parent : NodeInfo) :
    ctx.Goes g (fillChild build attr cardinality parent (row.map Occurrence.node))
      (rowJourney p attr cardinality parent row) := by
  have htuple : ctx.Goes g (do return Value.tuple (← each build (row.map Occurrence.node))) (do
      let vs ← row.mapM p
      return Value.tuple vs) :=
    Travels.bind (each_goes h) fun vs _ => travels_pure (Value.tuple vs)
  -- In each row both sides check the number of nodes before they build one.
  match row, cardinality with
  | [], .required => exact takes_throw _
  | [], .optional => exact takes_pure _
  | [], .repeated => exact htuple
  | [], .nonEmpty => exact takes_throw _
  | [o], .required =>
    rw [rowJourney_counted rfl]
    exact (mapM_singleton_head p o).symm ▸ h o (by simp)
  | [o], .optional =>
    rw [rowJourney_counted rfl]
    exact (mapM_singleton_head p o).symm ▸ h o (by simp)
  | o :: rest, .repeated =>
    rw [rowJourney_counted rfl]
    exact htuple
  | o :: rest, .nonEmpty =>
    rw [rowJourney_counted rfl]
    exact htuple
  | _ :: _ :: _, .required =>
    simp only [fillChild, List.map_cons, List.length_cons, List.length_map]
    exact takes_throw _
  | _ :: _ :: _, .optional =>
    simp only [fillChild, List.map_cons, List.length_cons, List.length_map]
    exact takes_throw _

section Product

variable {build : TypeId → Tree → BuildM Value} {p : TypeId → Occurrence → Journey Value}
  {o : Occurrence}

theorem fillSlot_goes {buckets : Buckets}
    (h : ∀ element, ∀ c ∈ o.children, ctx.Goes g (build element c.node) (p element c))
    (slot : Slot)
    (hbuckets : slot.isChild → buckets = o.node.buckets ctx.options.keepFieldedExtras) :
    ctx.Goes g (ctx.fillSlot build o.node.info buckets slot) (ctx.slotJourney p o slot) := by
  unfold fillSlot slotJourney
  cases hr : slot.rule with
  | requested => exact annotate_takes _ _
  | fixed e => exact annotate_takes _ _
  | child bucket name cardinality element =>
    have hb := hbuckets (by simp [Slot.isChild, hr])
    simp only [hb, Tree.get_buckets, ← Occurrence.map_node_under]
    exact fillChild_goes
      (fun c hc => h element c (Occurrence.mem_children_of_mem_under hc)) _ _ _

theorem fillSlots_goes {buckets : Buckets}
    (h : ∀ element, ∀ c ∈ o.children, ctx.Goes g (build element c.node) (p element c))
    (slots : List Slot)
    (hbuckets : slots.any Slot.isChild → buckets = o.node.buckets ctx.options.keepFieldedExtras) :
    ctx.Goes g (ctx.fillSlots build o.node.info buckets slots)
      (slots.mapM (ctx.fieldJourney p o)) := by
  induction slots with
  | nil => exact travels_pure []
  | cons slot rest ih =>
    rw [List.mapM_cons, fieldJourney, bind_assoc]
    refine Travels.bind (fillSlot_goes h slot fun hc => hbuckets (by simp [hc])) fun v _ => ?_
    rw [pure_bind]
    refine Travels.bind (ih fun hc => hbuckets (by simp [hc])) fun vs _ => ?_
    exact travels_pure ((slot.attr, v) :: vs)

theorem mapError_bind {α β ε ε' : Type} (f : ε → ε') (x : Except ε α) (y : α → Except ε β) :
    (x >>= y).mapError f = x.mapError f >>= fun a => (y a).mapError f := by
  cases x <;> rfl

/-- The plan of a product, once its field names have passed where they are checked. -/
def checkedPlan (ctx : BuildContext) (id : TypeId) : BuildM Plan := do
  if ctx.options.validateFieldNames then
    BuildM.checkFields ctx.schema id
  BuildM.planFor ctx.schema id

theorem checkedPlan_takes (id : TypeId) :
    Takes ctx.schema g P (ctx.checkedPlan id) (ctx.admitted g id) [] P := by
  unfold checkedPlan admitted
  by_cases hv : ctx.options.validateFieldNames = true
  · simp only [hv, if_true, mapError_bind]
    cases hc : ctx.schema.checkFields g id with
    | error e =>
      have hcheck : Takes ctx.schema g P (checkFields ctx.schema id) _ [] P := checkFields_takes id
      rw [hc] at hcheck
      exact hcheck.bind_error
    | ok _ =>
      have hcheck : Takes ctx.schema g P (checkFields ctx.schema id) _ [] P := checkFields_takes id
      rw [hc] at hcheck
      exact hcheck.bind_ok (planFor_takes id)
  · simp only [hv]
    exact planFor_takes id

theorem product_eq_checkedPlan (ctx : BuildContext) (build : TypeId → Tree → BuildM Value)
    (id : TypeId) (info : NodeInfo) : ctx.product build id info = (do
      let plan ← ctx.checkedPlan id
      let buckets ←
        if plan.hasChildren then BuildM.children ctx.options.keepFieldedExtras else pure []
      let fields ← ctx.fillSlots build info buckets plan.slots
      return .node id fields) := by
  unfold product checkedPlan
  by_cases hv : ctx.options.validateFieldNames = true
  · simp only [hv, if_true, bind_assoc]
  · simp only [hv]
    rfl

/-- From the plan of a product on, the cursor stands on the node until its children are known. -/
theorem planned_takes
    (h : ∀ element, ∀ c ∈ o.children, ctx.Goes g (build element c.node) (p element c))
    (id : TypeId) (plan : Plan) :
    Takes ctx.schema g (fun c => c.focus = o.node)
      (do
        let buckets ←
          if plan.hasChildren then BuildM.children ctx.options.keepFieldedExtras else pure []
        let fields ← ctx.fillSlots build o.node.info buckets plan.slots
        return Value.node id fields)
      (do
        let fields ← plan.slots.mapM (ctx.fieldJourney p o)
        return Value.node id fields : Journey Value).ending
      ((if plan.hasChildren then o.node.tourMoves else []) ++
        (do
          let fields ← plan.slots.mapM (ctx.fieldJourney p o)
          return Value.node id fields : Journey Value).moves) fun _ => True := by
  have hrest (buckets : Buckets)
      (hb : plan.hasChildren → buckets = o.node.buckets ctx.options.keepFieldedExtras) :
      Travels ctx.schema g (fun c => c.focus = o.node)
        (do
          let fields ← ctx.fillSlots build o.node.info buckets plan.slots
          return Value.node id fields)
        (do
          let fields ← plan.slots.mapM (ctx.fieldJourney p o)
          return Value.node id fields) fun _ => True := by
    refine Travels.bind (Takes.weaken (fillSlots_goes h plan.slots hb) fun _ _ => trivial) ?_
    exact fun fields _ => travels_pure (Value.node id fields)
  by_cases hc : plan.hasChildren = true
  · simp only [hc, if_true]
    exact (children_takes ctx.options.keepFieldedExtras o.node).bind_ok (hrest _ fun _ => rfl)
  · simp only [hc]
    exact (takes_pure ([] : Buckets)).bind_ok (hrest _ fun hc' => absurd hc' hc)

/-- A node that is reset to and built into a product is visited. -/
theorem product_goes
    (h : ∀ element, ∀ c ∈ o.children, ctx.Goes g (build element c.node) (p element c))
    (id : TypeId) :
    ctx.Goes g (do
      BuildM.reset o.node
      ctx.product build id o.node.info) (do
      let plan ← ctx.visit g id o
      let fields ← plan.slots.mapM (ctx.fieldJourney p o)
      return Value.node id fields) := by
  have hchecked : Takes ctx.schema g (fun c => c.focus = o.node) (ctx.checkedPlan id)
      (ctx.admitted g id) [] (fun c => c.focus = o.node) := checkedPlan_takes id
  rw [product_eq_checkedPlan]
  cases ha : ctx.admitted g id with
  | error e =>
    have hvisit : (ctx.visit g id o).ending = .error e := ha
    have hmoves : (ctx.visit g id o).moves = [.reset o.node] := by
      rw [visit, ha]
      rfl
    rw [ha] at hchecked
    rw [Goes, Travels, Journey.moves_bind_error hvisit, Journey.bind_error hvisit, hmoves]
    exact (reset_takes o.node).bind_ok hchecked.bind_error
  | ok plan =>
    have hvisit : (ctx.visit g id o).ending = .ok plan := ha
    have hmoves : (ctx.visit g id o).moves =
        .reset o.node :: if plan.hasChildren then o.node.tourMoves else [] := by
      rw [visit, ha]
      exact List.append_nil _
    rw [ha] at hchecked
    rw [Goes, Travels, Journey.moves_bind_ok hvisit, Journey.bind_ok hvisit, hmoves]
    exact (reset_takes o.node).bind_ok (hchecked.bind_ok (planned_takes h id plan))

end Product

/-- The alternatives to a symbol that no product handles are named as the grammar of the caches
names them, which is as every grammar alike names them. -/
theorem unmatched_takes (target : TypeId) (table : DispatchTable) (info : NodeInfo) :
    Takes ctx.schema g P
      (do
        let g := (← get).table.grammar
        let expected := DispatchTable.expected ctx.schema g table
        throw (.mismatch (.noMatch (ctx.schema.nameOf target) expected info.site)) : BuildM Value)
      (.error (.mismatch (.noMatch (ctx.schema.nameOf target) (table.expected ctx.schema g)
        info.site))) [] fun _ => True := by
  intro st hst hP
  refine ⟨st, ?_, hst, rfl, rfl, fun _ => trivial⟩
  rw [run_get_bind, ← hst.table.grammar.expected_eq]
  rfl

/-- Building a node ends as its journey does and takes the cursor along it, for every bound on the
depth. -/
theorem node_goes (ctx : BuildContext) (g : Grammar) (depth : Nat) (target : TypeId)
    (o : Occurrence) :
    ctx.Goes g (ctx.node depth target o.node) (ctx.journey g depth target o) := by
  induction depth generalizing target o with
  | zero => exact takes_throw _
  | succ depth ih =>
    have hchildren : ∀ element, ∀ c ∈ o.children,
        ctx.Goes g (ctx.node depth element c.node) (ctx.journey g depth element c) :=
      fun element c _ => ih element c
    rw [journey, matched, Journey.still_bind, node, bind_assoc]
    refine Travels.bind (dispatchFor_takes target) fun table _ => ?_
    cases hl : table.lookup o.node.info.symbol with
    | none => exact unmatched_takes target table o.node.info
    | some id =>
      rw [Journey.still_pure, pure_bind]
      exact product_goes hchildren id

/-- Building a node ends and costs as the account of the node says, for every bound on the depth. -/
theorem node_gives (ctx : BuildContext) (g : Grammar) (depth : Nat) (target : TypeId) (t : Tree) :
    ctx.Follows g (ctx.node depth target t) (ctx.account g depth target t) := by
  have haccount := ctx.account_journey g depth target (.root t)
  have hgoes := ctx.node_goes g depth target (.root t)
  rw [Follows, Gives, ← show _ = ctx.account g depth target t from haccount]
  exact hgoes.ends

theorem node_follows (ctx : BuildContext) (g : Grammar) (depth : Nat) (target : TypeId) (t : Tree) :
    ∃ r cost, Within (t.height ≤ depth) r (ctx.plain g target t) ∧
      Ends ctx.schema g (fun _ => True) (ctx.node depth target t) r cost fun _ => True :=
  ⟨_, _, ctx.account_within g depth target t, ctx.node_gives g depth target t⟩

/-- Wherever the cursor stands, the engine gives the value or the error of the plain recursion, and
its caches stay sound. The one way out is a bound on the depth that the tree goes beyond. -/
theorem node_run_eq_plain (ctx : BuildContext) (g : Grammar) (depth : Nat) (target : TypeId)
    (t : Tree) (st : BuildState) (h : st.Sound ctx.schema g) :
    (t.height ≤ depth → ((ctx.node depth target t).run st).1 = ctx.plain g target t) ∧
      (((ctx.node depth target t).run st).1 = ctx.plain g target t ∨
        ((ctx.node depth target t).run st).1 = .error .exhausted) ∧
      ((ctx.node depth target t).run st).2.Sound ctx.schema g := by
  obtain ⟨r, cost, hr, hends⟩ := ctx.node_follows g depth target t
  obtain ⟨st', hrun, hst', -, -, -⟩ := hends st h trivial
  rw [hrun]
  refine ⟨fun hfits => ?_, hr.imp_right And.right, hst'⟩
  exact hr.resolve_right fun ⟨hdeep, _⟩ => hdeep hfits

end BuildContext

namespace Sums

open BuildContext

def number (label : Option String) (start stop : Int) : Tree :=
  .node ⟨1, "number", true, false, start, stop, ⟨0, start⟩, ⟨0, stop⟩⟩ label []

def tree : Tree :=
  .node ⟨2, "sum", true, false, 0, 3, ⟨0, 0⟩, ⟨0, 3⟩⟩ none
    [number (some "left") 0 1, number (some "right") 2 3]

def context : BuildContext :=
  { schema, source := [49, 43, 50], requested := .range, options := {} }

theorem plain_number (label : Option String) (start stop : Int) :
    context.plain grammar 10 (number label start stop) =
      .ok (.node 9 [("ann", .range ⟨start, stop⟩),
        ("place", .tuple [.pos ⟨0, start⟩, .none])]) := by
  rw [plain_admitted (matched_some dispatch_expression rfl) rfl]
  rfl

def operand (t : Tree) (name : String) : Except Stop Value := do
  counted name .required t.info (t.under false name).length
  let vs ← (t.under false name).mapM (context.plain grammar 10)
  return vs.headD .none

theorem field_operand (t : Tree) (name : String) :
    context.field grammar t ⟨name, .child name name .required 10⟩ =
      (do
        let v ← operand t name
        return (name, v)) := by
  rw [field, filled_child context t (context.plain grammar) rfl]
  rfl

def sumPlan : Plan :=
  ⟨11, [⟨"ann", .requested⟩, ⟨"left", .child "left" "left" .required 10⟩,
    ⟨"right", .child "right" "right" .required 10⟩]⟩

theorem plain_sum {t : Tree} (h : t.info.symbol = 2) : context.plain grammar 10 t = do
    let left ← operand t "left"
    let right ← operand t "right"
    return .node 11 [("ann", .range t.info.range), ("left", left), ("right", right)] := by
  have hlookup : List.lookup t.info.symbol [((1 : Int), 9), (2, 11)] = some 11 := by
    rw [h]
    rfl
  have hplan : context.admitted grammar 11 = .ok sumPlan := rfl
  rw [plain_admitted (matched_some dispatch_expression hlookup) hplan]
  simp only [sumPlan, List.mapM_cons, field_operand]
  cases operand t "left" with
  | error e => rfl
  | ok left => cases operand t "right" <;> rfl

def treeValue : Value :=
  .node 11 [("ann", .range ⟨0, 3⟩),
    ("left", .node 9 [("ann", .range ⟨0, 1⟩), ("place", .tuple [.pos ⟨0, 0⟩, .none])]),
    ("right", .node 9 [("ann", .range ⟨2, 3⟩), ("place", .tuple [.pos ⟨0, 2⟩, .none])])]

theorem plain_tree : context.plain grammar 10 tree = .ok treeValue := by
  have hleft : tree.under false "left" = [number (some "left") 0 1] := rfl
  have hright : tree.under false "right" = [number (some "right") 2 3] := rfl
  rw [plain_sum rfl]
  simp only [operand, hleft, hright, List.mapM_cons, plain_number]
  rfl

/-- A state amid another build: the cursor stands below the root, and the caches have entries. -/
def midway : BuildState :=
  { cursor := (Cursor.start tree).firstChild.2
    table := { grammar, dispatch := [(10, [(1, 9), (2, 11)])], checked := [11] } }

theorem midway_sound : midway.Sound context.schema grammar := by
  refine ⟨⟨.refl grammar, fun target d h => ?_, fun id h => ?_⟩, PlanCache.sound_nil _⟩
  · obtain ⟨rfl, rfl⟩ : target = 10 ∧ d = [(1, 9), (2, 11)] := by simpa [midway] using h
    exact dispatch_expression
  · obtain rfl : id = 11 := by simpa [midway] using h
    rfl

theorem node_run_midway : tree.height ≤ 2 ∧
    ((context.node 2 10 tree).run midway).1 = .ok treeValue := by
  have hheight : tree.height ≤ 2 := by decide
  have hrun := (node_run_eq_plain context grammar 2 10 tree midway midway_sound).1 hheight
  exact ⟨hheight, hrun.trans plain_tree⟩

end Sums

end TypedTree
