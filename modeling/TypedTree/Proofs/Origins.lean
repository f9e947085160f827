import Mathlib.Algebra.GroupWithZero.Nat
import Mathlib.Data.List.Forall2
import TypedTree.Proofs.Noninterference

/-! # Where instances come from

Every instance of a product in a value was built from a node of the tree: the value of a child field
from the children in its bucket, one by one. A build that succeeds visits just these nodes, in the
order of the value, so the calls of its cursor can be counted on the value alone. -/

namespace TypedTree

/-- The plan of a product has fields for children. -/
def Schema.takesChildren (s : Schema) (id : TypeId) : Bool := (s.slots id).any Slot.isChild

/-- An instance of a product in a value: the node it was built from, and that of the instance that
holds it in a child field, if one does. -/
structure Origin where
  type : TypeId
  source : Occurrence
  holder : Option Occurrence

def Origin.visit (s : Schema) (x : Origin) : Visit := ⟨x.source, x.type, s.takesChildren x.type⟩

namespace Value

mutual

/-- The products that a value has instances of, from the outside in. -/
def instances (s : Schema) : Value → List TypeId
  | tuple items => instancesItems s items
  | node id fields => id :: instancesFields s (s.slots id) fields
  | _ => []

def instancesItems (s : Schema) : List Value → List TypeId
  | [] => []
  | v :: items => instances s v ++ instancesItems s items

def instancesFields (s : Schema) : List Slot → List (String × Value) → List TypeId
  | slot :: slots, (_, v) :: fields =>
    (if slot.isChild then instances s v else []) ++ instancesFields s slots fields
  | _, _ => []

end

mutual

/-- The instances in a value that was built from a row of nodes. -/
def origins (s : Schema) (keepExtras : Bool) (holder : Option Occurrence) (row : List Occurrence) :
    Value → List Origin
  | tuple items => originsItems s keepExtras holder row items
  | node id fields =>
    match row with
    | [] => []
    | o :: _ => ⟨id, o, holder⟩ :: originsFields s keepExtras o (s.slots id) fields
  | _ => []

def originsItems (s : Schema) (keepExtras : Bool) (holder : Option Occurrence) :
    List Occurrence → List Value → List Origin
  | o :: row, v :: items =>
    origins s keepExtras holder [o] v ++ originsItems s keepExtras holder row items
  | _, _ => []

def originsFields (s : Schema) (keepExtras : Bool) (o : Occurrence) :
    List Slot → List (String × Value) → List Origin
  | slot :: slots, (_, v) :: fields =>
    (match slot.rule with
      | .child bucket _ _ _ => origins s keepExtras (some o) (o.under keepExtras bucket) v
      | _ => []) ++ originsFields s keepExtras o slots fields
  | _, _ => []

end

variable {s : Schema} {keepExtras : Bool} {holder : Option Occurrence}

theorem origins_single (o : Occurrence) (v : Value) :
    origins s keepExtras holder [o] (.tuple [v]) = origins s keepExtras holder [o] v := by
  simp [origins, originsItems]

theorem instances_single (s : Schema) (v : Value) :
    instances s (.tuple [v]) = instances s v := by
  simp [instances, instancesItems]

/-- The visits are those of the instances in a value, which are of the types that it shows. -/
structure Records (s : Schema) (keepExtras : Bool) (holder : Option Occurrence)
    (row : List Occurrence) (v : Value) (visits : List Visit) : Prop where
  visits_eq : visits = (v.origins s keepExtras holder row).map (Origin.visit s)
  types_eq : (v.origins s keepExtras holder row).map Origin.type = v.instances s

theorem Records.items {build : Occurrence → Journey Value} {row : List Occurrence}
    {vs : List Value} (hvs : List.Forall₂ (fun o v => (build o).ending = .ok v) row vs)
    (h : ∀ o ∈ row, ∀ v, (build o).ending = .ok v →
      Records s keepExtras holder [o] v (build o).visits) :
    Records s keepExtras holder row (.tuple vs) (row.flatMap fun o => (build o).visits) := by
  induction hvs with
  | nil => exact ⟨rfl, rfl⟩
  | @cons o v row vs hv _ ih =>
    obtain ⟨hvisits, htypes⟩ := h o (by simp) v hv
    obtain ⟨hrest, hrests⟩ := ih fun u hu => h u (by simp [hu])
    rw [origins] at hrest hrests
    rw [instances] at hrests
    constructor
    · rw [List.flatMap_cons, origins, originsItems, List.map_append, hvisits, hrest]
    · rw [origins, originsItems, List.map_append, htypes, hrests, instances, instancesItems]

end Value

namespace Journey

variable {α β : Type}

theorem bind_eq_ok {x : Journey α} {f : α → Journey β} {b : β} (h : (x >>= f).ending = .ok b) :
    ∃ a, x.ending = .ok a ∧ (f a).ending = .ok b ∧
      (x >>= f).visits = x.visits ++ (f a).visits := by
  cases hx : x.ending with
  | error e =>
    rw [bind_error hx] at h
    cases h
  | ok a =>
    rw [bind_ok hx] at h ⊢
    exact ⟨a, rfl, h, rfl⟩

theorem mapM_eq_ok {f : α → Journey β} {xs : List α} {ys : List β}
    (h : (xs.mapM f).ending = .ok ys) :
    List.Forall₂ (fun x y => (f x).ending = .ok y) xs ys ∧
      (xs.mapM f).visits = xs.flatMap fun x => (f x).visits := by
  induction xs generalizing ys with
  | nil =>
    cases h
    exact ⟨.nil, rfl⟩
  | cons x xs ih =>
    rw [List.mapM_cons] at h ⊢
    obtain ⟨y, hy, h, hvisits⟩ := bind_eq_ok h
    obtain ⟨rest, hrest, h, hvisits'⟩ := bind_eq_ok h
    cases h
    obtain ⟨hxs, hlater⟩ := ih hrest
    refine ⟨.cons hy hxs, ?_⟩
    rw [hvisits, hvisits', hlater, List.flatMap_cons]
    exact congrArg _ (List.append_nil _)

end Journey

namespace BuildContext

open Value

variable {ctx : BuildContext} {g : Grammar} {o : Occurrence} {holder : Option Occurrence}

/-- What is gathered from a row shows the same instances as the row of values. -/
theorem records_gathered {s : Schema} {keepExtras : Bool} {attr : String}
    {cardinality : Cardinality} {parent : NodeInfo} {row : List Occurrence} {vs : List Value}
    {visits : List Visit}
    (hcount : counted attr cardinality parent row.length = .ok ())
    (hlength : row.length = vs.length)
    (h : Records s keepExtras holder row (.tuple vs) visits) :
    Records s keepExtras holder row (gathered cardinality vs) visits := by
  have hsingle : ∀ o v, row = [o] → vs = [v] → Records s keepExtras holder row v visits := by
    rintro o v rfl rfl
    obtain ⟨hvisits, htypes⟩ := h
    rw [origins_single] at hvisits htypes
    rw [instances_single] at htypes
    exact ⟨hvisits, htypes⟩
  match cardinality, row, vs with
  | .required, [], _ => cases hcount
  | .required, [o], [v] => exact hsingle o v rfl rfl
  | .required, _ :: _ :: _, _ => cases hcount
  | .optional, [], [] =>
    obtain ⟨hvisits, -⟩ := h
    exact ⟨hvisits, rfl⟩
  | .optional, [o], [v] => exact hsingle o v rfl rfl
  | .optional, _ :: _ :: _, _ => cases hcount
  | .repeated, _, _ => exact h
  | .nonEmpty, _, _ => exact h

theorem row_records {s : Schema} {keepExtras : Bool} {build : Occurrence → Journey Value}
    {attr : String} {cardinality : Cardinality} {parent : NodeInfo} {row : List Occurrence}
    {v : Value} (hv : (rowJourney build attr cardinality parent row).ending = .ok v)
    (h : ∀ o ∈ row, ∀ w, (build o).ending = .ok w →
      Records s keepExtras holder [o] w (build o).visits) :
    Records s keepExtras holder row v (rowJourney build attr cardinality parent row).visits := by
  unfold rowJourney at hv ⊢
  obtain ⟨_, hcount, hv, hvisits⟩ := Journey.bind_eq_ok hv
  obtain ⟨vs, hvs, hv, hvisits'⟩ := Journey.bind_eq_ok hv
  cases hv
  obtain ⟨hrow, hlater⟩ := Journey.mapM_eq_ok hvs
  rw [hvisits, hvisits', Journey.visits_still, Journey.visits_pure, hlater, List.append_nil,
    List.nil_append]
  exact records_gathered hcount hrow.length_eq (.items hrow h)

/-- An annotation visits no node. -/
theorem visits_slotJourney_nil {slot : Slot} (h : slot.isChild = false) (ctx : BuildContext)
    (build : TypeId → Occurrence → Journey Value) (o : Occurrence) :
    (ctx.slotJourney build o slot).visits = [] := by
  obtain ⟨attr, rule⟩ := slot
  cases rule with
  | child bucket name cardinality element => cases h
  | _ => rfl

theorem slot_records {build : TypeId → Occurrence → Journey Value} {slot : Slot} {v : Value}
    {bucket name : String} {cardinality : Cardinality} {element : TypeId}
    (hr : slot.rule = .child bucket name cardinality element)
    (hv : (ctx.slotJourney build o slot).ending = .ok v)
    (h : ∀ element, ∀ c ∈ o.children, ∀ w, (build element c).ending = .ok w →
      Records ctx.schema ctx.options.keepFieldedExtras (some o) [c] w (build element c).visits) :
    Records ctx.schema ctx.options.keepFieldedExtras (some o)
      (o.under ctx.options.keepFieldedExtras bucket) v (ctx.slotJourney build o slot).visits := by
  simp only [slotJourney, hr] at hv ⊢
  exact row_records hv fun c hc => h element c (Occurrence.mem_children_of_mem_under hc)

theorem fields_record {build : TypeId → Occurrence → Journey Value} {slots : List Slot}
    {fields : List (String × Value)}
    (hfields : List.Forall₂ (fun slot field => (ctx.fieldJourney build o slot).ending = .ok field)
      slots fields)
    (h : ∀ element, ∀ c ∈ o.children, ∀ w, (build element c).ending = .ok w →
      Records ctx.schema ctx.options.keepFieldedExtras (some o) [c] w (build element c).visits) :
    (slots.flatMap fun slot => (ctx.fieldJourney build o slot).visits) =
        (originsFields ctx.schema ctx.options.keepFieldedExtras o slots fields).map
          (Origin.visit ctx.schema) ∧
      (originsFields ctx.schema ctx.options.keepFieldedExtras o slots fields).map Origin.type =
        instancesFields ctx.schema slots fields := by
  induction hfields with
  | nil => exact ⟨rfl, rfl⟩
  | @cons slot field slots fields hfield _ ih =>
    obtain ⟨ih, ihtypes⟩ := ih
    obtain ⟨v, hv, hfield, -⟩ := Journey.bind_eq_ok hfield
    cases hfield
    have hvisits : (ctx.fieldJourney build o slot).visits = (ctx.slotJourney build o slot).visits :=
      Journey.visits_bind_pure _ _
    rw [List.flatMap_cons, originsFields, List.map_append, List.map_append, instancesFields,
      hvisits, ih, ihtypes]
    cases hr : slot.rule with
    | child bucket name cardinality element =>
      obtain ⟨hslot, htypes⟩ := slot_records hr hv h
      simp [Slot.isChild, hr, hslot, htypes]
    | _ =>
      have hnotChild : slot.isChild = false := by rw [Slot.isChild, hr]
      have hnone := visits_slotJourney_nil hnotChild ctx build o
      simp [Slot.isChild, hr, hnone]

/-- A node that is built is visited first, and then the nodes its fields come from. The induction is
on the bound on the depth. -/
theorem journey_records (ctx : BuildContext) (g : Grammar) (depth : Nat) {target : TypeId}
    {v : Value} (hv : (ctx.journey g depth target o).ending = .ok v) :
    Records ctx.schema ctx.options.keepFieldedExtras holder [o] v
      (ctx.journey g depth target o).visits := by
  induction depth generalizing target o v holder with
  | zero => cases hv
  | succ depth ih =>
    unfold journey at hv ⊢
    obtain ⟨id, -, hv, hvisits⟩ := Journey.bind_eq_ok hv
    obtain ⟨plan, hplan, hv, hvisits'⟩ := Journey.bind_eq_ok hv
    obtain ⟨fields, hfields, hv, hvisits''⟩ := Journey.bind_eq_ok hv
    cases hv
    obtain ⟨hslots, hlater⟩ := Journey.mapM_eq_ok hfields
    obtain ⟨hrecorded, htypes⟩ := fields_record hslots fun element c _ w hw => ih hw
    have hadmitted : ctx.admitted g id = .ok plan := hplan
    have hplanned : ctx.schema.slots id = plan.slots :=
      Schema.slots_of_plan (plan_of_admitted hadmitted)
    have hvisit : (ctx.visit g id o).visits = [⟨o, id, ctx.schema.takesChildren id⟩] := by
      rw [visit, hadmitted, Schema.takesChildren, hplanned]
      rfl
    constructor
    · rw [hvisits, hvisits', hvisits'', hlater, hrecorded, hvisit, Journey.visits_still,
        Journey.visits_pure, List.append_nil, origins, hplanned]
      rfl
    · rw [origins, instances, hplanned, List.map_cons, htypes]

end BuildContext

/-- The calls of the visits, counted visit by visit. -/
theorem tally_visits (visits : List Visit) : Move.tally (visits.flatMap Visit.moves) =
    { firstChild := visits.countP Visit.toured
      nextSibling :=
        ((visits.filter Visit.toured).map fun v => v.source.node.children.length).sum
      parent := visits.countP fun v => v.toured && !v.source.node.children.isEmpty
      reset := visits.length } := by
  induction visits with
  | nil => rfl
  | cons v visits ih =>
    obtain ⟨o, type, toured⟩ := v
    rw [List.flatMap_cons, Move.tally_append, ih]
    cases toured with
    | false => simp [Visit.moves, Move.tally, Move.calls, Calls.add_def, Nat.add_comm]
    | true =>
      cases hc : o.node.children with
      | nil =>
        simp [Visit.moves, Move.tally, Tree.tally_tourMoves, Tree.tour, hc, Move.calls,
          Calls.add_def, Nat.add_comm]
      | cons u us =>
        simp [Visit.moves, Move.tally, Tree.tally_tourMoves, Tree.tour, hc, Move.calls,
          Calls.add_def, Nat.add_comm]

theorem tally_origins {s : Schema} (origins : List Origin) :
    Move.tally ((origins.map (Origin.visit s)).flatMap Visit.moves) =
      { firstChild := origins.countP fun x => s.takesChildren x.type
        nextSibling := ((origins.filter fun x => s.takesChildren x.type).map
          fun x => x.source.node.children.length).sum
        parent := origins.countP fun x =>
          s.takesChildren x.type && !x.source.node.children.isEmpty
        reset := origins.length } := by
  rw [tally_visits, List.countP_map, List.countP_map, List.filter_map, List.map_map,
    List.length_map]
  rfl

namespace BuildRequest

/-- The cursor after a build from a root, however that ends. -/
def cursorAfter (r : BuildRequest) (e : Extractor) (target : TypeId) (root : Tree)
    (table : SymbolTable) (plans : PlanCache) : Cursor :=
  (((r.context e).node levelLimit target root).run
    { cursor := .start root, table, plans }).2.cursor

def journey (r : BuildRequest) (g : Grammar) (e : Extractor) (target : TypeId) (root : Tree) :
    Journey Value :=
  (r.context e).journey g levelLimit target (.root root)

/-- The instances in a value that was built from a root. -/
def origins (r : BuildRequest) (root : Tree) (v : Value) : List Origin :=
  v.origins r.schema r.options.keepFieldedExtras none [.root root]

variable {r : BuildRequest} {g : Grammar} {table : SymbolTable} {plans : PlanCache} {e : Extractor}
  {target : TypeId} {root : Tree}

theorem account_journey (r : BuildRequest) (g : Grammar) (e : Extractor) (target : TypeId)
    (root : Tree) :
    (r.journey g e target root).account = (r.context e).account g levelLimit target root :=
  (r.context e).account_journey g levelLimit target (.root root)

theorem cursorAfter_eq (htable : table.Sound r.schema g) (hplans : plans.Sound r.schema) :
    r.cursorAfter e target root table plans =
      (Cursor.start root).walk (r.journey g e target root).moves := by
  obtain ⟨st, hrun, -, -, hcursor, -⟩ :=
    (r.context e).node_goes g levelLimit target (.root root)
      { cursor := .start root, table, plans } ⟨htable, hplans⟩ trivial
  have hrun : ((r.context e).node levelLimit target root).run
    { cursor := .start root, table, plans } = _ := hrun
  rw [cursorAfter, hrun]
  exact hcursor

theorem walk_eq_tally (hroot : r.root = some root) (hspec : r.requested.compile = .ok e)
    (htarget : r.target.asTarget = .ok target) (htable : table.Sound r.schema g)
    (hplans : plans.Sound r.schema) {calls : Calls} (h : (r.run table plans).walk = some calls) :
    calls = Move.tally (r.journey g e target root).moves := by
  obtain ⟨-, hwalk, -⟩ := run_account hroot hspec htarget htable hplans
  rw [hwalk, ← account_journey] at h
  rcases hending : (r.journey g e target root).account.ending with (m | f | _) | v
  all_goals
    rw [hending] at h
    cases h
  all_goals rfl

/-- Where nothing was built, no call was made. -/
theorem walk_of_unready (h : ¬ ∃ root e target, r.root = some root ∧
    r.requested.compile = .ok e ∧ r.target.asTarget = .ok target) {calls : Calls}
    (hwalk : (r.run table plans).walk = some calls) : calls = {} := by
  cases hroot : r.root with
  | none => simp [run, hroot] at hwalk
  | some root =>
    cases hspec : r.requested.compile with
    | error f => simp [run, hroot, hspec] at hwalk
    | ok e =>
      cases htarget : r.target.asTarget with
      | error f => simpa [run, hroot, hspec, htarget] using hwalk.symm
      | ok target => exact absurd ⟨root, e, target, hroot, hspec, htarget⟩ h

theorem walk_of_ok {outcome : Outcome Value} (htable : table.Sound r.schema g)
    (hplans : plans.Sound r.schema) (hresult : (r.run table plans).result = .ok outcome)
    (hok : outcome.ok = true) :
    ∃ root e target v, r.root = some root ∧ r.requested.compile = .ok e ∧
      r.target.asTarget = .ok target ∧ outcome.value = some v ∧
      (r.journey g e target root).visits = (r.origins root v).map (Origin.visit r.schema) ∧
      (r.origins root v).map Origin.type = v.instances r.schema ∧
      (r.run table plans).walk = some (Move.tally (r.journey g e target root).moves) := by
  obtain ⟨root, e, target, v, hroot, hspec, htarget, hv, rfl⟩ :=
    account_of_ok htable hplans hresult hok
  obtain ⟨-, hwalk, -⟩ := run_account hroot hspec htarget htable hplans
  rw [← account_journey] at hv hwalk
  have hrecords : Value.Records r.schema r.options.keepFieldedExtras none [.root root] v
      (r.journey g e target root).visits := (r.context e).journey_records g levelLimit hv
  obtain ⟨hvisits, htypes⟩ := hrecords
  rw [hv] at hwalk
  exact ⟨root, e, target, v, hroot, hspec, htarget, rfl, hvisits, htypes, hwalk⟩

/-- On success the calls of the cursor are those that the instances in the value take. In every
build, each step up undoes a step down and leads back to the node that is being built, so there are
as many as steps down that succeed, and no more of these than resets. -/
theorem walk_accounted (htable : table.Sound r.schema g) (hplans : plans.Sound r.schema) :
    (∀ outcome, (r.run table plans).result = .ok outcome → outcome.ok = true →
      ∃ root e target v, r.root = some root ∧ r.requested.compile = .ok e ∧
        r.target.asTarget = .ok target ∧ outcome.value = some v ∧
        (r.origins root v).map Origin.type = v.instances r.schema ∧
        (r.journey g e target root).visits = (r.origins root v).map (Origin.visit r.schema) ∧
        (r.run table plans).walk = some
          { reset := (r.origins root v).length
            firstChild := (r.origins root v).countP fun x => r.schema.takesChildren x.type
            parent := (r.origins root v).countP fun x =>
              r.schema.takesChildren x.type && !x.source.node.children.isEmpty
            nextSibling := (((r.origins root v).filter fun x => r.schema.takesChildren x.type).map
              fun x => x.source.node.children.length).sum }) ∧
      (∀ root e target, r.root = some root → r.requested.compile = .ok e →
        r.target.asTarget = .ok target →
        r.cursorAfter e target root table plans =
            (Cursor.start root).walk (r.journey g e target root).moves ∧
          (Cursor.start root).SinglePass (r.journey g e target root).moves ∧
          ∀ calls, (r.run table plans).walk = some calls →
            calls = (r.cursorAfter e target root table plans).calls) ∧
      ∀ calls, (r.run table plans).walk = some calls →
        calls.parent ≤ calls.firstChild ∧ calls.firstChild ≤ calls.reset := by
  refine ⟨fun outcome hresult hok => ?_, fun root e target hroot hspec htarget => ?_, ?_⟩
  · obtain ⟨root, e, target, v, hroot, hspec, htarget, hvalue, hvisits, htypes, hwalk⟩ :=
      walk_of_ok htable hplans hresult hok
    refine ⟨root, e, target, v, hroot, hspec, htarget, hvalue, htypes, hvisits, ?_⟩
    rw [hwalk, Journey.moves, hvisits, tally_origins]
  · refine ⟨cursorAfter_eq htable hplans, Journey.singlePass_moves _ _, fun calls hcalls => ?_⟩
    rw [cursorAfter_eq htable hplans, Cursor.calls_walk,
      walk_eq_tally hroot hspec htarget htable hplans hcalls]
    exact (Calls.zero_add _).symm
  · intro calls hcalls
    by_cases hready : ∃ root e target, r.root = some root ∧ r.requested.compile = .ok e ∧
        r.target.asTarget = .ok target
    · obtain ⟨root, e, target, hroot, hspec, htarget⟩ := hready
      have hpass := (r.journey g e target root).singlePass_moves (.start root)
      rw [walk_eq_tally hroot hspec htarget htable hplans hcalls]
      exact ⟨hpass.parent_le, hpass.firstChild_le⟩
    · rw [walk_of_unready hready hcalls]
      exact ⟨Nat.le_refl _, Nat.le_refl _⟩

end BuildRequest

namespace Sums

/-- Numbers have no fields for children, so these are not looked for. -/
theorem walk_tree : treeValue.instances schema = [11, 9, 9] ∧
    ((request tree).run { grammar } []).walk =
      some { reset := 3, firstChild := 1, nextSibling := 2, parent := 1 } := by
  have hresult := result_request (t := tree) (by decide)
  rw [plain_tree] at hresult
  obtain ⟨htotal, -, -⟩ := BuildRequest.walk_accounted (r := request tree)
    (SymbolTable.sound_fresh schema (.refl grammar)) (PlanCache.sound_nil schema)
  obtain ⟨root, e, target, v, hroot, -, -, hvalue, -, -, hwalk⟩ := htotal _ hresult rfl
  cases hroot
  cases hvalue
  exact ⟨rfl, hwalk⟩

end Sums

end TypedTree
