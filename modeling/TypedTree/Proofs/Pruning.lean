import TypedTree.Proofs.Outcome

/-! # Comments and punctuation

Children that fall in no bucket can be taken out of a tree, at every depth and with all that is
below them, and the tree is still built into the same value or fails in the same way. The cursor
takes fewer steps, and none at all below a node that has no children left. -/

namespace TypedTree

namespace Tree

mutual

/-- The tree without the children, at every depth, that `keep` rejects. -/
def sift (keep : Tree → Bool) : Tree → Tree
  | node info label children => node info label (siftRow keep children)

def siftRow (keep : Tree → Bool) : List Tree → List Tree
  | [] => []
  | t :: rest => if keep t then sift keep t :: siftRow keep rest else siftRow keep rest

end

/-- A child without a field name that is anonymous or extra, or an extra child with a field name
where these are not kept. -/
def incidental (keepExtras : Bool) (t : Tree) : Bool :=
  match t.label with
  | none => !t.info.named || t.info.extra
  | some _ => t.info.extra && !keepExtras

def fieldedExtra (t : Tree) : Bool := t.label.isSome && t.info.extra

def prune (keepExtras : Bool) : Tree → Tree := sift fun c => !c.incidental keepExtras

def withoutFieldedExtras : Tree → Tree := sift fun c => !c.fieldedExtra

variable {keep : Tree → Bool} {before after : Bool}

theorem siftRow_eq (ts : List Tree) : siftRow keep ts = (ts.filter keep).map (sift keep) := by
  induction ts with
  | nil => rfl
  | cons t rest ih =>
    rw [siftRow, List.filter_cons, ih]
    cases keep t <;> rfl

theorem children_sift (t : Tree) :
    (t.sift keep).children = (t.children.filter keep).map (sift keep) := by
  obtain ⟨info, label, children⟩ := t
  exact siftRow_eq children

@[simp] theorem info_sift (t : Tree) : (t.sift keep).info = t.info := by
  cases t
  rfl

@[simp] theorem bucket_sift (keepExtras : Bool) (t : Tree) :
    (t.sift keep).bucket keepExtras = t.bucket keepExtras := by
  cases t
  rfl

/-- What `keep` rejects was in no bucket before, and the rest stays in its bucket. -/
structure Spares (keep : Tree → Bool) (before after : Bool) : Prop where
  kept : ∀ c, keep c = true → c.bucket after = c.bucket before
  rejected : ∀ c, keep c = false → c.bucket before = none

theorem under_sift (h : Spares keep before after) (name : String) (t : Tree) :
    (t.sift keep).under after name = (t.under before name).map (sift keep) := by
  have hsame (c : Tree) : (decide (c.bucket after = some name) && keep c) =
      decide (c.bucket before = some name) := by
    cases hk : keep c with
    | true => rw [h.kept c hk, Bool.and_true]
    | false =>
      rw [h.rejected c hk]
      simp
  calc
    (t.sift keep).under after name
      = ((t.children.filter keep).map (sift keep)).filter
          fun c => c.bucket after = some name := by rw [under, children_sift]
    _ = ((t.children.filter keep).filter fun c => c.bucket after = some name).map (sift keep) := by
      rw [List.filter_map]
      simp only [Function.comp_def, bucket_sift]
    _ = (t.under before name).map (sift keep) := by
      rw [List.filter_filter, under]
      simp only [hsame]

theorem spares_prune (keepExtras : Bool) :
    Spares (fun c => !c.incidental keepExtras) keepExtras keepExtras := by
  refine ⟨fun _ _ => rfl, fun ⟨info, label, children⟩ hc => ?_⟩
  cases label <;> simp_all [incidental, bucket, Buckets.key, Tree.label, Tree.info]

/-- Where no fielded extras are kept, they are in no bucket; and where there are none, it does not
matter whether they are kept. -/
theorem spares_withoutFieldedExtras : Spares (fun c => !c.fieldedExtra) false true := by
  constructor <;> rintro ⟨info, label, children⟩ hc
  · cases label <;> simp_all [fieldedExtra, bucket, Buckets.key, Tree.label, Tree.info]
  · cases label <;> simp_all [fieldedExtra, bucket, Buckets.key, Tree.label, Tree.info]

end Tree

namespace BuildContext

/-- The context in which extra nodes with a field name are kept or not. -/
def keeping (ctx : BuildContext) (keepExtras : Bool) : BuildContext :=
  { ctx with options := { ctx.options with keepFieldedExtras := keepExtras } }

variable {keep : Tree → Bool} {before after : Bool}

theorem slotAccount_sift (ctx : BuildContext) {build build' : TypeId → Tree → Account Value}
    (hspares : Tree.Spares keep before after)
    (h : ∀ element c, (build' element (c.sift keep)).ending = (build element c).ending) (t : Tree)
    (slot : Slot) :
    ((ctx.keeping after).slotAccount build' (t.sift keep) slot).ending =
      ((ctx.keeping before).slotAccount build t slot).ending := by
  unfold slotAccount
  rw [Tree.info_sift]
  cases slot.rule with
  | requested => rfl
  | fixed e => rfl
  | child bucket name cardinality element =>
    have hunder : (t.sift keep).under (ctx.keeping after).options.keepFieldedExtras bucket =
        (t.under (ctx.keeping before).options.keepFieldedExtras bucket).map (Tree.sift keep) :=
      Tree.under_sift hspares bucket t
    simp only [hunder, rowAccount, Account.ending_bind, Account.ending_mapM, Account.ending_still,
      List.length_map, List.mapM_map, Function.comp_def, h]

/-- A node ends as it does without the children that are in no bucket. The induction is on the bound
on the depth, which is used up only by children that are built. -/
theorem account_sift (ctx : BuildContext) (g : Grammar) (hspares : Tree.Spares keep before after)
    (depth : Nat) (target : TypeId) (t : Tree) :
    ((ctx.keeping after).account g depth target (t.sift keep)).ending =
      ((ctx.keeping before).account g depth target t).ending := by
  induction depth generalizing target t with
  | zero => rfl
  | succ depth ih =>
    have hslot (slot : Slot) := ctx.slotAccount_sift hspares ih t slot
    simp only [account, plannedAccount, fieldAccount, Account.ending_bind, Account.ending_mapM,
      Account.ending_moves, Account.ending_still, pure_bind, Tree.info_sift, hslot]
    rfl

end BuildContext

namespace BuildRequest

def keeping (r : BuildRequest) (keepExtras : Bool) : BuildRequest :=
  { r with options := { r.options with keepFieldedExtras := keepExtras } }

def onTree (r : BuildRequest) (f : Tree → Tree) : BuildRequest := { r with root := r.root.map f }

variable {r : BuildRequest} {g : Grammar} {table table' : SymbolTable} {plans plans' : PlanCache}
  {keep : Tree → Bool} {before after : Bool}

theorem result_sift (hspares : Tree.Spares keep before after) (htable : table.Sound r.schema g)
    (hplans : plans.Sound r.schema) (htable' : table'.Sound r.schema g)
    (hplans' : plans'.Sound r.schema) :
    (((r.keeping after).onTree (Tree.sift keep)).run table' plans').result =
      ((r.keeping before).run table plans).result := by
  cases hroot : r.root with
  | none => simp only [run, keeping, onTree, hroot, Option.map_none]
  | some root =>
    cases hspec : r.requested.compile with
    | error f => simp only [run, keeping, onTree, hroot, hspec, Option.map_some]
    | ok e =>
      cases htarget : r.target.asTarget with
      | error f => simp only [run, keeping, onTree, hroot, hspec, htarget, Option.map_some]
      | ok target =>
        have hroot' : ((r.keeping after).onTree (Tree.sift keep)).root = some (root.sift keep) := by
          simp only [onTree, keeping, hroot, Option.map_some]
        rw [(run_account (r := r.keeping before) hroot hspec htarget htable hplans).1,
          (run_account (r := (r.keeping after).onTree (Tree.sift keep)) hroot' hspec htarget htable'
            hplans').1]
        exact congrArg (r.resultOf target)
          ((r.context e).account_sift g hspares levelLimit target root)

/-- Comments and punctuation never change what is built, nor how a build fails. Dropping extra nodes
that have a field name is the same as building a tree that has none. -/
theorem result_prune (keepExtras : Bool) (htable : table.Sound r.schema g)
    (hplans : plans.Sound r.schema) (htable' : table'.Sound r.schema g)
    (hplans' : plans'.Sound r.schema) :
    (((r.keeping keepExtras).onTree (Tree.prune keepExtras)).run table' plans').result =
        ((r.keeping keepExtras).run table plans).result ∧
      (((r.keeping true).onTree Tree.withoutFieldedExtras).run table' plans').result =
        ((r.keeping false).run table plans).result :=
  ⟨result_sift (Tree.spares_prune keepExtras) htable hplans htable' hplans',
    result_sift Tree.spares_withoutFieldedExtras htable hplans htable' hplans'⟩

end BuildRequest

namespace Sums

def comment (label : Option String) : Tree :=
  .node ⟨4, "comment", true, true, 1, 1, ⟨0, 1⟩, ⟨0, 1⟩⟩ label []

def punctuated (label : Option String) (start stop : Int) : Tree :=
  .node (number label start stop).info label
    [.node ⟨3, ",", false, false, start, start, ⟨0, start⟩, ⟨0, start⟩⟩ none [comment none]]

/-- The sum of two numbers amid comments, one of which stands in the place of an operand. -/
def commented : Tree :=
  .node tree.info none
    [comment none, number (some "left") 0 1, comment (some "left"), punctuated (some "right") 2 3]

theorem result_commented :
    ((request commented).run { grammar } []).result = .ok { value := some treeValue } ∧
      ((((request commented).keeping true).onTree Tree.withoutFieldedExtras).run
        { grammar } []).result = .ok { value := some treeValue } := by
  have htable := SymbolTable.sound_fresh schema (.refl grammar)
  have hplans := PlanCache.sound_nil schema
  have hprune : commented.prune false = tree := rfl
  obtain ⟨hpruned, hdropped⟩ := BuildRequest.result_prune (r := request commented) false
    htable hplans htable hplans
  have hresult : ((request commented).run { grammar } []).result =
      .ok { value := some treeValue } := by
    calc
      _ = ((request (commented.prune false)).run { grammar } []).result := hpruned.symm
      _ = _ := by
        rw [hprune, result_request (by decide), plain_tree]
        rfl
  exact ⟨hresult, hdropped.trans hresult⟩

end Sums

end TypedTree
