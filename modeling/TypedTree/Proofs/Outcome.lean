import TypedTree.Proofs.Refinement

/-! # Outcomes of builds

What a caller of a build sees depends on the request and the answers of the grammar alone: the
result and the moves of the cursor are the same for all sound caches, and the result is that of the
plain recursion unless the tree nests too deeply. -/

namespace TypedTree

/-- The build gave up because the tree nests too deeply. -/
def BuildReport.TooDeep (b : BuildReport) : Prop :=
  ∃ f, b.result = .ok { failure := some f } ∧ f.code = .tooDeep

/-- The caches that the build leaves are sound, and the grammar is the one it was given. -/
structure BuildReport.Keeps (s : Schema) (g own : Grammar) (b : BuildReport) : Prop where
  table : b.table.Sound s g
  plans : b.plans.Sound s
  grammar : b.table.grammar = own

namespace BuildRequest

variable {g : Grammar} {table : SymbolTable} {plans : PlanCache}

/-- What the caller sees of the way in which a build ended. -/
def resultOf (r : BuildRequest) (target : TypeId) :
    Except Stop Value → Except Raised (Outcome Value)
  | .ok v => .ok { value := some v }
  | .error (.raised e) => .error e
  | .error (.mismatch m) => .ok { failure := some m.report }
  | .error .exhausted =>
    .ok { failure := some (Mismatch.tooDeep (r.schema.nameOf target) callLimit).report }

def walkOf (calls : Calls) : Except Stop Value → Option Calls
  | .error .exhausted => none
  | _ => some calls

theorem conclude_eq (r : BuildRequest) (target : TypeId) (ending : Except Stop Value)
    (st : BuildState) :
    (r.conclude target ending st).result = r.resultOf target ending ∧
      (r.conclude target ending st).walk = walkOf st.cursor.calls ending ∧
      (r.conclude target ending st).table = st.table ∧
      (r.conclude target ending st).plans = st.plans := by
  rcases ending with stop | v
  · cases stop <;> exact ⟨rfl, rfl, rfl, rfl⟩
  · exact ⟨rfl, rfl, rfl, rfl⟩

/-- A build whose request is in order ends, and costs, as the account of its root says. -/
theorem run_account {r : BuildRequest} {root : Tree} {e : Extractor} {target : TypeId}
    (hroot : r.root = some root) (hspec : r.requested.compile = .ok e)
    (htarget : r.target.asTarget = .ok target) (htable : table.Sound r.schema g)
    (hplans : plans.Sound r.schema) :
    (r.run table plans).result =
        r.resultOf target ((r.context e).account g levelLimit target root).ending ∧
      (r.run table plans).walk =
        walkOf ((r.context e).account g levelLimit target root).cost
          ((r.context e).account g levelLimit target root).ending ∧
      (r.run table plans).Keeps r.schema g table.grammar := by
  obtain ⟨st, hrun, hst, hgrammar, hcalls, -⟩ :=
    (r.context e).node_gives g levelLimit target root
      { cursor := .start root, table, plans } ⟨htable, hplans⟩ trivial
  have hreport : r.run table plans =
      r.conclude target ((r.context e).account g levelLimit target root).ending st := by
    simp only [run, hroot, hspec, htarget, hrun]
  obtain ⟨hresult, hwalk, htable', hplans'⟩ :=
    r.conclude_eq target ((r.context e).account g levelLimit target root).ending st
  have hcost : st.cursor.calls = ((r.context e).account g levelLimit target root).cost :=
    hcalls.trans (Calls.zero_add _)
  rw [hreport, hresult, hwalk, hcost]
  exact ⟨rfl, rfl, htable' ▸ hst.table, hplans' ▸ hst.plans, htable' ▸ hgrammar⟩

/-- It ends in one way, and costs the same, for all sound caches. -/
theorem run_of_ready (r : BuildRequest) (g : Grammar) {root : Tree} {e : Extractor}
    {target : TypeId} (hroot : r.root = some root) (hspec : r.requested.compile = .ok e)
    (htarget : r.target.asTarget = .ok target) :
    ∃ ending calls, (ending = (r.context e).plain g target root ∨
        ¬ root.height ≤ levelLimit ∧ ending = .error .exhausted) ∧
      ∀ table plans, SymbolTable.Sound r.schema g table → PlanCache.Sound r.schema plans →
        (r.run table plans).result = r.resultOf target ending ∧
          (r.run table plans).walk = walkOf calls ending ∧
          (r.run table plans).Keeps r.schema g table.grammar :=
  ⟨_, _, (r.context e).account_within g levelLimit target root, fun _ _ htable hplans =>
    run_account hroot hspec htarget htable hplans⟩

section Result

variable {r : BuildRequest} {root : Tree} {e : Extractor} {target : TypeId}

theorem result_eq_plain_or_tooDeep (htable : table.Sound r.schema g) (hplans : plans.Sound r.schema)
    (hroot : r.root = some root) (hspec : r.requested.compile = .ok e)
    (htarget : r.target.asTarget = .ok target) :
    (r.run table plans).result = r.resultOf target ((r.context e).plain g target root) ∨
      ¬ root.height ≤ levelLimit ∧ (r.run table plans).TooDeep := by
  obtain ⟨ending, calls, hending, hrun⟩ := r.run_of_ready g hroot hspec htarget
  obtain ⟨hresult, -, -⟩ := hrun table plans htable hplans
  rcases hending with rfl | ⟨hdeep, rfl⟩
  · exact .inl hresult
  · exact .inr ⟨hdeep, _, hresult, rfl⟩

theorem result_eq_plain (htable : table.Sound r.schema g) (hplans : plans.Sound r.schema)
    (hroot : r.root = some root) (hspec : r.requested.compile = .ok e)
    (htarget : r.target.asTarget = .ok target) (hdepth : ¬ (r.run table plans).TooDeep) :
    (r.run table plans).result = r.resultOf target ((r.context e).plain g target root) :=
  (result_eq_plain_or_tooDeep htable hplans hroot hspec htarget).resolve_right fun h => hdepth h.2

theorem result_of_height (htable : table.Sound r.schema g) (hplans : plans.Sound r.schema)
    (hroot : r.root = some root) (hspec : r.requested.compile = .ok e)
    (htarget : r.target.asTarget = .ok target) (hheight : root.height ≤ levelLimit) :
    (r.run table plans).result = r.resultOf target ((r.context e).plain g target root) :=
  (result_eq_plain_or_tooDeep htable hplans hroot hspec htarget).resolve_right fun h =>
    h.1 hheight

/-- Where there is nothing to build from or into, the tree is not looked at. -/
theorem result_of_unready (h : ¬ ∃ root e target, r.root = some root ∧
    r.requested.compile = .ok e ∧ r.target.asTarget = .ok target) (table : SymbolTable)
    (plans : PlanCache) :
    (r.root = none ∧
        (r.run table plans).result = .ok { failure := some ParseFault.noRoot.report }) ∨
      ∃ f, (r.run table plans).result = .error (.declared f) := by
  cases hroot : r.root with
  | none =>
    simp only [run, hroot]
    exact .inl ⟨trivial, trivial⟩
  | some root =>
    cases hspec : r.requested.compile with
    | error f =>
      simp only [run, hroot, hspec]
      exact .inr ⟨_, rfl⟩
    | ok e =>
      cases htarget : r.target.asTarget with
      | error f =>
        simp only [run, hroot, hspec, htarget]
        exact .inr ⟨_, rfl⟩
      | ok target => exact absurd ⟨root, e, target, hroot, hspec, htarget⟩ h

/-- Nor is anything else but the root, the specification and the target. -/
theorem run_of_unready (r' : BuildRequest) (h : ¬ ∃ root e target, r.root = some root ∧
    r.requested.compile = .ok e ∧ r.target.asTarget = .ok target) (hroots : r'.root = r.root)
    (hspecs : r'.requested = r.requested) (htargets : r'.target = r.target)
    (table table' : SymbolTable) (plans plans' : PlanCache) :
    (r'.run table' plans').result = (r.run table plans).result ∧
      (r'.run table' plans').walk = (r.run table plans).walk := by
  cases hroot : r.root with
  | none => simp only [run, hroots, hroot, and_self]
  | some root =>
    cases hspec : r.requested.compile with
    | error f => simp only [run, hroots, hspecs, hroot, hspec, and_self]
    | ok e =>
      cases htarget : r.target.asTarget with
      | error f => simp only [run, hroots, hspecs, htargets, hroot, hspec, htarget, and_self]
      | ok target => exact absurd ⟨root, e, target, hroot, hspec, htarget⟩ h

/-- A build succeeds only if its request is in order and its root is built. -/
theorem account_of_ok {outcome : Outcome Value} (htable : table.Sound r.schema g)
    (hplans : plans.Sound r.schema) (hresult : (r.run table plans).result = .ok outcome)
    (hok : outcome.ok = true) :
    ∃ root e target v, r.root = some root ∧ r.requested.compile = .ok e ∧
      r.target.asTarget = .ok target ∧
      ((r.context e).account g levelLimit target root).ending = .ok v ∧
      outcome = { value := some v } := by
  by_cases hready : ∃ root e target, r.root = some root ∧ r.requested.compile = .ok e ∧
    r.target.asTarget = .ok target
  · obtain ⟨root, e, target, hroot, hspec, htarget⟩ := hready
    rw [(run_account hroot hspec htarget htable hplans).1] at hresult
    refine ⟨root, e, target, ?_⟩
    -- A build that stops early is raised or has a failure.
    rcases hending : ((r.context e).account g levelLimit target root).ending with stop | v
    · rw [hending] at hresult
      cases stop with
      | raised f => cases hresult
      | mismatch m =>
        cases hresult
        cases hok
      | exhausted =>
        cases hresult
        cases hok
    · rw [hending] at hresult
      cases hresult
      exact ⟨v, hroot, hspec, htarget, rfl, rfl⟩
  · rcases result_of_unready hready table plans with ⟨-, hfailure⟩ | ⟨f, hraised⟩
    · cases hfailure.symm.trans hresult
      cases hok
    · cases hraised.symm.trans hresult

/-- The plain recursion gives the value of a build that succeeds. -/
theorem plain_of_ok {outcome : Outcome Value} (htable : table.Sound r.schema g)
    (hplans : plans.Sound r.schema) (hresult : (r.run table plans).result = .ok outcome)
    (hok : outcome.ok = true) :
    ∃ root e target v, r.requested.compile = .ok e ∧ r.target.asTarget = .ok target ∧
      (r.context e).plain g target root = .ok v ∧ outcome.value = some v := by
  obtain ⟨root, e, target, v, -, hspec, htarget, hending, rfl⟩ :=
    account_of_ok htable hplans hresult hok
  rcases (r.context e).account_within g levelLimit target root with hplain | ⟨-, hdeep⟩
  · exact ⟨root, e, target, v, hspec, htarget, hplain.symm.trans hending, rfl⟩
  · cases hending.symm.trans hdeep

/-- A build that fails has no root, or nests too deeply, or else the plain recursion fails. -/
theorem plain_of_failure {f : Report} (htable : table.Sound r.schema g)
    (hplans : plans.Sound r.schema)
    (hresult : (r.run table plans).result = .ok { failure := some f }) :
    f = ParseFault.noRoot.report ∨ f.code = .tooDeep ∨
      ∃ root e target m, (r.context e).plain g target root = .error (.mismatch m) ∧
        f = m.report := by
  by_cases hready : ∃ root e target, r.root = some root ∧ r.requested.compile = .ok e ∧
    r.target.asTarget = .ok target
  · obtain ⟨root, e, target, hroot, hspec, htarget⟩ := hready
    rcases result_eq_plain_or_tooDeep htable hplans hroot hspec htarget with
      hplain | ⟨-, _, hfailure, hdeep⟩
    · rw [hplain] at hresult
      rcases hp : (r.context e).plain g target root with stop | v
      · rw [hp] at hresult
        cases stop with
        | raised f => cases hresult
        | mismatch m =>
          cases hresult
          exact .inr (.inr ⟨root, e, target, m, hp, rfl⟩)
        | exhausted =>
          cases hresult
          exact .inr (.inl rfl)
      · rw [hp] at hresult
        cases hresult
    · cases hfailure.symm.trans hresult
      exact .inr (.inl hdeep)
  · rcases result_of_unready hready table plans with ⟨-, hfailure⟩ | ⟨f, hraised⟩
    · cases hfailure.symm.trans hresult
      exact .inl rfl
    · cases hraised.symm.trans hresult

end Result

/-- All sound caches lead to the same result and the same moves, and stay sound. -/
theorem run_uniform (r : BuildRequest) (g : Grammar) :
    ∃ result walk, ∀ table plans, SymbolTable.Sound r.schema g table →
      PlanCache.Sound r.schema plans →
        (r.run table plans).result = result ∧ (r.run table plans).walk = walk ∧
          (r.run table plans).Keeps r.schema g table.grammar := by
  cases hroot : r.root with
  | none =>
    refine ⟨.ok { failure := some ParseFault.noRoot.report }, none, fun table plans ht hp => ?_⟩
    simp only [run, hroot]
    exact ⟨trivial, trivial, ht, hp, rfl⟩
  | some root =>
    cases hspec : r.requested.compile with
    | error e =>
      refine ⟨.error (.declared e.toTypeFault), none, fun table plans ht hp => ?_⟩
      simp only [run, hroot, hspec]
      exact ⟨trivial, trivial, ht, hp, rfl⟩
    | ok e =>
      cases htarget : r.target.asTarget with
      | error f =>
        refine ⟨.error (.declared f), some {}, fun table plans ht hp => ?_⟩
        simp only [run, hroot, hspec, htarget]
        exact ⟨trivial, trivial, ht, hp, rfl⟩
      | ok target =>
        obtain ⟨ending, calls, -, h⟩ := r.run_of_ready g hroot hspec htarget
        exact ⟨r.resultOf target ending, walkOf calls ending, h⟩

end BuildRequest

namespace Sums

def request (t : Tree) : BuildRequest :=
  { schema, target := .direct 10, root := some t, source := [49, 43, 50] }

theorem result_request {t : Tree} (h : t.height ≤ levelLimit) :
    ((request t).run { grammar } []).result =
      (request t).resultOf 10 (context.plain grammar 10 t) :=
  BuildRequest.result_of_height (SymbolTable.sound_fresh schema (.refl grammar))
    (PlanCache.sound_nil schema) rfl rfl rfl h

end Sums

end TypedTree
