import TypedTree.Build.Engine
import TypedTree.Proofs.Loading
import TypedTree.Proofs.Violations

/-! # What the entry points return and raise

A build can be asked for by itself, by parsing with a grammar or with the name of one, and for the
bare value. What stops the engine because of the tree is returned, what a declaration or the
decoder does wrong is raised, and every entry point gives on what the build gives. The identifier
of a parse is gone after it, however it ends. -/

namespace TypedTree

/-- The report on what was raised, where there is one. -/
def Raised.report? : Raised → Option Report
  | .declared (.schema f) => some f.report
  | .declared _ => none
  | .decode _ => none

theorem SchemaFault.family_report (f : SchemaFault) :
    f.report.family = .schema ∧ f.report.code.number / 1000 = 4 := by
  cases f <;> simp [report, Report.duplicateSymbol, Report.unknownKind, Report.unknownField,
    Report.undeclaredField, Report.unsupportedSpec, Report.unsupportedTarget, Code.number]

theorem Mismatch.family_report (m : Mismatch) :
    m.report.family = .build ∧ m.report.code.number / 1000 = 3 := by
  cases m <;> simp [report, Report.noMatch, Report.missingField, Report.multipleNodes,
    Report.emptyList, Report.tooDeep, Code.number]

theorem Raised.family_of_report? {x : Raised} {report : Report} (h : x.report? = some report) :
    report.family = .schema ∧ report.code.number / 1000 = 4 := by
  match x with
  | .declared (.schema f) =>
    cases h
    exact f.family_report
  | .declared (.unhashable _) => cases h
  | .declared .notType => cases h
  | .declared (.noAttribute _ _) => cases h
  | .decode _ => cases h

namespace BuildRequest

/-- The ways in which a build can end for its caller. -/
inductive Ends (r : BuildRequest) : Except Raised (Outcome Value) → Prop
  | built (v : Value) : r.Ends (.ok { value := some v })
  | rootless (h : r.root = none) : r.Ends (.ok { failure := some ParseFault.noRoot.report })
  | unfit (m : Mismatch) : r.Ends (.ok { failure := some m.report })
  | raised (x : Raised) : r.Ends (.error x)

variable {r : BuildRequest} {table : SymbolTable} {plans : PlanCache} {target : TypeId}
  {result : Except Raised (Outcome Value)}

/-- The engine's own ending decides what is returned and what is raised. -/
theorem run_of_engine {root : Tree} {e : Extractor} (hroot : r.root = some root)
    (hspec : r.requested.compile = .ok e) (htarget : r.target.asTarget = .ok target) :
    (r.run table plans).result = r.resultOf target
      (((r.context e).node levelLimit target root).run
        { cursor := .start root, table, plans }).1 := by
  simp only [run, hroot, hspec, htarget]
  exact (r.conclude_eq target _ _).1

theorem ends_resultOf (r : BuildRequest) (target : TypeId) (ending : Except Stop Value) :
    r.Ends (r.resultOf target ending) := by
  match ending with
  | .ok v => exact .built v
  | .error (.raised x) => exact .raised x
  | .error (.mismatch m) => exact .unfit m
  | .error .exhausted => exact .unfit (.tooDeep (r.schema.nameOf target) callLimit)

theorem run_ends (r : BuildRequest) (table : SymbolTable) (plans : PlanCache) :
    r.Ends (r.run table plans).result := by
  by_cases hready : ∃ root e target, r.root = some root ∧ r.requested.compile = .ok e ∧
    r.target.asTarget = .ok target
  · obtain ⟨root, e, target, hroot, hspec, htarget⟩ := hready
    rw [run_of_engine hroot hspec htarget]
    exact r.ends_resultOf target _
  · rcases result_of_unready hready table plans with ⟨hroot, hfailure⟩ | ⟨f, hraised⟩
    · rw [hfailure]
      exact .rootless hroot
    · rw [hraised]
      exact .raised _

/-- A failure that is returned is the missing root, or one of the tree. -/
theorem Ends.failure {outcome : Outcome Value} {report : Report} (h : r.Ends (.ok outcome))
    (hfailure : outcome.failure = some report) :
    r.root = none ∧ report = ParseFault.noRoot.report ∨
      report.family = .build ∧ report.code.number / 1000 = 3 := by
  cases h with
  | built v => cases hfailure
  | rootless hroot =>
    cases hfailure
    exact .inl ⟨hroot, rfl⟩
  | unfit m =>
    cases hfailure
    exact .inr m.family_report

/-- The bare value is asked for in vain exactly if there is none, and for the same reason. -/
theorem Ends.bareValue (h : r.Ends result) :
    (∀ v, bareValue result = .ok v ↔ ∃ w, v = some w ∧ result = .ok { value := some w }) ∧
      (∀ report, bareValue result = .error (.failed report) ↔
        result = .ok { failure := some report }) ∧
      ∀ x, bareValue result = .error (.raised x) ↔ result = .error x := by
  cases h <;> simp [TypedTree.bareValue, Outcome.unwrap, Except.mapError, eq_comm]

end BuildRequest

theorem Grammar.agree_refl {α β : Type} [BEq α] [BEq β] [ReflBEq β] (entries : List (α × β)) :
    agree entries entries = true := by
  simp [agree]

theorem Grammar.same_refl (g : Grammar) : g.same g = true := by
  simp [same, agree_refl, List.isPerm_iff]

namespace Engine

/-- The shared table of a grammar was made for an equal one. -/
theorem tableFor_same (e : Engine) (g : Grammar) :
    (e.tableFor g).1.table.grammar.same g = true := by
  unfold tableFor
  cases hfind : e.shared.find? fun t => t.table.grammar.same g with
  | some t => exact List.find?_some (p := fun t : SharedTable => t.table.grammar.same g) hfind
  | none => exact g.same_refl

theorem tableFor_plans (e : Engine) (g : Grammar) : (e.tableFor g).2.plans = e.plans := by
  unfold tableFor
  split <;> rfl

theorem parse_clears (fresh : Nat → String) (e : Engine) (g : Grammar) (r : BuildRequest) :
    (e.parse fresh g r).2.id.current = none := by
  unfold parse
  split
  split <;> rfl

theorem parse_result (fresh : Nat → String) (e : Engine) (g : Grammar) {r : BuildRequest}
    {target : TypeId} (hclass : r.target = .direct target) :
    (e.parse fresh g r).1.result = (r.run (e.tableFor g).1.table e.plans).result := by
  have hname : r.target.asOwnerOf "__name__" = .ok target := by rw [hclass]; rfl
  simp only [parse, hname, tableFor_plans]

/-- A name that cannot be loaded is reported, and nothing is changed. -/
theorem parseNamed_error {fresh : Nat → String} {modules : Modules}
    {tables : LoadedGrammar → Grammar} {name : String} {cache : GrammarCache} {f : ParseFault}
    (h : (cache.load modules name).1 = .error f) (e : Engine) (r : BuildRequest) :
    e.parseNamed fresh modules tables name cache r = (.error f, cache, e) := by
  have hload : cache.load modules name = (.error f, cache) :=
    Prod.ext h (GrammarCache.load_eq_error h).2
  simp only [parseNamed, hload]

theorem parseNamed_ok {fresh : Nat → String} {modules : Modules}
    {tables : LoadedGrammar → Grammar} {name : String} {cache : GrammarCache} {l : LoadedGrammar}
    (h : (cache.load modules name).1 = .ok l) (e : Engine) (r : BuildRequest) :
    e.parseNamed fresh modules tables name cache r = (.ok (e.parse fresh (tables l) r).1,
      (cache.load modules name).2, (e.parse fresh (tables l) r).2) := by
  have hload : cache.load modules name = (.ok l, (cache.load modules name).2) := Prod.ext h rfl
  rw [parseNamed, hload]

/-- A parse by name changes nothing if the name cannot be loaded, and is otherwise the parse with
the grammar. That gives what the build gives with a table of the grammar, and leaves no identifier.
A build returns what the tree is at fault for, which is a missing root or a mismatch, and raises
nothing of the kind; the bare value is there exactly if the build returns it, and its place is taken
by the failure that is returned, or by what is raised. -/
theorem entry_points_agree (fresh : Nat → String) (modules : Modules)
    (tables : LoadedGrammar → Grammar) (name : String) (cache : GrammarCache) (e : Engine)
    (g : Grammar) {r : BuildRequest} {target : TypeId} (hclass : r.target = .direct target) :
    (∀ f, (cache.load modules name).1 = .error f →
        e.parseNamed fresh modules tables name cache r = (.error f, cache, e)) ∧
      (∀ l, (cache.load modules name).1 = .ok l →
        e.parseNamed fresh modules tables name cache r = (.ok (e.parse fresh (tables l) r).1,
          (cache.load modules name).2, (e.parse fresh (tables l) r).2)) ∧
      (e.parse fresh g r).1.result = (r.run (e.tableFor g).1.table e.plans).result ∧
      (e.tableFor g).1.table.grammar.same g = true ∧
      (e.parse fresh g r).2.id.current = none ∧
      ∀ table plans,
        (∀ root extractor, r.root = some root → r.requested.compile = .ok extractor →
          (r.run table plans).result = r.resultOf target
            (((r.context extractor).node levelLimit target root).run
              { cursor := .start root, table, plans }).1) ∧
        (∀ outcome report, (r.run table plans).result = .ok outcome →
          outcome.failure = some report →
            r.root = none ∧ report = ParseFault.noRoot.report ∨
              report.family = .build ∧ report.code.number / 1000 = 3) ∧
        (∀ x report, (r.run table plans).result = .error x → x.report? = some report →
          report.family = .schema ∧ report.code.number / 1000 = 4) ∧
        (∀ v, bareValue (r.run table plans).result = .ok v ↔
          ∃ w, v = some w ∧ (r.run table plans).result = .ok { value := some w }) ∧
        (∀ report, bareValue (r.run table plans).result = .error (.failed report) ↔
          (r.run table plans).result = .ok { failure := some report }) ∧
        ∀ x, bareValue (r.run table plans).result = .error (.raised x) ↔
          (r.run table plans).result = .error x := by
  refine ⟨fun f hf => parseNamed_error hf e r, fun l hl => parseNamed_ok hl e r,
    parse_result fresh e g hclass, e.tableFor_same g, parse_clears fresh e g r,
    fun table plans => ?_⟩
  have hends := r.run_ends table plans
  refine ⟨fun root extractor hroot hspec => ?_, fun outcome report hresult hfailure => ?_,
    fun x report _ hreport => Raised.family_of_report? hreport, hends.bareValue⟩
  · exact BuildRequest.run_of_engine hroot hspec (by rw [hclass]; rfl)
  · exact (hresult ▸ hends).failure hfailure

end Engine

namespace Sums

def engine : Engine := { id := { current := some "b1" } }

theorem sums_by_entry_point :
    engine.parseNamed toString [] (fun _ => grammar) "python" [] (request tree) =
        (.error (.languageUnavailable "python"), [], engine) ∧
      (engine.parse toString grammar (request tree)).1.result =
        .ok { value := some treeValue } ∧
      (engine.parse toString grammar (request tree)).2.id.current = none ∧
      bareValue (((request broken).run { grammar } []).result) =
        .error (.failed (Mismatch.missingField "left" brokenLeft.info.site).report) := by
  obtain ⟨hmissing, -, hresult, -, hid, -⟩ := Engine.entry_points_agree toString []
    (fun _ => grammar) "python" [] engine grammar (r := request tree) rfl
  obtain ⟨-, -, -, -, -, hbuilds⟩ := Engine.entry_points_agree toString [] (fun _ => grammar)
    "python" [] engine grammar (r := request broken) rfl
  obtain ⟨-, -, -, -, hfailed, -⟩ := hbuilds { grammar } []
  refine ⟨hmissing _ rfl, hresult.trans ?_, hid, (hfailed _).mpr result_broken⟩
  change ((request tree).run { grammar } []).result = _
  rw [result_request (by decide), plain_tree]
  rfl

end Sums

end TypedTree
