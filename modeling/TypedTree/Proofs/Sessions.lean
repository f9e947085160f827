import TypedTree.Build.Session
import TypedTree.Proofs.Outcome

/-! # Answers do not depend on the session

What an operation of a session answers is what it answers alone, on a new table for an equal
grammar. All caches of a session stay sound, whatever its operations are and however they end, and
sound caches do not show in the answers. -/

namespace TypedTree

variable {s : Schema} {g : Grammar}

/-- A question has one answer for all sound caches, and leaves them sound. -/
theorem SymbolTable.ask_uniform (s : Schema) (g : Grammar) (q : Query) :
    ∃ answer, ∀ table plans, SymbolTable.Sound s g table → PlanCache.Sound s plans →
      (table.ask s plans q).1 = answer ∧ (table.ask s plans q).2.1.Sound s g ∧
        (table.ask s plans q).2.1.grammar = table.grammar ∧ (table.ask s plans q).2.2.Sound s := by
  cases q with
  | symbolFor target =>
    refine ⟨.symbol (do
      let id ← target.asKindOwner s
      (s.symbolFor g id).mapError .schema), fun table plans ht hp => ⟨?_, ht, rfl, hp⟩⟩
    simp only [ask, ht.grammar.symbolFor_eq]
  | nameFor symbol =>
    refine ⟨.name (g.nameFor symbol), fun table plans ht hp => ⟨?_, ht, rfl, hp⟩⟩
    simp only [ask, ht.grammar.nameFor_eq]
  | hasField name =>
    refine ⟨.hasField (g.hasField name), fun table plans ht hp => ⟨?_, ht, rfl, hp⟩⟩
    simp only [ask, ht.grammar.field]
  | dispatchFor target =>
    cases hid : target.asTarget with
    | error f =>
      refine ⟨.dispatch (.error f), fun table plans ht hp => ?_⟩
      simp only [ask, hid]
      exact ⟨trivial, ht, trivial, hp⟩
    | ok id =>
      refine ⟨.dispatch ((s.dispatch g id).mapError .schema), fun table plans ht hp => ?_⟩
      simp only [ask, hid, dispatchFor_answer ht]
      exact ⟨trivial, dispatchFor_sound ht id, dispatchFor_grammar table s id, hp⟩
  | expected entries =>
    refine ⟨.expected (entries.expected s g), fun table plans ht hp => ⟨?_, ht, rfl, hp⟩⟩
    simp only [ask, ht.grammar.expected_eq]
  | checkFields target =>
    cases hid : target.asProduct s with
    | error f =>
      refine ⟨.checked (.error f), fun table plans ht hp => ?_⟩
      simp only [ask, hid]
      exact ⟨trivial, ht, trivial, hp⟩
    | ok id =>
      refine ⟨.checked (s.checkFields g id), fun table plans ht hp => ?_⟩
      simp only [ask, hid, checkFields_answer ht hp]
      exact ⟨trivial, checkFields_sound ht hp id, checkFields_grammar table s id plans,
        checkFields_plans table hp id⟩
  | build r =>
    obtain ⟨result, walk, h⟩ := { r with schema := s }.run_uniform g
    refine ⟨.built result walk, fun table plans ht hp => ?_⟩
    obtain ⟨hresult, hwalk, hkeeps⟩ := h table plans ht hp
    simp only [ask, hresult, hwalk]
    exact ⟨trivial, hkeeps.table, hkeeps.grammar, hkeeps.plans⟩

theorem SymbolTable.ask_eq_fresh {table : SymbolTable} {plans : PlanCache} {other : Grammar}
    (ht : table.Sound s g) (hp : plans.Sound s) (halike : other.Alike g) (q : Query) :
    (table.ask s plans q).1 = (SymbolTable.ask s [] { grammar := other } q).1 := by
  obtain ⟨answer, huniform⟩ := ask_uniform s g q
  have hfresh := huniform { grammar := other } [] (sound_fresh s halike) (PlanCache.sound_nil s)
  exact (huniform table plans ht hp).1.trans hfresh.1.symm

/-- The table belongs to one of the languages and remembers nothing that is wrong for it. -/
structure SymbolTable.Fits (s : Schema) (languages : List Grammar) (table : SymbolTable) :
    Prop where
  known : table.grammar ∈ languages
  sound : table.Sound s table.grammar

/-- What an operation keeps: all tables fit, and all plans are right. -/
structure Session.Sound (s : Schema) (languages : List Grammar) (st : Session) : Prop where
  tables : ∀ table ∈ st.tables, table.Fits s languages
  shared : ∀ t ∈ st.engine.shared, t.table.Fits s languages
  plans : st.engine.plans.Sound s

/-- The grammars that an operation brings along are among the languages. -/
def Operation.Within (languages : List Grammar) : Operation → Prop
  | .ask _ _ => True
  | .askShared g _ => g ∈ languages
  | .parse g _ => g ∈ languages
  | .reset => True

/-- The grammar of the table that an operation works with. -/
def Session.language? (st : Session) : Operation → Option Grammar
  | .ask index _ => st.tables[index]?.map SymbolTable.grammar
  | .askShared g _ => some g
  | .parse g _ => some g
  | .reset => none

/-- What an operation answers if nothing came before it and its table is a new one for `g`. -/
def Operation.alone (s : Schema) (fresh : Nat → String) (g : Grammar) : Operation → Answer
  | .ask _ q => (SymbolTable.ask s [] { grammar := g } q).1
  | .askShared _ q => (SymbolTable.ask s [] { grammar := g } q).1
  | .parse _ r => .parsed (({} : Engine).parse fresh g { r with schema := s }).1.result
  | .reset => .done

def EqualAlike (languages : List Grammar) : Prop :=
  ∀ a ∈ languages, ∀ b ∈ languages, a.same b = true → a.Alike b

namespace Grammar

theorem lastOf_eq_of_perm {α β : Type} [BEq α] [LawfulBEq α] {xs ys : List (α × β)}
    (h : xs.Perm ys) (hk : (xs.map Prod.fst).Nodup) (k : α) : lastOf k xs = lastOf k ys := by
  have hx : (xs.reverse.map Prod.fst).Nodup := (xs.reverse_perm.symm.map _).nodup hk
  have hy : (ys.reverse.map Prod.fst).Nodup :=
    ((h.trans ys.reverse_perm.symm).map _).nodup hk
  refine Option.ext fun v => ?_
  rw [lastOf, lastOf, lookup_eq_some_of_nodup hx, lookup_eq_some_of_nodup hy, List.mem_reverse,
    List.mem_reverse, h.mem_iff]

theorem lastOf_eq_of_agree {α β : Type} [BEq α] [LawfulBEq α] [BEq β] [LawfulBEq β]
    {xs ys : List (α × β)} (h : agree xs ys = true) (k : α) : lastOf k xs = lastOf k ys := by
  have hall : ∀ e ∈ xs ++ ys, lastOf e.1 xs = lastOf e.1 ys := by
    intro e he
    simpa using List.all_eq_true.mp h e he
  cases hx : lastOf k xs with
  | some v =>
    rw [← hx]
    exact hall (k, v) (by simpa using Or.inl (List.mem_reverse.mp (mem_of_lookup_eq_some hx)))
  | none =>
    cases hy : lastOf k ys with
    | none => rfl
    | some v =>
      rw [← hx, ← hy]
      exact hall (k, v) (by simpa using Or.inr (List.mem_reverse.mp (mem_of_lookup_eq_some hy)))

def ListsOnce (g : Grammar) : Prop := (g.symbolEntries.map Prod.fst).Nodup

instance (g : Grammar) : Decidable g.ListsOnce := inferInstanceAs (Decidable (List.Nodup _))

theorem alike_of_same {a b : Grammar} (ha : a.ListsOnce) (h : a.same b = true) : a.Alike b := by
  simp only [same, Bool.and_eq_true, List.isPerm_iff] at h
  obtain ⟨⟨hkinds, hnames⟩, hfields⟩ := h
  refine ⟨fun kind named => ?_, fun symbol => ?_, fun name => ?_⟩
  · have hentries : a.symbolEntries.Perm b.symbolEntries := hkinds.map _
    rw [symbol?, symbol?, lastOf_eq_of_perm hentries ha]
  · rw [kindName?, kindName?, lastOf_eq_of_agree hnames]
  · rw [hasField, hasField, lastOf_eq_of_agree hfields]

end Grammar

theorem equalAlike_of_listsOnce {languages : List Grammar} (h : ∀ g ∈ languages, g.ListsOnce) :
    EqualAlike languages :=
  fun a ha _ _ hsame => Grammar.alike_of_same (h a ha) hsame

variable {languages : List Grammar} {fresh : Nat → String}

theorem SymbolTable.Fits.ask {table : SymbolTable} {plans : PlanCache}
    (h : table.Fits s languages) (hp : plans.Sound s) (q : Query) :
    (table.ask s plans q).2.1.Fits s languages ∧ (table.ask s plans q).2.2.Sound s := by
  obtain ⟨_, huniform⟩ := SymbolTable.ask_uniform s table.grammar q
  obtain ⟨-, hsound, hgrammar, hplans⟩ := huniform table plans h.sound hp
  exact ⟨⟨hgrammar ▸ h.known, hgrammar.symm ▸ hsound⟩, hplans⟩

theorem Engine.tableFor_fits (hequal : EqualAlike languages) {e : Engine}
    (h : ∀ t ∈ e.shared, t.table.Fits s languages) (hg : g ∈ languages) :
    (e.tableFor g).1.table.Fits s languages ∧ (e.tableFor g).1.table.Sound s g ∧
      (∀ t ∈ (e.tableFor g).2.shared, t.table.Fits s languages) ∧
      (e.tableFor g).2.plans = e.plans := by
  unfold tableFor
  cases hfind : e.shared.find? fun t => t.table.grammar.same g with
  | some t =>
    have hfits := h t (List.mem_of_find?_eq_some hfind)
    have hsame := List.find?_some hfind
    -- It may have been made for another grammar, which then is equal to `g`.
    exact ⟨hfits, hfits.sound.of_alike (hequal _ hfits.known _ hg hsame), h, rfl⟩
  | none =>
    have hfits : SymbolTable.Fits s languages { grammar := g } :=
      ⟨hg, SymbolTable.sound_fresh s (.refl g)⟩
    refine ⟨hfits, hfits.sound, fun t ht => ?_, rfl⟩
    rcases List.mem_append.mp ht with ht | ht
    · exact h t ht
    · rw [List.mem_singleton.mp ht]
      exact hfits

theorem Engine.store_fits {e : Engine} {serial : Nat} {table : SymbolTable}
    (h : ∀ t ∈ e.shared, t.table.Fits s languages) (ht : table.Fits s languages) :
    ∀ t ∈ (e.store serial table).shared, t.table.Fits s languages := by
  intro t hmem
  obtain ⟨u, hu, rfl⟩ := List.mem_map.mp hmem
  by_cases hs : u.serial = serial
  · simpa [hs] using ht
  · simpa [hs] using h u hu

/-- A parse has one result for all engines whose plans and whose table for the grammar are sound. -/
theorem Engine.parse_uniform (fresh : Nat → String) (g : Grammar) (r : BuildRequest) :
    ∃ result, ∀ (e : Engine) (h : Grammar), (e.tableFor h).1.table.Sound r.schema g →
      (e.tableFor h).2.plans.Sound r.schema → (e.parse fresh h r).1.result = result := by
  cases hname : r.target.asOwnerOf "__name__" with
  | error f =>
    refine ⟨.error (.declared f), fun e h _ _ => ?_⟩
    simp only [parse, hname]
  | ok target =>
    obtain ⟨result, _, huniform⟩ := r.run_uniform g
    refine ⟨result, fun e h ht hp => ?_⟩
    simp only [parse, hname]
    exact (huniform _ _ ht hp).1

theorem Engine.parse_sound (hequal : EqualAlike languages) {e : Engine} {r : BuildRequest}
    (h : ∀ t ∈ e.shared, t.table.Fits r.schema languages) (hp : e.plans.Sound r.schema)
    (hg : g ∈ languages) :
    (∀ t ∈ (e.parse fresh g r).2.shared, t.table.Fits r.schema languages) ∧
      (e.parse fresh g r).2.plans.Sound r.schema := by
  obtain ⟨hfits, -, hshared, hplans⟩ := tableFor_fits hequal h hg
  rw [← hplans] at hp
  cases hname : r.target.asOwnerOf "__name__" with
  | error f =>
    simp only [parse, hname]
    exact ⟨hshared, hp⟩
  | ok target =>
    obtain ⟨_, _, huniform⟩ := r.run_uniform (e.tableFor g).1.table.grammar
    obtain ⟨-, -, hkeeps⟩ := huniform _ _ hfits.sound hp
    have htable : (r.run (e.tableFor g).1.table (e.tableFor g).2.plans).table.Fits r.schema
        languages :=
      ⟨hkeeps.grammar ▸ hfits.known, hkeeps.grammar.symm ▸ hkeeps.table⟩
    simp only [parse, hname]
    exact ⟨store_fits hshared htable, hkeeps.plans⟩

namespace Session

variable {st : Session} {op : Operation}

theorem start_sound {owned : List Grammar} (h : ∀ g ∈ owned, g ∈ languages) :
    (start owned).Sound s languages where
  tables table hmem := by
    obtain ⟨g, hg, rfl⟩ := List.mem_map.mp hmem
    exact ⟨h g hg, SymbolTable.sound_fresh s (.refl g)⟩
  shared t hmem := by
    cases hmem
  plans := PlanCache.sound_nil s

/-- One operation keeps all caches sound, also if it fails. -/
theorem step_sound (hequal : EqualAlike languages) (h : st.Sound s languages)
    (hop : op.Within languages) : (st.step s fresh op).2.Sound s languages := by
  cases op with
  | ask index q =>
    cases ht : st.tables[index]? with
    | none =>
      simp only [step, ht]
      exact h
    | some table =>
      obtain ⟨hfits, hplans⟩ := (h.tables table (List.mem_of_getElem? ht)).ask h.plans q
      simp only [step, ht]
      refine ⟨fun u hu => ?_, h.shared, hplans⟩
      rcases List.mem_or_eq_of_mem_set hu with hu | rfl
      · exact h.tables u hu
      · exact hfits
  | askShared g q =>
    obtain ⟨hfits, -, hshared, hplans⟩ := Engine.tableFor_fits hequal h.shared hop
    obtain ⟨htable, hplans'⟩ := hfits.ask (hplans ▸ h.plans) q
    exact ⟨h.tables, Engine.store_fits hshared htable, hplans'⟩
  | parse g r =>
    obtain ⟨hshared, hplans⟩ :=
      Engine.parse_sound (r := { r with schema := s }) hequal h.shared h.plans hop
    exact ⟨h.tables, hshared, hplans⟩
  | reset =>
    -- The tables that were shared stay with those who hold them.
    refine ⟨fun table hmem => ?_, fun t hmem => ?_, h.plans⟩
    · rcases List.mem_append.mp hmem with hmem | hmem
      · exact h.tables table hmem
      · obtain ⟨t, ht, rfl⟩ := List.mem_map.mp hmem
        exact h.shared t ht
    · cases hmem

theorem run_sound (hequal : EqualAlike languages) (h : st.Sound s languages)
    {ops : List Operation} (hops : ∀ op ∈ ops, op.Within languages) :
    (st.run s fresh ops).Sound s languages := by
  induction ops generalizing st with
  | nil => exact h
  | cons op rest ih =>
    exact ih (step_sound hequal h (hops op (by simp))) fun o ho => hops o (by simp [ho])

/-- Sound caches do not show: an operation answers as it does alone. -/
theorem step_answer (hequal : EqualAlike languages) (h : st.Sound s languages)
    (hop : op.Within languages) {other : Grammar} (hlanguage : st.language? op = some g)
    (hother : other ∈ languages) (hsame : other.same g = true) :
    (st.step s fresh op).1 = op.alone s fresh other := by
  cases op with
  | ask index q =>
    obtain ⟨table, ht, rfl⟩ := Option.map_eq_some_iff.mp hlanguage
    have hfits := h.tables table (List.mem_of_getElem? ht)
    have halike := hequal _ hother _ hfits.known hsame
    simp only [step, ht]
    exact SymbolTable.ask_eq_fresh hfits.sound h.plans halike q
  | askShared own q =>
    obtain rfl : own = g := Option.some.inj hlanguage
    have halike := hequal _ hother _ hop hsame
    obtain ⟨-, hsound, -, hplans⟩ := Engine.tableFor_fits hequal h.shared hop
    have hp : (st.engine.tableFor own).2.plans.Sound s := by
      rw [hplans]
      exact h.plans
    exact SymbolTable.ask_eq_fresh hsound hp halike q
  | parse own r =>
    obtain rfl : own = g := Option.some.inj hlanguage
    have halike := hequal _ hother _ hop hsame
    obtain ⟨-, hsound, -, hplans⟩ := Engine.tableFor_fits hequal h.shared hop
    obtain ⟨result, huniform⟩ := Engine.parse_uniform fresh own { r with schema := s }
    have hresult := huniform st.engine own hsound (hplans ▸ h.plans)
    have halone := huniform {} other (SymbolTable.sound_fresh s halike) (PlanCache.sound_nil s)
    exact congrArg Answer.parsed (hresult.trans halone.symm)
  | reset => cases hlanguage

/-- In every session, and after every sequence of operations, an operation answers as it does alone
on a new table for an equal grammar. -/
theorem answer_eq_alone {owned : List Grammar} (s : Schema) (fresh : Nat → String)
    (hequal : EqualAlike languages) (howned : ∀ g ∈ owned, g ∈ languages)
    {before : List Operation} (hbefore : ∀ o ∈ before, o.Within languages) {op : Operation}
    (hop : op.Within languages) {other : Grammar}
    (hlanguage : ((start owned).run s fresh before).language? op = some g)
    (hother : other ∈ languages) (hsame : other.same g = true) :
    (((start owned).run s fresh before).step s fresh op).1 = op.alone s fresh other := by
  have hsound : ((start owned).run s fresh before).Sound s languages :=
    run_sound hequal (start_sound howned) hbefore
  exact step_answer hequal hsound hop hlanguage hother hsame

end Session

namespace Sums

/-- The grammar of sums with its kinds in the other order, which is equal to it. -/
def reordered : Grammar :=
  { kinds := [("sum", true, 2), ("number", true, 1)], fields := ["left", "right"] }

/-- A history with a type that has no table, a tree that does not match, a field check, and a shared
table that is forgotten. -/
def history : List Operation :=
  [.ask 0 (.dispatchFor (.direct 5)), .ask 0 (.build { request tree with target := .direct 9 }),
    .ask 0 (.checkFields (.direct 11)), .askShared reordered (.dispatchFor (.direct 10)), .reset,
    .parse grammar (request (number none 0 1))]

theorem parse_after_history :
    (((Session.start [grammar]).run schema toString history).step schema toString
      (.parse reordered (request tree))).1 =
      .parsed (.ok { value := some treeValue }) := by
  have hequal : EqualAlike [grammar, reordered] := equalAlike_of_listsOnce (by decide)
  have hhistory : ∀ o ∈ history, o.Within [grammar, reordered] := by
    simp [history, Operation.Within]
  rw [Session.answer_eq_alone (g := reordered) schema toString hequal (by simp) hhistory
    (by simp [Operation.Within]) rfl (List.mem_cons_self) (by decide)]
  change Answer.parsed ((request tree).run { grammar } []).result = _
  rw [result_request (by decide), plain_tree]
  rfl

end Sums

end TypedTree
