import Mathlib.Data.List.Nodup
import TypedTree.Grammar.Registry
import TypedTree.Proofs.Variants

/-! # Grammars stay loaded

A history of calls that load grammars by name, each made with the modules that can be imported at
the time. Whatever the modules are, a name keeps the grammar that its first successful call made;
a call that fails leaves no trace, and neither does a call of another name. -/

namespace TypedTree

/-- A call that loads a grammar, with the modules there are when it is made. -/
structure LoadCall where
  modules : Modules
  name : String

/-- The name is registered for a package whose module can be imported and has its function. -/
def Modules.Offers (m : Modules) (name : String) (p : GrammarPackage) : Prop :=
  p ∈ grammarPackages ∧ p.name = name ∧
    ∃ functions, m.lookup p.module = some functions ∧ p.function ∈ functions

def LoadedGrammar.origin (l : LoadedGrammar) : String × String := (l.module, l.function)

theorem grammarPackage?_eq_some_iff {name : String} {p : GrammarPackage} :
    grammarPackage? name = some p ↔ p ∈ grammarPackages ∧ p.name = name := by
  constructor
  · intro h
    exact ⟨List.mem_of_find?_eq_some h, by simpa using List.find?_some h⟩
  · rintro ⟨hp, rfl⟩
    -- No two packages are registered under one name.
    have hall : ∀ p ∈ grammarPackages, grammarPackage? p.name = some p := by decide
    exact hall p hp

namespace Modules

variable {m : Modules} {name : String} {p : GrammarPackage} {serial : Nat}

theorem make?_of_offers (h : m.Offers name p) :
    m.make? serial name = some ⟨serial, p.module, p.function⟩ := by
  obtain ⟨hp, hname, functions, hmodule, hfunction⟩ := h
  simp [make?, grammarPackage?_eq_some_iff.mpr ⟨hp, hname⟩, hmodule, hfunction]

theorem make?_eq_none (h : ∀ p, ¬ m.Offers name p) : m.make? serial name = none := by
  cases hp : grammarPackage? name with
  | none => simp [make?, hp]
  | some p =>
    obtain ⟨hmem, hname⟩ := grammarPackage?_eq_some_iff.mp hp
    cases hmodule : m.lookup p.module with
    | none => simp [make?, hp, hmodule]
    | some functions =>
      have hfunction : p.function ∉ functions := fun hin =>
        h p ⟨hmem, hname, functions, hmodule, hin⟩
      simp [make?, hp, hmodule, hfunction]

end Modules

namespace GrammarCache

variable {cache : GrammarCache} {m : Modules} {name : String} {l : LoadedGrammar}

def next (cache : GrammarCache) (p : GrammarPackage) : LoadedGrammar :=
  ⟨cache.length, p.module, p.function⟩

theorem load_of_loaded (h : cache.lookup name = some l) : cache.load m name = (.ok l, cache) := by
  simp only [load, h]

theorem load_of_offers {p : GrammarPackage} (h : cache.lookup name = none)
    (hp : m.Offers name p) :
    cache.load m name = (.ok (cache.next p), cache ++ [(name, cache.next p)]) := by
  simp only [load, h, Modules.make?_of_offers hp, next]

theorem load_of_missing (h : cache.lookup name = none) (hp : ∀ p, ¬ m.Offers name p) :
    cache.load m name = (.error (.languageUnavailable name), cache) := by
  simp only [load, h, Modules.make?_eq_none hp]

/-- All that a call can do: find the grammar, make it, or fail. -/
theorem load_cases (cache : GrammarCache) (m : Modules) (name : String) :
    (∃ l, cache.lookup name = some l ∧ cache.load m name = (.ok l, cache)) ∨
      (∃ p, cache.lookup name = none ∧ m.Offers name p ∧
        cache.load m name = (.ok (cache.next p), cache ++ [(name, cache.next p)])) ∨
      cache.lookup name = none ∧ (∀ p, ¬ m.Offers name p) ∧
        cache.load m name = (.error (.languageUnavailable name), cache) := by
  cases h : cache.lookup name with
  | some l => exact .inl ⟨l, rfl, load_of_loaded h⟩
  | none =>
    by_cases hp : ∃ p, m.Offers name p
    · obtain ⟨p, hp⟩ := hp
      exact .inr (.inl ⟨p, rfl, hp, load_of_offers h hp⟩)
    · exact .inr (.inr ⟨rfl, not_exists.mp hp, load_of_missing h (not_exists.mp hp)⟩)

theorem load_ok_iff (h : cache.lookup name = none) :
    (∃ l, (cache.load m name).1 = .ok l) ↔ ∃ p, m.Offers name p := by
  constructor
  · rintro ⟨l, hl⟩
    by_contra hp
    rw [load_of_missing h (not_exists.mp hp)] at hl
    cases hl
  · rintro ⟨p, hp⟩
    exact ⟨_, congrArg Prod.fst (load_of_offers h hp)⟩

/-- A call that fails says which name it was, and leaves no trace. -/
theorem load_eq_error {f : ParseFault} (h : (cache.load m name).1 = .error f) :
    f = .languageUnavailable name ∧ (cache.load m name).2 = cache := by
  rcases cache.load_cases m name with ⟨l, -, hload⟩ | ⟨p, -, -, hload⟩ | ⟨-, -, hload⟩
  · rw [hload] at h
    cases h
  · rw [hload] at h
    cases h
  · rw [hload] at h ⊢
    cases h
    exact ⟨rfl, rfl⟩

def after (cache : GrammarCache) (calls : List LoadCall) : GrammarCache :=
  calls.foldl (fun cache c => (cache.load c.modules c.name).2) cache

/-- The names that a history calls, each with the answer. -/
def answers (cache : GrammarCache) :
    List LoadCall → List (String × Except ParseFault LoadedGrammar)
  | [] => []
  | c :: rest =>
    (c.name, (cache.load c.modules c.name).1) ::
      (cache.load c.modules c.name).2.answers rest

/-- The grammar that the first successful call of a name gave. -/
def firstLoaded? (name : String) (answers : List (String × Except ParseFault LoadedGrammar)) :
    Option LoadedGrammar :=
  answers.findSome? fun (called, answer) => if called = name then answer.toOption else none

theorem firstLoaded?_cons (name called : String) (answer : Except ParseFault LoadedGrammar)
    (rest : List (String × Except ParseFault LoadedGrammar)) :
    firstLoaded? name ((called, answer) :: rest) =
      (if called = name then answer.toOption else none).or (firstLoaded? name rest) := by
  simp only [firstLoaded?, List.findSome?_cons]
  cases (if called = name then answer.toOption else none) <;> rfl

/-- A call enters what it answers, unless its name was there before. -/
theorem lookup_load (cache : GrammarCache) (m : Modules) (called name : String) :
    (cache.load m called).2.lookup name = (cache.lookup name).or
      (if called = name then (cache.load m called).1.toOption else none) := by
  rcases cache.load_cases m called with ⟨l, hl, h⟩ | ⟨p, hl, -, h⟩ | ⟨-, -, h⟩
  · rw [h]
    split
    · rename_i heq
      rw [← heq, hl]
      rfl
    · simp
  · rw [h]
    split
    · rename_i heq
      rw [← heq, List.lookup_append, hl]
      simp [Except.toOption]
    · rename_i hne
      rw [List.lookup_append]
      simp [List.lookup_cons, beq_false_of_ne (Ne.symm hne)]
  · rw [h]
    simp [Except.toOption]

/-- What a name is loaded as after a history is the answer to its first successful call. -/
theorem lookup_after (cache : GrammarCache) (calls : List LoadCall) (name : String) :
    (cache.after calls).lookup name =
      (cache.lookup name).or (firstLoaded? name (cache.answers calls)) := by
  induction calls generalizing cache with
  | nil => simp [after, answers, firstLoaded?]
  | cons c rest ih =>
    have htail := ih (cache.load c.modules c.name).2
    rw [lookup_load, Option.or_assoc, ← firstLoaded?_cons] at htail
    exact htail

/-- No name is loaded twice, and the grammars are numbered as they were made. -/
structure Sound (cache : GrammarCache) : Prop where
  names : (cache.map Prod.fst).Nodup
  serials : cache.map (fun e => e.2.serial) = List.range cache.length

theorem sound_nil : Sound [] := ⟨List.nodup_nil, rfl⟩

/-- One call keeps the cache sound, also if it fails. -/
theorem Sound.load (h : cache.Sound) (m : Modules) (name : String) :
    (cache.load m name).2.Sound := by
  rcases cache.load_cases m name with ⟨l, -, hload⟩ | ⟨p, hnone, -, hload⟩ | ⟨-, -, hload⟩
  · rw [hload]
    exact h
  · rw [hload]
    have hnew : name ∉ cache.map Prod.fst := by
      intro hmem
      obtain ⟨e, he, rfl⟩ := List.mem_map.mp hmem
      exact absurd (List.lookup_eq_none_iff.mp hnone e he) (by simp)
    refine ⟨?_, ?_⟩
    · rw [List.map_append, List.map_singleton, ← List.concat_eq_append, List.nodup_concat]
      exact ⟨hnew, h.names⟩
    · rw [List.map_append, h.serials, List.length_append, List.length_singleton,
        List.range_succ]
      rfl
  · rw [hload]
    exact h

theorem Sound.after (h : cache.Sound) (calls : List LoadCall) : (cache.after calls).Sound := by
  induction calls generalizing cache with
  | nil => exact h
  | cons c rest ih => exact ih (h.load c.modules c.name)

theorem Sound.serial_ne_next (h : cache.Sound) (p : GrammarPackage) {e : String × LoadedGrammar}
    (he : e ∈ cache) : e.2.serial ≠ (cache.next p).serial := by
  have hmem : e.2.serial ∈ List.range cache.length := h.serials ▸ List.mem_map_of_mem he
  exact Nat.ne_of_lt (List.mem_range.mp hmem)

theorem Sound.eq_of_serial (h : cache.Sound) {a b : String × LoadedGrammar} (ha : a ∈ cache)
    (hb : b ∈ cache) (hserial : a.2.serial = b.2.serial) : a = b := by
  have hnodup : (cache.map fun e => e.2.serial).Nodup := h.serials ▸ List.nodup_range
  exact List.inj_on_of_nodup_map hnodup ha hb hserial

theorem lookup_of_load (h : (cache.load m name).1 = .ok l) :
    (cache.load m name).2.lookup name = some l := by
  rcases cache.load_cases m name with ⟨k, hk, hload⟩ | ⟨p, hnone, -, hload⟩ | ⟨-, -, hload⟩
  · rw [hload] at h ⊢
    cases h
    exact hk
  · rw [hload] at h ⊢
    cases h
    simp [List.lookup_append, hnone]
  · rw [hload] at h
    cases h

theorem lookup_of_answer {calls : List LoadCall} (h : (name, .ok l) ∈ cache.answers calls) :
    (cache.after calls).lookup name = some l := by
  induction calls generalizing cache with
  | nil => cases h
  | cons c rest ih =>
    rcases List.mem_cons.mp h with heq | hrest
    · obtain ⟨rfl, hl⟩ := Prod.mk.inj heq
      refine (lookup_after _ rest c.name).trans ?_
      rw [lookup_of_load hl.symm, Option.some_or]
    · exact ih hrest

/-- Two caches give one name the same grammar, but for its number. -/
def SameOrigin (name : String) (a b : GrammarCache) : Prop :=
  (a.lookup name).map LoadedGrammar.origin = (b.lookup name).map LoadedGrammar.origin

/-- The name has the same answer in two caches that give it the same grammar, and they do so
afterwards. -/
theorem SameOrigin.load {a b : GrammarCache} (h : SameOrigin name a b) (m : Modules) :
    (a.load m name).1.map LoadedGrammar.origin = (b.load m name).1.map LoadedGrammar.origin ∧
      SameOrigin name (a.load m name).2 (b.load m name).2 := by
  rcases a.load_cases m name with ⟨l, hl, hload⟩ | ⟨p, hnone, hp, hload⟩ | ⟨hnone, hp, hload⟩
  · rw [SameOrigin, hl] at h
    obtain ⟨k, hk, horigin⟩ := Option.map_eq_some_iff.mp h.symm
    rw [hload, load_of_loaded hk, SameOrigin, hl, hk]
    exact ⟨congrArg Except.ok horigin.symm, congrArg some horigin.symm⟩
  · rw [SameOrigin, hnone] at h
    have hother : b.lookup name = none := Option.map_eq_none_iff.mp h.symm
    rw [hload, load_of_offers hother hp, SameOrigin, List.lookup_append, List.lookup_append, hnone,
      hother]
    simp [Except.map, LoadedGrammar.origin, next]
  · rw [SameOrigin, hnone] at h
    have hother : b.lookup name = none := Option.map_eq_none_iff.mp h.symm
    rw [hload, load_of_missing hother hp, SameOrigin, hnone, hother]
    exact ⟨rfl, rfl⟩

theorem lookup_load_of_ne {called : String} (h : called ≠ name) :
    (cache.load m called).2.lookup name = cache.lookup name := by
  rw [lookup_load, if_neg h, Option.or_none]

/-- The calls of other names can be left out of a history. -/
theorem SameOrigin.after {a b : GrammarCache} (h : SameOrigin name a b) (calls : List LoadCall) :
    SameOrigin name (a.after calls) (b.after (calls.filter fun c => c.name = name)) := by
  induction calls generalizing a b with
  | nil => exact h
  | cons c rest ih =>
    -- A call of the name is made on both sides, any other on one side only.
    by_cases hname : c.name = name
    · rw [List.filter_cons_of_pos (by simpa using hname)]
      subst hname
      exact ih (h.load c.modules).2
    · rw [List.filter_cons_of_neg (by simpa using hname)]
      refine ih ?_
      rw [SameOrigin, lookup_load_of_ne hname]
      exact h

/-- Two answers of one history are the same grammar exactly if they are to the same name. -/
theorem serial_eq_iff {calls : List LoadCall} {other : String} {k : LoadedGrammar}
    (hl : (name, .ok l) ∈ answers [] calls) (hk : (other, .ok k) ∈ answers [] calls) :
    (name = other ↔ l.serial = k.serial) ∧ (name = other → l = k) := by
  have hlookup := lookup_of_answer hl
  have hlookup' := lookup_of_answer hk
  have heq : name = other → l = k := by
    rintro rfl
    exact Option.some.inj (hlookup.symm.trans hlookup')
  refine ⟨⟨fun h => congrArg _ (heq h), fun hserial => ?_⟩, heq⟩
  have hentry := (sound_nil.after calls).eq_of_serial (mem_of_lookup_eq_some hlookup)
    (mem_of_lookup_eq_some hlookup') hserial
  exact congrArg Prod.fst hentry

/-- What a call answers after any history. A name that was loaded before has the grammar of its
first successful call, whatever can be imported now. Any other name is loaded exactly if it is
registered for a package that is offered now, and then by a grammar that is new; if it is not, the
fault names it and the cache stays as it was. No name is given a second grammar, no grammar a second
name, and the calls of other names make no difference. -/
theorem load_over_history (before : List LoadCall) (m : Modules) (name : String) :
    (∀ l, firstLoaded? name (answers [] before) = some l →
        (after [] before).load m name = (.ok l, after [] before)) ∧
      (firstLoaded? name (answers [] before) = none →
        ((∃ l, ((after [] before).load m name).1 = .ok l) ↔ ∃ p, m.Offers name p) ∧
          (∀ p, m.Offers name p → ∃ l, (after [] before).load m name =
              (.ok l, after [] before ++ [(name, l)]) ∧ l.origin = (p.module, p.function) ∧
            ∀ e ∈ after [] before, e.2.serial ≠ l.serial) ∧
          ∀ f, ((after [] before).load m name).1 = .error f →
            f = .languageUnavailable name ∧ ((after [] before).load m name).2 = after [] before) ∧
      ((after [] before).map Prod.fst).Nodup ∧
      (∀ x y l k, (x, .ok l) ∈ answers [] before → (y, .ok k) ∈ answers [] before →
        (x = y ↔ l.serial = k.serial) ∧ (x = y → l = k)) ∧
      ((after [] before).load m name).1.map LoadedGrammar.origin =
        ((after [] (before.filter fun c => c.name = name)).load m name).1.map
          LoadedGrammar.origin := by
  have hlookup : (after [] before).lookup name = firstLoaded? name (answers [] before) :=
    lookup_after [] before name
  have hsound := sound_nil.after before
  refine ⟨fun l hl => load_of_loaded (hlookup.trans hl), fun hnone => ?_, hsound.names,
    fun x y l k hl hk => serial_eq_iff hl hk, ?_⟩
  · have hnew : (after [] before).lookup name = none := hlookup.trans hnone
    exact ⟨load_ok_iff hnew, fun p hp => ⟨_, load_of_offers hnew hp, rfl, fun e he =>
      hsound.serial_ne_next p he⟩, fun f hf => load_eq_error hf⟩
  · have hsame : SameOrigin name [] [] := rfl
    exact ((hsame.after before).load m).1

end GrammarCache

/-! Two grammars of one module, which at first has the function of one of them only. -/

namespace Scripts

def partly : Modules := [("tree_sitter_typescript", ["language_tsx"])]

def wholly : Modules := [("tree_sitter_typescript", ["language_typescript", "language_tsx"])]

def calls : List LoadCall := [⟨partly, "typescript"⟩, ⟨partly, "tsx"⟩]

def tsx : LoadedGrammar := ⟨0, "tree_sitter_typescript", "language_tsx"⟩

/-- One is loaded and stays so without the module; the other is not, until the module has it. -/
theorem scripts_loaded :
    (GrammarCache.after [] calls).load [] "tsx" = (.ok tsx, GrammarCache.after [] calls) ∧
      (¬ ∃ l, ((GrammarCache.after [] calls).load partly "typescript").1 = .ok l) ∧
      ∃ l, (GrammarCache.after [] calls).load wholly "typescript" =
          (.ok l, GrammarCache.after [] calls ++ [("typescript", l)]) ∧
        l.origin = ("tree_sitter_typescript", "language_typescript") ∧
        ∀ e ∈ GrammarCache.after [] calls, e.2.serial ≠ l.serial := by
  have hfirst : GrammarCache.firstLoaded? "typescript" (GrammarCache.answers [] calls) = none := rfl
  have hpackage : (⟨"typescript", "tree-sitter-typescript", "tree_sitter_typescript",
      "language_typescript"⟩ : GrammarPackage) ∈ grammarPackages := by simp [grammarPackages]
  refine ⟨(GrammarCache.load_over_history calls [] "tsx").1 tsx rfl, ?_, ?_⟩
  · rw [((GrammarCache.load_over_history calls partly "typescript").2.1 hfirst).1]
    rintro ⟨p, hp, hname, functions, hmodule, hfunction⟩
    obtain rfl : _ = p := Option.some.inj
      ((grammarPackage?_eq_some_iff.mpr ⟨hpackage, rfl⟩).symm.trans
        (grammarPackage?_eq_some_iff.mpr ⟨hp, hname⟩))
    obtain rfl : ["language_tsx"] = functions := Option.some.inj hmodule
    exact absurd hfunction (by decide)
  · exact ((GrammarCache.load_over_history calls wholly "typescript").2.1 hfirst).2.1 _
      ⟨hpackage, rfl, _, rfl, by simp⟩

end Scripts

end TypedTree
