import TypedTree.Proofs.Conformance

/-! # Annotations part by part

A specification is a tree of tuples over parts. It is refused for the first of them, from left to
right, that cannot be hashed, and if there is none, for the first that is not supported. Else what
it attaches to a node has the same tuples, over what its parts attach. -/

namespace TypedTree

section Fault

variable {ε α β : Type}

def Except.fault? : Except ε α → Option ε
  | .ok _ => none
  | .error e => some e

theorem Except.fault?_map (f : α → β) (x : Except ε α) : fault? (f <$> x) = fault? x := by
  cases x <;> rfl

/-- A row is refused for its first element that is. -/
theorem Except.fault?_mapM (f : α → Except ε β) (xs : List α) :
    fault? (xs.mapM f) = xs.findSome? fun x => fault? (f x) := by
  induction xs with
  | nil => rfl
  | cons x xs ih =>
    rw [List.mapM_cons, List.findSome?_cons, ← ih]
    cases f x with
    | error e => rfl
    | ok y => cases xs.mapM f <;> rfl

theorem findSome?_flatMap {f : α → List α} {find : α → Option β} {xs : List α}
    (h : ∀ x ∈ xs, find x = (f x).findSome? find) :
    xs.findSome? find = (xs.flatMap f).findSome? find := by
  induction xs with
  | nil => rfl
  | cons x xs ih =>
    obtain ⟨hx, hxs⟩ := List.forall_mem_cons.mp h
    rw [List.findSome?_cons, List.flatMap_cons, List.findSome?_append, ← hx, ih hxs]
    cases find x <;> rfl

end Fault

namespace Spec

variable {s part : Spec} {specs : List Spec} {shown t : String}

section Parts

mutual

/-- What is in the tuples of a specification, however deep, from left to right. -/
def parts : Spec → List Spec
  | tuple specs => partsIn specs
  | part => [part]

def partsIn : List Spec → List Spec
  | [] => []
  | s :: rest => parts s ++ partsIn rest

end

def IsTuple : Spec → Prop
  | tuple _ => True
  | _ => False

/-- The forms of a part that can be attached. -/
def Supported : Spec → Prop
  | tuple _ => False
  | unsupported _ => False
  | unhashable _ => False
  | _ => True

/-- A property of all specifications, from parts to tuples. -/
theorem induction_parts {motive : Spec → Prop} (part : ∀ s, ¬ s.IsTuple → motive s)
    (tuple : ∀ specs, (∀ s ∈ specs, motive s) → motive (.tuple specs)) (s : Spec) : motive s := by
  cases s with
  | tuple specs => exact tuple specs fun s hs => induction_parts part tuple s
  | _ => exact part _ id
termination_by s
decreasing_by
  have hlt := List.sizeOf_lt_of_mem hs
  simp only [Spec.tuple.sizeOf_spec]
  omega

theorem parts_of_not_isTuple (h : ¬ s.IsTuple) : s.parts = [s] := by
  cases s with
  | tuple specs => exact absurd trivial h
  | _ => rfl

theorem parts_tuple (specs : List Spec) : (tuple specs).parts = specs.flatMap parts := by
  rw [parts]
  induction specs with
  | nil => rfl
  | cons s rest ih => rw [partsIn, ih, List.flatMap_cons]

theorem not_isTuple_of_mem_parts (h : part ∈ s.parts) : ¬ part.IsTuple := by
  induction s using induction_parts with
  | part s hs =>
    rw [parts_of_not_isTuple hs] at h
    rwa [List.mem_singleton.mp h]
  | tuple specs ih =>
    rw [parts_tuple] at h
    obtain ⟨s, hs, hpart⟩ := List.mem_flatMap.mp h
    exact ih s hs hpart

end Parts

section Refusal

theorem unhashable?_tuple (specs : List Spec) :
    (tuple specs).unhashable? = specs.findSome? unhashable? := by
  rw [unhashable?]
  induction specs with
  | nil => rfl
  | cons s rest ih =>
    rw [unhashableIn?, ih, List.findSome?_cons]
    cases s.unhashable? <;> rfl

theorem extractor_tuple (specs : List Spec) :
    (tuple specs).extractor = Extractor.tuple <$> specs.mapM extractor := by
  have hrow : extractors specs = specs.mapM extractor := by
    induction specs with
    | nil => rfl
    | cons s rest ih => rw [extractors, ih, List.mapM_cons]
  rw [extractor, hrow]
  rfl

/-- What a specification is refused for, if it can be hashed. -/
def refusal? (s : Spec) : Option String := Except.fault? s.extractor

theorem refusal?_tuple (specs : List Spec) :
    (tuple specs).refusal? = specs.findSome? refusal? := by
  rw [refusal?, extractor_tuple, Except.fault?_map, Except.fault?_mapM]
  rfl

theorem unhashable?_eq (s : Spec) : s.unhashable? = s.parts.findSome? unhashable? := by
  induction s using induction_parts with
  | part s hs => rw [parts_of_not_isTuple hs, List.findSome?_singleton]
  | tuple specs ih => rw [unhashable?_tuple, parts_tuple, findSome?_flatMap ih]

theorem refusal?_eq (s : Spec) : s.refusal? = s.parts.findSome? refusal? := by
  induction s using induction_parts with
  | part s hs => rw [parts_of_not_isTuple hs, List.findSome?_singleton]
  | tuple specs ih => rw [refusal?_tuple, parts_tuple, findSome?_flatMap ih]

theorem unhashable?_eq_some_iff (h : ¬ part.IsTuple) :
    part.unhashable? = some t ↔ part = .unhashable t := by
  cases part with
  | tuple specs => exact absurd trivial h
  | unhashable name => simp [unhashable?]
  | _ => simp [unhashable?]

theorem refusal?_eq_none_iff (h : ¬ part.IsTuple) : part.refusal? = none ↔ part.Supported := by
  cases part with
  | tuple specs => exact absurd trivial h
  | _ => simp [refusal?, extractor, Except.fault?, Supported]

theorem eq_unsupported (h : ¬ part.IsTuple) (hhashable : ∀ t, part ≠ .unhashable t)
    (hrefused : part.refusal? = some shown) : part = .unsupported shown := by
  cases part with
  | tuple specs => exact absurd trivial h
  | unsupported name =>
    cases hrefused
    rfl
  | unhashable t => exact absurd rfl (hhashable t)
  | _ => cases hrefused

end Refusal

section Traverse

variable {ε : Type}

mutual

/-- The tuples of a specification over what is made of its parts, one after the other. -/
def traverse (f : Spec → Except ε Value) : Spec → Except ε Value
  | tuple specs => do
    let vs ← traverseAll f specs
    return .tuple vs
  | part => f part

def traverseAll (f : Spec → Except ε Value) : List Spec → Except ε (List Value)
  | [] => return []
  | s :: rest => do
    let v ← traverse f s
    let vs ← traverseAll f rest
    return v :: vs

end

theorem traverse_of_not_isTuple (f : Spec → Except ε Value) (h : ¬ s.IsTuple) :
    s.traverse f = f s := by
  cases s with
  | tuple specs => exact absurd trivial h
  | _ => rfl

theorem traverse_tuple (f : Spec → Except ε Value) (specs : List Spec) :
    (tuple specs).traverse f = Value.tuple <$> specs.mapM (traverse f) := by
  have hrow : traverseAll f specs = specs.mapM (traverse f) := by
    induction specs with
    | nil => rfl
    | cons s rest ih => rw [traverseAll, ih, List.mapM_cons]
  rw [traverse, hrow]
  rfl

end Traverse

section Compile

variable {e : Extractor} {info : NodeInfo} {source : Text.Bytes} {decoder : Text.Decoder}

/-- What a specification attaches to a node, or what stops it. -/
def extract (s : Spec) (info : NodeInfo) (source : Text.Bytes) (decoder : Text.Decoder) :
    Except Raised Value := do
  let e ← s.compile.mapError fun f => .declared f.toTypeFault
  (e.run info source decoder).mapError .decode

theorem compile_of_unhashable (h : s.unhashable? = some t) :
    s.compile = .error (.unhashable t) := by
  rw [compile, h]

theorem compile_of_refusal (hhashable : s.unhashable? = none) (h : s.refusal? = some shown) :
    s.compile = .error (.unsupported shown) := by
  rw [compile, hhashable]
  rw [refusal?] at h
  cases he : s.extractor with
  | ok e =>
    rw [he] at h
    cases h
  | error shown' =>
    rw [he] at h
    cases h
    rfl

theorem compile_eq_ok_iff : s.compile = .ok e ↔ s.unhashable? = none ∧ s.extractor = .ok e := by
  unfold compile
  cases s.unhashable? with
  | some t => simp
  | none => cases s.extractor <;> simp

theorem exists_compile_iff :
    (∃ e, s.compile = .ok e) ↔ s.unhashable? = none ∧ s.refusal? = none := by
  simp only [compile_eq_ok_iff, exists_and_left, refusal?]
  cases s.extractor <;> simp [Except.fault?]

theorem extractor_runAll (es : List Extractor) :
    (Extractor.tuple es).run info source decoder =
      Value.tuple <$> es.mapM (Extractor.run info source decoder) := by
  have hrow : Extractor.runAll info source decoder es =
      es.mapM (Extractor.run info source decoder) := by
    induction es with
    | nil => rfl
    | cons e es ih => rw [Extractor.runAll, ih, List.mapM_cons]
  rw [Extractor.run, hrow]
  rfl

theorem mapError_map {ε ε' α β : Type} (k : ε → ε') (f : α → β) (x : Except ε α) :
    (f <$> x).mapError k = f <$> x.mapError k := by
  cases x <;> rfl

theorem traverse_row {f : Spec → Except Raised Value} {es : List Extractor}
    (hes : specs.mapM extractor = .ok es)
    (h : ∀ s ∈ specs, ∀ e, s.extractor = .ok e →
      (e.run info source decoder).mapError Raised.decode = s.traverse f) :
    (es.mapM (Extractor.run info source decoder)).mapError Raised.decode =
      specs.mapM (traverse f) := by
  induction specs generalizing es with
  | nil =>
    cases hes
    rfl
  | cons s rest ih =>
    obtain ⟨e, later, he, hlater, rfl⟩ := mapM_cons_eq_ok hes
    obtain ⟨hs, hrest⟩ := List.forall_mem_cons.mp h
    rw [List.mapM_cons, List.mapM_cons, BuildContext.mapError_bind, hs e he, ← ih hlater hrest]
    cases s.traverse f with
    | error stop => rfl
    | ok v => cases later.mapM (Extractor.run info source decoder) <;> rfl

/-- By induction on the specification: a tuple is filled from left to right, as its parts are. -/
theorem run_eq_traverse (h : s.extractor = .ok e) :
    (e.run info source decoder).mapError Raised.decode =
      s.traverse fun part => part.extract info source decoder := by
  induction s using induction_parts generalizing e with
  | part s hs =>
    have hhashable : s.unhashable? = none := by
      cases s with
      | unhashable t => cases h
      | tuple specs => exact absurd trivial hs
      | _ => rfl
    rw [traverse_of_not_isTuple _ hs, extract, compile_eq_ok_iff.mpr ⟨hhashable, h⟩]
    rfl
  | tuple specs ih =>
    rw [extractor_tuple] at h
    cases hes : specs.mapM extractor with
    | error shown =>
      rw [hes] at h
      cases h
    | ok es =>
      rw [hes] at h
      cases h
      rw [extractor_runAll, mapError_map, traverse_tuple,
        traverse_row hes fun s hs e he => ih s hs he]

theorem compile_of_mem_unhashable (h : unhashable t ∈ s.parts) : ∃ before t' after,
    s.parts = before ++ .unhashable t' :: after ∧ (∀ p ∈ before, ∀ t, p ≠ .unhashable t) ∧
      s.compile = .error (.unhashable t') := by
  cases hfirst : s.unhashable? with
  | none =>
    have hnone := hfirst
    rw [unhashable?_eq, List.findSome?_eq_none_iff] at hnone
    cases hnone _ h
  | some t' =>
    have hcompile := compile_of_unhashable hfirst
    rw [unhashable?_eq] at hfirst
    obtain ⟨before, part, after, hparts, hpart, hbefore⟩ := List.findSome?_eq_some_iff.mp hfirst
    have hnotTuple : ¬ part.IsTuple := not_isTuple_of_mem_parts (s := s) (by simp [hparts])
    obtain rfl := (unhashable?_eq_some_iff hnotTuple).mp hpart
    refine ⟨before, t', after, hparts, fun p hp t hpt => ?_, hcompile⟩
    subst hpt
    cases hbefore _ hp

section Hashable

variable (hhashable : ∀ t, unhashable t ∉ s.parts)

include hhashable

theorem unhashable?_eq_none : s.unhashable? = none := by
  rw [unhashable?_eq, List.findSome?_eq_none_iff]
  intro p hp
  rw [Option.eq_none_iff_forall_ne_some]
  intro t ht
  obtain rfl := (unhashable?_eq_some_iff (not_isTuple_of_mem_parts hp)).mp ht
  exact hhashable t hp

theorem exists_compile_iff_supported :
    (∃ e, s.compile = .ok e) ↔ ∀ p ∈ s.parts, p.Supported := by
  rw [exists_compile_iff, and_iff_right (unhashable?_eq_none hhashable), refusal?_eq,
    List.findSome?_eq_none_iff]
  exact forall₂_congr fun p hp => refusal?_eq_none_iff (not_isTuple_of_mem_parts hp)

theorem compile_of_unsupported (h : ∃ p ∈ s.parts, ¬ p.Supported) : ∃ before shown after,
    s.parts = before ++ .unsupported shown :: after ∧ (∀ p ∈ before, p.Supported) ∧
      s.compile = .error (.unsupported shown) := by
  cases hfirst : s.refusal? with
  | none =>
    obtain ⟨p, hp, hrefused⟩ := h
    have hall := (exists_compile_iff_supported hhashable).mp
      (exists_compile_iff.mpr ⟨unhashable?_eq_none hhashable, hfirst⟩)
    exact absurd (hall p hp) hrefused
  | some shown =>
    have hcompile := compile_of_refusal (unhashable?_eq_none hhashable) hfirst
    rw [refusal?_eq] at hfirst
    obtain ⟨before, part, after, hparts, hpart, hbefore⟩ := List.findSome?_eq_some_iff.mp hfirst
    have hmem : ∀ p ∈ before, p ∈ s.parts := by simp +contextual [hparts]
    have hpartMem : part ∈ s.parts := by simp [hparts]
    obtain rfl := eq_unsupported (not_isTuple_of_mem_parts hpartMem)
      (fun t ht => hhashable t (ht ▸ hpartMem)) hpart
    refine ⟨before, shown, after, hparts, fun p hp => ?_, hcompile⟩
    exact (refusal?_eq_none_iff (not_isTuple_of_mem_parts (hmem p hp))).mp (hbefore p hp)

end Hashable

/-- Hashing comes first: a part that cannot be hashed is reported whatever else is wrong. Else a
specification is accepted exactly if all of its parts are supported, and the first that is not is
reported. What an accepted one attaches to a node has its tuples, over what each part attaches by
itself. -/
theorem compile_parts (spec : Spec) :
    ((∃ t, .unhashable t ∈ spec.parts) → ∃ before t after,
      spec.parts = before ++ .unhashable t :: after ∧ (∀ p ∈ before, ∀ t', p ≠ .unhashable t') ∧
        spec.compile = .error (.unhashable t)) ∧
    ((∀ t, .unhashable t ∉ spec.parts) →
      ((∃ e, spec.compile = .ok e) ↔ ∀ p ∈ spec.parts, p.Supported) ∧
      ((∃ p ∈ spec.parts, ¬ p.Supported) → ∃ before shown after,
        spec.parts = before ++ .unsupported shown :: after ∧ (∀ p ∈ before, p.Supported) ∧
          spec.compile = .error (.unsupported shown) ∧
          ∃ f, (SpecFault.unsupported shown).toTypeFault = .schema f ∧
            f.report.code = .unsupportedSpec ∧
            f.report.message = .text ("Cannot extract an annotation of type " ++ shown) ∧
            f.report.details = .record [("spec", .text shown)])) ∧
    ∀ e, spec.compile = .ok e → ∀ info source decoder,
      (e.run info source decoder).mapError Raised.decode =
        spec.traverse fun part => part.extract info source decoder := by
  refine ⟨fun ⟨t, ht⟩ => compile_of_mem_unhashable ht, fun hhashable =>
    ⟨exists_compile_iff_supported hhashable, fun hrefused => ?_⟩,
    fun e he info source decoder => run_eq_traverse (compile_eq_ok_iff.mp he).2⟩
  obtain ⟨before, shown, after, hparts, hbefore, hcompile⟩ :=
    compile_of_unsupported hhashable hrefused
  exact ⟨before, shown, after, hparts, hbefore, hcompile, _, rfl, rfl, rfl, rfl⟩

end Compile

end Spec

namespace Sums

open Spec

def layered : Spec := .tuple [.pos, .tuple [.range, .tuple []], .unit]

/-- Two parts are not supported, the first of them in an inner tuple. -/
def mended : Spec := .tuple [.pos, .tuple [.unit, .unsupported "42"], .unsupported "1.5"]

/-- What cannot be hashed stands behind a part that is not supported. -/
def jammed : Spec :=
  .tuple [.unsupported "42", .tuple [.pos, .unhashable "list"], .unhashable "dict"]

theorem layered_mended_jammed :
    (∃ e, layered.compile = .ok e ∧
      (e.run (number none 0 1).info context.source context.options.decoder).mapError
          Raised.decode =
        .ok (.tuple [.pos ⟨0, 0⟩, .tuple [.range ⟨0, 1⟩, .tuple []], .none])) ∧
      ((∀ t, unhashable t ∉ mended.parts) ∧ (∃ p ∈ mended.parts, ¬ p.Supported) ∧
        ∃ before shown after, mended.parts = before ++ .unsupported shown :: after ∧
          (∀ p ∈ before, p.Supported) ∧ mended.compile = .error (.unsupported shown)) ∧
      ((∃ t, unhashable t ∈ jammed.parts) ∧
        ∃ before t after, jammed.parts = before ++ .unhashable t :: after ∧
          (∀ p ∈ before, ∀ t', p ≠ .unhashable t') ∧ jammed.compile = .error (.unhashable t)) := by
  obtain ⟨-, hlayered, hrun⟩ := compile_parts layered
  obtain ⟨-, hmended, -⟩ := compile_parts mended
  obtain ⟨hjammed, -, -⟩ := compile_parts jammed
  have hparts : layered.parts = [.pos, .range, .unit] := rfl
  have hparts' : mended.parts = [.pos, .unit, .unsupported "42", .unsupported "1.5"] := rfl
  have hhashable : ∀ t, unhashable t ∉ mended.parts := by simp [hparts']
  have hrefused : ∃ p ∈ mended.parts, ¬ p.Supported := ⟨.unsupported "42", by simp [hparts'], id⟩
  have hunhashable : ∃ t, unhashable t ∈ jammed.parts := ⟨"list", by simp [jammed, parts, partsIn]⟩
  obtain ⟨e, he⟩ := (hlayered (by simp [hparts])).1.mpr (by simp [hparts, Supported])
  obtain ⟨before, shown, after, hsplit, hbefore, hcompile, -⟩ := (hmended hhashable).2 hrefused
  refine ⟨⟨e, he, ?_⟩, ⟨hhashable, hrefused, before, shown, after, hsplit, hbefore, hcompile⟩,
    hunhashable, hjammed hunhashable⟩
  rw [hrun e he]
  rfl

end Sums

end TypedTree
