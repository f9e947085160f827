import TypedTree.Proofs.Conformance
import TypedTree.Proofs.StablePartition

/-! # Which field names a slot reads

A slot reads the bucket of an attribute, and the grammar is asked for the field that the attribute
stands for. The two agree except for twins, a reserved word and the same word with an underscore
appended: these are two fields of the grammar with one attribute. But for them and the reserved
words, each of the two namings undoes the other. -/

namespace TypedTree

namespace FieldName

/-- The second name is a reserved word, the first, with an underscore appended. -/
def Twins (word marked : String) : Prop := word ∈ reserved ∧ marked = word ++ "_"

/-- Two grammar fields are one, or are twins. -/
def Meet (a b : String) : Prop := a = b ∨ Twins a b ∨ Twins b a

instance (a b : String) : Decidable (Twins a b) := inferInstanceAs (Decidable (_ ∧ _))

instance (a b : String) : Decidable (Meet a b) := inferInstanceAs (Decidable (_ ∨ _))

theorem marked_not_reserved {word : String} (h : word ∈ reserved) : word ++ "_" ∉ reserved := by
  have hall : ∀ w ∈ reserved, w ++ "_" ∉ reserved := by decide
  exact hall word h

theorem toAttr_of_reserved {name : String} (h : name ∈ reserved) : toAttr name = name ++ "_" :=
  if_pos h

theorem toAttr_of_not_reserved {name : String} (h : name ∉ reserved) : toAttr name = name :=
  if_neg h

theorem Twins.toAttr_eq {word marked : String} (h : Twins word marked) :
    toAttr word = toAttr marked := by
  obtain ⟨hword, rfl⟩ := h
  rw [toAttr_of_reserved hword, toAttr_of_not_reserved (marked_not_reserved hword)]

/-- Two grammar fields have one attribute only if they meet. -/
theorem toAttr_eq_toAttr_iff {a b : String} : toAttr a = toAttr b ↔ Meet a b := by
  constructor
  · intro h
    by_cases ha : a ∈ reserved <;> by_cases hb : b ∈ reserved
    · rw [toAttr_of_reserved ha, toAttr_of_reserved hb] at h
      exact .inl ((String.append_left_inj "_").mp h)
    · rw [toAttr_of_reserved ha, toAttr_of_not_reserved hb] at h
      exact .inr (.inl ⟨ha, h.symm⟩)
    · rw [toAttr_of_not_reserved ha, toAttr_of_reserved hb] at h
      exact .inr (.inr ⟨hb, h⟩)
    · rw [toAttr_of_not_reserved ha, toAttr_of_not_reserved hb] at h
      exact .inl h
  · rintro (rfl | h | h)
    · rfl
    · exact h.toAttr_eq
    · exact h.toAttr_eq.symm

theorem Twins.not_reserved {word marked : String} (h : Twins word marked) : marked ∉ reserved :=
  h.2 ▸ marked_not_reserved h.1

theorem Twins.ne {word marked : String} (h : Twins word marked) : word ≠ marked := by
  rintro rfl
  exact h.not_reserved h.1

/-- Two different grammar fields have one attribute exactly if they are twins. -/
theorem toAttr_eq_and_ne_iff {a b : String} :
    toAttr a = toAttr b ∧ a ≠ b ↔ Twins a b ∨ Twins b a := by
  rw [toAttr_eq_toAttr_iff]
  constructor
  · rintro ⟨heq | htwins, hne⟩
    · exact absurd heq hne
    · exact htwins
  · rintro (h | h)
    · exact ⟨.inr (.inl h), h.ne⟩
    · exact ⟨.inr (.inr h), h.ne.symm⟩

theorem Twins.ofAttr_eq {word marked : String} (h : Twins word marked) : ofAttr marked = word := by
  unfold ofAttr
  cases hfind : reserved.find? fun w => w ++ "_" = marked with
  | none => exact absurd h.2.symm (by simpa using List.find?_eq_none.mp hfind word h.1)
  | some found =>
    have hmarked : found ++ "_" = marked := by simpa using List.find?_some hfind
    exact (String.append_left_inj "_").mp (hmarked.trans h.2)

theorem ofAttr_of_no_twin {attr : String} (h : ∀ word, ¬ Twins word attr) : ofAttr attr = attr := by
  unfold ofAttr
  cases hfind : reserved.find? fun w => w ++ "_" = attr with
  | none => rfl
  | some word =>
    have hmarked : word ++ "_" = attr := by simpa using List.find?_some hfind
    exact absurd ⟨List.mem_of_find?_eq_some hfind, hmarked.symm⟩ (h word)

/-- An attribute carries the grammar field that it stands for. -/
theorem toAttr_ofAttr {attr : String} (h : attr ∉ reserved) : toAttr (ofAttr attr) = attr := by
  by_cases htwin : ∃ word, Twins word attr
  · obtain ⟨word, htwins⟩ := htwin
    rw [htwins.ofAttr_eq, toAttr_of_reserved htwins.1, ← htwins.2]
  · rw [ofAttr_of_no_twin (not_exists.mp htwin), toAttr_of_not_reserved h]

theorem toAttr_ofAttr_iff {attr : String} : toAttr (ofAttr attr) = attr ↔ attr ∉ reserved := by
  refine ⟨fun heq hattr => ?_, toAttr_ofAttr⟩
  have hself : ofAttr attr = attr := ofAttr_of_no_twin fun _ htwins => htwins.not_reserved hattr
  have htwins : Twins attr (toAttr attr) := ⟨hattr, toAttr_of_reserved hattr⟩
  rw [hself] at heq
  exact htwins.ne heq.symm

/-- The attribute of a grammar field stands for that field, unless the field is the second of two
twins: then it stands for the first. -/
theorem ofAttr_toAttr_iff {name : String} :
    ofAttr (toAttr name) = name ↔ ∀ word, ¬ Twins word name := by
  constructor
  · intro heq word htwins
    rw [toAttr_of_not_reserved htwins.not_reserved, htwins.ofAttr_eq] at heq
    exact htwins.ne heq
  · intro h
    by_cases hname : name ∈ reserved
    · exact Twins.ofAttr_eq ⟨hname, toAttr_of_reserved hname⟩
    · rw [toAttr_of_not_reserved hname, ofAttr_of_no_twin h]

theorem toAttr_not_reserved (name : String) : toAttr name ∉ reserved := by
  by_cases hname : name ∈ reserved
  · exact toAttr_of_reserved hname ▸ marked_not_reserved hname
  · exact (toAttr_of_not_reserved hname).symm ▸ hname

/-- Where the two namings agree: attributes are shared by twins only, a field is found again unless
it is the marked one of two twins, an attribute unless it is a reserved word, and an attribute name
is its own attribute. -/
theorem namings_exact (a b : String) :
    (toAttr a = toAttr b ∧ a ≠ b ↔
        (a ∈ reserved ∧ b = a ++ "_") ∨ (b ∈ reserved ∧ a = b ++ "_")) ∧
      (ofAttr (toAttr a) = a ↔ ¬ ∃ word ∈ reserved, a = word ++ "_") ∧
      (toAttr (ofAttr a) = a ↔ a ∉ reserved) ∧ toAttr (toAttr a) = toAttr a := by
  refine ⟨toAttr_eq_and_ne_iff, ?_, toAttr_ofAttr_iff,
    toAttr_of_not_reserved (toAttr_not_reserved a)⟩
  rw [ofAttr_toAttr_iff, not_exists]
  exact Iff.rfl

end FieldName

namespace Tree

/-- The child is a named one without a field name, and no extra node. -/
def Unlabelled (t : Tree) : Prop :=
  t.label = none ∧ t.info.named = true ∧ t.info.extra = false

instance (t : Tree) : Decidable t.Unlabelled := inferInstanceAs (Decidable (_ ∧ _))

/-- The bucket of an attribute takes the children of every field that the attribute carries. -/
theorem fallsIn_toAttr_iff {keepExtras : Bool} {t : Tree} {field : String} :
    t.FallsIn keepExtras (FieldName.toAttr field) ↔
      (∃ own ∈ t.label, FieldName.Meet own field) ∧ (t.info.extra = false ∨ keepExtras = true) ∨
        FieldName.toAttr field = FieldName.unlabelled ∧ t.Unlabelled := by
  simp only [FallsIn, FieldName.toAttr_eq_toAttr_iff, Option.mem_def, Unlabelled]
  constructor
  · rintro (⟨own, hlabel, hmeet, hkeep⟩ | ⟨hlabel, hname, hnamed, hextra⟩)
    · exact .inl ⟨⟨own, hlabel, hmeet⟩, hkeep⟩
    · exact .inr ⟨hname, hlabel, hnamed, hextra⟩
  · rintro (⟨⟨own, hlabel, hmeet⟩, hkeep⟩ | ⟨hname, hlabel, hnamed, hextra⟩)
    · exact .inl ⟨own, hlabel, hmeet, hkeep⟩
    · exact .inr ⟨hlabel, hname, hnamed, hextra⟩

end Tree

/-- The bucket of a child field is that of the grammar field it is checked against. -/
theorem FieldDecl.Becomes.bucket_eq_toAttr {s : Schema} {f : FieldDecl} {slot : Slot}
    {bucket field : String} {cardinality : Cardinality} {element : TypeId} (h : f.Becomes s slot)
    (hrule : slot.rule = .child bucket field cardinality element)
    (hattr : f.attr ∉ FieldName.reserved) : bucket = FieldName.toAttr field := by
  cases h with
  | child resolved =>
    cases hrule
    unfold FieldDecl.bucket
    split
    · exact (FieldName.toAttr_ofAttr hattr).symm
    · rfl
  | requested => cases hrule
  | fixed compiled => cases hrule

namespace Plan

variable {s : Schema} {id : TypeId} {p : Plan} {slot : Slot} {bucket field : String}
  {cardinality : Cardinality} {element : TypeId}

theorem hasField_of_checkFields {g : Grammar} (h : p.checkFields s g = .ok ())
    (hslot : slot ∈ p.slots) (hrule : slot.rule = .child bucket field cardinality element) :
    bucket = FieldName.unlabelled ∨ g.hasField field = true := by
  unfold checkFields at h
  split at h
  · cases h
  · rename_i hnone
    have hown := List.findSome?_eq_none_iff.mp hnone slot hslot
    simp only [hrule] at hown
    by_contra hno
    simp [hno] at hown

/-- A slot of a product reads from a node, in their order, the kept children whose field is the one
that the slot is checked against or its twin and, in the bucket of the children without a field
name, those. Where no child has the twin as its field name, no field but the checked one is read. -/
theorem slot_reads_field (hp : s.plan id = .ok p)
    (hattrs : ∀ f ∈ (s.decl id).fields, f.attr ∉ FieldName.reserved) (hslot : slot ∈ p.slots)
    (hrule : slot.rule = .child bucket field cardinality element) (keepExtras : Bool)
    (st : BuildState) :
    slot.grammarName = field ∧
      (∀ g, p.checkFields s g = .ok () → bucket = FieldName.unlabelled ∨ g.hasField field = true) ∧
      ∃ buckets st', (BuildM.children keepExtras).run st = (.ok buckets, st') ∧
        buckets.get bucket = (st.cursor.focus.children.filter fun t =>
          (∃ own ∈ t.label, FieldName.Meet own field) ∧
            (t.info.extra = false ∨ keepExtras = true) ∨
          bucket = FieldName.unlabelled ∧ t.Unlabelled) ∧
        ((∀ t ∈ st.cursor.focus.children, ∀ own ∈ t.label,
            ¬ FieldName.Twins own field ∧ ¬ FieldName.Twins field own) →
          buckets.get bucket = st.cursor.focus.children.filter fun t =>
            t.label = some field ∧ (t.info.extra = false ∨ keepExtras = true) ∨
            bucket = FieldName.unlabelled ∧ t.Unlabelled) := by
  obtain ⟨f, hf, hbecomes⟩ := Schema.exists_field_of_slot hp hslot
  obtain rfl := hbecomes.bucket_eq_toAttr hrule (hattrs f hf)
  have hget : (st.cursor.focus.buckets keepExtras).get (FieldName.toAttr field) =
      st.cursor.focus.children.filter fun t =>
        (∃ own ∈ t.label, FieldName.Meet own field) ∧
          (t.info.extra = false ∨ keepExtras = true) ∨
        FieldName.toAttr field = FieldName.unlabelled ∧ t.Unlabelled := by
    rw [Tree.get_buckets]
    simp only [Tree.under, Tree.bucket_eq_some_iff, Tree.fallsIn_toAttr_iff]
  refine ⟨by rw [Slot.grammarName, hrule], fun g hg => hasField_of_checkFields hg hslot hrule,
    _, _, BuildM.children_run keepExtras st, hget, fun hsingle => ?_⟩
  rw [hget]
  apply List.filter_congr
  intro t ht
  have hmeet : (∃ own ∈ t.label, FieldName.Meet own field) ↔ t.label = some field := by
    constructor
    · rintro ⟨own, hown, rfl | htwin | htwin⟩
      · exact hown
      · exact absurd htwin (hsingle t ht own hown).1
      · exact absurd htwin (hsingle t ht own hown).2
    · exact fun hlabel => ⟨field, hlabel, .inl rfl⟩
  rw [decide_eq_decide, hmeet]

end Plan

/-! A task that can be asynchronous, in a grammar that has a field for either spelling. -/

namespace Tasks

def grammar : Grammar :=
  { kinds := [("task", true, 1), ("word", true, 2)], fields := ["async", "async_"] }

def schema : Schema :=
  Schema.prelude ++
    [{ name := "Word", path := "tasks.Word", shape := .product
       layers := [{ owner := "Word", kind := some "word" }, Schema.rootLayer] },
     { name := "Task", path := "tasks.Task", shape := .product
       layers := [{ owner := "Task", kind := some "task"
                    fields := [⟨"async_", .child (.direct 9) .repeated ""⟩] }, Schema.rootLayer] }]

def slot : Slot := ⟨"async_", .child "async_" "async" .repeated 9⟩

def plan : Plan := ⟨10, [⟨"ann", .requested⟩, slot]⟩

/-- A task with one word under a field name. -/
def task (field : String) : Tree :=
  .node ⟨1, "task", true, false, 0, 1, ⟨0, 0⟩, ⟨0, 1⟩⟩ none
    [Tree.bare "word" true false (some field)]

def state (t : Tree) : BuildState := { cursor := .start t, table := { grammar } }

theorem plan_task : schema.plan 10 = .ok plan := rfl

theorem attrs_task : ∀ f ∈ (schema.decl 10).fields, f.attr ∉ FieldName.reserved := by decide

theorem slot_reads_async :
    plan.checkFields schema grammar = .ok () ∧
      ∃ buckets st', (BuildM.children false).run (state (task "async")) = (.ok buckets, st') ∧
        buckets.get "async_" = (task "async").children := by
  have hslot : slot ∈ plan.slots := by simp [plan]
  obtain ⟨-, -, buckets, st', hrun, -, hsingle⟩ :=
    Plan.slot_reads_field plan_task attrs_task hslot rfl false (state (task "async"))
  refine ⟨rfl, buckets, st', hrun, hsingle ?_⟩
  decide

/-- The slot is checked against one field, and reads a child of another. -/
theorem slot_reads_other_field :
    (∀ f ∈ (schema.decl 10).fields, f.attr ∉ FieldName.reserved) ∧ schema.plan 10 = .ok plan ∧
      slot ∈ plan.slots ∧ slot.rule = .child "async_" "async" .repeated 9 ∧
      plan.checkFields schema grammar = .ok () ∧ slot.grammarName = "async" ∧
      ∃ buckets st', (BuildM.children false).run (state (task "async_")) = (.ok buckets, st') ∧
        ∃ t ∈ buckets.get "async_", t.label = some "async_" ∧ t.label ≠ some slot.grammarName := by
  have hbucket : ((task "async_").buckets false).get "async_" =
      [Tree.bare "word" true false (some "async_")] := rfl
  refine ⟨attrs_task, plan_task, by simp [plan], rfl, rfl, rfl, _, _,
    BuildM.children_run false (state (task "async_")),
    Tree.bare "word" true false (some "async_"), ?_, rfl, by decide⟩
  exact hbucket ▸ List.mem_singleton_self _

end Tasks

end TypedTree
