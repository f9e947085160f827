import TypedTree.Text.Encoding

/-! # Encodings by their own names

The name under which an encoding is known leads back to it. The normal forms of the table are
compared as numbers, since there are many pairs of them. -/

namespace TypedTree.Text

/-- What each character of a normal form is made from. -/
def Formed (name : List Char) (c : Char) : Prop := c = '_' ∨ ∃ d ∈ name, c = d.toLower

theorem formStep_formed {name : List Char} {acc : List Char × Bool} {d : Char} (hd : d ∈ name)
    (hacc : ∀ c ∈ acc.1, Formed name c) : ∀ c ∈ (formStep acc d).1, Formed name c := by
  intro c hc
  unfold formStep at hc
  dsimp only at hc
  split at hc
  · rcases List.mem_cons.mp hc with rfl | hc
    · exact .inr ⟨d, hd, rfl⟩
    · split at hc
      · rcases List.mem_cons.mp hc with rfl | hc
        · exact .inl rfl
        · exact hacc c hc
      · exact hacc c hc
  · exact hacc c hc

theorem foldl_formStep_formed {name rest : List Char} (hrest : ∀ d ∈ rest, d ∈ name)
    (acc : List Char × Bool) (hacc : ∀ c ∈ acc.1, Formed name c) :
    ∀ c ∈ (rest.foldl formStep acc).1, Formed name c := by
  induction rest generalizing acc with
  | nil => exact hacc
  | cons d rest ih =>
    have hd : d ∈ name := hrest d List.mem_cons_self
    exact ih (fun c hc => hrest c (List.mem_cons_of_mem _ hc)) _ (formStep_formed hd hacc)

theorem normalForm_formed (name : String) :
    ∀ c ∈ (normalForm name).toList, Formed name.toList c := by
  intro c hc
  rw [normalForm, String.toList_ofList, List.mem_reverse] at hc
  exact foldl_formStep_formed (fun _ h => h) ([], false) (fun _ h => by cases h) c hc

/-- The bytes of a text as one number. Texts of different numbers differ. -/
def code (s : String) : Nat :=
  s.toByteArray.data.toList.foldl (fun n b => n * 256 + b.toNat) 0

/-- A test of a number that is worked out first. -/
def ofNumber (n : Nat) (test : Nat → Bool) : Bool :=
  match n with
  | 0 => test 0
  | k + 1 => test (k + 1)

theorem ofNumber_eq (n : Nat) (test : Nat → Bool) : ofNumber n test = test n := by
  cases n <;> rfl

namespace Encoding

variable {e f : Encoding}

/-- The normal form of the encoding's own name. -/
def form (e : Encoding) : String := normalForm e.name

/-- All normal forms that name the encoding. -/
def forms (e : Encoding) : List String := e.aliases ++ e.own

/-- No other encoding of the table has a normal form with the number of this encoding's own. -/
def standsAlone (e : Encoding) : Bool :=
  ofNumber (code e.form) fun n => encodings.all fun f =>
    (f.forms.all fun s => !(n.beq (code s))) || decide (f = e)

/-- What can be read off the table for each encoding. -/
def settled (e : Encoding) : Bool :=
  e.standsAlone && e.forms.contains e.form &&
    e.name.toList.all fun c => !(c == '\x00') && !(c.toLower == '.')

theorem all_settled : encodings.all settled = true := by decide +kernel

theorem settled_of_mem (he : e ∈ encodings) : e.standsAlone = true ∧ e.form ∈ e.forms ∧
    ∀ c ∈ e.name.toList, c ≠ '\x00' ∧ c.toLower ≠ '.' := by
  have h := List.all_eq_true.mp all_settled e he
  simpa [settled, and_assoc] using h

theorem form_mem (he : e ∈ encodings) : e.form ∈ e.forms := (settled_of_mem he).2.1

theorem noNul (he : e ∈ encodings) : '\x00' ∉ e.name.toList :=
  fun h => ((settled_of_mem he).2.2 _ h).1 rfl

theorem eq_of_form_mem (he : e ∈ encodings) (hf : f ∈ encodings) (h : e.form ∈ f.forms) :
    f = e := by
  have halone := (settled_of_mem he).1
  rw [standsAlone, ofNumber_eq, List.all_eq_true] at halone
  rcases Bool.or_eq_true_iff.mp (halone f hf) with hdiffer | hsame
  · have hcode := List.all_eq_true.mp hdiffer e.form h
    rw [Nat.beq_refl] at hcode
    cases hcode
  · exact of_decide_eq_true hsame

theorem pointless_form (he : e ∈ encodings) :
    e.form.map (fun c => if c = '.' then '_' else c) = e.form := by
  have hpoint : ∀ c ∈ e.form.toList, c ≠ '.' := by
    intro c hc
    rcases normalForm_formed e.name c hc with rfl | ⟨d, hd, rfl⟩
    · decide
    · exact ((settled_of_mem he).2.2 d hd).2
  have hsame : ∀ c ∈ e.form.toList, (if c = '.' then '_' else c) = id c :=
    fun c hc => if_neg (hpoint c hc)
  rw [← String.toList_inj, String.toList_map, List.map_congr_left hsame, List.map_id]

theorem eq_of_find {e : Encoding} {p : Encoding → Bool} (he : e ∈ encodings) (hp : p e = true)
    (hforms : ∀ f ∈ encodings, p f = true → e.form ∈ f.forms) : encodings.find? p = some e := by
  obtain ⟨f, hf⟩ := Option.isSome_iff_exists.mp (List.find?_isSome.mpr ⟨e, he, hp⟩)
  have hmem := List.mem_of_find?_eq_some hf
  rw [hf, eq_of_form_mem he hmem (hforms f hmem (List.find?_some hf))]

end Encoding

theorem mem_of_findEncoding {name : String} {e : Encoding} (h : findEncoding name = some e) :
    e ∈ encodings := by
  rcases Option.or_eq_some_iff.mp h with h | ⟨-, h⟩ <;> exact List.mem_of_find?_eq_some h

/-- Every encoding is found under its own name. -/
theorem findEncoding_name {e : Encoding} (he : e ∈ encodings) : findEncoding e.name = some e := by
  have hfind : findEncoding e.name =
      (encodings.find? fun f => f.aliases.contains e.form).or
        (encodings.find? fun f => f.own.contains e.form) := by
    have hform : normalForm e.name = e.form := rfl
    unfold findEncoding
    simp only [hform, Encoding.pointless_form he, Bool.or_self]
  rw [hfind]
  -- Another encoding with this alias would be found before the name itself is looked for.
  have hown : e.form ∈ e.own → encodings.find? (fun f => f.own.contains e.form) = some e :=
    fun h => Encoding.eq_of_find he (List.contains_iff_mem.mpr h) fun f _ hf =>
      List.mem_append_right _ (List.contains_iff_mem.mp hf)
  have halias : ∀ f, encodings.find? (fun f => f.aliases.contains e.form) = some f → f = e := by
    intro f hf
    have hform : e.form ∈ f.aliases :=
      List.contains_iff_mem.mp
        (List.find?_some (p := fun f : Encoding => f.aliases.contains e.form) hf)
    exact Encoding.eq_of_form_mem he (List.mem_of_find?_eq_some hf) (List.mem_append_left _ hform)
  cases hfirst : encodings.find? fun f => f.aliases.contains e.form with
  | some f => rw [halias f hfirst]; rfl
  | none =>
    rcases List.mem_append.mp (Encoding.form_mem he) with hmem | hmem
    · have hno := List.find?_eq_none.mp hfirst e he
      exact absurd (List.contains_iff_mem.mpr hmem) hno
    · exact hown hmem

end TypedTree.Text
