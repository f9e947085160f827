import TypedTree.Text.LowerCase
import TypedTree.Text.Quoted

/-! # Names in lower case

A name in lower case has no code point left whose lower-case letter is an ASCII one. So if it is put
in lower case once more and is an ASCII name then, it was that name before. -/

namespace TypedTree.Text

theorem points_inj {s t : String} (h : points s = points t) : s = t :=
  String.toList_inj.mp ((List.map_inj_right fun _ _ => Char.toNat_inj.mp).mp h)

/-- The lower-case letter of the code point is an ASCII letter and is not the code point itself: it
is a capital of ASCII, or the sign of the kelvin. -/
def Capital (n : Nat) : Prop := (65 ≤ n ∧ n ≤ 90) ∨ n = 8490

instance (n : Nat) : Decidable (Capital n) := inferInstanceAs (Decidable (_ ∨ _))

/-- A run of capitals has no lower-case letters at such code points, and if it has one in ASCII then
all its capitals are such code points. -/
def Apart (run : Nat × Nat × Nat × Int) : Prop :=
  ((run.2.1 : Int) + run.2.2.2 < 65 ∨ 90 < (run.1 : Int) + run.2.2.2) ∧
    ((run.2.1 : Int) + run.2.2.2 < 8490 ∨ 8490 < (run.1 : Int) + run.2.2.2) ∧
    (128 ≤ (run.1 : Int) + run.2.2.2 ∨ run.1 = 65 ∧ run.2.1 = 90 ∨ run.1 = 8490 ∧ run.2.1 = 8490)

instance (run : Nat × Nat × Nat × Int) : Decidable (Apart run) :=
  inferInstanceAs (Decidable (_ ∧ _ ∧ _))

theorem all_apart : capitalRuns.all (fun run => decide (Apart run)) = true := by decide +kernel

theorem lowerPoint?_eq_some {n lower : Nat} (h : lowerPoint? n = some lower) :
    ¬ Capital lower ∧ (lower < 128 → Capital n) := by
  obtain ⟨⟨first, last, step, shift⟩, hrun, h⟩ := List.exists_of_findSome?_eq_some h
  obtain ⟨hcapital, hkelvin, hascii⟩ := of_decide_eq_true (List.all_eq_true.mp all_apart _ hrun)
  dsimp only at h hcapital hkelvin hascii
  split at h
  · rename_i hwithin
    cases h
    simp only [Bool.and_eq_true, decide_eq_true_eq] at hwithin
    unfold Capital
    omega
  · cases h

theorem not_capital_of_lowerPoint? {n : Nat} (h : lowerPoint? n = none) : ¬ Capital n := by
  -- The capitals are runs of the table, so that they have lower-case letters.
  have hruns := List.findSome?_eq_none_iff.mp h
  rintro (hascii | rfl)
  · have hrun := hruns (65, 90, 1, 32) (by decide)
    simp [hascii, Nat.mod_one] at hrun
  · exact absurd (hruns (8490, 8490, 1, -8383) (by decide)) (by decide)

theorem not_capital_lowerPoint (n : Nat) : ¬ Capital ((lowerPoint? n).getD n) := by
  cases h : lowerPoint? n with
  | none => exact not_capital_of_lowerPoint? h
  | some lower => exact (lowerPoint?_eq_some h).1

theorem not_capital_of_mem_lowerAfter {before ps : List Nat} :
    ∀ n ∈ lowerAfter before ps, ¬ Capital n := by
  induction ps generalizing before with
  | nil => exact fun n hn => by cases hn
  | cons m rest ih =>
    intro n hn
    rcases List.mem_append.mp hn with hn | hn
    · split at hn
      · simp only [List.mem_cons, List.not_mem_nil, or_false] at hn
        unfold Capital
        omega
      · split at hn
        · have hsigma : n = 0x3C2 ∨ n = 0x3C3 := by
            rw [List.mem_singleton.mp hn]
            split <;> simp
          unfold Capital
          omega
        · exact List.mem_singleton.mp hn ▸ not_capital_lowerPoint m
    · exact ih n hn

theorem not_capital_of_mem_lowerPoints {ps : List Nat} : ∀ n ∈ lowerPoints ps, ¬ Capital n := by
  intro n hn
  unfold lowerPoints at hn
  split at hn
  · rename_i hascii
    obtain ⟨m, hm, rfl⟩ := List.mem_map.mp hn
    have hm := of_decide_eq_true (List.all_eq_true.mp hascii m hm)
    unfold Capital
    split <;> rename_i hupper <;>
      simp only [Bool.and_eq_true, decide_eq_true_eq] at hupper <;> omega
  · exact not_capital_of_mem_lowerAfter n hn

theorem eq_of_lowerAfter {before ps ws : List Nat} (hps : ∀ n ∈ ps, ¬ Capital n)
    (hws : ∀ n ∈ ws, n < 128) (h : lowerAfter before ps = ws) : ps = ws := by
  induction ps generalizing before ws with
  | nil => exact h
  | cons n rest ih =>
    have hn := hps n List.mem_cons_self
    unfold lowerAfter at h
    dsimp only at h
    split at h
    · subst h
      exact absurd (hws 0x307 (by simp)) (by omega)
    · split at h
      · subst h
        have hsigma := hws _ List.mem_cons_self
        split at hsigma <;> omega
      · cases ws with
        | nil => cases h
        | cons w ws =>
          obtain ⟨hhead, htail⟩ := List.cons.inj h
          have hw := hws w List.mem_cons_self
          have hsame : n = w := by
            cases hlower : lowerPoint? n with
            | none => rw [← hhead, hlower]; rfl
            | some lower =>
              rw [hlower, Option.getD_some] at hhead
              exact absurd ((lowerPoint?_eq_some hlower).2 (hhead ▸ hw)) hn
          rw [hsame, ih (fun m hm => hps m (List.mem_cons_of_mem _ hm))
            (fun m hm => hws m (List.mem_cons_of_mem _ hm)) htail]

/-- Code points without capitals that read like ASCII in lower case are ASCII. -/
theorem eq_of_lowerPoints {ps ws : List Nat} (hps : ∀ n ∈ ps, ¬ Capital n)
    (hws : ∀ n ∈ ws, n < 128) (h : lowerPoints ps = ws) : ps = ws := by
  unfold lowerPoints at h
  split at h
  · have hsame : ∀ n ∈ ps, (if 65 ≤ n && n ≤ 90 then n + 32 else n) = id n := by
      intro n hn
      refine if_neg fun hupper => hps n hn (.inl ?_)
      simpa using hupper
    rw [← h, List.map_congr_left hsame, List.map_id]
  · exact eq_of_lowerAfter hps hws h

end TypedTree.Text
