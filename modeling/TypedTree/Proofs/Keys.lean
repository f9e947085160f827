import TypedTree.Data.Basic

/-! # Keys that are the same

Two keys are the same if they are equal as values. Each key has an identity, which is what equal keys
have in common, and so being the same is an equivalence of keys. -/

namespace TypedTree

/-- What is found is there, under a key that is the same. -/
theorem exists_mem_of_lookup {α β : Type} [BEq α] {entries : List (α × β)} {k : α} {v : β}
    (h : entries.lookup k = some v) : ∃ e ∈ entries, (k == e.1) = true ∧ e.2 = v := by
  induction entries with
  | nil => cases h
  | cons e rest ih =>
    rw [List.lookup_cons] at h
    split at h
    · rename_i hk
      exact ⟨e, List.mem_cons_self, hk, Option.some.inj h⟩
    · obtain ⟨f, hf, hsame, hv⟩ := ih h
      exact ⟨f, List.mem_cons_of_mem _ hf, hsame, hv⟩

theorem Binary64.toRatio_pos (x : Binary64) : 0 < x.toRatio.2 := by
  unfold toRatio
  dsimp only
  split
  · exact Nat.two_pow_pos _
  · exact Nat.one_pos

namespace Key

/-- What equal keys have in common, and no others. -/
inductive Identity where
  | text (s : String)
  | wide (points : Text.CodePoints)
  | null
  | number (q : Rat)
  /-- An infinite number, or none. -/
  | special (bits : Nat)
  | bytes (content : Text.Bytes)
  | atom (identity : String)

def identity (k : Key) : Identity :=
  match k.ratio?, k with
  | some (n, d), _ => .number (mkRat n d)
  | none, text s => .text s
  | none, wide ps => .wide ps
  | none, bytes b => .bytes b
  | none, atom a => .atom a.identity
  | none, float x => .special x.bits
  | none, _ => .null

theorem ratio?_float (x : Binary64) :
    (float x).ratio? = if x.biased = 2047 then none else some x.toRatio := rfl

theorem ratio?_pos {k : Key} {n : Int} {d : Nat} (h : k.ratio? = some (n, d)) : 0 < d := by
  cases k with
  | float x =>
    rw [ratio?_float] at h
    split at h
    · cases h
    · have hd := x.toRatio_pos
      rw [Option.some.inj h] at hd
      exact hd
  | bool b => cases h; exact Nat.one_pos
  | int m => cases h; exact Nat.one_pos
  | _ => cases h

theorem identity_of_ratio {k : Key} {n : Int} {d : Nat} (h : k.ratio? = some (n, d)) :
    k.identity = .number (mkRat n d) := by
  unfold identity
  rw [h]

theorem same_of_ratio {k l : Key} {m n : Int} {d e : Nat} (hk : k.ratio? = some (m, d))
    (hl : l.ratio? = some (n, e)) : same k l = (m * e == n * d) := by
  cases k <;> cases l <;> simp_all [same, ratio?]

/-- A number is never the same as what is no number. -/
theorem same_of_ratio_none {k l : Key} {q : Int × Nat} (hk : k.ratio? = some q)
    (hl : l.ratio? = none) : same k l = false ∧ same l k = false := by
  cases k <;> cases l <;> simp_all [same, ratio?]

theorem identity_ne_number {k : Key} (h : k.ratio? = none) (q : Rat) : k.identity ≠ .number q := by
  unfold identity
  rw [h]
  cases k <;> simp_all [ratio?]

theorem same_iff_identity (k l : Key) : same k l = true ↔ k.identity = l.identity := by
  rcases hk : k.ratio? with - | ⟨m, d⟩ <;> rcases hl : l.ratio? with - | ⟨n, e⟩
  · unfold identity
    rw [hk, hl]
    cases k <;> cases l <;> simp_all [same, ratio?]
  · rw [identity_of_ratio hl, (same_of_ratio_none hl hk).2]
    exact iff_of_false Bool.false_ne_true (identity_ne_number hk _)
  · rw [identity_of_ratio hk, (same_of_ratio_none hk hl).1]
    exact iff_of_false Bool.false_ne_true fun h => identity_ne_number hl _ h.symm
  · have hd : d ≠ 0 := Nat.ne_of_gt (ratio?_pos hk)
    have he : e ≠ 0 := Nat.ne_of_gt (ratio?_pos hl)
    rw [identity_of_ratio hk, identity_of_ratio hl, same_of_ratio hk hl, beq_iff_eq,
      Identity.number.injEq, Rat.mkRat_eq_iff hd he]

theorem beq_iff_identity {k l : Key} : (k == l) = true ↔ k.identity = l.identity :=
  same_iff_identity k l

instance : EquivBEq Key where
  rfl := beq_iff_identity.mpr rfl
  symm h := beq_iff_identity.mpr (beq_iff_identity.mp h).symm
  trans h h' := beq_iff_identity.mpr ((beq_iff_identity.mp h).trans (beq_iff_identity.mp h'))

end Key

end TypedTree
