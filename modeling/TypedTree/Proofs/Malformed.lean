import TypedTree.Text.Decode

/-! # Where malformed stretches begin

In some encodings only a byte of the upper half can begin a malformed stretch. A handler that
carries such bytes over can then go on after every stretch; in the other encodings there is a
stretch at which it has to give up. -/

namespace TypedTree.Text

namespace Piece

/-- The piece is no malformed stretch, or one that is not empty and begins in the upper half. -/
def Escapable (p : Piece) (b : UInt8) : Prop := p.fault.isSome → 0x80 ≤ b ∧ 1 ≤ p.length

theorem escapable_char (b : UInt8) (point length : Nat) : (char point length).Escapable b :=
  fun h => by cases h

theorem escapable_malformed {b : UInt8} {length : Nat} {reason : String} (hb : 0x80 ≤ b)
    (hlength : 1 ≤ length) : (malformed length reason).Escapable b :=
  fun _ => ⟨hb, hlength⟩

end Piece

theorem Utf.escapable_tail8 {b : UInt8} (hb : 0x80 ≤ b) {point length : Nat} (hlength : 1 ≤ length)
    (n : Nat) (rest : Bytes) : (Utf.tail8 point length n rest).Escapable b := by
  fun_induction Utf.tail8 point length n rest with
  | case1 point length => exact Piece.escapable_char _ _ _
  | case2 point length => exact Piece.escapable_malformed hb hlength
  | case3 point length n c rest hc ih => exact ih (by omega)
  | case4 point length n c rest hc => exact Piece.escapable_malformed hb hlength

theorem Utf.escapable_piece8 (b : UInt8) (rest : Bytes) : (Utf.piece8 b rest).Escapable b := by
  unfold Utf.piece8
  by_cases hb : b < 0x80
  · rw [if_pos hb]
    exact Piece.escapable_char _ _ _
  · have hb : 0x80 ≤ b := UInt8.not_lt.mp hb
    rw [if_neg (UInt8.not_lt.mpr hb)]
    split
    · exact Piece.escapable_malformed hb (by decide)
    · split
      · exact escapable_tail8 hb (by decide) _ _
      · dsimp only
        split
        · exact Piece.escapable_malformed hb (by decide)
        · split
          · exact escapable_tail8 hb (by decide) _ _
          · exact Piece.escapable_malformed hb (by decide)

namespace MultiByte

variable {b : UInt8}

theorem escapable_ofPoint? (hb : 0x80 ≤ b) (length : Nat) (point? : Option Nat) :
    (ofPoint? length point?).Escapable b := by
  cases point? with
  | none => exact Piece.escapable_malformed hb (by decide)
  | some point => exact Piece.escapable_char _ _ _

theorem escapable_pair (hb : 0x80 ≤ b) (find? : UInt8 → UInt8 → Option Nat) (rest : Bytes) :
    (pair find? b rest).Escapable b := by
  cases rest with
  | nil => exact Piece.escapable_malformed hb (by decide)
  | cons trail more => exact escapable_ofPoint? hb _ _

theorem escapable_gb18030Piece (hb : 0x80 ≤ b) (rest : Bytes) :
    (gb18030Piece b rest).Escapable b := by
  unfold gb18030Piece
  split
  · exact Piece.escapable_malformed hb (by decide)
  · split
    · split
      · exact escapable_ofPoint? hb _ _
      · exact Piece.escapable_malformed hb (by omega)
    · exact escapable_ofPoint? hb _ _

theorem escapable_shiftJisPiece (hb : 0x80 ≤ b) (rest : Bytes) :
    (shiftJisPiece b rest).Escapable b := by
  unfold shiftJisPiece
  split
  · exact Piece.escapable_char _ _ _
  · split
    · exact escapable_pair hb _ _
    · exact Piece.escapable_malformed hb (by decide)

theorem escapable_eucJpPiece (hb : 0x80 ≤ b) (rest : Bytes) : (eucJpPiece b rest).Escapable b := by
  unfold eucJpPiece
  split
  · exact escapable_pair hb _ _
  · split
    · split
      · exact escapable_ofPoint? hb _ _
      · exact Piece.escapable_malformed hb (by omega)
    · exact escapable_pair hb _ _

theorem escapable_eucKrPiece (hb : 0x80 ≤ b) (rest : Bytes) : (eucKrPiece b rest).Escapable b := by
  unfold eucKrPiece
  split
  · split
    · exact escapable_ofPoint? hb _ _
    · exact Piece.escapable_malformed hb (by decide)
  · exact Piece.escapable_malformed hb (by omega)
  · exact escapable_pair hb _ _

/-- The lower half of the bytes is that of ASCII, so nothing in it is malformed. -/
theorem escapable_piece (e : MultiByte) (b : UInt8) (rest : Bytes) :
    (e.piece b rest).Escapable b := by
  unfold piece
  by_cases hb : b < 0x80
  · rw [if_pos hb]
    exact Piece.escapable_char _ _ _
  · have hb : 0x80 ≤ b := UInt8.not_lt.mp hb
    rw [if_neg (UInt8.not_lt.mpr hb)]
    cases e with
    | gb18030 => exact escapable_gb18030Piece hb rest
    | shiftJis => exact escapable_shiftJisPiece hb rest
    | eucJp => exact escapable_eucJpPiece hb rest
    | eucKr => exact escapable_eucKrPiece hb rest
    | gb2312 => exact escapable_pair hb _ _
    | gbk => exact escapable_pair hb _ _
    | big5 => exact escapable_pair hb _ _
    | cp949 => exact escapable_pair hb _ _

end MultiByte

/-- The page has a character for each byte of the lower half. -/
def CodePage.FullBelow (p : CodePage) : Prop :=
  ∀ n < 0x80, (p.point? (UInt8.ofNat n)).isSome

instance (p : CodePage) : Decidable p.FullBelow := inferInstanceAs (Decidable (∀ n < 0x80, _))

namespace Scheme

/-- Only bytes of the upper half begin a malformed stretch. -/
def UpperFaults : Scheme → Prop
  | utf8 => True
  | utf16 _ => False
  | utf32 _ => False
  | utf7 => False
  | ascii => True
  | latin1 => True
  | page p => p.FullBelow
  | escaped => False
  | rawEscaped => False
  | multiByte _ => True
  | partlyAscii => True

instance : (scheme : Scheme) → Decidable scheme.UpperFaults
  | utf8 | ascii | latin1 | multiByte _ | partlyAscii => .isTrue trivial
  | utf16 _ | utf32 _ | utf7 | escaped | rawEscaped => .isFalse id
  | page p => inferInstanceAs (Decidable p.FullBelow)

theorem escapable_lower (b : UInt8) (reason : String) :
    (if b < 0x80 then Piece.char b.toNat 1 else .malformed 1 reason).Escapable b := by
  by_cases hb : b < 0x80
  · rw [if_pos hb]
    exact Piece.escapable_char _ _ _
  · rw [if_neg hb]
    exact Piece.escapable_malformed (UInt8.not_lt.mp hb) (by decide)

theorem UpperFaults.escapable {scheme : Scheme} (h : scheme.UpperFaults) (b : UInt8)
    (rest : Bytes) : (scheme.piece b rest).Escapable b := by
  cases scheme with
  | utf8 => exact Utf.escapable_piece8 b rest
  | utf16 order => cases h
  | utf32 order => cases h
  | utf7 => cases h
  | ascii => exact escapable_lower b _
  | latin1 => exact Piece.escapable_char _ _ _
  | escaped => cases h
  | rawEscaped => cases h
  | multiByte e => exact e.escapable_piece b rest
  | partlyAscii => exact escapable_lower b _
  | page p =>
    simp only [piece]
    cases hpoint : p.point? b with
    | some n => exact Piece.escapable_char _ _ _
    | none =>
      refine Piece.escapable_malformed (UInt8.not_lt.mp fun hb => ?_) (by decide)
      have hsome := h b.toNat (UInt8.lt_iff_toNat_lt.mp hb)
      rw [UInt8.ofNat_toNat, hpoint] at hsome
      cases hsome

/-- In any other encoding some byte of the lower half begins a malformed stretch. -/
theorem exists_lower_fault {scheme : Scheme} (h : ¬ scheme.UpperFaults) :
    ∃ b rest reason, b < 0x80 ∧ (scheme.piece b rest).fault = some reason := by
  cases scheme with
  | utf8 => exact absurd trivial h
  | utf16 order => exact ⟨0x41, [], _, by decide, rfl⟩
  | utf32 order => exact ⟨0x41, [], _, by decide, rfl⟩
  | utf7 => exact ⟨0x2B, [0x21], _, by decide, rfl⟩
  | ascii => exact absurd trivial h
  | latin1 => exact absurd trivial h
  | escaped => exact ⟨0x5C, [], _, by decide, rfl⟩
  | rawEscaped => exact ⟨0x5C, [0x75], _, by decide, rfl⟩
  | multiByte e => exact absurd trivial h
  | partlyAscii => exact absurd trivial h
  | page p =>
    simp only [UpperFaults, CodePage.FullBelow, Classical.not_forall, Option.not_isSome_iff_eq_none,
      exists_prop] at h
    obtain ⟨n, hn, hnone⟩ := h
    refine ⟨UInt8.ofNat n, [], _, ?_, by simp only [piece, hnone]; rfl⟩
    have hhalf : (0x80 : UInt8).toNat = 0x80 := rfl
    rw [UInt8.lt_iff_toNat_lt, UInt8.toNat_ofNat', hhalf]
    omega

end Scheme

end TypedTree.Text
