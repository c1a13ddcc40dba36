import Orthography.Text.CharClass

/-!
# Classes without a common character

Two ascending tables are compared stride by stride, each stride with those that overlap it.  So no
blank is a letter or a digit, and each letter is in one of the classes of small, capital and
titlecase letters only.
-/

namespace Orthography
namespace Text

variable {a b : List Stride} {s t : Stride} {lo n : Nat} {c : Char}

/-! ## Tables apart -/

/-- The code point is in the stride. -/
structure Stride.Holds (s : Stride) (n : Nat) : Prop where
  lo_le : s.lo ≤ n
  le_hi : n ≤ s.hi
  step : (n - s.lo) % s.step = 0

theorem Stride.Holds.mod_eq (h : s.Holds n) : n % s.step = s.lo % s.step := by
  have hmod := Nat.add_mod s.lo (n - s.lo) s.step
  rwa [h.step, Nat.add_zero, Nat.mod_mod, Nat.add_sub_cancel' h.lo_le] at hmod

/-- Steps of the same length never lead from one of the strides into the other. -/
def Stride.passes (s t : Stride) : Bool := s.step == t.step && s.lo % s.step != t.lo % t.step

theorem Stride.Holds.not_of_passes (h : s.Holds n) (hpasses : s.passes t) : ¬t.Holds n := by
  intro ht
  rw [passes, Bool.and_eq_true, beq_iff_eq, bne_iff_ne] at hpasses
  apply hpasses.2
  rw [← h.mod_eq, ← ht.mod_eq, hpasses.1]

/-- No code point is in both tables.  Strides that end before one of the first table are done with
when that one is reached. -/
def apart : List Stride → List Stride → Bool
  | [], _ => true
  | s :: a, b =>
      let rest := b.dropWhile fun t ↦ t.hi < s.lo
      (rest.takeWhile fun t ↦ t.lo ≤ s.hi).all s.passes && apart a rest

theorem inStrides_eq_false_of_dropWhile (hlo : lo ≤ n)
    (h : inStrides (b.dropWhile fun t ↦ t.hi < lo) n = false) : inStrides b n = false := by
  induction b with
  | nil => rfl
  | cons t b ih =>
      by_cases hend : t.hi < lo
      · rw [List.dropWhile_cons_of_pos (by simpa using hend)] at h
        have hn : ¬n ≤ t.hi := Nat.not_le.2 (Nat.lt_of_lt_of_le hend hlo)
        rw [inStrides, if_neg hn, ih h, ite_self]
      · rwa [List.dropWhile_cons_of_neg (by simpa using hend)] at h

theorem Stride.Holds.inStrides_eq_false (hs : s.Holds n)
    (h : (b.takeWhile fun t ↦ t.lo ≤ s.hi).all s.passes) : inStrides b n = false := by
  induction b with
  | nil => rfl
  | cons t b ih =>
      rw [inStrides]
      split
      · rfl
      · rename_i hlo
        have hlo : t.lo ≤ n := Nat.le_of_not_lt hlo
        have hoverlap : t.lo ≤ s.hi := Nat.le_trans hlo hs.le_hi
        rw [List.takeWhile_cons_of_pos (by simpa using hoverlap), List.all_cons,
          Bool.and_eq_true] at h
        split
        · rename_i hhi
          rw [beq_eq_false_iff_ne]
          intro hstep
          exact hs.not_of_passes h.1 ⟨hlo, hhi, hstep⟩
        · exact ih h.2

/-- A look-up in the first table gets to its strides in the same order. -/
theorem inStrides_eq_false_of_apart (h : apart a b) (hn : inStrides a n) :
    inStrides b n = false := by
  induction a generalizing b with
  | nil => cases hn
  | cons s a ih =>
      rw [apart, Bool.and_eq_true] at h
      rw [inStrides] at hn
      split at hn
      · cases hn
      · rename_i hlo
        have hlo : s.lo ≤ n := Nat.le_of_not_lt hlo
        apply inStrides_eq_false_of_dropWhile hlo
        split at hn
        · rename_i hhi
          exact Stride.Holds.inStrides_eq_false ⟨hlo, hhi, eq_of_beq hn⟩ h.1
        · exact ih h.2 hn

/-- No blank is a letter or a digit. -/
theorem not_isBlank_of_isAlphanumeric (h : isAlphanumeric c) : isBlank c = false := by
  have happart : apart alphanumericTable blankTable := by decide +kernel
  exact inStrides_eq_false_of_apart happart h

/-! ## Letters -/

theorem other_classes_of_isLowercase (h : isLowercase c) :
    isUppercase c = false ∧ isTitlecase c = false := by
  have hupper : apart lowercaseTable uppercaseTable := by decide +kernel
  have htitle : apart lowercaseTable titlecaseTable := by decide +kernel
  exact ⟨inStrides_eq_false_of_apart hupper h, inStrides_eq_false_of_apart htitle h⟩

theorem other_classes_of_isUppercase (h : isUppercase c) :
    isLowercase c = false ∧ isTitlecase c = false := by
  have htitle : apart uppercaseTable titlecaseTable := by decide +kernel
  refine ⟨?_, inStrides_eq_false_of_apart htitle h⟩
  rw [← Bool.not_eq_true]
  intro hlower
  rw [(other_classes_of_isLowercase hlower).1] at h
  cases h

theorem other_classes_of_isTitlecase (h : isTitlecase c) :
    isLowercase c = false ∧ isUppercase c = false := by
  constructor <;> rw [← Bool.not_eq_true] <;> intro hother
  · rw [(other_classes_of_isLowercase hother).2] at h
    cases h
  · rw [(other_classes_of_isUppercase hother).2] at h
    cases h

theorem isCased_iff : isCased c ↔ isLowercase c ∨ isUppercase c ∨ isTitlecase c := by
  rw [isCased, Bool.or_eq_true, Bool.or_eq_true, or_assoc]

theorem isCased_eq_false_iff :
    isCased c = false ↔ isLowercase c = false ∧ isUppercase c = false ∧ isTitlecase c = false := by
  rw [isCased, Bool.or_eq_false_iff, Bool.or_eq_false_iff, and_assoc]

end Text
end Orthography
