import Orthography.Text.Basic

/-!
# Places in a text

Places are counted in bytes.  As no character is without bytes, two places have at most one text
between them.
-/

namespace Orthography
namespace Text

theorem byteSize_pos {text : Text} (h : text ≠ []) : 0 < byteSize text := by
  obtain ⟨c, rest, rfl⟩ := List.exists_cons_of_ne_nil h
  have hc := c.utf8Size_pos
  simp only [byteSize]
  omega

/-- A text has at most one beginning of a given size. -/
theorem append_inj_of_byteSize_eq {a b x y : Text} (h : a ++ x = b ++ y)
    (hsize : byteSize a = byteSize b) : a = b ∧ x = y := by
  induction a generalizing b with
  | nil =>
      cases b with
      | nil => exact ⟨rfl, h⟩
      | cons d b =>
          have hpos := byteSize_pos (List.cons_ne_nil d b)
          rw [← hsize] at hpos
          exact absurd hpos (Nat.lt_irrefl 0)
  | cons c a ih =>
      cases b with
      | nil =>
          have hpos := byteSize_pos (List.cons_ne_nil c a)
          rw [hsize] at hpos
          exact absurd hpos (Nat.lt_irrefl 0)
      | cons d b =>
          obtain ⟨rfl, hrest⟩ := List.cons.inj h
          have hsize' : byteSize a = byteSize b := Nat.add_left_cancel hsize
          obtain ⟨rfl, hxy⟩ := ih hrest hsize'
          exact ⟨rfl, hxy⟩

/-- A place where no character is cut through. -/
def IsBoundary (word : Text) (n : Nat) : Prop :=
  ∃ left right, word = left ++ right ∧ byteSize left = n

/-- A text stands in a word between two places. -/
def StandsBetween (word : Text) (start stop : Nat) (text : Text) : Prop :=
  ∃ left right, word = left ++ text ++ right ∧ byteSize left = start ∧
    byteSize (left ++ text) = stop

theorem standsBetween_append_iff {head rest text : Text} {stop : Nat} :
    StandsBetween (head ++ rest) (byteSize head) stop text ↔
      ∃ right, rest = text ++ right ∧ stop = byteSize head + byteSize text := by
  constructor
  · rintro ⟨left, right, hword, hstart, rfl⟩
    rw [List.append_assoc] at hword
    obtain ⟨rfl, rfl⟩ := append_inj_of_byteSize_eq hword hstart.symm
    exact ⟨right, rfl, byteSize_append _ _⟩
  · rintro ⟨right, rfl, rfl⟩
    exact ⟨head, right, by simp, rfl, byteSize_append _ _⟩

end Text
end Orthography
