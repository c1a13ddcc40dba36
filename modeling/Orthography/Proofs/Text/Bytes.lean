import Orthography.Text.Basic

/-!
# Texts as bytes

A text begins or ends with another one exactly if its bytes do so.  For beginnings this is so
because no character is encoded as the beginning of another one, for ends because the first byte of
a character is never found further inside one.
-/

namespace Orthography
namespace Text

@[simp] theorem bytes_nil : bytes [] = [] := rfl

@[simp] theorem bytes_cons (c : Char) (text : Text) :
    bytes (c :: text) = String.utf8EncodeChar c ++ bytes text := rfl

@[simp] theorem bytes_append (a b : Text) : bytes (a ++ b) = bytes a ++ bytes b :=
  List.flatMap_append

@[simp] theorem length_bytes (text : Text) : (bytes text).length = byteSize text := by
  induction text with
  | nil => rfl
  | cons c text ih => rw [bytes_cons, List.length_append, String.length_utf8EncodeChar, ih, byteSize]

/-- The character at the beginning of a text can be told by the bytes. -/
theorem encode_append_inj {c d : Char} {x y : List UInt8}
    (h : String.utf8EncodeChar c ++ x = String.utf8EncodeChar d ++ y) : c = d ∧ x = y := by
  have hdecode (c : Char) (x : List UInt8) :
      (String.utf8EncodeChar c ++ x).toByteArray.utf8DecodeChar? 0 = some c := by
    rw [List.toByteArray_append]
    exact ByteArray.utf8DecodeChar?_utf8EncodeChar_append
  obtain rfl : c = d := by
    rw [← Option.some.injEq, ← hdecode c x, h, hdecode d y]
  exact ⟨rfl, List.append_cancel_left h⟩

theorem bytes_prefix_iff {a b : Text} : bytes a <+: bytes b ↔ a <+: b := by
  induction a generalizing b with
  | nil => simp
  | cons c a ih =>
      cases b with
      | nil => simp [String.utf8EncodeChar_ne_nil]
      | cons d b =>
          constructor
          · rintro ⟨rest, h⟩
            rw [bytes_cons, bytes_cons, List.append_assoc] at h
            obtain ⟨rfl, hrest⟩ := encode_append_inj h
            exact List.cons_prefix_cons.2 ⟨rfl, ih.1 ⟨rest, hrest⟩⟩
          · rintro ⟨rest, h⟩
            exact ⟨bytes rest, by rw [← bytes_append, h]⟩

theorem bytes_inj {a b : Text} : bytes a = bytes b ↔ a = b := by
  refine ⟨fun h ↦ ?_, congrArg bytes⟩
  have hab : a <+: b := bytes_prefix_iff.1 (h ▸ List.prefix_rfl)
  have hba : b <+: a := bytes_prefix_iff.1 (h ▸ List.prefix_rfl)
  exact hab.eq_of_length_le hba.length_le

/-- Inside the bytes of a character there is no place where another one could begin. -/
theorem eq_nil_of_encode_eq_append {c d : Char} {head tail x y : List UInt8}
    (h : String.utf8EncodeChar d = head ++ tail) (htail : tail ++ x = String.utf8EncodeChar c ++ y) :
    head = [] ∨ tail = [] := by
  by_cases hne : tail = []
  · exact Or.inr hne
  refine Or.inl ?_
  obtain ⟨b, tail, rfl⟩ := List.exists_cons_of_ne_nil hne
  obtain ⟨b', rest, hencode⟩ := List.exists_cons_of_ne_nil (String.utf8EncodeChar_ne_nil (c := c))
  have hfirst : b = b' := by
    rw [hencode] at htail
    exact (List.cons.inj htail).1
  have hzero : 0 < (String.utf8EncodeChar c).length := by simp [c.utf8Size_pos]
  have hget : ((String.utf8EncodeChar c).get ⟨0, hzero⟩).IsUTF8FirstByte :=
    UInt8.isUTF8FirstByte_getElem_utf8EncodeChar.2 rfl
  have hb : b.IsUTF8FirstByte := by simpa [hencode, hfirst] using hget
  have hplace : head.length < (String.utf8EncodeChar d).length := by simp [h]
  have hbyte : (String.utf8EncodeChar d)[head.length] = b := by simp [h]
  rw [← hbyte, UInt8.isUTF8FirstByte_getElem_utf8EncodeChar] at hb
  exact List.eq_nil_of_length_eq_zero hb

theorem bytes_suffix_iff {a b : Text} : bytes a <:+ bytes b ↔ a <:+ b := by
  constructor
  · intro h
    cases a with
    | nil => exact List.nil_suffix
    | cons c a =>
        induction b with
        | nil => simp [String.utf8EncodeChar_ne_nil] at h
        | cons d b ih =>
            obtain ⟨front, h⟩ := h
            rw [bytes_cons d b] at h
            -- The bytes of `c :: a` begin where `d` does, or where it ends.
            rcases List.append_eq_append_iff.1 h with ⟨tail, hencode, htail⟩ | ⟨rest, -, hrest⟩
            · rcases eq_nil_of_encode_eq_append hencode htail.symm with rfl | rfl
              · have hwhole : c :: a = d :: b := bytes_inj.1 h
                exact hwhole ▸ List.suffix_rfl
              · exact List.suffix_cons_iff.2 (Or.inr (ih ⟨[], htail⟩))
            · exact List.suffix_cons_iff.2 (Or.inr (ih ⟨rest, hrest.symm⟩))
  · rintro ⟨rest, rfl⟩
    exact ⟨bytes rest, (bytes_append rest a).symm⟩

end Text
end Orthography
