import Orthography.Lexicon.Basic

/-!
# What is found in a lexicon

Each change of a lexicon is told by its effect on `Lexicon.lookup`.  In a lexicon that has been
built by such changes an entry stands under its own stem.
-/

namespace Orthography
namespace Lexicon

@[simp] theorem lookup_empty (stem : Text) : empty.lookup stem = [] :=
  Std.ExtTreeMap.getD_empty

theorem lookup_add (lexicon : Lexicon) (entry : Entry) (stem : Text) :
    (lexicon.add entry).lookup stem =
      if entry.stem = stem then lexicon.lookup stem ++ [entry] else lexicon.lookup stem := by
  simp only [lookup, add, Std.ExtTreeMap.getD_insert, Std.LawfulEqOrd.compare_eq_iff_eq]
  split
  · rename_i h
    rw [h]
  · rfl

theorem lookup_of_not_contains {lexicon : Lexicon} {stem : Text}
    (h : lexicon.contains stem = false) : lexicon.lookup stem = [] :=
  Std.ExtTreeMap.getD_eq_fallback_of_contains_eq_false h

theorem contains_of_mem_lookup {lexicon : Lexicon} {stem : Text} {entry : Entry}
    (h : entry ∈ lexicon.lookup stem) : lexicon.contains stem := by
  cases hunknown : lexicon.contains stem with
  | true => rfl
  | false =>
      rw [lookup_of_not_contains hunknown] at h
      exact absurd h List.not_mem_nil

theorem lookup_removeMatching (lexicon : Lexicon) (stem other : Text) (p : Entry → Bool) :
    (lexicon.removeMatching stem p).1.lookup other =
      if stem = other then (lexicon.lookup other).filter fun entry ↦ !p entry
      else lexicon.lookup other := by
  simp only [removeMatching]
  split
  · rename_i hc
    split
    · rename_i h
      rw [← h, lookup_of_not_contains (by simpa using hc), List.filter_nil]
    · rfl
  split
  · rename_i hk
    simp only [lookup, Std.ExtTreeMap.getD_erase, Std.LawfulEqOrd.compare_eq_iff_eq]
    split
    · rename_i h
      rw [← h]
      exact (List.isEmpty_iff.1 hk).symm
    · rfl
  · simp only [lookup, Std.ExtTreeMap.getD_insert, Std.LawfulEqOrd.compare_eq_iff_eq]
    split
    · rename_i h
      rw [h]
    · rfl

/-- The number that a removal tells is that of the entries it takes away. -/
theorem removeMatching_snd (lexicon : Lexicon) (stem : Text) (p : Entry → Bool) :
    (lexicon.removeMatching stem p).2 = (lexicon.lookup stem).countP p := by
  have hcount : (lexicon.lookup stem).length -
      ((lexicon.lookup stem).filter fun entry ↦ !p entry).length =
        (lexicon.lookup stem).countP p := by
    rw [← List.countP_eq_length_filter, List.length_eq_countP_add_countP p]
    simp
  simp only [removeMatching]
  split
  · rename_i hc
    rw [lookup_of_not_contains (by simpa using hc), List.countP_nil]
  · split
    · exact hcount
    · exact hcount

theorem lookup_withMarks (lexicon : Lexicon) (roles : Roles) (stem : Text) :
    (lexicon.withMarks roles).lookup stem = (lexicon.lookup stem).map (.withMarks roles) := by
  simp only [lookup, withMarks, Std.ExtTreeMap.getD_map]
  rw [Std.ExtTreeMap.getD_eq_getD_getElem?]
  cases lexicon.homonyms[stem]? <;> rfl

variable {lexicon : Lexicon} {stem : Text} {entry : Entry}

theorem mem_lookup_add {new : Entry} :
    entry ∈ (lexicon.add new).lookup stem ↔
      entry ∈ lexicon.lookup stem ∨ new.stem = stem ∧ entry = new := by
  rw [lookup_add]
  by_cases h : new.stem = stem <;> simp [h]

theorem mem_of_mem_lookup_removeMatching {other : Text} {p : Entry → Bool}
    (h : entry ∈ (lexicon.removeMatching other p).1.lookup stem) : entry ∈ lexicon.lookup stem := by
  rw [lookup_removeMatching] at h
  split at h
  · exact (List.mem_filter.1 h).1
  · exact h

theorem mem_lookup_withMarks {roles : Roles} :
    entry ∈ (lexicon.withMarks roles).lookup stem ↔
      ∃ original ∈ lexicon.lookup stem, original.withMarks roles = entry := by
  rw [lookup_withMarks, List.mem_map]

theorem contains_add :
    (lexicon.add entry).contains stem ↔ entry.stem = stem ∨ lexicon.contains stem := by
  simp [contains, add, Std.ExtTreeMap.contains_insert]

/-- A stem stays as long as one of its entries does. -/
theorem contains_removeMatching {other : Text} {p : Entry → Bool} :
    (lexicon.removeMatching stem p).1.contains other ↔
      lexicon.contains other ∧
        (stem = other → ∃ entry ∈ lexicon.lookup other, p entry = false) := by
  simp only [removeMatching]
  split
  · rename_i hc
    refine (and_iff_left_of_imp ?_).symm
    rintro h rfl
    rw [h] at hc
    cases hc
  split
  · rename_i hk
    simp only [contains, Std.ExtTreeMap.contains_erase, Bool.and_eq_true, bne_iff_ne, ne_eq,
      Std.LawfulEqOrd.compare_eq_iff_eq]
    rw [and_comm]
    refine and_congr_right fun _ ↦ ⟨fun hne heq ↦ absurd heq hne, ?_⟩
    rintro h rfl
    obtain ⟨entry, hentry, hp⟩ := h rfl
    have hmem : entry ∈ (lexicon.lookup stem).filter fun entry ↦ !p entry :=
      List.mem_filter.2 ⟨hentry, by simp [hp]⟩
    rw [List.isEmpty_iff.1 hk] at hmem
    exact List.not_mem_nil hmem
  · rename_i hc hk
    have hknown : lexicon.contains stem := by simpa using hc
    simp only [contains, Std.ExtTreeMap.contains_insert, Bool.or_eq_true, beq_iff_eq,
      Std.LawfulEqOrd.compare_eq_iff_eq]
    constructor
    · intro h
      refine ⟨h.elim (fun heq ↦ heq ▸ hknown) id, ?_⟩
      rintro rfl
      simpa using hk
    · exact fun h ↦ Or.inr h.1

theorem contains_withMarks {roles : Roles} :
    (lexicon.withMarks roles).contains stem ↔ lexicon.contains stem := by
  simp [contains, withMarks]

/-- The lexicons that come from the empty one by changes. -/
inductive Built : Lexicon → Prop
  | empty : Built .empty
  | add {lexicon : Lexicon} (entry : Entry) : Built lexicon → Built (lexicon.add entry)
  | removeMatching {lexicon : Lexicon} (stem : Text) (p : Entry → Bool) :
      Built lexicon → Built (lexicon.removeMatching stem p).1
  | withMarks {lexicon : Lexicon} (roles : Roles) :
      Built lexicon → Built (lexicon.withMarks roles)

theorem Built.stem_eq (h : lexicon.Built) (hentry : entry ∈ lexicon.lookup stem) :
    entry.stem = stem := by
  induction h generalizing entry with
  | empty => simp at hentry
  | add new _ ih =>
      rcases mem_lookup_add.1 hentry with hentry | ⟨hnew, rfl⟩
      · exact ih hentry
      · exact hnew
  | removeMatching other p _ ih => exact ih (mem_of_mem_lookup_removeMatching hentry)
  | withMarks roles _ ih =>
      obtain ⟨original, horiginal, rfl⟩ := mem_lookup_withMarks.1 hentry
      have hstem := ih horiginal
      exact hstem

/-- No stem is kept without entries. -/
theorem Built.contains_iff (h : lexicon.Built) :
    lexicon.contains stem ↔ lexicon.lookup stem ≠ [] := by
  refine ⟨fun hknown ↦ ?_, fun hne ↦ ?_⟩
  · induction h with
    | empty => simp [contains, Lexicon.empty] at hknown
    | add new _ ih =>
        rw [lookup_add]
        rcases contains_add.1 hknown with hnew | hknown
        · simp [hnew]
        · split
          · simp
          · exact ih hknown
    | removeMatching other p _ ih =>
        obtain ⟨hknown, hkept⟩ := contains_removeMatching.1 hknown
        rw [lookup_removeMatching]
        split
        · rename_i heq
          obtain ⟨entry, hentry, hp⟩ := hkept heq
          exact List.ne_nil_of_mem (List.mem_filter.2 ⟨hentry, by simp [hp]⟩)
        · exact ih hknown
    | withMarks roles _ ih =>
        rw [lookup_withMarks]
        simpa using ih (contains_withMarks.1 hknown)
  · obtain ⟨entry, hentry⟩ := List.exists_mem_of_ne_nil _ hne
    exact contains_of_mem_lookup hentry

/-- The marks of every entry are those that its flags give. -/
def Marked (roles : Roles) (lexicon : Lexicon) : Prop :=
  ∀ stem, ∀ entry ∈ lexicon.lookup stem, entry.marks = roles.marks entry.flags

variable {roles : Roles}

theorem Marked.add (h : lexicon.Marked roles) (hentry : entry.marks = roles.marks entry.flags) :
    (lexicon.add entry).Marked roles := by
  intro stem other hother
  rcases mem_lookup_add.1 hother with hother | ⟨-, rfl⟩
  · exact h stem other hother
  · exact hentry

theorem Marked.removeMatching (h : lexicon.Marked roles) (stem : Text) (p : Entry → Bool) :
    (lexicon.removeMatching stem p).1.Marked roles :=
  fun other entry hentry ↦ h other entry (mem_of_mem_lookup_removeMatching hentry)

theorem marked_withMarks (roles : Roles) (lexicon : Lexicon) :
    (lexicon.withMarks roles).Marked roles := by
  intro stem entry hentry
  obtain ⟨original, -, rfl⟩ := mem_lookup_withMarks.1 hentry
  rfl

end Lexicon
end Orthography
