import Orthography.Proofs.Flag.Writing
import Orthography.Proofs.Settings.TableLines

/-!
# What readers leave and what they take

No reader of a value reads a carriage return, so a line that has one cannot be read to its end.
What a reader takes is a word, or several words with gaps between them: as many letters as come
before the next blank.
-/

namespace Orthography
namespace Directive

open Text

/-! ## Stray carriage returns -/

/-- A reader leaves a carriage return in what it does not read. -/
def KeepsReturn {α : Type} (read : Text → Reading α) : Prop :=
  ∀ text a rest, read text = .ok (a, rest) → '\r' ∈ text → '\r' ∈ rest

section KeepsReturn

variable {α β : Type} {text rest line : Text}

theorem mem_dropWhile_of_mem {p : Char → Bool} {c : Char} (h : c ∈ text) (hc : p c = false) :
    c ∈ text.dropWhile p := by
  rw [← List.takeWhile_append_dropWhile (p := p) (l := text), List.mem_append] at h
  apply h.resolve_left
  intro htake
  rw [List.mem_takeWhile_imp htake] at hc
  cases hc

theorem mem_of_afterGap? (h : afterGap? text = some rest) (hreturn : '\r' ∈ text) :
    '\r' ∈ rest := by
  cases text with
  | nil => cases h
  | cons c text =>
      rw [afterGap?] at h
      split at h
      · rename_i hgap
        cases h
        apply mem_dropWhile_of_mem _ rfl
        apply (List.mem_cons.1 hreturn).resolve_left
        rintro rfl
        cases hgap
      · cases h

theorem KeepsReturn.bind {read : Text → Reading α} {more : α → Text → Reading β}
    (hread : KeepsReturn read) (hmore : ∀ a, KeepsReturn (more a)) :
    KeepsReturn fun text ↦ (read text).bind more := by
  intro text b rest h hreturn
  obtain ⟨a, behind, ha, hb⟩ := Reading.exists_of_bind_eq_ok h
  exact hmore a behind b rest hb (hread text a behind ha hreturn)

theorem keepsReturn_ok (f : Text → α) : KeepsReturn fun text ↦ .ok (f text, text) := by
  intro text a rest h hreturn
  cases h
  exact hreturn

theorem keepsReturn_value : KeepsReturn value := by
  intro text a rest h hreturn
  simp only [value] at h
  split at h
  · cases h
  · cases h
    exact mem_dropWhile_of_mem hreturn rfl

theorem keepsReturn_number (bound : Nat) : KeepsReturn (number bound) := by
  intro text n rest h hreturn
  rw [number] at h
  split at h
  · cases h
    exact mem_dropWhile_of_mem hreturn rfl
  · cases h

theorem keepsReturn_valuePair : KeepsReturn valuePair := by
  apply keepsReturn_value.bind
  intro first text pair rest h hreturn
  dsimp only at h
  split at h
  · cases h
  · rename_i behind hgap
    exact (keepsReturn_value.bind fun second ↦ keepsReturn_ok fun _ ↦ (first, second)) behind pair
      rest h (mem_of_afterGap? hgap hreturn)

theorem mem_of_field? {field : Text} (h : field? text = some (field, rest))
    (hreturn : '\r' ∈ text) : '\r' ∈ rest := by
  rw [field?] at h
  split at h
  · cases h
  · rename_i behind hgap
    have hbehind : '\r' ∈ (token behind).2 :=
      mem_dropWhile_of_mem (mem_of_afterGap? hgap hreturn) rfl
    split at h
    · cases h
    · rename_i c more tail htoken
      rw [htoken] at hbehind
      split at h
      · cases h
      · cases h
        exact hbehind

theorem fields_of_none (h : field? text = none) : fields text = ([], text) := by
  unfold fields
  split
  · rfl
  · rename_i hsome
    rw [h] at hsome
    cases hsome

theorem fields_of_some {field : Text} (h : field? text = some (field, rest)) :
    fields text = (field :: (fields rest).1, (fields rest).2) := by
  rw [fields]
  split
  · rename_i hnone
    rw [h] at hnone
    cases hnone
  · rename_i other behind hsome
    rw [h] at hsome
    cases hsome
    rfl

theorem mem_fields (hreturn : '\r' ∈ text) : '\r' ∈ (fields text).2 := by
  induction text using fields.induct with
  | case1 text hnone =>
      rw [fields_of_none hnone]
      exact hreturn
  | case2 text field rest hfield _ more tail hmore ih =>
      rw [fields_of_some hfield]
      exact ih (mem_of_field? hfield hreturn)

theorem keepsReturn_someFields : KeepsReturn someFields := by
  intro text all rest h hreturn
  obtain ⟨first, behind, hfirst, h⟩ := Reading.exists_of_bind_eq_ok h
  split at h
  · cases h
  · cases h
    exact mem_fields (keepsReturn_value text first behind hfirst hreturn)

theorem keepsReturn_remainder : KeepsReturn remainder := by
  intro text a rest h hreturn
  rw [remainder, if_pos (List.contains_iff_mem.2 hreturn)] at h
  cases h

theorem KeepsReturn.reading {read : Text → Reading α} (h : KeepsReturn read)
    (make : α → Directive) : KeepsReturn (reading make read) :=
  h.bind fun a ↦ keepsReturn_ok fun _ ↦ make a

theorem KeepsReturn.row {read : Text → Reading Directive} (h : KeepsReturn read) :
    KeepsReturn (row read) := by
  intro text directive rest hrow hreturn
  rw [Directive.row] at hrow
  split at hrow
  · rename_i n behind hnumber
    split at hrow
    · cases hrow
      exact keepsReturn_number _ text n rest hnumber hreturn
    · exact h text directive rest hrow hreturn
  · exact h text directive rest hrow hreturn

theorem keepsReturn_affixLine (kind : AffixKind) : KeepsReturn (affixLine kind) := by
  apply keepsReturn_value.bind
  intro flag text directive rest h hreturn
  cases h
  exact mem_fields hreturn

theorem keepsReturn_of_mem_keywords {keyword : Text} {read : Text → Reading Directive}
    (h : (keyword, read) ∈ keywords) : KeepsReturn read := by
  have hall : ∀ entry ∈ keywords, KeepsReturn entry.2 := by
    rw [keywords, List.forall_mem_append]
    constructor
    · simp only [List.forall_mem_cons, List.not_mem_nil, IsEmpty.forall_iff, implies_true, and_true]
      and_intros <;> first
        | exact keepsReturn_value.reading _
        | exact (keepsReturn_number _).reading _
        | exact keepsReturn_remainder.reading _
        | exact (keepsReturn_valuePair.reading _).row
        | exact (keepsReturn_someFields.reading _).row
        | exact (keepsReturn_value.reading _).row
        | exact keepsReturn_affixLine _
    · rw [List.forall_mem_map]
      exact fun _ _ ↦ keepsReturn_value.reading _
  exact hall _ h

end KeepsReturn

/-! ## Counts and comments -/

theorem endsSoon_cons {c : Char} {text : Text} (hc : isBlank c = false) :
    endsSoon (c :: text) ↔ c = '#' := by
  rw [endsSoon, trimStart, List.dropWhile_cons_of_neg (by simp [hc])]
  exact beq_iff_eq

theorem number_eq_error {text : Text} (hend : endsSoon text) (bound : Nat) :
    number bound text = .error (.unreadable .number text) := by
  have hdigits : text.takeWhile Char.isDigit = [] := by
    cases text with
    | nil => rfl
    | cons c text =>
        apply List.takeWhile_cons_of_neg
        intro hdigit
        have hc := not_isBlank_of_isDigit hdigit
        rw [(endsSoon_cons hc).1 hend] at hdigit
        cases hdigit
  rw [number, hdigits]
  rfl

/-! ## Words -/

/-- A text has a gap, then a word, and the rest begins with a blank unless it is empty. -/
structure HasWord (text word rest : Text) : Prop where
  behindGap : ∃ gap, text = gap ++ (word ++ rest) ∧ gap ≠ [] ∧ ∀ c ∈ gap, isGap c
  ne_nil : word ≠ []
  unbroken : ∀ c ∈ word, isBlank c = false
  ends : ∀ c ∈ rest.head?, isBlank c

/-- Some words, each behind a gap, are all that a text has, unless a comment follows. -/
inductive AreWords : List Text → Text → Prop where
  | nil {rest : Text} (ends : isEnd rest) : AreWords [] rest
  | cons {text word rest : Text} {words : List Text} (first : HasWord text word rest)
      (more : AreWords words rest) : AreWords (word :: words) text

section Words

variable {text word rest behind : Text} {words : List Text}

theorem takeWhile_dropWhile_iff {p : Char → Bool} :
    text.takeWhile p = word ∧ text.dropWhile p = rest ↔
      text = word ++ rest ∧ (∀ c ∈ word, p c) ∧ ∀ c ∈ rest.head?, p c = false := by
  constructor
  · rintro ⟨rfl, rfl⟩
    refine ⟨List.takeWhile_append_dropWhile.symm, fun _ ↦ List.mem_takeWhile_imp, ?_⟩
    intro c hc
    have hnot := List.head?_dropWhile_not p text
    rw [hc] at hnot
    exact hnot
  · rintro ⟨rfl, hword, hrest⟩
    rw [List.takeWhile_append_of_pos hword, List.dropWhile_append_of_pos hword]
    cases rest with
    | nil => exact ⟨List.append_nil word, rfl⟩
    | cons c rest =>
        have hc : ¬ p c := by
          rw [hrest c rfl]
          exact Bool.false_ne_true
        rw [List.takeWhile_cons_of_neg hc, List.dropWhile_cons_of_neg hc]
        exact ⟨List.append_nil word, rfl⟩

theorem token_eq_iff :
    token text = (word, rest) ↔ text = word ++ rest ∧ (∀ c ∈ word, isBlank c = false) ∧
      ∀ c ∈ rest.head?, isBlank c := by
  rw [token, Prod.mk.injEq, takeWhile_dropWhile_iff]
  simp only [Bool.not_eq_true', Bool.not_eq_false']

/-- A gap is as long as it can be. -/
theorem afterGap?_eq_some_iff :
    afterGap? text = some behind ↔ ∃ gap, text = gap ++ behind ∧ gap ≠ [] ∧
      (∀ c ∈ gap, isGap c) ∧ ∀ c ∈ behind.head?, isGap c = false := by
  cases text with
  | nil => simp [afterGap?]
  | cons d text =>
      rw [afterGap?]
      split
      · rename_i hd
        rw [Option.some.injEq, ← List.dropWhile_cons_of_pos hd]
        constructor
        · intro hdrop
          obtain ⟨htext, hgap, hbehind⟩ := takeWhile_dropWhile_iff.1 ⟨rfl, hdrop⟩
          rw [List.takeWhile_cons_of_pos hd] at htext hgap
          exact ⟨_, htext, List.cons_ne_nil _ _, hgap, hbehind⟩
        · rintro ⟨gap, htext, -, hgap, hbehind⟩
          exact (takeWhile_dropWhile_iff.2 ⟨htext, hgap, hbehind⟩).2
      · rename_i hd
        apply iff_of_false
        · intro h
          cases h
        · rintro ⟨gap, htext, hne, hgap, -⟩
          cases gap with
          | nil => exact hne rfl
          | cons c gap =>
              obtain ⟨rfl, -⟩ := List.cons.inj htext
              exact hd (hgap d List.mem_cons_self)

theorem isGap_eq_false {c : Char} (hc : isBlank c = false) : isGap c = false := by
  rw [← Bool.not_eq_true]
  intro hgap
  rw [isBlank_of_isGap hgap] at hc
  cases hc

/-- A word behind a gap is a value behind the gap. -/
theorem hasWord_iff :
    HasWord text word rest ↔
      ∃ behind, afterGap? text = some behind ∧ value behind = .ok (word, rest) := by
  simp only [value_eq_ok_iff, token_eq_iff, afterGap?_eq_some_iff]
  constructor
  · rintro ⟨⟨gap, htext, hgap, hgaps⟩, hne, hword, hrest⟩
    refine ⟨word ++ rest, ⟨gap, htext, hgap, hgaps, ?_⟩, ⟨rfl, hword, hrest⟩, hne⟩
    intro c hc
    rw [List.head?_append_of_ne_nil _ hne] at hc
    exact isGap_eq_false (hword c (List.mem_of_head? hc))
  · rintro ⟨behind, ⟨gap, htext, hgap, hgaps, -⟩, ⟨rfl, hword, hrest⟩, hne⟩
    exact ⟨⟨gap, htext, hgap, hgaps⟩, hne, hword, hrest⟩

theorem hasWord_iff_of_afterGap? (hgap : afterGap? text = some behind) :
    HasWord text word rest ↔ value behind = .ok (word, rest) := by
  rw [hasWord_iff, hgap]
  simp only [Option.some.injEq, exists_eq_left']

theorem field?_eq_some_iff :
    field? text = some (word, rest) ↔ HasWord text word rest ∧ word.head? ≠ some '#' := by
  rw [field?, hasWord_iff]
  cases afterGap? text with
  | none => simp
  | some behind =>
      simp only [Option.some.injEq, exists_eq_left', value_eq_ok_iff]
      split
      · rename_i htoken
        rw [htoken]
        apply iff_of_false
        · intro h
          cases h
        · rintro ⟨⟨hword, hne⟩, -⟩
          exact hne (Prod.mk.inj hword).1.symm
      · rename_i c field more htoken
        rw [htoken]
        split
        · rename_i hc
          apply iff_of_false
          · intro h
            cases h
          · rintro ⟨⟨hword, -⟩, hhead⟩
            rw [← (Prod.mk.inj hword).1, hc] at hhead
            exact hhead rfl
        · rename_i hc
          rw [Option.some.injEq]
          constructor
          · intro h
            obtain ⟨rfl, rfl⟩ := Prod.mk.inj h
            exact ⟨⟨h, List.cons_ne_nil c field⟩, fun hhead ↦ hc (Option.some.inj hhead)⟩
          · exact fun h ↦ h.1.1

theorem areWords_nil_iff : AreWords [] text ↔ isEnd text := by
  constructor
  · intro h
    cases h with
    | nil hend => exact hend
  · exact .nil

theorem areWords_cons_iff :
    AreWords (word :: words) text ↔ ∃ rest, HasWord text word rest ∧ AreWords words rest := by
  constructor
  · intro h
    cases h with
    | cons first more => exact ⟨_, first, more⟩
  · rintro ⟨rest, first, more⟩
    exact .cons first more

theorem HasWord.trimStart_eq (h : HasWord text word rest) : trimStart text = word ++ rest := by
  obtain ⟨⟨gap, rfl, -, hgap⟩, hne, hword, -⟩ := h
  rw [trimStart, List.dropWhile_append_of_pos fun c hc ↦ isBlank_of_isGap (hgap c hc)]
  obtain ⟨c, more, rfl⟩ := List.exists_cons_of_ne_nil hne
  rw [List.cons_append, List.dropWhile_cons_of_neg]
  rw [hword c List.mem_cons_self]
  exact Bool.false_ne_true

theorem HasWord.head?_trimStart (h : HasWord text word rest) :
    (trimStart text).head? = word.head? := by
  rw [h.trimStart_eq, List.head?_append_of_ne_nil _ h.ne_nil]

/-- A word that stands where nothing but a comment follows is the beginning of the comment. -/
theorem HasWord.head?_eq (h : HasWord text word rest) (hend : endsSoon text) :
    word.head? = some '#' := by
  obtain ⟨c, more, rfl⟩ := List.exists_cons_of_ne_nil h.ne_nil
  rw [endsSoon, h.trimStart_eq] at hend
  exact congrArg some (beq_iff_eq.1 hend)

theorem HasWord.not_isEnd (h : HasWord text word rest) (hhead : word.head? ≠ some '#') :
    ¬ isEnd text := by
  intro hend
  exact hhead (h.head?_eq (endsSoon_of_isEnd hend))

/-- The fields are words, but none of them begins a comment. -/
theorem fields_iff :
    (fields text).1 = words ∧ isEnd (fields text).2 ↔
      AreWords words text ∧ ∀ word ∈ words, word.head? ≠ some '#' := by
  induction text using fields.induct generalizing words with
  | case1 text hnone =>
      rw [fields_of_none hnone]
      cases words with
      | nil => simp [areWords_nil_iff]
      | cons word words =>
          apply iff_of_false
          · simp
          · rintro ⟨hwords, hheads⟩
            obtain ⟨rest, hword, -⟩ := areWords_cons_iff.1 hwords
            have hfield := field?_eq_some_iff.2 ⟨hword, hheads word List.mem_cons_self⟩
            rw [hnone] at hfield
            cases hfield
  | case2 text field rest hfield _ more tail hmore ih =>
      have hword := field?_eq_some_iff.1 hfield
      rw [fields_of_some hfield]
      cases words with
      | nil => simp [areWords_nil_iff, hword.1.not_isEnd hword.2]
      | cons word words =>
          rw [List.cons.injEq, and_assoc, ih, areWords_cons_iff, List.forall_mem_cons]
          constructor
          · rintro ⟨rfl, hwords, hheads⟩
            exact ⟨⟨rest, hword.1, hwords⟩, hword.2, hheads⟩
          · rintro ⟨⟨behind, hfirst, hwords⟩, hhead, hheads⟩
            have hsame := field?_eq_some_iff.2 ⟨hfirst, hhead⟩
            rw [hfield] at hsame
            cases hsame
            exact ⟨rfl, hwords, hheads⟩

end Words

end Directive
end Orthography
