import Orthography.Proofs.Settings.LineNumbers
import Orthography.Proofs.Settings.ValueReaders

/-!
# Comments in the place of a value

A line can go on with a comment right behind its keyword.  Whether the keyword takes the comment for
its value is settled by what it takes: one word, two words, all that is left of the line, or a flag
with its fields.  Numbers and the patterns of compounds do not begin as a comment does.
-/

namespace Orthography

open Directive Text

/-- A member of one list has a partner in the other. -/
theorem exists_of_forall₂ {α β : Type} {R : α → β → Prop} {as : List α} {bs : List β}
    (h : List.Forall₂ R as bs) {a : α} (ha : a ∈ as) : ∃ b ∈ bs, R a b := by
  induction h with
  | nil => cases ha
  | cons hfirst _ ih =>
      rcases List.mem_cons.1 ha with rfl | ha
      · exact ⟨_, List.mem_cons_self, hfirst⟩
      · obtain ⟨b, hb, hab⟩ := ih ha
        exact ⟨b, List.mem_cons_of_mem _ hb, hab⟩

/-- What a keyword takes for its value. -/
inductive ValueForm where
  | word
  | pair
  | number
  | pattern
  | remainder
  | affix (kind : AffixKind)

/-- The keywords that take a value, with what they take. -/
def valueForms : List (Text × ValueForm) :=
  [("SET".toList, .word),
   ("FLAG".toList, .word),
   ("LANG".toList, .word),
   ("KEY".toList, .word),
   ("TRY".toList, .word),
   ("IGNORE".toList, .word),
   ("COMPOUNDMIN".toList, .number),
   ("COMPOUNDWORDMAX".toList, .number),
   ("ICONV".toList, .pair),
   ("OCONV".toList, .pair),
   ("REP".toList, .pair),
   ("CHECKCOMPOUNDPATTERN".toList, .pattern),
   ("COMPOUNDRULE".toList, .word),
   ("MAP".toList, .word),
   ("BREAK".toList, .word),
   ("AF".toList, .word),
   ("AM".toList, .remainder),
   ("PFX".toList, .affix .pre),
   ("SFX".toList, .affix .suf)] ++
  roleKeywords.map fun entry ↦ (entry.1, .word)

/-- Whether a text that begins with a gap and then a comment is a value of this form. -/
def ValueForm.Takes (l : Loading) : ValueForm → Text → Prop
  | word, text => ∃ one, AreWords [one] text
  | pair, text => ∃ first second, AreWords [first, second] text
  | number, _ | pattern, _ => False
  | remainder, text => '\r' ∉ text
  | affix kind, text => ∃ flag fields, AreWords (flag :: fields) text ∧
      (∀ field ∈ fields, field.head? ≠ some '#') ∧ l.HasEnoughFields kind flag fields

namespace Loading

variable {l : Loading} {text behind line : Text}

/-- The keyword of a line takes the comment behind it for its value. -/
def TakesComment (l : Loading) (line : Text) : Prop :=
  ∃ keyword form text, (keyword, form) ∈ valueForms ∧ line = keyword ++ text ∧
    text.head?.any isGap ∧ (trimStart text).head? = some '#' ∧ form.Takes l text

/-- A reader reads a text to its end, and what it reads is in form. -/
def Accepts (l : Loading) (read : Text → Reading Directive) (text : Text) : Prop :=
  ∃ directive rest, read text = .ok (directive, rest) ∧ isEnd rest ∧
    ∀ fault, l.apply directive ≠ .error (.malformedLine 0 fault)

theorem accepts_reading_iff {α : Type} {make : α → Directive} {read : Text → Reading α}
    (hmake : ∀ a, (make a).isComplete) :
    l.Accepts (reading make read) text ↔ ∃ a rest, read text = .ok (a, rest) ∧ isEnd rest := by
  constructor
  · rintro ⟨directive, rest, hread, hrest, -⟩
    obtain ⟨a, behind, ha, hmade⟩ := Reading.exists_of_bind_eq_ok hread
    cases hmade
    exact ⟨a, rest, ha, hrest⟩
  · rintro ⟨a, rest, ha, hrest⟩
    refine ⟨make a, rest, ?_, hrest, (keepsForm_apply l (hmake a)).ne_malformedLine 0⟩
    rw [reading, ha]
    rfl

end Loading

namespace ValueForm

open Loading

variable {l : Loading} {text behind : Text} {form : ValueForm}

/-- Where a gap and perhaps a comment is all that a text has, a reader accepts what is of the form,
and nothing else. -/
def IsReadBy (form : ValueForm) (read : Text → Reading Directive) : Prop :=
  ∀ l text behind, afterGap? text = some behind → endsSoon text →
    (Loading.Accepts l read behind ↔ (trimStart text).head? = some '#' ∧ form.Takes l text)

theorem trimStart_of_afterGap? (h : afterGap? text = some behind) :
    trimStart text = trimStart behind := by
  obtain ⟨gap, rfl, -, hgap, -⟩ := afterGap?_eq_some_iff.1 h
  exact List.dropWhile_append_of_pos fun c hc ↦ isBlank_of_isGap (hgap c hc)

theorem endsSoon_of_afterGap? (h : afterGap? text = some behind) (hend : endsSoon text) :
    endsSoon behind := by
  rwa [endsSoon, trimStart_of_afterGap? h] at hend

theorem isReadBy_word {make : Text → Directive} (hmake : ∀ text, (make text).isComplete) :
    word.IsReadBy (reading make value) := by
  intro l text behind hgap hend
  rw [accepts_reading_iff hmake]
  simp only [← hasWord_iff_of_afterGap? hgap, Takes, areWords_cons_iff, areWords_nil_iff]
  refine (and_iff_right_of_imp ?_).symm
  rintro ⟨one, rest, hone, -⟩
  rw [hone.head?_trimStart, hone.head?_eq hend]

theorem valuePair_eq_ok_iff {first second rest : Text} :
    valuePair text = .ok ((first, second), rest) ↔
      ∃ behind, value text = .ok (first, behind) ∧ HasWord behind second rest := by
  constructor
  · intro h
    obtain ⟨one, behind, hfirst, h⟩ := Reading.exists_of_bind_eq_ok h
    split at h
    · cases h
    · rename_i more hgap
      obtain ⟨two, tail, hsecond, h⟩ := Reading.exists_of_bind_eq_ok h
      cases h
      exact ⟨behind, hfirst, hasWord_iff.2 ⟨more, hgap, hsecond⟩⟩
  · rintro ⟨behind, hfirst, hword⟩
    obtain ⟨more, hgap, hsecond⟩ := hasWord_iff.1 hword
    simp only [valuePair, hfirst, Reading.bind, hgap, hsecond]

theorem isReadBy_pair {make : Text × Text → Directive} (hmake : ∀ pair, (make pair).isComplete) :
    pair.IsReadBy (reading make valuePair) := by
  intro l text behind hgap hend
  rw [accepts_reading_iff hmake]
  simp only [Prod.exists, valuePair_eq_ok_iff, ← hasWord_iff_of_afterGap? hgap, Takes,
    areWords_cons_iff, areWords_nil_iff]
  constructor
  · rintro ⟨first, second, rest, ⟨more, hfirst, hsecond⟩, hrest⟩
    refine ⟨?_, first, second, more, hfirst, rest, hsecond, hrest⟩
    rw [hfirst.head?_trimStart, hfirst.head?_eq hend]
  · rintro ⟨-, first, second, more, hfirst, rest, hsecond, hrest⟩
    exact ⟨first, second, rest, ⟨more, hfirst, hsecond⟩, hrest⟩

/-- Nothing is accepted where nothing can be read. -/
theorem isReadBy_of_error {read : Text → Reading Directive} (htakes : ∀ l text, ¬ form.Takes l text)
    (hread : ∀ text behind, afterGap? text = some behind → endsSoon text →
      ∃ fault, read behind = .error fault) : form.IsReadBy read := by
  intro l text behind hgap hend
  apply iff_of_false
  · rintro ⟨directive, rest, hok, -⟩
    obtain ⟨fault, herror⟩ := hread text behind hgap hend
    rw [herror] at hok
    cases hok
  · rintro ⟨-, htext⟩
    exact htakes l text htext

theorem isReadBy_number (make : Nat → Directive) (bound : Nat) :
    number.IsReadBy (reading make (Directive.number bound)) := by
  apply isReadBy_of_error fun _ _ ↦ id
  intro text behind hgap hend
  rw [reading, number_eq_error (endsSoon_of_afterGap? hgap hend)]
  exact ⟨_, rfl⟩

theorem isReadBy_pattern : pattern.IsReadBy (reading compoundPattern someFields) := by
  apply isReadBy_of_error fun _ _ ↦ id
  intro text behind hgap hend
  rw [reading, someFields]
  cases hfirst : value behind with
  | error fault => exact ⟨fault, rfl⟩
  | ok found =>
      -- The first field begins the comment, and that is what its reader refuses.
      have hword := (hasWord_iff_of_afterGap? hgap).2 hfirst
      simp only [Reading.bind, if_pos (hword.head?_eq hend)]
      exact ⟨_, rfl⟩

theorem isReadBy_remainder : remainder.IsReadBy (reading morphAlias Directive.remainder) := by
  intro l text behind hgap hend
  rw [accepts_reading_iff fun _ ↦ rfl]
  constructor
  · rintro ⟨all, rest, h, -⟩
    rw [Directive.remainder] at h
    split at h
    · cases h
    rename_i hreturn
    split at h
    · cases h
    rename_i hblank
    refine ⟨?_, fun hmem ↦ hreturn (List.contains_iff_mem.2 (mem_of_afterGap? hgap hmem))⟩
    have hne : trimStart text ≠ [] := by
      rw [trimStart_of_afterGap? hgap, trimStart, Ne, List.dropWhile_eq_nil_iff]
      simpa using hblank
    obtain ⟨c, more, hmore⟩ := List.exists_cons_of_ne_nil hne
    rw [endsSoon, hmore] at hend
    rw [hmore]
    exact congrArg some (beq_iff_eq.1 hend)
  · rintro ⟨hhead, hreturn⟩
    refine ⟨trim behind, [], ?_, rfl⟩
    have hkept : ¬ behind.contains '\r' := by
      intro hmem
      obtain ⟨gap, rfl, -⟩ := afterGap?_eq_some_iff.1 hgap
      exact hreturn (List.mem_append_right _ (List.contains_iff_mem.1 hmem))
    have hsome : ¬ behind.all isBlank := by
      intro hblank
      rw [trimStart_of_afterGap? hgap, trimStart,
        List.dropWhile_eq_nil_iff.2 (List.all_eq_true.1 hblank)] at hhead
      cases hhead
    rw [Directive.remainder, if_neg hkept, if_neg hsome]

theorem isReadBy_affix (kind : AffixKind) : (affix kind).IsReadBy (affixLine kind) := by
  intro l text behind hgap hend
  constructor
  · rintro ⟨directive, rest, hread, hrest, happly⟩
    obtain ⟨flag, more, hflag, hmade⟩ := Reading.exists_of_bind_eq_ok hread
    cases hmade
    have hword := (hasWord_iff_of_afterGap? hgap).2 hflag
    obtain ⟨hwords, hheads⟩ := fields_iff.1 ⟨rfl, hrest⟩
    refine ⟨?_, flag, _, .cons hword hwords, hheads, affixLine_ne_malformedLine_iff.1 happly⟩
    rw [hword.head?_trimStart, hword.head?_eq hend]
  · rintro ⟨-, flag, all, hwords, hheads, henough⟩
    obtain ⟨rest, hflag, hwords⟩ := areWords_cons_iff.1 hwords
    obtain ⟨rfl, hrest⟩ := fields_iff.2 ⟨hwords, hheads⟩
    refine ⟨.affix kind flag (fields rest).1, (fields rest).2, ?_, hrest,
      affixLine_ne_malformedLine_iff.2 henough⟩
    rw [Directive.affixLine, (hasWord_iff_of_afterGap? hgap).1 hflag]
    rfl

theorem IsReadBy.row {read : Text → Reading Directive} (h : form.IsReadBy read) :
    form.IsReadBy (Directive.row read) := by
  intro l text behind hgap hend
  -- A comment is no count, so the line is read as a row.
  have hread : Directive.row read behind = read behind := by
    rw [Directive.row, number_eq_error (endsSoon_of_afterGap? hgap hend)]
  rw [Accepts, hread]
  exact h l text behind hgap hend

/-- Each keyword has the form that its reader reads. -/
theorem forall₂_keywords :
    List.Forall₂ (fun entry named ↦ entry.1 = named.1 ∧ named.2.IsReadBy entry.2)
      keywords valueForms := by
  have hroles : List.Forall₂ (fun entry named ↦ entry.1 = named.1 ∧ named.2.IsReadBy entry.2)
      (roleKeywords.map fun entry ↦ (entry.1, reading (role entry.2) value))
      (roleKeywords.map fun entry ↦ (entry.1, word)) := by
    rw [List.forall₂_map_left_iff, List.forall₂_map_right_iff, List.forall₂_same]
    intro entry _
    exact ⟨rfl, isReadBy_word fun _ ↦ rfl⟩
  refine List.rel_append ?_ hroles
  simp only [List.forall₂_cons, List.forall₂_nil_left_iff, true_and, and_true]
  and_intros
  all_goals first
    | exact isReadBy_word fun _ ↦ rfl
    | exact (isReadBy_word fun _ ↦ rfl).row
    | exact isReadBy_number _ _
    | exact (isReadBy_pair fun _ ↦ rfl).row
    | exact isReadBy_pattern.row
    | exact isReadBy_remainder
    | exact isReadBy_affix _

theorem exists_form_of_mem_keywords {keyword : Text} {read : Text → Reading Directive}
    (h : (keyword, read) ∈ keywords) :
    ∃ form : ValueForm, (keyword, form) ∈ valueForms ∧ form.IsReadBy read := by
  obtain ⟨⟨name, form⟩, hmem, rfl, hform⟩ := exists_of_forall₂ forall₂_keywords h
  exact ⟨form, hmem, hform⟩

theorem exists_reader_of_mem_valueForms {keyword : Text} (h : (keyword, form) ∈ valueForms) :
    ∃ read, (keyword, read) ∈ keywords ∧ form.IsReadBy read := by
  obtain ⟨⟨name, read⟩, hmem, rfl, hread⟩ := exists_of_forall₂ forall₂_keywords.flip h
  exact ⟨read, hmem, hread⟩

end ValueForm

namespace Loading

variable {l : Loading} {keyword text behind line : Text}

theorem isSome_afterGap? (text : Text) : (afterGap? text).isSome = text.head?.any isGap := by
  cases text with
  | nil => rfl
  | cons c text =>
      rw [afterGap?, List.head?_cons, Option.any_some]
      cases isGap c <;> rfl

theorem not_isRefused_iff_accepts {read : Text → Reading Directive}
    (hmem : (keyword, read) ∈ keywords) (hgap : afterGap? text = some behind) :
    ¬ l.IsRefused (keyword ++ text) ↔ l.Accepts read behind := by
  have hbehind : afterKeyword? keyword (keyword ++ text) = some behind :=
    afterKeyword?_iff_afterGap?.2 ⟨text, rfl, hgap⟩
  simp only [not_isRefused_iff, ofLine_eq_ok_iff, ofFront_of_afterKeyword? hmem hbehind]
  constructor
  · rintro ⟨directive, ⟨rest, hread, hend⟩, happly⟩
    exact ⟨directive, rest, hread, hend, happly⟩
  · rintro ⟨directive, rest, hread, hend, happly⟩
    exact ⟨directive, ⟨rest, hread, hend⟩, happly⟩

theorem TakesComment.not_isRefused (h : l.TakesComment line) : ¬ l.IsRefused line := by
  obtain ⟨keyword, form, text, hform, rfl, hgap, hhead, htakes⟩ := h
  rw [← isSome_afterGap?] at hgap
  obtain ⟨behind, hgap⟩ := Option.isSome_iff_exists.1 hgap
  obtain ⟨read, hmem, hread⟩ := ValueForm.exists_reader_of_mem_valueForms hform
  have hend : endsSoon text := by
    obtain ⟨more, hmore⟩ := List.head?_eq_some_iff.1 hhead
    rw [endsSoon, hmore]
    rfl
  rw [not_isRefused_iff_accepts hmem hgap, hread l text behind hgap hend]
  exact ⟨hhead, htakes⟩

theorem takesComment_of_not_isRefused (hname : keyword ∈ keywords.map Prod.fst)
    (hgap : afterGap? text = some behind) (hend : endsSoon text)
    (h : ¬ l.IsRefused (keyword ++ text)) : l.TakesComment (keyword ++ text) := by
  obtain ⟨⟨name, read⟩, hmem, rfl⟩ := List.mem_map.1 hname
  obtain ⟨form, hform, hread⟩ := ValueForm.exists_form_of_mem_keywords hmem
  rw [not_isRefused_iff_accepts hmem hgap, hread l text behind hgap hend] at h
  refine ⟨name, form, text, hform, rfl, ?_, h⟩
  rw [← isSome_afterGap?, hgap]
  rfl

end Loading

end Orthography
