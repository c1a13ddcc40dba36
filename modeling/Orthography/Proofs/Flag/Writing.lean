import Mathlib.Data.List.Forall2
import Orthography.Flag.Set
import Orthography.Proofs.Text.Tokens

/-!
# Written flags

Flags below 65536 can be written by pairs of characters or by numerals, and either way is read back
as the flags that were written.  Each of the two ways has its own texts that cannot be read.
-/

namespace Orthography

/-! ## Results for each member of a list -/

section Results

variable {α β ε : Type} {f : α → Except ε β} {l : List α} {results : List β}

theorem mapM_of_forall₂ (h : List.Forall₂ (f · = .ok ·) l results) : l.mapM f = .ok results := by
  induction h with
  | nil => rfl
  | cons hresult _ ih =>
      rw [List.mapM_cons, hresult, ih]
      rfl

theorem exists_mapM_eq_error_iff :
    (∃ e, l.mapM f = .error e) ↔ ∃ a ∈ l, ∃ e, f a = .error e := by
  induction l with
  | nil => simp [pure, Except.pure]
  | cons a l ih =>
      simp only [List.mem_cons, exists_eq_or_imp, ← ih]
      rw [List.mapM_cons]
      cases f a with
      | error e => simp [bind, Except.bind]
      | ok b => cases l.mapM f <;> simp [bind, Except.bind, pure, Except.pure]

end Results

namespace Text

/-! ## Bytes and digits -/

variable {text : Text} {n : Nat}

theorem toNat_ofNat_of_lt (h : n < 256) : (Char.ofNat n).toNat = n := by
  have hvalid : n.isValidChar := Or.inl (by omega)
  rw [Char.ofNat, dif_pos hvalid]
  rfl

theorem not_isBlank_of_isDigit {c : Char} (h : c.isDigit) : isBlank c = false := by
  have hdigits : ∀ n ∈ List.range' 48 10, inStrides blankTable n = false := by decide
  rw [Char.isDigit_iff_toNat] at h
  exact hdigits c.toNat (List.mem_range'_1.2 ⟨h.1, Nat.lt_succ_of_le h.2⟩)

theorem decimal?_eq_some_iff : decimal? text = some n ↔
    text ≠ [] ∧ (∀ c ∈ text, c.isDigit) ∧ Nat.ofDigitChars 10 text 0 = n := by
  have hvalue : digitsValue text = Nat.ofDigitChars 10 text 0 := Nat.ofDigitChars_eq_foldl.symm
  rw [decimal?, hvalue, Option.ite_none_right_eq_some, Bool.and_eq_true, Bool.not_eq_true',
    List.isEmpty_eq_false_iff, List.all_eq_true, and_assoc, Option.some.injEq]

end Text

namespace FlagMode

open Text

variable {flag : Flag} {flags : List Flag} {text piece : Text} {numerals : List Text}

/-! ## Pairs of characters -/

/-- The quotient and the remainder of a flag by 256, each as a character. -/
def writeLong (flag : Flag) : Text := [Char.ofNat (flag / 256), Char.ofNat (flag % 256)]

theorem toNat_of_mem_writeLong {n : Nat} {c : Char} (h : n < 65536) (hc : c ∈ writeLong n) :
    c.toNat ≤ 255 := by
  rcases List.mem_cons.1 hc with rfl | hc
  · rw [toNat_ofNat_of_lt (by omega)]
    omega
  · rw [List.mem_singleton.1 hc, toNat_ofNat_of_lt (by omega)]
    omega

theorem pairUp_writeLong_append {n : Nat} (h : n < 65536) :
    pairUp (writeLong n ++ text) = n :: pairUp text := by
  rw [writeLong, List.cons_append, List.cons_append, List.nil_append, pairUp,
    toNat_ofNat_of_lt (by omega), toNat_ofNat_of_lt (by omega), Nat.div_add_mod']

theorem pairUp_flatMap_writeLong (h : ∀ flag ∈ flags, flag < 65536) :
    pairUp (flags.flatMap writeLong) = flags := by
  induction flags with
  | nil => rfl
  | cons flag flags ih =>
      rw [List.forall_mem_cons] at h
      rw [List.flatMap_cons, pairUp_writeLong_append h.1, ih h.2]

theorem all_narrow_iff :
    (text.all fun c ↦ c.toNat ≤ 255) ↔ ¬∃ c ∈ text, 255 < c.toNat := by
  simp

theorem readLong_flatMap_writeLong (h : ∀ flag ∈ flags, flag < 65536) :
    readLong (flags.flatMap writeLong) = .ok flags := by
  have hlength : (flags.flatMap writeLong).length = flags.length * 2 := by
    simp [List.length_flatMap, writeLong]
  have hnarrow : ¬∃ c ∈ flags.flatMap writeLong, 255 < c.toNat := by
    rintro ⟨c, hc, hwide⟩
    obtain ⟨flag, hflag, hc⟩ := List.mem_flatMap.1 hc
    exact Nat.not_lt.2 (toNat_of_mem_writeLong (h flag hflag) hc) hwide
  rw [readLong, if_neg (by omega), if_pos (all_narrow_iff.2 hnarrow), pairUp_flatMap_writeLong h]

theorem exists_readLong_eq_error_iff :
    (∃ fault, readLong text = .error fault) ↔ text.length % 2 = 1 ∨ ∃ c ∈ text, 255 < c.toNat := by
  rw [readLong]
  by_cases hodd : text.length % 2 = 1
  · rw [if_pos hodd]
    exact iff_of_true ⟨_, rfl⟩ (Or.inl hodd)
  · rw [if_neg hodd, or_iff_right hodd]
    by_cases hwide : ∃ c ∈ text, 255 < c.toNat
    · rw [if_neg (all_narrow_iff.not.2 (not_not.2 hwide))]
      exact iff_of_true ⟨_, rfl⟩ hwide
    · rw [if_pos (all_narrow_iff.2 hwide)]
      exact iff_of_false (by simp) hwide

/-! ## Numerals -/

/-- The digits of a flag behind any number of zeros. -/
def IsNumeralOf (flag : Flag) (text : Text) : Prop :=
  ∃ zeros, text = List.replicate zeros '0' ++ Nat.toDigits 10 flag

/-- Digits that stand for a number below 65536. -/
structure IsNumeral (text : Text) : Prop where
  ne_nil : text ≠ []
  digits : ∀ c ∈ text, c.isDigit
  lt : Nat.ofDigitChars 10 text 0 < 65536

theorem readNumeral_eq_ok_iff : readNumeral piece = .ok flag ↔
    IsNumeral (trim piece) ∧ Nat.ofDigitChars 10 (trim piece) 0 = flag := by
  rw [readNumeral]
  cases hdecimal : decimal? (trim piece) with
  | none =>
      refine iff_of_false (by simp) ?_
      rintro ⟨⟨hne, hdigits, -⟩, -⟩
      rw [decimal?_eq_some_iff.2 ⟨hne, hdigits, rfl⟩] at hdecimal
      cases hdecimal
  | some n =>
      obtain ⟨hne, hdigits, rfl⟩ := decimal?_eq_some_iff.1 hdecimal
      by_cases hlt : Nat.ofDigitChars 10 (trim piece) 0 < 65536
      · simp [hlt, IsNumeral.mk hne hdigits hlt]
      · refine iff_of_false (by simp [hlt]) ?_
        rintro ⟨hnumeral, -⟩
        exact hlt hnumeral.lt

theorem exists_readNumeral_eq_error_iff :
    (∃ fault, readNumeral piece = .error fault) ↔ ¬IsNumeral (trim piece) := by
  cases hread : readNumeral piece with
  | error fault =>
      refine iff_of_true ⟨fault, rfl⟩ fun hnumeral ↦ ?_
      rw [readNumeral_eq_ok_iff.2 ⟨hnumeral, rfl⟩] at hread
      cases hread
  | ok flag => exact iff_of_false (by simp) (not_not.2 (readNumeral_eq_ok_iff.1 hread).1)

/-- Zeros before the digits change neither what they are nor their value. -/
theorem IsNumeralOf.digits (h : IsNumeralOf flag text) : ∀ c ∈ text, c.isDigit := by
  obtain ⟨zeros, rfl⟩ := h
  intro c hc
  rcases List.mem_append.1 hc with hc | hc
  · rw [List.eq_of_mem_replicate hc]
    rfl
  · exact Nat.isDigit_of_mem_toDigits (by decide) (by decide) hc

theorem IsNumeralOf.value (h : IsNumeralOf flag text) : Nat.ofDigitChars 10 text 0 = flag := by
  obtain ⟨zeros, rfl⟩ := h
  rw [Nat.ofDigitChars_append, Nat.ofDigitChars_replicate_zero, Nat.mul_zero,
    Nat.ofDigitChars_ten_toDigits]

theorem IsNumeralOf.ne_nil (h : IsNumeralOf flag text) : text ≠ [] := by
  obtain ⟨zeros, rfl⟩ := h
  exact List.append_ne_nil_of_right_ne_nil _ Nat.toDigits_ne_nil

theorem IsNumeralOf.trim_eq (h : IsNumeralOf flag text) : trim text = text :=
  (isTidy_of_forall_not_isBlank h.ne_nil fun c hc ↦ not_isBlank_of_isDigit (h.digits c hc)).trim_eq

theorem IsNumeralOf.readNumeral_eq (h : IsNumeralOf flag text) (hflag : flag < 65536) :
    readNumeral text = .ok flag := by
  rw [readNumeral_eq_ok_iff, h.trim_eq]
  exact ⟨⟨h.ne_nil, h.digits, by rwa [h.value]⟩, h.value⟩

theorem IsNumeralOf.comma_not_mem (h : IsNumeralOf flag text) : ',' ∉ text :=
  fun hmem ↦ Bool.false_ne_true (h.digits ',' hmem)

theorem ne_nil_and_comma_not_mem (h : List.Forall₂ IsNumeralOf flags numerals) :
    ∀ numeral ∈ numerals, numeral ≠ [] ∧ ',' ∉ numeral := by
  induction h with
  | nil => exact List.forall_mem_nil _
  | cons hnumeral _ ih =>
      exact List.forall_mem_cons.2 ⟨⟨hnumeral.ne_nil, hnumeral.comma_not_mem⟩, ih⟩

theorem readNum_intercalate (h : ∀ flag ∈ flags, flag < 65536)
    (hnumerals : List.Forall₂ IsNumeralOf flags numerals) :
    readNum (List.intercalate [','] numerals) = .ok flags := by
  rw [readNum]
  -- The empty text has one empty piece, but is read as no flags at all.
  by_cases hnil : numerals = []
  · rw [hnil, List.forall₂_nil_right_iff] at hnumerals
    rw [hnil, hnumerals]
    rfl
  · have hpieces := ne_nil_and_comma_not_mem hnumerals
    have hne : List.intercalate [','] numerals ≠ [] :=
      intercalate_ne_nil hnil fun numeral hnumeral ↦ (hpieces numeral hnumeral).1
    have hsplit : splitOn ',' (List.intercalate [','] numerals) = numerals :=
      (splitOn_eq_iff hnil).2 ⟨rfl, fun numeral hnumeral ↦ (hpieces numeral hnumeral).2⟩
    have hread : List.Forall₂ (readNumeral · = .ok ·) numerals flags :=
      (((List.forall₂_and_left flags numerals).2 ⟨h, hnumerals⟩).imp
        fun flag numeral hboth ↦ hboth.2.readNumeral_eq hboth.1).flip
    rw [if_neg (by simpa using hne), hsplit, mapM_of_forall₂ hread]

theorem exists_readNum_eq_error_iff :
    (∃ fault, readNum text = .error fault) ↔
      text ≠ [] ∧ ∃ pieces, text = List.intercalate [','] pieces ∧
        (∀ piece ∈ pieces, ',' ∉ piece) ∧ ∃ piece ∈ pieces, ¬IsNumeral (trim piece) := by
  rw [readNum]
  by_cases hempty : text = []
  · subst hempty
    exact iff_of_false (by simp) fun h ↦ h.1 rfl
  · rw [if_neg (by simpa using hempty), exists_mapM_eq_error_iff, and_iff_right hempty]
    simp only [exists_readNumeral_eq_error_iff]
    constructor
    · intro h
      exact ⟨splitOn ',' text, ((splitOn_eq_iff (splitOn_ne_nil ',' text)).1 rfl).1,
        fun piece ↦ not_mem_of_mem_splitOn, h⟩
    · rintro ⟨pieces, htext, hnot, piece, hpiece, hbad⟩
      refine ⟨piece, ?_, hbad⟩
      rwa [(splitOn_eq_iff (List.ne_nil_of_mem hpiece)).2 ⟨htext, hnot⟩]

/-! ## The two ways together -/

theorem exists_parse_eq_error_iff {mode : FlagMode} :
    (∃ problem, mode.parse text = .error problem) ↔ ∃ fault, mode.read text = .error fault := by
  rw [parse]
  cases mode.read text <;> simp [Except.mapError]

theorem parse_eq_ok_iff {mode : FlagMode} :
    mode.parse text = .ok flags ↔ mode.read text = .ok flags := by
  rw [parse]
  cases mode.read text <;> simp [Except.mapError]

/-- Flags below 65536 are read back from pairs of characters and from numerals alike, and give the
same set.  Pairs cannot be read exactly if a character is left over or is no byte, numerals exactly
if some piece between commas is no numeral. -/
theorem parse_written :
    (∀ (flags : List Flag) (numerals : List Text), (∀ flag ∈ flags, flag < 65536) →
      List.Forall₂ IsNumeralOf flags numerals →
      long.parse (flags.flatMap writeLong) = .ok flags ∧
      num.parse (List.intercalate [','] numerals) = .ok flags ∧
      FlagSet.parse long (flags.flatMap writeLong) =
        FlagSet.parse num (List.intercalate [','] numerals)) ∧
    ∀ text : Text,
      ((∃ problem, long.parse text = .error problem) ↔
        text.length % 2 = 1 ∨ ∃ c ∈ text, 255 < c.toNat) ∧
      ((∃ problem, num.parse text = .error problem) ↔
        text ≠ [] ∧ ∃ pieces, text = List.intercalate [','] pieces ∧
          (∀ piece ∈ pieces, ',' ∉ piece) ∧ ∃ piece ∈ pieces, ¬IsNumeral (trim piece)) := by
  refine ⟨?_, ?_⟩
  · intro flags numerals hflags hnumerals
    have hlong : long.parse (flags.flatMap writeLong) = .ok flags :=
      parse_eq_ok_iff.2 (readLong_flatMap_writeLong hflags)
    have hnum : num.parse (List.intercalate [','] numerals) = .ok flags :=
      parse_eq_ok_iff.2 (readNum_intercalate hflags hnumerals)
    exact ⟨hlong, hnum, by rw [FlagSet.parse, FlagSet.parse, hlong, hnum]⟩
  · intro text
    rw [exists_parse_eq_error_iff, exists_parse_eq_error_iff]
    exact ⟨exists_readLong_eq_error_iff, exists_readNum_eq_error_iff⟩

theorem parse_written_seven :
    (∀ flag ∈ [24930, 7], flag < 65536) ∧
      List.Forall₂ IsNumeralOf [24930, 7] ["24930".toList, "007".toList] ∧
      long.parse ['a', 'b', Char.ofNat 0, Char.ofNat 7] = .ok [24930, 7] ∧
      num.parse "24930,007".toList = .ok [24930, 7] ∧
      FlagSet.parse long ['a', 'b', Char.ofNat 0, Char.ofNat 7] =
        FlagSet.parse num "24930,007".toList ∧
      ∃ problem, num.parse "1,,2".toList = .error problem := by
  have hflags : ∀ flag ∈ [24930, 7], flag < 65536 := by decide
  have hnumerals : List.Forall₂ IsNumeralOf [24930, 7] ["24930".toList, "007".toList] :=
    .cons ⟨0, by decide⟩ (.cons ⟨2, by decide⟩ .nil)
  obtain ⟨hlong, hnum, hset⟩ := parse_written.1 _ _ hflags hnumerals
  have hgap : ∃ problem, num.parse "1,,2".toList = .error problem :=
    (parse_written.2 "1,,2".toList).2.2 ⟨by decide, [['1'], [], ['2']], by decide, by decide, [],
      by decide, fun h ↦ h.ne_nil (by decide)⟩
  exact ⟨hflags, hnumerals, hlong, hnum, hset, hgap⟩

end FlagMode
end Orthography
