import Orthography.Proofs.Dictionary.Extension
import Orthography.Proofs.Dictionary.Roots
import Orthography.Proofs.Suggestion.Collecting

/-!
# Suggestions are right

What is suggested has passed a check that is no milder than the one for words, as a whole or word
by word where it is a phrase.  An empty text passes only where a suffix may take the whole of a
stem away or a stem is empty itself.
-/

namespace Orthography

theorem Text.intercalate_append {sep : Text} {pieces more : List Text} (hpieces : pieces ≠ [])
    (hmore : more ≠ []) : List.intercalate sep (pieces ++ more) =
      List.intercalate sep pieces ++ sep ++ List.intercalate sep more := by
  induction pieces with
  | nil => exact absurd rfl hpieces
  | cons piece pieces ih =>
      cases pieces with
      | nil => simp [List.intercalate_cons_of_ne_nil hmore]
      | cons next pieces =>
          have hnext : next :: pieces ≠ [] := List.cons_ne_nil next pieces
          have hall : next :: pieces ++ more ≠ [] := List.append_ne_nil_of_left_ne_nil hnext more
          rw [List.cons_append, List.intercalate_cons_of_ne_nil hall, ih hnext,
            List.intercalate_cons_of_ne_nil hnext]
          simp only [List.append_assoc]

namespace Dictionary

variable {dictionary : Dictionary} {word text : Text} {max : Nat}

/-! ## What may be offered -/

/-- What may be offered is accepted, or it is a phrase of words that are. -/
theorem exists_pieces_of_mayOffer (h : dictionary.mayOffer word) :
    ∃ pieces, pieces ≠ [] ∧ word = List.intercalate [' '] pieces ∧
      (word ≠ [] → ∀ piece ∈ pieces, piece ≠ []) ∧
        ∀ piece ∈ pieces, dictionary.isForbidden piece = false ∧
          dictionary.acceptsBroken true piece := by
  fun_induction mayOffer dictionary word with
  | case1 word hforbidden => cases h
  | case2 word hfree haccepts =>
      refine ⟨[word], List.cons_ne_nil word [], List.intercalate_singleton.symm, ?_, ?_⟩
      · simp
      · simpa using ⟨by simpa using hfree, haccepts⟩
  | case3 word hfree hrefused hsplit => cases h
  | case4 word hfree hrefused left right hsplit hlen ihleft ihright =>
      simp only [Bool.and_eq_true, Bool.not_eq_true', List.isEmpty_eq_false_iff] at h
      obtain ⟨⟨⟨hleft, hright⟩, hofferLeft⟩, hofferRight⟩ := h
      obtain ⟨pieces, hpieces, hjoined, hkept, hgood⟩ := ihleft hofferLeft
      obtain ⟨more, hmore, hjoinedMore, hkeptMore, hgoodMore⟩ := ihright hofferRight
      refine ⟨pieces ++ more, List.append_ne_nil_of_left_ne_nil hpieces more, ?_, ?_, ?_⟩
      · rw [Text.intercalate_append hpieces hmore, ← hjoined, ← hjoinedMore]
        exact Text.eq_append_of_splitOnce? hsplit
      · exact fun _ ↦ List.forall_mem_append.2 ⟨hkept hleft, hkeptMore hright⟩
      · exact List.forall_mem_append.2 ⟨hgood, hgoodMore⟩

theorem mayOffer_of_form? {exact : Bool} {found : List Text} {candidate : Text}
    (h : form? dictionary word exact found candidate = some text) : dictionary.mayOffer text := by
  rw [form?] at h
  obtain ⟨-, hfind⟩ := Option.ite_none_right_eq_some.1 h
  exact List.find?_some hfind

/-- Every text of a list may be offered. -/
def AllMayBeOffered (dictionary : Dictionary) (found : List Text) : Prop :=
  ∀ text ∈ found, dictionary.mayOffer text

theorem AllMayBeOffered.offer {exact : Bool} {collection : Collection} {candidate : Text}
    (h : dictionary.AllMayBeOffered collection.found) :
    dictionary.AllMayBeOffered (offer dictionary word max exact collection candidate).found := by
  simp only [Dictionary.offer]
  split
  · exact h
  · refine List.forall_mem_append.2 ⟨h, fun text htext ↦ ?_⟩
    exact mayOffer_of_form? (Option.mem_toList.1 htext)

theorem allMayBeOffered_suggestionsFor :
    dictionary.AllMayBeOffered (dictionary.suggestionsFor word max) :=
  suggestionsFor_induction (fun _ h ↦ absurd h List.not_mem_nil) fun _ _ _ h ↦ h.offer

theorem mayOffer_of_mem_suggestions (houtputs : dictionary.settings.outputs = [])
    (h : text ∈ dictionary.suggestions word max) : dictionary.mayOffer text := by
  rw [suggestions, houtputs] at h
  obtain ⟨found, hfound, rfl⟩ := List.mem_map.1 h
  rw [Replacements.convert_nil]
  exact allMayBeOffered_suggestionsFor found hfound

/-! ## The empty text -/

section Empty

variable {purpose : Purpose} {position : Position}

theorem accepts_nil (hstrip : dictionary.settings.fullStrip = false)
    (hstem : dictionary.lexicon.contains [] = false) :
    dictionary.accepts purpose position [] = false := by
  rw [← Bool.not_eq_true, accepts_iff]
  rintro ⟨x, hx⟩
  rcases mem_derivations.1 hx with hx | hx | hx
  · obtain ⟨root, hroot, -⟩ := mem_bare.1 hx
    rw [Lexicon.lookup_of_not_contains hstem] at hroot
    exact List.not_mem_nil hroot
  · obtain ⟨slot, hslot, -⟩ := mem_suffixed.1 hx
    simpa [suffixSlots, leavesStem, hstrip] using hslot.mem
  · obtain ⟨slot, hslot, -⟩ := mem_prefixed.1 hx
    simpa [prefixSlots, leavesStem, hstrip] using hslot.mem

theorem isCompound_nil : dictionary.isCompound purpose [] = false := by
  rw [← Bool.not_eq_true, isCompound, Bool.or_eq_true, Bool.not_eq_true', LazyList.isEmpty_eq,
    List.isEmpty_eq_false_iff_exists_mem]
  rintro (⟨parts, hparts⟩ | hfollows)
  · exact (mem_divisions_iff.1 hparts).1.2 rfl
  · obtain ⟨stems, hflatten, hrow⟩ := followsRule_iff.1 hfollows
    have htwo : 2 ≤ stems.length := hrow.two_le
    obtain ⟨stem, hstem⟩ := List.exists_mem_of_length_pos (Nat.lt_of_lt_of_le Nat.two_pos htwo)
    have hlong := hrow.long stem hstem
    rw [List.flatten_eq_nil_iff.1 hflatten stem hstem] at hlong
    simp [Settings.leastPart] at hlong

theorem breakings_nil (breaks : List Text) : Text.breakings breaks [] = [] := by
  refine List.eq_nil_iff_forall_not_mem.2 fun pieces hpieces ↦ ?_
  have hbreaks := Text.breaks_of_mem_breakings hpieces
  generalize htext : ([] : Text) = text at hbreaks
  cases hbreaks with
  | start _ kept => exact kept (List.append_eq_nil_iff.1 htext.symm).2
  | finish _ _ kept => exact kept (List.append_eq_nil_iff.1 htext.symm).1
  | inside _ _ _ _ kept => exact kept (List.append_eq_nil_iff.1 htext.symm).2

theorem mayOffer_nil (hstrip : dictionary.settings.fullStrip = false)
    (hstem : dictionary.lexicon.contains [] = false) : dictionary.mayOffer [] = false := by
  have hexactly (purpose : Purpose) : dictionary.acceptsExactly purpose [] = false := by
    rw [acceptsExactly, accepts_nil hstrip hstem, isCompound_nil, Bool.or_false]
  have hcased : dictionary.acceptsCased true [] = false := by
    simp [acceptsCased, usableVariants, caseVariants, CapStyle.ofText, hexactly]
  have hbroken : dictionary.acceptsBroken true [] = false := by
    rw [← Bool.not_eq_true, acceptsBroken_iff, acceptsInPieces, breakings_nil, hcased]
    simp [tryAny]
  rw [mayOffer, hbroken]
  simp [Text.splitOnce?, Text.after?]

end Empty

/-! ## Suggestions -/

/-- Every suggestion is a word or a phrase of words, none of them forbidden and each accepted within
the limit on attempts, because what is accepted for suggestions is accepted anyway.  The words are
not empty, except for one that is suggested by itself where a suffix may take a whole stem away or
there is an empty stem. -/
theorem suggestions_accepted (houtputs : dictionary.settings.outputs = []) :
    (∀ word max, ∀ text ∈ dictionary.suggestions word max, ∃ pieces,
      pieces ≠ [] ∧ text = List.intercalate [' '] pieces ∧
        (text ≠ [] ∨ dictionary.settings.fullStrip = false ∧
          dictionary.lexicon.contains [] = false → ∀ piece ∈ pieces, piece ≠ []) ∧
        ∀ piece ∈ pieces, dictionary.isForbidden piece = false ∧
          (dictionary.KeepsLimit false piece → dictionary.acceptsBroken false piece)) ∧
    (∀ folded position word, dictionary.accepts { folded, suggesting := true } position word →
      dictionary.accepts { folded } position word) ∧
    (∀ folded word, dictionary.isCompound { folded, suggesting := true } word →
      dictionary.isCompound { folded } word) ∧
    (∀ word, dictionary.acceptsCased true word → dictionary.acceptsCased false word) ∧
    ∀ word, dictionary.acceptsBroken true word → dictionary.KeepsLimit false word →
      dictionary.acceptsBroken false word := by
  have hself : dictionary.Extends dictionary := .refl dictionary
  have hoffers : false → true := fun h ↦ absurd h Bool.false_ne_true
  have hmilder (folded : Bool) : Purpose.IsMilder { folded } { folded, suggesting := true } :=
    ⟨id, hoffers⟩
  refine ⟨?_, fun folded _ _ ↦ hself.accepts (hmilder folded),
    fun folded _ ↦ hself.isCompound (hmilder folded), fun _ ↦ hself.acceptsCased hoffers,
    fun _ ↦ hself.acceptsBroken hoffers⟩
  intro word max text htext
  have hoffered := mayOffer_of_mem_suggestions houtputs htext
  obtain ⟨pieces, hpieces, hjoined, hkept, hgood⟩ := exists_pieces_of_mayOffer hoffered
  refine ⟨pieces, hpieces, hjoined, fun h ↦ hkept ?_, fun piece hpiece ↦ ?_⟩
  · rintro rfl
    rcases h with hne | ⟨hstrip, hstem⟩
    · exact hne rfl
    · rw [mayOffer_nil hstrip hstem] at hoffered
      cases hoffered
  · obtain ⟨hfree, haccepts⟩ := hgood piece hpiece
    exact ⟨hfree, hself.acceptsBroken hoffers haccepts⟩

/-- From `barfoo` the phrase `bar foo` is suggested. -/
theorem suggestions_barfoo :
    foobarDictionary.settings.outputs = [] ∧
      ['b', 'a', 'r', ' ', 'f', 'o', 'o'] ∈
        foobarDictionary.suggestions ['b', 'a', 'r', 'f', 'o', 'o'] 5 ∧
      (∃ pieces, ['b', 'a', 'r', ' ', 'f', 'o', 'o'] = List.intercalate [' '] pieces ∧
        ∀ piece ∈ pieces, piece ≠ [] ∧ foobarDictionary.isForbidden piece = false) ∧
      foobarDictionary.acceptsBroken true ['b', 'a', 'r'] ∧
      foobarDictionary.KeepsLimit false ['b', 'a', 'r'] ∧
      foobarDictionary.acceptsBroken false ['b', 'a', 'r'] := by
  have houtputs : foobarDictionary.settings.outputs = [] := rfl
  have hmem : ['b', 'a', 'r', ' ', 'f', 'o', 'o'] ∈
      foobarDictionary.suggestions ['b', 'a', 'r', 'f', 'o', 'o'] 5 := by
    decide +kernel
  have hbar : foobarDictionary.acceptsBroken true ['b', 'a', 'r'] := by decide +kernel
  have hlimit : foobarDictionary.KeepsLimit false ['b', 'a', 'r'] :=
    keepsLimit_of_attempts_le (by decide +kernel)
  obtain ⟨hsuggestions, -, -, -, haccepted⟩ := suggestions_accepted houtputs
  obtain ⟨pieces, -, hjoined, hkept, hgood⟩ := hsuggestions _ _ _ hmem
  refine ⟨houtputs, hmem, ⟨pieces, hjoined, ?_⟩, hbar, hlimit, haccepted _ hbar hlimit⟩
  intro piece hpiece
  have hne := hkept (Or.inl (List.cons_ne_nil _ _)) piece hpiece
  exact ⟨hne, (hgood piece hpiece).1⟩

/-- The suffix takes away the whole of the stem `a`. -/
def stripDictionary : Dictionary :=
  ofParts { affixes := .ofRules [] [suffixRule ['a'] []], fullStrip := true }
    (Lexicon.empty.add ⟨['a'], .ofList [83], [], []⟩)

theorem reachable_stripDictionary : stripDictionary.Reachable :=
  .ofParts (formed_ofRules_suffixRule _ _) (.add _ .empty)

/-- The empty text is suggested where a suffix may leave nothing of a stem. -/
theorem not_suggestions_accepted_x :
    stripDictionary.Reachable ∧ stripDictionary.settings.outputs = [] ∧
      ¬∀ text ∈ stripDictionary.suggestions ['x'] 5, ∃ pieces, pieces ≠ [] ∧
        text = List.intercalate [' '] pieces ∧ (∀ piece ∈ pieces, piece ≠ []) ∧
          ∀ piece ∈ pieces, stripDictionary.isForbidden piece = false ∧
            (stripDictionary.KeepsLimit false piece →
              stripDictionary.acceptsBroken false piece) := by
  have hmem : [] ∈ stripDictionary.suggestions ['x'] 5 := by decide +kernel
  refine ⟨reachable_stripDictionary, rfl, fun h ↦ ?_⟩
  obtain ⟨pieces, hpieces, hjoined, hkept, -⟩ := h [] hmem
  cases pieces with
  | nil => exact hpieces rfl
  | cons piece pieces =>
      cases pieces with
      | nil => exact hkept piece List.mem_cons_self (by simpa using hjoined.symm)
      | cons next pieces => simp [List.intercalate_cons_of_ne_nil] at hjoined

end Dictionary
end Orthography
