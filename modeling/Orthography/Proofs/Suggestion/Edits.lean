import Orthography.Proofs.Suggestion.Collecting

/-!
# Single edits

A right word that is one edit away from a word is a candidate of one of the first sources, and as
long as these have no more candidates than may be tried it is found.  So it is suggested before
anything that only divides the word or replaces a part of it.
-/

namespace Orthography

/-- One edit: two characters side by side change places, one character is left out, or one of some
characters comes in or takes the place of another. -/
inductive Text.IsEdit (chars : Text) : Text → Text → Prop
  | swapped (before : Text) (c d : Char) (after : Text) :
      IsEdit chars (before ++ c :: d :: after) (before ++ d :: c :: after)
  | deleted (before : Text) (c : Char) (after : Text) :
      IsEdit chars (before ++ c :: after) (before ++ after)
  | inserted (before : Text) {d : Char} (hd : d ∈ chars) (after : Text) :
      IsEdit chars (before ++ after) (before ++ d :: after)
  | replaced (before : Text) (c : Char) {d : Char} (hd : d ∈ chars) (after : Text) :
      IsEdit chars (before ++ c :: after) (before ++ d :: after)

namespace Candidates

variable {word text chars before after : Text} {c : Char} {make : Text → Char → Text → List Text}

/-! ## Which candidates there are -/

theorem mem_places_iff : (before, c, after) ∈ places word ↔ word = before ++ c :: after := by
  induction word generalizing before with
  | nil => simp [places]
  | cons d word ih =>
      simp only [places, List.mem_cons, List.mem_map, Prod.exists, Prod.mk.injEq]
      cases before with
      | nil => simp [eq_comm]
      | cons b before => simp [← ih, eq_comm, and_comm]

theorem mem_atEach_iff : text ∈ (atEach (places word) make).toList ↔
    ∃ before c after, word = before ++ c :: after ∧ text ∈ make before c after := by
  simp only [atEach, LazyList.toList_flatMap, LazyList.toList_ofList, List.mem_flatMap,
    Prod.exists, mem_places_iff]

theorem mem_replaced_iff : text ∈ (replaced chars word).toList ↔
    ∃ d ∈ chars, ∃ before c after, word = before ++ c :: after ∧ c ≠ d ∧
      text = before ++ d :: after := by
  simp [replaced, mem_atEach_iff]

theorem mem_swapped_iff : text ∈ (swapped word).toList ↔
    ∃ before c d after, word = before ++ c :: d :: after ∧ c ≠ d ∧
      text = before ++ d :: c :: after := by
  rw [swapped, mem_atEach_iff]
  constructor
  · intro h
    obtain ⟨before, c, after, hword, htext⟩ := h
    cases after with
    | nil => cases htext
    | cons d after => exact ⟨before, c, d, after, hword, by simpa using htext⟩
  · intro h
    obtain ⟨before, c, d, after, hword, hne, htext⟩ := h
    refine ⟨before, c, d :: after, hword, ?_⟩
    simpa [hne] using htext

theorem mem_deleted_iff : text ∈ (deleted word).toList ↔
    ∃ before c after, word = before ++ c :: after ∧ text = before ++ after := by
  simp [deleted, mem_atEach_iff]

theorem mem_inserted_iff : text ∈ (inserted chars word).toList ↔
    ∃ d ∈ chars, ∃ before after, word = before ++ after ∧ text = before ++ d :: after := by
  simp only [inserted, LazyList.toList_flatMap, LazyList.toList_ofList, List.mem_flatMap,
    LazyList.toList_append, List.mem_append, mem_atEach_iff, List.mem_singleton]
  refine exists_congr fun d ↦ and_congr_right fun _ ↦ ?_
  constructor
  · rintro (⟨before, c, after, hword, htext⟩ | htext)
    · exact ⟨before, c :: after, hword, htext⟩
    · exact ⟨word, [], (List.append_nil word).symm, htext⟩
  · intro h
    obtain ⟨before, after, hword, htext⟩ := h
    cases after with
    | nil =>
        rw [List.append_nil] at hword
        exact Or.inr (hword ▸ htext)
    | cons c after => exact Or.inl ⟨before, c, after, hword, htext⟩

/-! ## How many candidates there are -/

theorem length_flatMap_le {α β : Type} {f : α → List β} {k : Nat} {l : List α}
    (h : ∀ a ∈ l, (f a).length ≤ k) : (l.flatMap f).length ≤ l.length * k := by
  induction l with
  | nil => exact Nat.zero_le _
  | cons a l ih =>
      rw [List.forall_mem_cons] at h
      rw [List.flatMap_cons, List.length_append, List.length_cons, Nat.succ_mul]
      have hfirst := h.1
      have hrest := ih h.2
      omega

theorem length_places (word : Text) : (places word).length = word.length := by
  induction word with
  | nil => rfl
  | cons c word ih => rw [places, List.length_cons, List.length_map, ih, List.length_cons]

theorem length_atEach_le (h : ∀ before c after, (make before c after).length ≤ 1) :
    (atEach (places word) make).toList.length ≤ word.length := by
  rw [atEach, LazyList.toList_flatMap, LazyList.toList_ofList, ← length_places word,
    ← Nat.mul_one (places word).length]
  apply length_flatMap_le
  intro place _
  obtain ⟨before, c, after⟩ := place
  simpa using h before c after

theorem length_replaced_le :
    (replaced chars word).toList.length ≤ chars.length * word.length := by
  rw [replaced, LazyList.toList_flatMap, LazyList.toList_ofList]
  apply length_flatMap_le
  intro d _
  apply length_atEach_le
  intro before c after
  split <;> simp

theorem length_swapped_le : (swapped word).toList.length ≤ word.length := by
  apply length_atEach_le
  intro before c after
  split
  · simp
  · split <;> simp

theorem length_deleted_le : (deleted word).toList.length ≤ word.length := by
  apply length_atEach_le
  simp

theorem length_inserted_le :
    (inserted chars word).toList.length ≤ chars.length * (word.length + 1) := by
  rw [inserted, LazyList.toList_flatMap, LazyList.toList_ofList]
  apply length_flatMap_le
  intro d _
  rw [LazyList.toList_append, List.length_append]
  apply Nat.add_le_add_right
  apply length_atEach_le
  simp

end Candidates

namespace Dictionary

open Candidates

variable {dictionary : Dictionary} {word text : Text} {found : List Text} {limit : Nat}
  {exact : Bool} {collection : Collection} {source : Source}

/-! ## Candidates that are found -/

/-- Each candidate takes one try at most. -/
theorem left_le_left_offer (dictionary : Dictionary) (word : Text) (limit : Nat) (exact : Bool)
    (collection : Collection) (candidate : Text) :
    collection.left ≤ (offer dictionary word limit exact collection candidate).left + 1 := by
  rw [offer]
  split
  · exact Nat.le_succ _
  · exact Nat.sub_le_iff_le_add.1 (Nat.le_refl _)

theorem left_le_left_offerAll (dictionary : Dictionary) (word : Text) (limit : Nat) (exact : Bool)
    (collection : Collection) (candidates : List Text) :
    collection.left ≤
      (offerAll dictionary word limit exact collection candidates).left + candidates.length := by
  induction candidates generalizing collection with
  | nil => exact Nat.le_refl _
  | cons candidate candidates ih =>
      have hfirst := left_le_left_offer dictionary word limit exact collection candidate
      have hrest := ih (offer dictionary word limit exact collection candidate)
      rw [offerAll, List.foldl_cons, List.length_cons]
      rw [offerAll] at hrest
      omega

theorem found_prefix_offerAll (dictionary : Dictionary) (word : Text) (limit : Nat) (exact : Bool)
    (collection : Collection) (candidates : List Text) :
    collection.found <+: (offerAll dictionary word limit exact collection candidates).found := by
  induction candidates generalizing collection with
  | nil => exact List.prefix_refl _
  | cons candidate candidates ih => exact found_prefix_offer.trans (ih _)

theorem prefix_foldl_collect (dictionary : Dictionary) (word : Text) (limit : Nat)
    (found : List Text) (sources : List Source) :
    found <+: sources.foldl (collect dictionary word limit) found := by
  induction sources generalizing found with
  | nil => exact List.prefix_refl _
  | cons source sources ih =>
      have hfirst : found <+: collect dictionary word limit found source := by
        rw [collect_eq_offerAll]
        exact found_prefix_offerAll dictionary word limit source.exact ⟨found, maxPerSource⟩ _
      exact hfirst.trans (ih _)

theorem recased?_eq_none (hcapitalized : CapStyle.ofText word ≠ .capitalized)
    (hallCaps : CapStyle.ofText word ≠ .allCaps) (dictionary : Dictionary) (candidate : Text) :
    recased? dictionary word candidate = none := by
  cases hstyle : CapStyle.ofText word with
  | capitalized => exact absurd hstyle hcapitalized
  | allCaps => exact absurd hstyle hallCaps
  | _ => simp [recased?, hstyle]

/-! A word that is neither capitalised nor in capitals gives its candidates no other case. -/

section Plain

variable (hrecased : ∀ candidate, recased? dictionary word candidate = none)
include hrecased

theorem form?_of_not_recased (found : List Text) (candidate : Text) :
    form? dictionary word exact found candidate =
      if dictionary.mayOffer candidate then some candidate else none := by
  simp [form?, hrecased, List.find?_singleton]

/-- A candidate that is offered while there is room is found, if it is right. -/
theorem mem_offer (hleft : 0 < collection.left) (hroom : collection.found.length < limit)
    (hne : text ≠ word) (hright : dictionary.mayOffer text) :
    text ∈ (offer dictionary word limit exact collection text).found := by
  have hopen : collection.isFull limit = false := by
    simp [Collection.isFull, hroom, Nat.ne_of_gt hleft]
  by_cases hknown : text ∈ collection.found
  · exact found_prefix_offer.subset hknown
  · have hnew : isNew word collection.found text := by
      simp [isNew, hne, hknown]
    simp [offer, hopen, hnew, form?_of_not_recased hrecased, hright]

/-- So is one of a source that has no more candidates than may be tried. -/
theorem mem_collect (hmem : text ∈ source.candidates.toList)
    (hfew : source.candidates.toList.length ≤ maxPerSource)
    (hroom : (collect dictionary word limit found source).length < limit)
    (hne : text ≠ word) (hright : dictionary.mayOffer text) :
    text ∈ collect dictionary word limit found source := by
  obtain ⟨earlier, later, hsplit⟩ := List.append_of_mem hmem
  rw [hsplit, List.length_append, List.length_cons] at hfew
  have hleft : maxPerSource ≤ _ + earlier.length :=
    left_le_left_offerAll dictionary word limit source.exact ⟨found, maxPerSource⟩ earlier
  rw [collect_eq_offerAll, hsplit, offerAll_append, offerAll_cons] at hroom ⊢
  generalize offerAll dictionary word limit source.exact ⟨found, maxPerSource⟩ earlier =
    collection at hleft hroom ⊢
  have hlater := found_prefix_offerAll dictionary word limit source.exact
    (offer dictionary word limit source.exact collection text) later
  have hgrown := (found_prefix_offer.trans hlater).length_le
  apply hlater.subset
  exact mem_offer hrecased (by omega) (by omega) hne hright

theorem mem_foldl_collect {sources : List Source} (hsource : source ∈ sources)
    (hmem : text ∈ source.candidates.toList)
    (hfew : source.candidates.toList.length ≤ maxPerSource)
    (hroom : (sources.foldl (collect dictionary word limit) found).length < limit)
    (hne : text ≠ word) (hright : dictionary.mayOffer text) :
    text ∈ sources.foldl (collect dictionary word limit) found := by
  obtain ⟨earlier, later, rfl⟩ := List.append_of_mem hsource
  rw [List.foldl_append, List.foldl_cons] at hroom ⊢
  have hlater := prefix_foldl_collect dictionary word limit
    (collect dictionary word limit (earlier.foldl (collect dictionary word limit) found) source)
    later
  apply hlater.subset
  exact mem_collect hrecased hmem hfew (Nat.lt_of_le_of_lt hlater.length_le hroom) hne hright

theorem mem_of_mem_offer {candidate : Text}
    (h : text ∈ (offer dictionary word limit exact collection candidate).found) :
    text ∈ collection.found ∨ text = candidate := by
  rw [offer] at h
  split at h
  · exact Or.inl h
  · refine (List.mem_append.1 h).imp_right fun hform ↦ ?_
    rcases form?_cases (Option.mem_toList.1 hform) with heq | ⟨-, hcased, -⟩
    · exact heq
    · rw [hrecased] at hcased
      cases hcased

theorem mem_of_mem_offerAll {candidates : List Text}
    (h : text ∈ (offerAll dictionary word limit exact collection candidates).found) :
    text ∈ collection.found ∨ text ∈ candidates := by
  induction candidates generalizing collection with
  | nil => exact Or.inl h
  | cons candidate candidates ih =>
      rw [offerAll_cons] at h
      rw [List.mem_cons]
      rcases ih h with hoffered | hlater
      · exact (mem_of_mem_offer hrecased hoffered).imp_right Or.inl
      · exact Or.inr (Or.inr hlater)

theorem exists_source_of_mem_foldl_collect {sources : List Source}
    (h : text ∈ sources.foldl (collect dictionary word limit) found) :
    text ∈ found ∨ ∃ source ∈ sources, text ∈ source.candidates.toList := by
  induction sources generalizing found with
  | nil => exact Or.inl h
  | cons source sources ih =>
      rw [List.exists_mem_cons_iff]
      rcases ih h with hcollected | hlater
      · rw [collect_eq_offerAll] at hcollected
        exact (mem_of_mem_offerAll hrecased hcollected).imp_right Or.inl
      · exact Or.inr (Or.inr hlater)

end Plain

/-! ## Edits that are found -/

/-- The sources of other cases and of edits of a letter or a group of letters.  Behind them come
only those that divide the word or replace a part of it. -/
def editSources (dictionary : Dictionary) (word : Text) : List Source :=
  (sources dictionary word).take 7

theorem sources_eq (dictionary : Dictionary) (word : Text) :
    sources dictionary word = editSources dictionary word ++
      [⟨false, divided word⟩,
       ⟨false, .ofList (dictionary.settings.replacements.candidates word)⟩] := rfl

theorem exists_editSource (hedit : Text.IsEdit (dictionary.settings.tryChars.getD []) word text)
    (hne : text ≠ word)
    (hfew : (word.length + 1) * max (dictionary.settings.tryChars.getD []).length 1 ≤
      maxPerSource) :
    ∃ source ∈ editSources dictionary word, text ∈ source.candidates.toList ∧
      source.candidates.toList.length ≤ maxPerSource := by
  generalize hchars : dictionary.settings.tryChars.getD [] = chars at hedit hfew
  have hword : word.length ≤ maxPerSource := calc
    word.length ≤ (word.length + 1) * 1 := by omega
    _ ≤ (word.length + 1) * max chars.length 1 := Nat.mul_le_mul_left _ (Nat.le_max_right _ _)
    _ ≤ maxPerSource := hfew
  have hplaces : chars.length * (word.length + 1) ≤ maxPerSource := calc
    chars.length * (word.length + 1) = (word.length + 1) * chars.length := Nat.mul_comm _ _
    _ ≤ (word.length + 1) * max chars.length 1 := Nat.mul_le_mul_left _ (Nat.le_max_left _ _)
    _ ≤ maxPerSource := hfew
  cases hedit with
  | swapped before c d after =>
      have hcd : c ≠ d := by
        rintro rfl
        exact hne rfl
      refine ⟨⟨false, swapped (before ++ c :: d :: after)⟩, by simp [editSources, sources], ?_, ?_⟩
      · exact mem_swapped_iff.2 ⟨before, c, d, after, rfl, hcd, rfl⟩
      · exact length_swapped_le.trans hword
  | deleted before c after =>
      refine ⟨⟨false, deleted (before ++ c :: after)⟩, by simp [editSources, sources], ?_, ?_⟩
      · exact mem_deleted_iff.2 ⟨before, c, after, rfl, rfl⟩
      · exact length_deleted_le.trans hword
  | inserted before hd after =>
      refine ⟨⟨false, inserted chars (before ++ after)⟩,
        by simp [editSources, sources, hchars], ?_, ?_⟩
      · exact mem_inserted_iff.2 ⟨_, hd, before, after, rfl, rfl⟩
      · exact length_inserted_le.trans hplaces
  | @replaced before c d hd after =>
      have hcd : c ≠ d := by
        rintro rfl
        exact hne rfl
      refine ⟨⟨false, replaced chars (before ++ c :: after)⟩,
        by simp [editSources, sources, hchars], ?_, ?_⟩
      · exact mem_replaced_iff.2 ⟨d, hd, before, c, after, rfl, hcd, rfl⟩
      · exact length_replaced_le.trans
          ((Nat.mul_le_mul_left _ (Nat.le_succ _)).trans hplaces)

/-- A right word that is one edit away is among the suggestions, unless these are cut off, and what
stands before it comes of other cases and edits too. -/
theorem suggestions_of_isEdit (houtputs : dictionary.settings.outputs = [])
    (hprepared : dictionary.prepare word = word) (hword : word ≠ [])
    (hcapitalized : CapStyle.ofText word ≠ .capitalized)
    (hallCaps : CapStyle.ofText word ≠ .allCaps)
    (hedit : Text.IsEdit (dictionary.settings.tryChars.getD []) word text) (hne : text ≠ word)
    (hright : dictionary.mayOffer text)
    (hfew : (word.length + 1) * max (dictionary.settings.tryChars.getD []).length 1 ≤
      maxPerSource)
    (hroom : (dictionary.suggestions word limit).length < limit) :
    ∃ before after, dictionary.suggestions word limit = before ++ text :: after ∧
      text ∉ before ∧
      before ++ [text] <+:
        (editSources dictionary word).foldl (collect dictionary word limit) [] ∧
      ∀ earlier ∈ before,
        ∃ source ∈ editSources dictionary word, earlier ∈ source.candidates.toList := by
  have hrecased := recased?_eq_none hcapitalized hallCaps dictionary
  -- The first sources leave some room, as all of them do, and so they find the text.
  have hall : dictionary.suggestions word limit =
      (sources dictionary word).foldl (collect dictionary word limit) [] := by
    have hnot : word.isEmpty = false := List.isEmpty_eq_false_iff.2 hword
    rw [suggestions, suggestionsFor, hprepared, houtputs, hnot, if_neg Bool.false_ne_true]
    exact List.map_id'' Replacements.convert_nil _
  rw [hall, sources_eq, List.foldl_append] at hroom ⊢
  generalize hfirst : (editSources dictionary word).foldl (collect dictionary word limit) [] =
    first at hroom ⊢
  obtain ⟨rest, hrest⟩ := prefix_foldl_collect dictionary word limit first
    [⟨false, divided word⟩, ⟨false, .ofList (dictionary.settings.replacements.candidates word)⟩]
  have hfound : text ∈ first := by
    obtain ⟨source, hsource, hmem, hlength⟩ := exists_editSource hedit hne hfew
    rw [← hrest, List.length_append] at hroom
    rw [← hfirst] at hroom ⊢
    exact mem_foldl_collect hrecased hsource hmem hlength (by omega) hne hright
  obtain ⟨before, after, hsplit, hnot⟩ := List.eq_append_cons_of_mem hfound
  refine ⟨before, after ++ rest, ?_, hnot, ?_, ?_⟩
  · rw [← hrest, hsplit, List.append_assoc, List.cons_append]
  · exact ⟨after, by rw [hsplit, List.append_assoc, List.singleton_append]⟩
  · intro earlier hearlier
    have hmem : earlier ∈
        (editSources dictionary word).foldl (collect dictionary word limit) [] := by
      rw [hfirst, hsplit]
      exact List.mem_append_left _ hearlier
    rcases exists_source_of_mem_foldl_collect hrecased hmem with hnone | hsource
    · cases hnone
    · exact hsource

/-- One correction comes of another letter, the next one of a letter left out, and the last one of a
replacement. -/
theorem suggestions_fone_of_isEdit :
    let words := "3\nphone\nbone\none\n".toList
    let affixes := "TRY b\nREP 1\nREP f ph\n".toList
    let word := "fone".toList
    let text := "one".toList
    ∃ dictionary, load words affixes = .ok dictionary ∧ dictionary.settings.outputs = [] ∧
      dictionary.prepare word = word ∧ word ≠ [] ∧ CapStyle.ofText word ≠ .capitalized ∧
      CapStyle.ofText word ≠ .allCaps ∧
      Text.IsEdit (dictionary.settings.tryChars.getD []) word text ∧ text ≠ word ∧
      dictionary.mayOffer text ∧
      (word.length + 1) * max (dictionary.settings.tryChars.getD []).length 1 ≤ maxPerSource ∧
      dictionary.suggestions word 5 = ["bone".toList, text, "phone".toList] ∧
      ∃ before after, dictionary.suggestions word 5 = before ++ text :: after ∧ text ∉ before ∧
        before ++ [text] <+: (editSources dictionary word).foldl (collect dictionary word 5) [] ∧
        ∀ earlier ∈ before,
          ∃ source ∈ editSources dictionary word, earlier ∈ source.candidates.toList := by
  intro words affixes word text
  have hsettings : (load words affixes).map (fun dictionary ↦
      (dictionary.settings.outputs, dictionary.settings.tryChars)) = .ok ([], some ['b']) := by
    decide +kernel
  have hanswers : (load words affixes).map (fun dictionary ↦
      (dictionary.prepare word, dictionary.mayOffer text, dictionary.suggestions word 5)) =
      .ok (word, true, ["bone".toList, text, "phone".toList]) := by decide +kernel
  obtain ⟨dictionary, hload, hsettings⟩ := exists_of_map_eq_ok hsettings
  obtain ⟨houtputs, htry⟩ := Prod.mk.inj hsettings
  rw [hload] at hanswers
  obtain ⟨hprepared, hanswers⟩ := Prod.mk.inj (Except.ok.inj hanswers)
  obtain ⟨hright, hsuggestions⟩ := Prod.mk.inj hanswers
  have hword : word ≠ [] := by decide
  have hcapitalized : CapStyle.ofText word ≠ .capitalized := by decide +kernel
  have hallCaps : CapStyle.ofText word ≠ .allCaps := by decide +kernel
  have hedit : Text.IsEdit (dictionary.settings.tryChars.getD []) word text :=
    .deleted [] 'f' text
  have hne : text ≠ word := by decide
  have hfew : (word.length + 1) * max (dictionary.settings.tryChars.getD []).length 1 ≤
      maxPerSource := by
    rw [htry]
    decide
  have hroom : (dictionary.suggestions word 5).length < 5 := by
    rw [hsuggestions]
    decide
  exact ⟨dictionary, hload, houtputs, hprepared, hword, hcapitalized, hallCaps, hedit, hne, hright,
    hfew, hsuggestions, suggestions_of_isEdit houtputs hprepared hword hcapitalized hallCaps hedit
      hne hright hfew hroom⟩

/-- For the empty word nothing is suggested, although a word of one letter is an edit away. -/
theorem not_suggestions_of_isEdit_nil :
    let words := "1\na\n".toList
    let affixes := "TRY a\n".toList
    ∃ dictionary, load words affixes = .ok dictionary ∧ dictionary.settings.outputs = [] ∧
      dictionary.prepare [] = [] ∧ CapStyle.ofText [] ≠ .capitalized ∧
      CapStyle.ofText [] ≠ .allCaps ∧
      Text.IsEdit (dictionary.settings.tryChars.getD []) [] ['a'] ∧ ['a'] ≠ [] ∧
      dictionary.mayOffer ['a'] ∧
      (([] : Text).length + 1) * max (dictionary.settings.tryChars.getD []).length 1 ≤
        maxPerSource ∧
      (dictionary.suggestions [] 5).length < 5 ∧ ['a'] ∉ dictionary.suggestions [] 5 := by
  intro words affixes
  have hsettings : (load words affixes).map (fun dictionary ↦
      (dictionary.settings.outputs, dictionary.settings.tryChars)) = .ok ([], some ['a']) := by
    decide +kernel
  have hanswers : (load words affixes).map (fun dictionary ↦
      (dictionary.prepare [], dictionary.mayOffer ['a'], dictionary.suggestions [] 5)) =
      .ok ([], true, []) := by decide +kernel
  obtain ⟨dictionary, hload, hsettings⟩ := exists_of_map_eq_ok hsettings
  obtain ⟨houtputs, htry⟩ := Prod.mk.inj hsettings
  rw [hload] at hanswers
  obtain ⟨hprepared, hanswers⟩ := Prod.mk.inj (Except.ok.inj hanswers)
  obtain ⟨hright, hsuggestions⟩ := Prod.mk.inj hanswers
  refine ⟨dictionary, hload, houtputs, hprepared, ?_⟩
  rw [htry, hsuggestions]
  refine ⟨by decide, by decide, ?_, by decide, hright, by decide, by decide, by decide⟩
  exact .inserted [] (List.mem_singleton_self 'a') []

end Dictionary
end Orthography
