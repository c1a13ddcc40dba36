import Orthography.Proofs.Settings.Reader
import Orthography.Suggestion.Basic

/-!
# Collecting suggestions

The candidates are offered to a list that only grows, and one that is full stays as it is.  So the
suggestions with a smaller limit begin those with a larger one.  Nothing is collected twice, but
texts that were told apart may look the same when they are converted for output.
-/

namespace Orthography

/-- What has been collected with room for `m` texts, and what has been collected with more room: as
long as there is room the sources have been tried just as far. -/
structure Collection.IsCut (m : Nat) (small large : Collection) : Prop where
  found : small.found = large.found.take m
  left : small.found.length < m → small.left = large.left

namespace Dictionary

variable {dictionary : Dictionary} {word text candidate : Text} {found : List Text} {max m n : Nat}
  {exact : Bool} {collection small large : Collection} {source : Source}

/-! ## One candidate -/

/-- What is offered of a candidate is the candidate itself, or its form in the case of the word. -/
theorem form?_cases (h : form? dictionary word exact found candidate = some text) :
    text = candidate ∨ exact = false ∧ recased? dictionary word candidate = some text ∧
      isNew word found text := by
  simp only [form?] at h
  obtain ⟨hnew, hfind⟩ := Option.ite_none_right_eq_some.1 h
  rcases List.mem_append.1 (List.mem_of_find?_eq_some hfind) with hcased | hplain
  · rw [Option.mem_toList] at hcased
    cases exact with
    | true => cases hcased
    | false =>
        have hrecased : recased? dictionary word candidate = some text := hcased
        rw [hcased, Option.all_some] at hnew
        exact Or.inr ⟨rfl, hrecased, hnew⟩
  · exact Or.inl (List.mem_singleton.1 hplain)

theorem isNew_of_form? (hcandidate : isNew word found candidate)
    (h : form? dictionary word exact found candidate = some text) : isNew word found text := by
  rcases form?_cases h with rfl | ⟨-, -, hnew⟩
  · exact hcandidate
  · exact hnew

theorem offer_of_isFull (h : collection.isFull max) :
    offer dictionary word max exact collection candidate = collection := by
  rw [offer, h, Bool.true_or, if_pos rfl]

theorem found_prefix_offer :
    collection.found <+: (offer dictionary word max exact collection candidate).found := by
  rw [offer]
  split
  · exact List.prefix_refl _
  · exact List.prefix_append _ _

def offerAll (dictionary : Dictionary) (word : Text) (max : Nat) (exact : Bool)
    (collection : Collection) (candidates : List Text) : Collection :=
  candidates.foldl (offer dictionary word max exact) collection

section OfferAll

variable (dictionary : Dictionary) (word : Text) (max : Nat) (exact : Bool)
  (collection : Collection) (candidate : Text) (candidates : List Text)

theorem offerAll_cons : offerAll dictionary word max exact collection (candidate :: candidates) =
    offerAll dictionary word max exact (offer dictionary word max exact collection candidate)
      candidates := rfl

theorem offerAll_append (more : List Text) :
    offerAll dictionary word max exact collection (candidates ++ more) =
      offerAll dictionary word max exact
        (offerAll dictionary word max exact collection candidates) more :=
  List.foldl_append

end OfferAll

/-- As a full list stays as it is, it does not matter that its source is not tried any further. -/
theorem collect_eq_offerAll (dictionary : Dictionary) (word : Text) (max : Nat)
    (found : List Text) (source : Source) :
    collect dictionary word max found source =
      (offerAll dictionary word max source.exact ⟨found, maxPerSource⟩
        source.candidates.toList).found := by
  rw [collect, offerAll, LazyList.foldUntil_eq fun _ _ hfull ↦ offer_of_isFull hfull]

/-- A property that no candidate destroys holds of all that is found. -/
theorem suggestionsFor_induction {motive : List Text → Prop} (hnil : motive [])
    (hoffer : ∀ exact collection candidate, motive collection.found →
      motive (offer dictionary word max exact collection candidate).found) :
    motive (dictionary.suggestionsFor word max) := by
  have hcollect (found : List Text) (source : Source) (hfound : motive found) :
      motive (collect dictionary word max found source) :=
    LazyList.foldUntil_induction (motive := fun collection : Collection ↦ motive collection.found)
      (fun collection candidate h _ ↦ hoffer source.exact collection candidate h) hfound
  rw [suggestionsFor]
  split
  · exact hnil
  · exact List.foldlRecOn (sources dictionary word) _ hnil fun found h source _ ↦
      hcollect found source h

/-! ## A smaller limit -/

theorem isFull_of_length_lt (h : collection.found.length < m) (hmn : m ≤ n) :
    collection.isFull m = collection.isFull n := by
  have hm : ¬m ≤ collection.found.length := Nat.not_le.2 h
  have hn : ¬n ≤ collection.found.length := Nat.not_le.2 (Nat.lt_of_lt_of_le h hmn)
  rw [Collection.isFull, Collection.isFull, decide_eq_false hm, decide_eq_false hn]

theorem isCut_self (h : collection.found.length ≤ m) : collection.IsCut m collection :=
  ⟨(List.take_of_length_le h).symm, fun _ ↦ rfl⟩

/-- Until the smaller list is full there is no difference. -/
theorem eq_of_isCut (h : small.IsCut m large) (hroom : small.found.length < m) :
    small = large := by
  have hlarge : large.found.length ≤ m := by
    have hlength := congrArg List.length h.found
    rw [List.length_take] at hlength
    omega
  have hfound : small.found = large.found := h.found.trans (List.take_of_length_le hlarge)
  have hleft := h.left hroom
  cases small
  cases large
  rw [Collection.mk.injEq]
  exact ⟨hfound, hleft⟩

theorem length_offer_le (h : collection.found.length < m) :
    (offer dictionary word m exact collection candidate).found.length ≤ m := by
  rw [offer]
  split
  · exact Nat.le_of_lt h
  · have hone : (form? dictionary word exact collection.found candidate).toList.length ≤ 1 :=
      Option.length_toList_le
    rw [List.length_append]
    omega

theorem offer_eq_of_length_lt (h : collection.found.length < m) (hmn : m ≤ n) :
    offer dictionary word n exact collection candidate =
      offer dictionary word m exact collection candidate := by
  rw [offer, offer, isFull_of_length_lt h hmn]

/-- As long as there is room both lists take a candidate in, or neither does; after that only the
larger one grows. -/
theorem isCut_offer (h : small.IsCut m large) (hmn : m ≤ n) :
    (offer dictionary word m exact small candidate).IsCut m
      (offer dictionary word n exact large candidate) := by
  rcases Nat.lt_or_ge small.found.length m with hroom | hfull
  · rw [← eq_of_isCut h hroom, offer_eq_of_length_lt hroom hmn]
    exact isCut_self (length_offer_le hroom)
  · rw [offer_of_isFull (by simp [Collection.isFull, hfull])]
    obtain ⟨more, hmore⟩ : large.found <+: (offer dictionary word n exact large candidate).found :=
      found_prefix_offer
    refine ⟨?_, fun hroom ↦ absurd hroom (Nat.not_lt.2 hfull)⟩
    -- The larger list is full to the cut as well, so what it gains lies behind the cut.
    have hlength := congrArg List.length h.found
    rw [List.length_take] at hlength
    rw [← hmore, List.take_append_of_le_length (by omega), h.found]

theorem isCut_offerAll (h : small.IsCut m large) (hmn : m ≤ n) (candidates : List Text) :
    (offerAll dictionary word m exact small candidates).IsCut m
      (offerAll dictionary word n exact large candidates) := by
  induction candidates generalizing small large with
  | nil => exact h
  | cons candidate candidates ih => exact ih (isCut_offer h hmn)

/-- Each source starts with all its tries, so it does not matter how far the last one got. -/
theorem collect_take (hmn : m ≤ n) (found : List Text) (source : Source) :
    collect dictionary word m (found.take m) source =
      (collect dictionary word n found source).take m := by
  have hstart : Collection.IsCut m ⟨found.take m, maxPerSource⟩ ⟨found, maxPerSource⟩ :=
    ⟨rfl, fun _ ↦ rfl⟩
  rw [collect_eq_offerAll, collect_eq_offerAll]
  exact (isCut_offerAll hstart hmn _).found

theorem suggestionsFor_eq_take (hmn : m ≤ n) :
    dictionary.suggestionsFor word m = (dictionary.suggestionsFor word n).take m := by
  rw [suggestionsFor, suggestionsFor]
  split
  · exact List.take_nil.symm
  · rw [← List.foldl_hom (List.take m) (collect_take hmn), List.take_nil]

/-- With a smaller limit the suggestions are the first ones of those with a larger limit, and there
are never more of them than the limit allows. -/
theorem suggestions_eq_take (h : m ≤ n) :
    dictionary.suggestions word m = (dictionary.suggestions word n).take m ∧
      (dictionary.suggestions word m).length ≤ m := by
  have htake : dictionary.suggestions word m = (dictionary.suggestions word n).take m := by
    rw [suggestions, suggestions, suggestionsFor_eq_take h, List.map_take]
  refine ⟨htake, ?_⟩
  rw [htake]
  exact List.length_take_le _ _

/-- Two corrections come of other letters and the third one of a replacement. -/
theorem suggestions_fone_eq_take :
    let words := "3\nphone\nbone\nfond\n".toList
    let affixes := "TRY bd\nREP 1\nREP f ph\n".toList
    let word := "fone".toList
    ∃ dictionary, load words affixes = .ok dictionary ∧
      dictionary.suggestions word 5 = ["bone".toList, "fond".toList, "phone".toList] ∧
        dictionary.suggestions word 2 = (dictionary.suggestions word 5).take 2 ∧
          (dictionary.suggestions word 2).length ≤ 2 := by
  intro words affixes word
  have hfive : (load words affixes).map (·.suggestions word 5) =
      .ok ["bone".toList, "fond".toList, "phone".toList] := by decide +kernel
  obtain ⟨dictionary, hload, hsuggestions⟩ := exists_of_map_eq_ok hfive
  exact ⟨dictionary, hload, hsuggestions, suggestions_eq_take (by decide)⟩

/-! ## No repetition -/

theorem nodup_offer (h : collection.found.Nodup) :
    (offer dictionary word max exact collection candidate).found.Nodup := by
  rw [offer]
  split
  · exact h
  · rename_i hoffered
    have hcandidate : isNew word collection.found candidate := by
      by_contra hknown
      exact hoffered (by simp [hknown])
    rw [List.nodup_append]
    refine ⟨h, Option.toList_nodup _, ?_⟩
    intro old hold text htext
    rw [Option.mem_toList] at htext
    have hnew : isNew word collection.found text := isNew_of_form? hcandidate htext
    simp only [isNew, Bool.and_eq_true, Bool.not_eq_true', List.contains_eq_mem,
      decide_eq_false_iff_not] at hnew
    rintro rfl
    exact hnew.2 hold

theorem nodup_suggestionsFor : (dictionary.suggestionsFor word max).Nodup :=
  suggestionsFor_induction List.nodup_nil fun _ _ _ h ↦ nodup_offer h

/-- Nothing is found twice, so nothing is suggested twice just if the conversion for output keeps
apart what has been found. -/
theorem nodup_suggestions_iff :
    (dictionary.suggestionsFor (dictionary.prepare word) max).Nodup ∧
      ((dictionary.suggestions word max).Nodup ↔
        ∀ text ∈ dictionary.suggestionsFor (dictionary.prepare word) max,
          ∀ other ∈ dictionary.suggestionsFor (dictionary.prepare word) max,
            dictionary.settings.outputs.convert text = dictionary.settings.outputs.convert other →
              text = other) := by
  have hfound : (dictionary.suggestionsFor (dictionary.prepare word) max).Nodup :=
    nodup_suggestionsFor
  exact ⟨hfound, List.nodup_map_iff_inj_on hfound⟩

/-- Both words are found, and for output the ligature is written as two letters. -/
theorem not_nodup_suggestions_eon :
    let words := "2\naeon\næon\n".toList
    let affixes := "TRY aæ\nOCONV 1\nOCONV æ ae\n".toList
    ∃ dictionary, load words affixes = .ok dictionary ∧
      dictionary.suggestions "eon".toList 5 = ["aeon".toList, "aeon".toList] ∧
        ¬(dictionary.suggestions "eon".toList 5).Nodup := by
  intro words affixes
  have hfive : (load words affixes).map (·.suggestions "eon".toList 5) =
      .ok ["aeon".toList, "aeon".toList] := by decide +kernel
  obtain ⟨dictionary, hload, hsuggestions⟩ := exists_of_map_eq_ok hfive
  refine ⟨dictionary, hload, hsuggestions, ?_⟩
  rw [hsuggestions]
  simp

end Dictionary
end Orthography
