import Orthography.Proofs.Compound.DivisionSearch
import Orthography.Proofs.Compound.RuleSearch
import Orthography.Proofs.Dictionary.Forbidden
import Orthography.Proofs.Lexicon.Initials

/-!
# Dictionaries that offer more

A dictionary extends another one if it has the same settings and at least the same entries, and
forbids no other words.  No search takes a rejection for a reason to accept something, so whatever
is found in a dictionary is found in its extensions; and what counts for one purpose counts for
every milder one.
-/

namespace Orthography

/-- A purpose leaves out no more than another one does. -/
structure Purpose.IsMilder (mild strict : Purpose) : Prop where
  folded : mild.folded → strict.folded
  suggesting : mild.suggesting → strict.suggesting

theorem Derivation.isAllowed_of_isMilder {mild strict : Purpose} (hp : mild.IsMilder strict)
    {position : Position} {x : Derivation} (hx : x.isAllowed strict position) :
    x.isAllowed mild position := by
  simp only [isAllowed, rootServes, Bool.and_eq_true, Bool.not_eq_true', Bool.and_eq_false_iff]
    at hx ⊢
  obtain ⟨⟨⟨⟨⟨hallowed, hcase⟩, hoffered⟩, hcomplete⟩, hbalanced⟩, hstands⟩ := hx
  have himp {a b : Bool} (hab : a → b) (hb : b = false) : a = false := by
    rw [← Bool.not_eq_true] at hb ⊢
    exact mt hab hb
  exact ⟨⟨⟨⟨⟨hallowed, hcase.imp_left (himp hp.folded)⟩, hoffered.imp_left (himp hp.suggesting)⟩,
    hcomplete⟩, hbalanced⟩, hstands⟩

namespace Dictionary

/-- All that one dictionary offers is offered by another one too. -/
structure Extends (large small : Dictionary) : Prop where
  settings : large.settings = small.settings
  entries : ∀ stem, small.lexicon.lookup stem ⊆ large.lexicon.lookup stem
  known : ∀ stem, small.lexicon.contains stem → large.lexicon.contains stem
  begins : ∀ c, small.lexicon.mayBegin c → large.lexicon.mayBegin c
  allows : ∀ word, large.isForbidden word → small.isForbidden word

/-- Where no stem is kept without entries, it is enough to compare the entries. -/
theorem extends_of_lookup_subset {large small : Dictionary} (hlarge : large.lexicon.Built)
    (hsmall : small.lexicon.Built) (hsettings : large.settings = small.settings)
    (hentries : ∀ stem, small.lexicon.lookup stem ⊆ large.lexicon.lookup stem)
    (hallows : ∀ word, large.isForbidden word → small.isForbidden word) :
    large.Extends small := by
  have hknown (stem : Text) (h : small.lexicon.contains stem) : large.lexicon.contains stem := by
    rw [hsmall.contains_iff] at h
    rw [hlarge.contains_iff]
    exact fun hnil ↦ h (List.subset_nil.1 (hnil ▸ hentries stem))
  refine ⟨hsettings, hentries, hknown, fun c hc ↦ ?_, hallows⟩
  rw [hsmall.mayBegin_iff] at hc
  rw [hlarge.mayBegin_iff]
  exact hc.imp fun rest ↦ hknown (c :: rest)

namespace Extends

theorem refl (dictionary : Dictionary) : dictionary.Extends dictionary :=
  ⟨rfl, fun _ ↦ List.Subset.refl _, fun _ ↦ id, fun _ ↦ id, fun _ ↦ id⟩

variable {large small : Dictionary} (h : large.Extends small)
include h

theorem mayBegin {text : Text} (hmay : small.mayBegin text) : large.mayBegin text := by
  cases text with
  | nil => cases hmay
  | cons c text =>
      simp only [Dictionary.mayBegin, Bool.or_eq_true, h.settings] at hmay ⊢
      exact hmay.imp_left (h.begins c)

/-! ## Derivations -/

section Derivations

variable {mild strict : Purpose} (hp : mild.IsMilder strict) {position : Position}
  {word : Text} {x : Derivation}
include hp

theorem mem_fromRoots {stem : Text} {carries : Entry → Bool} {derive : Entry → Derivation}
    (hx : x ∈ (small.fromRoots strict position stem carries derive).toList) :
    x ∈ (large.fromRoots mild position stem carries derive).toList := by
  obtain ⟨root, hroot, hcarries, hderive, hallowed⟩ := Dictionary.mem_fromRoots.1 hx
  exact Dictionary.mem_fromRoots.2
    ⟨root, h.entries stem hroot, hcarries, hderive, Derivation.isAllowed_of_isMilder hp hallowed⟩

theorem mem_twiceSuffixed {outer : AffixEntry}
    (hx : x ∈ (small.twiceSuffixed strict position outer word).toList) :
    x ∈ (large.twiceSuffixed mild position outer word).toList := by
  simp only [twiceSuffixed, leavesStem, h.settings, LazyList.toList_flatMap,
    LazyList.toList_ofList, List.mem_flatMap] at hx ⊢
  obtain ⟨slot, hslot, hx⟩ := hx
  exact ⟨slot, hslot, h.mem_fromRoots hp hx⟩

omit hp in
theorem suffixSlots_eq (front : Option AffixEntry) (word : Text) :
    large.suffixSlots front word = small.suffixSlots front word := by
  simp only [suffixSlots, leavesStem, h.settings]

theorem mem_suffixed {front : Option AffixEntry}
    (hx : x ∈ (small.suffixed strict position front word).toList) :
    x ∈ (large.suffixed mild position front word).toList := by
  rw [Dictionary.mem_suffixed] at hx ⊢
  rw [h.suffixSlots_eq]
  obtain ⟨slot, hslot, ⟨root, hroot, hcarries, hderive, hallowed⟩ | ⟨hfront, hx⟩⟩ := hx
  · exact ⟨slot, hslot, Or.inl ⟨root, h.entries _ hroot, hcarries, hderive,
      Derivation.isAllowed_of_isMilder hp hallowed⟩⟩
  · exact ⟨slot, hslot, Or.inr ⟨hfront, h.mem_twiceSuffixed hp hx⟩⟩

omit hp in
theorem prefixSlots_eq (word : Text) : large.prefixSlots word = small.prefixSlots word := by
  simp only [prefixSlots, leavesStem, h.settings]

theorem mem_prefixed (hx : x ∈ (small.prefixed strict position word).toList) :
    x ∈ (large.prefixed mild position word).toList := by
  rw [Dictionary.mem_prefixed] at hx ⊢
  rw [h.prefixSlots_eq]
  obtain ⟨slot, hslot, ⟨hfits, root, hroot, hflag, hderive, hallowed⟩ | ⟨hcross, hx⟩⟩ := hx
  · exact ⟨slot, hslot, Or.inl ⟨hfits, root, h.entries _ hroot, hflag, hderive,
      Derivation.isAllowed_of_isMilder hp hallowed⟩⟩
  · exact ⟨slot, hslot, Or.inr ⟨hcross, h.mem_suffixed hp hx⟩⟩

theorem mem_derivations (hx : x ∈ (small.derivations strict position word).toList) :
    x ∈ (large.derivations mild position word).toList := by
  rw [Dictionary.mem_derivations] at hx ⊢
  exact hx.imp (h.mem_fromRoots hp) (Or.imp (h.mem_suffixed hp) (h.mem_prefixed hp))

theorem accepts (haccepts : small.accepts strict position word) :
    large.accepts mild position word := by
  obtain ⟨x, hx⟩ := accepts_iff.1 haccepts
  exact accepts_iff.2 ⟨x, h.mem_derivations hp hx⟩

/-! ## Compounds -/

theorem places {done more : List Segment} {part : Segment}
    (hplaces : small.Places strict word done part more) :
    large.Places mild word done part more where
  opens := hplaces.opens
  follows := by
    rw [h.settings]
    exact hplaces.follows
  closes := hplaces.closes
  reads := hplaces.reads
  long := by
    rw [h.settings]
    exact hplaces.long
  derived := h.mem_derivations hp hplaces.derived
  joins := by
    rw [h.settings]
    exact hplaces.joins

theorem isDivision {parts : List Segment} (hparts : small.IsDivision strict word parts) :
    large.IsDivision mild word parts where
  two_le := hparts.two_le
  le_max := by
    rw [h.settings]
    exact hparts.le_max
  places := fun done part more hsplit ↦ h.places hp (hparts.places done part more hsplit)

theorem mem_divisions {parts : List Segment}
    (hparts : parts ∈ (small.divisions strict word).toList) :
    parts ∈ (large.divisions mild word).toList := by
  rw [mem_divisions_iff] at hparts ⊢
  obtain ⟨hcompounding, hdivision, hbegin⟩ := hparts
  rw [h.settings]
  exact ⟨hcompounding, h.isDivision hp hdivision, fun part hpart ↦ h.mayBegin (hbegin part hpart)⟩

end Derivations

theorem stemCarries {stem : Text} {flag : Flag} (hstem : small.stemCarries stem flag) :
    large.stemCarries stem flag := by
  obtain ⟨entry, hentry, hcarries⟩ := stemCarries_iff.1 hstem
  exact stemCarries_iff.2 ⟨entry, h.entries stem hentry, hcarries⟩

theorem completesRow {done stems : List Text} (hrow : small.CompletesRow done stems) :
    large.CompletesRow done stems := by
  obtain ⟨htwo, hmax, hlong, hknown, rule, hrule, hmatches⟩ := hrow
  refine ⟨htwo, ?_, ?_, fun stem hstem ↦ h.known stem (hknown stem hstem), rule, ?_, ?_⟩
  · rw [h.settings]
    exact hmax
  · rw [h.settings]
    exact hlong
  · rw [h.settings]
    exact hrule
  · rw [CompoundRule.matchesAll_eq_true_iff] at hmatches ⊢
    exact hmatches.mono fun _ _ ↦ h.stemCarries

theorem followsRule {word : Text} (hfollows : small.followsRule word) : large.followsRule word := by
  obtain ⟨stems, hflatten, hrow⟩ := followsRule_iff.1 hfollows
  exact followsRule_iff.2 ⟨stems, hflatten, h.completesRow hrow⟩

/-! ## Whole words -/

variable {word : Text}

section Purposes

variable {mild strict : Purpose} (hp : mild.IsMilder strict)
include hp

theorem isCompound (hcompound : small.isCompound strict word) : large.isCompound mild word := by
  simp only [Dictionary.isCompound, Bool.or_eq_true, Bool.not_eq_true', LazyList.isEmpty_eq,
    List.isEmpty_eq_false_iff_exists_mem] at hcompound ⊢
  refine hcompound.imp ?_ h.followsRule
  rintro ⟨parts, hparts⟩
  exact ⟨parts, h.mem_divisions hp hparts⟩

theorem acceptsExactly (haccepts : small.acceptsExactly strict word) :
    large.acceptsExactly mild word := by
  simp only [Dictionary.acceptsExactly, Bool.or_eq_true] at haccepts ⊢
  exact haccepts.imp (h.accepts hp) (h.isCompound hp)

end Purposes

theorem prepare_eq (word : Text) : large.prepare word = small.prepare word := by
  rw [prepare, prepare, h.settings]

theorem isForbidden_eq_false (hfree : small.isForbidden word = false) :
    large.isForbidden word = false := by
  rw [← Bool.not_eq_true] at hfree ⊢
  exact mt (h.allows word) hfree

theorem usableVariants_subset (word : Text) :
    small.usableVariants word ⊆ large.usableVariants word := by
  rintro ⟨form, folded⟩ hform
  simp only [mem_usableVariants_iff, caseVariants, h.settings] at hform ⊢
  exact ⟨hform.1, fun hfolded ↦ h.isForbidden_eq_false (hform.2 hfolded)⟩

section Suggesting

variable {mild strict : Bool} (hp : mild → strict)
include hp

theorem acceptsCased (haccepts : small.acceptsCased strict word) :
    large.acceptsCased mild word := by
  simp only [Dictionary.acceptsCased, List.any_eq_true, Prod.exists] at haccepts ⊢
  obtain ⟨form, folded, hform, haccepts⟩ := haccepts
  have hpurpose : Purpose.IsMilder ⟨folded, mild⟩ ⟨folded, strict⟩ := ⟨id, hp⟩
  exact ⟨form, folded, h.usableVariants_subset word hform, h.acceptsExactly hpurpose haccepts⟩

theorem acceptsBroken (haccepts : small.acceptsBroken strict word)
    (hlimit : large.KeepsLimit mild word) : large.acceptsBroken mild word := by
  have htree := breakTree_of_attempt haccepts
  rw [← h.settings] at htree
  exact acceptsBroken_of_breakTree
    (htree.mono (fun _ _ ↦ id) fun _ ↦ h.acceptsCased hp) hlimit

end Suggesting

/-- What is right in a dictionary is right in its extensions, within the limit on attempts. -/
theorem check (hcheck : small.check word) (hlimit : large.CheckKeepsLimit word) :
    large.check word := by
  simp only [CheckKeepsLimit, h.prepare_eq] at hlimit
  simp only [Dictionary.check, h.prepare_eq, Bool.or_eq_true, Bool.and_eq_true, List.isEmpty_iff,
    Bool.not_eq_true'] at hcheck ⊢
  refine or_iff_not_imp_left.2 fun hsearch ↦ ?_
  obtain ⟨hfree, hbroken⟩ := hcheck.resolve_left hsearch
  obtain ⟨hne, hnumeric⟩ := not_or.1 hsearch
  have hallowed := h.isForbidden_eq_false hfree
  exact ⟨hallowed, h.acceptsBroken id hbroken (hlimit hne (by simpa using hnumeric) hallowed)⟩

end Extends
end Dictionary
end Orthography
