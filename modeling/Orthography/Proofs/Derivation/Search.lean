import Orthography.Proofs.Derivation.Shadow

/-!
# What a search for derivations lists

Each list of the search is told by its members: the roots that let the affixes be attached, under
the slots that count.  A prefix counts if it leads its rule on the form that it stands before.
-/

namespace Orthography
namespace Dictionary

variable {dictionary : Dictionary} {purpose : Purpose} {position : Position} {word : Text}
  {x : Derivation}

/-! ## What the lists of a search hold -/

theorem mem_fromRoots {stem : Text} {carries : Entry → Bool} {derive : Entry → Derivation} :
    x ∈ (dictionary.fromRoots purpose position stem carries derive).toList ↔
      ∃ root ∈ dictionary.lexicon.lookup stem, carries root ∧ derive root = x ∧
        x.isAllowed purpose position := by
  simp only [fromRoots, LazyList.toList_ofList, List.mem_filter, List.mem_map]
  constructor
  · rintro ⟨⟨root, ⟨hroot, hcarries⟩, hderive⟩, hallowed⟩
    exact ⟨root, hroot, hcarries, hderive, hallowed⟩
  · rintro ⟨root, hroot, hcarries, hderive, hallowed⟩
    exact ⟨⟨root, ⟨hroot, hcarries⟩, hderive⟩, hallowed⟩

theorem mem_bare :
    x ∈ (dictionary.bare purpose position word).toList ↔
      ∃ root ∈ dictionary.lexicon.lookup word, { root } = x ∧ x.isAllowed purpose position := by
  simp [bare, mem_fromRoots]

theorem mem_derivations :
    x ∈ (dictionary.derivations purpose position word).toList ↔
      x ∈ (dictionary.bare purpose position word).toList ∨
        x ∈ (dictionary.suffixed purpose position none word).toList ∨
          x ∈ (dictionary.prefixed purpose position word).toList := by
  simp [derivations]

theorem accepts_iff :
    dictionary.accepts purpose position word ↔
      ∃ x, x ∈ (dictionary.derivations purpose position word).toList := by
  rw [accepts, LazyList.isEmpty_eq, Bool.not_eq_true', List.isEmpty_eq_false_iff_exists_mem]

/-- The suffix slots that are tried on a word behind a prefix or without one. -/
def suffixSlots (dictionary : Dictionary) (front : Option AffixEntry) (word : Text) : List Slot :=
  (dictionary.settings.affixes.suffixesOf word).filter fun slot ↦
    dictionary.leavesStem word slot.entry &&
      slot.entry.condition.matchesEnd (slot.entry.stemBefore word) &&
        slot.entry.goesWith front (slot.entry.stemBefore word)

/-- The prefix slots that are tried on a word. -/
def prefixSlots (dictionary : Dictionary) (word : Text) : List Slot :=
  (dictionary.settings.affixes.prefixesOf word).filter fun slot ↦
    dictionary.leavesStem word slot.entry

theorem mem_suffixed {front : Option AffixEntry} :
    x ∈ (dictionary.suffixed purpose position front word).toList ↔
      ∃ slot, Slot.Leads (fun _ ↦ true) (dictionary.suffixSlots front word) slot ∧
        ((∃ root ∈ dictionary.lexicon.lookup (slot.entry.stemBefore word),
            root.carries front slot.entry ∧ { root, front, inner := some slot.entry } = x ∧
              x.isAllowed purpose position) ∨
          front = none ∧ x ∈ (dictionary.twiceSuffixed purpose position slot.entry
            (slot.entry.stemBefore word)).toList) := by
  simp only [suffixed, LazyList.toList_flatMap, LazyList.toList_ofList, List.mem_flatMap,
    LazyList.toList_append, List.mem_append, mem_fromRoots]
  refine exists_congr fun slot ↦ and_congr Slot.mem_unshadowed_nil_iff (or_congr_right ?_)
  cases front <;> simp

theorem mem_prefixed :
    x ∈ (dictionary.prefixed purpose position word).toList ↔
      ∃ slot, Slot.Leads
          (fun other ↦ other.entry.condition.matchesStart (other.entry.stemBehind word))
          (dictionary.prefixSlots word) slot ∧
        (slot.entry.condition.matchesStart (slot.entry.stemBehind word) ∧
            (∃ root ∈ dictionary.lexicon.lookup (slot.entry.stemBehind word),
              root.hasFlag slot.entry.flag ∧ { root, front := some slot.entry } = x ∧
                x.isAllowed purpose position) ∨
          slot.entry.cross ∧ x ∈ (dictionary.suffixed purpose position (some slot.entry)
            (slot.entry.stemBehind word)).toList) := by
  simp only [prefixed, LazyList.toList_flatMap, LazyList.toList_ofList, List.mem_flatMap,
    LazyList.toList_append, List.mem_append]
  refine exists_congr fun slot ↦ and_congr Slot.mem_unshadowed_nil_iff (or_congr ?_ ?_)
  · split <;> simp_all [mem_fromRoots]
  · split <;> simp_all

section Formed

variable (ht : dictionary.settings.affixes.Formed)
include ht

theorem mem_suffixSlots {front : Option AffixEntry} {slot : Slot} :
    slot ∈ dictionary.suffixSlots front word ↔
      slot ∈ Slot.ofRules dictionary.settings.affixes.suffixes ∧
        dictionary.settings.AttachesSuffix slot.entry (slot.entry.stemBefore word) word ∧
          slot.entry.goesWith front (slot.entry.stemBefore word) := by
  simp only [suffixSlots, List.mem_filter, AffixTable.mem_suffixesOf ht, Bool.and_eq_true,
    attachesSuffix_iff]
  constructor
  · rintro ⟨⟨hslot, hadd⟩, ⟨hleaves, hfits⟩, hgoes⟩
    have hdecl := (AffixEntry.isDeclaredIn_iff ht.suffixes).2 ⟨_, hslot⟩
    exact ⟨hslot, ⟨hdecl, hadd, hleaves, hfits, trivial⟩, hgoes⟩
  · rintro ⟨hslot, ⟨_, hadd, hleaves, hfits, _⟩, hgoes⟩
    exact ⟨⟨hslot, hadd⟩, ⟨hleaves, hfits⟩, hgoes⟩

theorem mem_prefixSlots {slot : Slot} :
    slot ∈ dictionary.prefixSlots word ↔
      slot ∈ Slot.ofRules dictionary.settings.affixes.prefixes ∧
        dictionary.settings.AttachesPrefix slot.entry (slot.entry.stemBehind word) word := by
  simp only [prefixSlots, List.mem_filter, AffixTable.mem_prefixesOf ht, attachesPrefix_iff]
  constructor
  · rintro ⟨⟨hslot, hadd⟩, hleaves⟩
    have hdecl := (AffixEntry.isDeclaredIn_iff ht.prefixes).2 ⟨_, hslot⟩
    exact ⟨hslot, hdecl, hadd, hleaves, trivial⟩
  · rintro ⟨hslot, _, hadd, hleaves, _⟩
    exact ⟨⟨hslot, hadd⟩, hleaves⟩

theorem mem_twiceSuffixed {outer : AffixEntry} :
    x ∈ (dictionary.twiceSuffixed purpose position outer word).toList ↔
      ∃ inner stem, dictionary.settings.AttachesSuffix inner stem word ∧
        inner.hasContFlag outer.flag ∧
          ∃ root ∈ dictionary.lexicon.lookup stem, root.hasFlag inner.flag ∧
            { root, inner := some inner, outer := some outer } = x ∧
              x.isAllowed purpose position := by
  simp only [twiceSuffixed, LazyList.toList_flatMap, LazyList.toList_ofList, List.mem_flatMap,
    List.mem_filter, mem_fromRoots, AffixTable.mem_suffixesOf ht, Bool.and_eq_true]
  constructor
  · rintro ⟨slot, ⟨⟨hslot, hadd⟩, ⟨hcont, hleaves⟩, hfits⟩, hroot⟩
    have hdecl := (AffixEntry.isDeclaredIn_iff ht.suffixes).2 ⟨_, hslot⟩
    exact ⟨slot.entry, _, attachesSuffix_iff.2 ⟨hdecl, hadd, hleaves, hfits, rfl⟩, hcont, hroot⟩
  · rintro ⟨inner, stem, hattaches, hcont, hroot⟩
    obtain ⟨hdecl, hadd, hleaves, hfits, rfl⟩ := attachesSuffix_iff.1 hattaches
    obtain ⟨n, hslot⟩ := (AffixEntry.isDeclaredIn_iff ht.suffixes).1 hdecl
    exact ⟨⟨n, inner⟩, ⟨⟨hslot, hadd⟩, ⟨hcont, hleaves⟩, hfits⟩, hroot⟩

/-- Which prefix slots of a word count is a matter of the order of declaration within a rule. -/
theorem leads_prefixSlots {slot : Slot} (hslot : slot ∈ dictionary.prefixSlots word) :
    Slot.Leads (fun other ↦ other.entry.condition.matchesStart (other.entry.stemBehind word))
        (dictionary.prefixSlots word) slot ↔
      ∃ rule, dictionary.settings.affixes.prefixes[slot.rule]? = some rule ∧
        rule.Leads (fun other ↦ other.condition.matchesStart (slot.entry.stemBehind word))
          slot.entry := by
  obtain ⟨_, hattaches⟩ := (mem_prefixSlots ht).1 hslot
  obtain ⟨_, hadd, hleaves, _⟩ := attachesPrefix_iff.1 hattaches
  have hsame : (dictionary.prefixSlots word).filter (·.sameEffect slot) =
      (Slot.ofRules dictionary.settings.affixes.prefixes).filter (·.sameEffect slot) := by
    rw [prefixSlots, List.filter_filter, ← AffixTable.filter_prefixesOf ht hadd
      fun other hother ↦ (Slot.sameEffect_iff.1 hother).2.2.1]
    refine List.filter_congr fun other _ ↦ ?_
    by_cases hother : other.sameEffect slot
    · have hsameAdd := (Slot.sameEffect_iff.1 hother).2.2.1
      simp only [leavesStem, hsameAdd] at hleaves ⊢
      simp [hleaves]
    · simp [hother]
  rw [← Slot.leads_ofRules, ← Slot.leads_filter (p := (·.sameEffect slot)) fun _ h ↦ h, hsame,
    Slot.leads_filter fun _ h ↦ h]
  refine Slot.leads_congr fun other _ hother ↦ ?_
  obtain ⟨_, hstrip, hadd', _⟩ := Slot.sameEffect_iff.1 hother
  simp only [AffixEntry.stemBehind, hstrip, hadd']

/-- The same of suffix slots, which are only tried where they are fit. -/
theorem leads_suffixSlots {front : Option AffixEntry} {slot : Slot}
    (hslot : slot ∈ dictionary.suffixSlots front word) :
    Slot.Leads (fun _ ↦ true) (dictionary.suffixSlots front word) slot ↔
      ∃ rule, dictionary.settings.affixes.suffixes[slot.rule]? = some rule ∧
        rule.Leads (fun other ↦ other.condition.matchesEnd (slot.entry.stemBefore word))
          slot.entry := by
  obtain ⟨hmem, hattaches, hgoes⟩ := (mem_suffixSlots ht).1 hslot
  obtain ⟨_, hadd, hleaves, hfits, _⟩ := attachesSuffix_iff.1 hattaches
  have hsame : (dictionary.settings.affixes.suffixesOf word).filter (·.sameEffect slot) =
      (Slot.ofRules dictionary.settings.affixes.suffixes).filter (·.sameEffect slot) :=
    AffixTable.filter_suffixesOf ht hadd fun other hother ↦ (Slot.sameEffect_iff.1 hother).2.2.1
  rw [suffixSlots, Slot.leads_filter_fits]
  simp only [hleaves, hfits, hgoes, Bool.and_self, true_and]
  rw [← Slot.leads_ofRules, ← Slot.leads_filter (p := (·.sameEffect slot)) fun _ h ↦ h, hsame,
    Slot.leads_filter fun _ h ↦ h]
  refine Slot.leads_congr fun other hother heffect ↦ ?_
  obtain ⟨hrule, hstrip, hadd', _⟩ := Slot.sameEffect_iff.1 heffect
  obtain ⟨-, hcross⟩ := Slot.head_eq_of_rule_eq ht.suffixes hother hmem hrule
  have hstem : other.entry.stemBefore word = slot.entry.stemBefore word := by
    simp only [AffixEntry.stemBefore, hstrip, hadd']
  have hleaves' : dictionary.leavesStem word other.entry := by
    simpa only [leavesStem, hadd'] using hleaves
  have hgoes' : other.entry.goesWith front (slot.entry.stemBefore word) := by
    simpa only [AffixEntry.goesWith, hcross] using hgoes
  simp [hstem, hleaves', hgoes']

end Formed
end Dictionary
end Orthography
