import Orthography.Proofs.Derivation.Soundness

/-!
# Derivations that exist are found

A derivation that builds a word is found, if not by its own entries then by others that do the
same, unless its prefix stands before a suffix and lies in the shadow of an earlier entry.  Words
with affixes on one side are never lost.
-/

namespace Orthography
namespace Dictionary

variable {dictionary : Dictionary} {purpose : Purpose} {position : Position} {word : Text}
  {x : Derivation}

section Found

variable (ht : dictionary.settings.affixes.Formed)
  (hm : dictionary.settings.affixes.Marked dictionary.settings.roles)
include ht hm

/-! ## Entries that are tried in the place of others -/

theorem exists_leads_suffixSlots {front : Option AffixEntry} {suffix : AffixEntry} {stem : Text}
    (hattaches : dictionary.settings.AttachesSuffix suffix stem word)
    (hgoes : suffix.goesWith front stem) :
    ∃ slot, Slot.Leads (fun _ ↦ true) (dictionary.suffixSlots front word) slot ∧
      slot.entry.Alike suffix ∧ slot.entry.stemBefore word = stem := by
  obtain ⟨hdecl, _, _, _, rfl⟩ := attachesSuffix_iff.1 hattaches
  obtain ⟨n, hslot⟩ := (AffixEntry.isDeclaredIn_iff ht.suffixes).1 hdecl
  have hmem : ⟨n, suffix⟩ ∈ dictionary.suffixSlots front word :=
    (mem_suffixSlots ht).2 ⟨hslot, hattaches, hgoes⟩
  obtain ⟨slot, hleads, heffect, _⟩ := Slot.exists_leads (fun _ ↦ true) hmem rfl
  have halike : slot.entry.Alike suffix := Slot.alike_of_sameEffect ht.suffixes
    ((mem_suffixSlots ht).1 hleads.mem).1 hslot
    (fun rule hrule ↦ hm rule (List.mem_append_right _ hrule)) heffect
  exact ⟨slot, hleads, halike, by simp [AffixEntry.stemBefore, halike.strip, halike.add]⟩

theorem exists_leads_prefixSlots {front : AffixEntry} {stem : Text}
    (hattaches : dictionary.settings.AttachesPrefix front stem word)
    (hfits : front.condition.matchesStart stem) :
    ∃ slot, Slot.Leads
        (fun other ↦ other.entry.condition.matchesStart (other.entry.stemBehind word))
        (dictionary.prefixSlots word) slot ∧
      slot.entry.Alike front ∧ slot.entry.stemBehind word = stem ∧
        slot.entry.condition.matchesStart stem := by
  obtain ⟨hdecl, _, _, rfl⟩ := attachesPrefix_iff.1 hattaches
  obtain ⟨n, hslot⟩ := (AffixEntry.isDeclaredIn_iff ht.prefixes).1 hdecl
  have hmem : ⟨n, front⟩ ∈ dictionary.prefixSlots word :=
    (mem_prefixSlots ht).2 ⟨hslot, hattaches⟩
  obtain ⟨slot, hleads, heffect, hcommits⟩ := Slot.exists_leads
    (fun other ↦ other.entry.condition.matchesStart (other.entry.stemBehind word)) hmem hfits
  have halike : slot.entry.Alike front := Slot.alike_of_sameEffect ht.prefixes
    ((mem_prefixSlots ht).1 hleads.mem).1 hslot
    (fun rule hrule ↦ hm rule (List.mem_append_left _ hrule)) heffect
  have hstem : slot.entry.stemBehind word = front.stemBehind word := by
    simp [AffixEntry.stemBehind, halike.strip, halike.add]
  exact ⟨slot, hleads, halike, hstem, hstem ▸ hcommits⟩

/-! ## One shape after the other -/

theorem exists_mem_suffixed {front : Option AffixEntry} {root : Entry} {suffix : AffixEntry}
    (hroot : root ∈ dictionary.lexicon.lookup root.stem)
    (hattaches : dictionary.settings.AttachesSuffix suffix root.stem word)
    (hgoes : suffix.goesWith front root.stem) (hcarries : root.carries front suffix)
    (hallowed : Derivation.isAllowed purpose position
      { root, front, inner := some suffix }) :
    ∃ y, y ∈ (dictionary.suffixed purpose position front word).toList := by
  obtain ⟨slot, hleads, halike, hstem⟩ := exists_leads_suffixSlots ht hm hattaches hgoes
  refine ⟨{ root, front, inner := some slot.entry },
    mem_suffixed.2 ⟨slot, hleads, Or.inl ⟨root, hstem ▸ hroot, ?_, rfl, ?_⟩⟩⟩
  · simpa [Entry.carries, AffixEntry.hasContFlag, halike.flag, halike.contFlags] using hcarries
  · refine (Derivation.isAllowed_congr ?_ ?_ ?_ ?_ _ _).trans hallowed <;> simp [halike.marks]

theorem exists_mem_twiceSuffixed {root : Entry} {inner outer : AffixEntry} {middle : Text}
    (hroot : root ∈ dictionary.lexicon.lookup root.stem)
    (hinner : dictionary.settings.AttachesSuffix inner root.stem middle)
    (houter : dictionary.settings.AttachesSuffix outer middle word)
    (hflag : root.hasFlag inner.flag) (hcont : inner.hasContFlag outer.flag)
    (hallowed : Derivation.isAllowed purpose position
      { root, inner := some inner, outer := some outer }) :
    ∃ y, y ∈ (dictionary.suffixed purpose position none word).toList := by
  have hgoes : outer.goesWith none middle := rfl
  obtain ⟨slot, hleads, halike, hstem⟩ := exists_leads_suffixSlots ht hm houter hgoes
  refine ⟨{ root, inner := some inner, outer := some slot.entry },
    mem_suffixed.2 ⟨slot, hleads, Or.inr ⟨rfl, ?_⟩⟩⟩
  refine (mem_twiceSuffixed ht).2
    ⟨inner, root.stem, hstem ▸ hinner, halike.flag ▸ hcont, root, hroot, hflag, rfl, ?_⟩
  refine (Derivation.isAllowed_congr ?_ ?_ ?_ ?_ _ _).trans hallowed <;> simp [halike.marks]

theorem exists_mem_prefixed {root : Entry} {front : AffixEntry}
    (hroot : root ∈ dictionary.lexicon.lookup root.stem)
    (hattaches : dictionary.settings.AttachesPrefix front root.stem word)
    (hfits : front.condition.matchesStart root.stem) (hflag : root.hasFlag front.flag)
    (hallowed : Derivation.isAllowed purpose position { root, front := some front }) :
    ∃ y, y ∈ (dictionary.prefixed purpose position word).toList := by
  obtain ⟨slot, hleads, halike, hstem, hfits'⟩ := exists_leads_prefixSlots ht hm hattaches hfits
  refine ⟨{ root, front := some slot.entry }, mem_prefixed.2 ⟨slot, hleads,
    Or.inl ⟨hstem ▸ hfits', root, hstem ▸ hroot, halike.flag ▸ hflag, rfl, ?_⟩⟩⟩
  refine (Derivation.isAllowed_congr ?_ ?_ ?_ ?_ _ _).trans hallowed <;> simp [halike.marks]

theorem exists_mem_crossed {root : Entry} {front suffix : AffixEntry} {middle : Text}
    (hroot : root ∈ dictionary.lexicon.lookup root.stem)
    (hsuffix : dictionary.settings.AttachesSuffix suffix root.stem middle)
    (hfront : dictionary.settings.AttachesPrefix front middle word)
    (hgoes : suffix.goesWith (some front) root.stem) (hcross : front.cross)
    (hcarries : root.carries (some front) suffix)
    (hled : ∃ rule ∈ dictionary.settings.affixes.prefixes,
      rule.Leads (fun other ↦ other.condition.matchesStart (front.stemBehind word)) front)
    (hallowed : Derivation.isAllowed purpose position
      { root, front := some front, inner := some suffix }) :
    ∃ y, y ∈ (dictionary.prefixed purpose position word).toList := by
  obtain ⟨_, _, _, rfl⟩ := attachesPrefix_iff.1 hfront
  obtain ⟨rule, hrule, hleads⟩ := hled
  obtain ⟨n, hget⟩ := List.getElem?_of_mem hrule
  have hslot : ⟨n, front⟩ ∈ dictionary.prefixSlots word :=
    (mem_prefixSlots ht).2 ⟨Slot.mem_ofRules.2 ⟨rule, hget, hleads.mem⟩, hfront⟩
  obtain ⟨y, hy⟩ := exists_mem_suffixed ht hm hroot hsuffix hgoes hcarries hallowed
  exact ⟨y, mem_prefixed.2 ⟨⟨n, front⟩, (leads_prefixSlots ht hslot).2 ⟨rule, hget, hleads⟩,
    Or.inr ⟨hcross, hy⟩⟩⟩

/-- A derivation that is not in the shadow of an earlier prefix entry is found, or one like it. -/
theorem exists_mem_derivations (hx : x.Builds dictionary word) (hled : x.IsLed dictionary word)
    (hallowed : x.isAllowed purpose position) :
    ∃ y, y ∈ (dictionary.derivations purpose position word).toList := by
  simp only [mem_derivations, exists_or]
  cases hx with
  | bare hroot => exact Or.inl ⟨_, mem_bare.2 ⟨_, hroot, rfl, hallowed⟩⟩
  | suffixed hroot hattaches hflag =>
      refine Or.inr (Or.inl (exists_mem_suffixed ht hm hroot hattaches rfl ?_ hallowed))
      simpa [Entry.carries] using hflag
  | twiceSuffixed hroot hinner houter hflag hcont =>
      exact Or.inr (Or.inl (exists_mem_twiceSuffixed ht hm hroot hinner houter hflag hcont hallowed))
  | prefixed hroot hattaches hfits hflag =>
      exact Or.inr (Or.inr (exists_mem_prefixed ht hm hroot hattaches hfits hflag hallowed))
  | crossed hroot hsuffix hfront hfits hcrossSuffix hcrossFront hflagSuffix hflagFront =>
      refine Or.inr (Or.inr (exists_mem_crossed ht hm hroot hsuffix hfront ?_ hcrossFront ?_
        (hled _ rfl rfl) hallowed))
      · simp [AffixEntry.goesWith, hcrossSuffix, hfits]
      · simpa [Entry.carries] using ⟨hflagSuffix, hflagFront⟩

/-- A word with affixes on one side only is accepted whenever an allowed derivation builds it. -/
theorem accepts_of_builds_one_side (hx : x.Builds dictionary word)
    (hside : x.front = none ∨ x.inner = none) (hallowed : x.isAllowed purpose position) :
    dictionary.accepts purpose position word := by
  refine accepts_iff.2 (exists_mem_derivations ht hm hx (fun front hfront hinner ↦ ?_) hallowed)
  rcases hside with h | h
  · simp [h] at hfront
  · simp [h] at hinner

omit ht hm in
/-- The second entry of the prefix is in the shadow of the first one, and `unay` is accepted. -/
theorem accepts_unay :
    let dictionary := ayDictionary [['a'], ['a', 'y']]
    dictionary.accepts {} .alone ['u', 'n', 'a', 'y'] := by
  intro dictionary
  let root : Entry := ⟨['a', 'y'], .ofList [80, 83], [], []⟩
  let front := (unRule []).entry [] ['u', 'n'] ⟨[.exactly 'a', .exactly 'y']⟩ .empty []
  have hattaches : dictionary.settings.AttachesPrefix front root.stem ['u', 'n', 'a', 'y'] :=
    ⟨⟨_, List.mem_singleton_self _, by decide +kernel, rfl, rfl⟩,
      ['a', 'y'], rfl, rfl, Or.inl (List.cons_ne_nil _ _)⟩
  have hroot : root ∈ dictionary.lexicon.lookup root.stem := by decide +kernel
  exact accepts_of_builds_one_side (formed_ayDictionary _) (marked_ayDictionary _)
    (.prefixed hroot hattaches (by decide) (by decide)) (Or.inr rfl) (by decide)

/-- A word is accepted exactly if some allowed derivation builds it in which a prefix before a
suffix is not in the shadow of an earlier entry of its rule. -/
theorem accepts_iff_exists_isLed (hl : dictionary.lexicon.Built) :
    dictionary.accepts purpose position word ↔
      ∃ x : Derivation, x.Builds dictionary word ∧ x.isAllowed purpose position ∧
        x.IsLed dictionary word := by
  constructor
  · intro h
    obtain ⟨x, hx⟩ := accepts_iff.1 h
    exact ⟨x, builds_and_isLed_of_mem_derivations hl ht hx⟩
  · rintro ⟨x, hbuilds, hallowed, hled⟩
    exact accepts_iff.2 (exists_mem_derivations ht hm hbuilds hled hallowed)

end Found

theorem exists_isLed_unaies :
    let dictionary := ayDictionary [['a', 'y'], ['a', 'i']]
    ∃ x : Derivation, x.Builds dictionary ['u', 'n', 'a', 'i', 'e', 's'] ∧
      x.isAllowed {} .alone ∧ x.IsLed dictionary ['u', 'n', 'a', 'i', 'e', 's'] := by
  intro dictionary
  have haccepts : dictionary.accepts {} .alone ['u', 'n', 'a', 'i', 'e', 's'] := by decide +kernel
  exact (accepts_iff_exists_isLed (formed_ayDictionary _) (marked_ayDictionary _)
    (built_ayDictionary _)).1 haccepts

/-- With the entries the other way round, the one whose condition `aies` satisfies hides the one
whose condition `ay` satisfies, and `unaies` is lost. -/
theorem not_accepts_unaies :
    let dictionary := ayDictionary [['a', 'i'], ['a', 'y']]
    dictionary.settings.affixes.Formed ∧
      dictionary.settings.affixes.Marked dictionary.settings.roles ∧ dictionary.lexicon.Built ∧
        ∃ x : Derivation, x.front.isSome ∧ x.inner.isSome ∧
          x.Builds dictionary ['u', 'n', 'a', 'i', 'e', 's'] ∧ x.isAllowed {} .alone ∧
            dictionary.accepts {} .alone ['u', 'n', 'a', 'i', 'e', 's'] = false := by
  intro dictionary
  let root : Entry := ⟨['a', 'y'], .ofList [80, 83], [], []⟩
  let front := (unRule []).entry [] ['u', 'n'] ⟨[.exactly 'a', .exactly 'y']⟩ .empty []
  let suffix := (AffixRule.new .suf 83 true).entry ['y'] ['i', 'e', 's'] ⟨[]⟩ .empty []
  have hroot : root ∈ dictionary.lexicon.lookup root.stem := by decide +kernel
  have hsuffix : dictionary.settings.AttachesSuffix suffix root.stem ['a', 'i', 'e', 's'] :=
    ⟨⟨_, List.mem_singleton_self _, List.mem_singleton_self _, rfl, rfl⟩, rfl,
      ['a'], rfl, rfl, Or.inl (List.cons_ne_nil _ _)⟩
  have hfront : dictionary.settings.AttachesPrefix front ['a', 'i', 'e', 's']
      ['u', 'n', 'a', 'i', 'e', 's'] :=
    ⟨⟨_, List.mem_singleton_self _, by decide +kernel, rfl, rfl⟩,
      ['a', 'i', 'e', 's'], rfl, rfl, Or.inl (List.cons_ne_nil _ _)⟩
  refine ⟨formed_ayDictionary _, marked_ayDictionary _, built_ayDictionary _,
    { root, front := some front, inner := some suffix }, rfl, rfl, ?_, by decide,
    by decide +kernel⟩
  exact .crossed hroot hsuffix hfront (by decide) rfl rfl (Or.inl (by decide))
    (Or.inl (by decide))

end Dictionary
end Orthography
