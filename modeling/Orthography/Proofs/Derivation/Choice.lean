import Orthography.Proofs.Derivation.Soundness

/-!
# Which of several entries is chosen

Entries of a rule that do the same are alternatives, and the first one whose condition holds is
meant to be chosen.  `Derivation.TakesFirst` says that of every affix of a derivation and
`Derivation.IsChosen` what the search sees to, which is less: an inner suffix is not chosen under
an outer one, and a prefix is chosen on the form that still has its suffix.
-/

namespace Orthography

namespace Settings

variable (settings : Settings)

/-- A prefix entry with no other before it in its rule that does the same and whose condition holds
on a form. -/
def IsFirstPrefix (front : AffixEntry) (form : Text) : Prop :=
  ∃ rule ∈ settings.affixes.prefixes, rule.Leads (·.condition.matchesStart form) front

def IsFirstSuffix (suffix : AffixEntry) (form : Text) : Prop :=
  ∃ rule ∈ settings.affixes.suffixes, rule.Leads (·.condition.matchesEnd form) suffix

instance (front : AffixEntry) (form : Text) : Decidable (settings.IsFirstPrefix front form) :=
  inferInstanceAs (Decidable (∃ rule ∈ settings.affixes.prefixes,
    rule.Leads (·.condition.matchesStart form) front))

instance (suffix : AffixEntry) (form : Text) : Decidable (settings.IsFirstSuffix suffix form) :=
  inferInstanceAs (Decidable (∃ rule ∈ settings.affixes.suffixes,
    rule.Leads (·.condition.matchesEnd form) suffix))

end Settings

namespace Derivation

variable (settings : Settings) (x : Derivation) (word : Text)

/-- Every affix is the first of its kind on what it was attached to: the outer suffix on the form
that is left without it, the others on the root. -/
structure TakesFirst : Prop where
  front : ∀ front ∈ x.front, settings.IsFirstPrefix front x.root.stem
  inner : ∀ suffix ∈ x.inner, settings.IsFirstSuffix suffix x.root.stem
  outer : ∀ suffix ∈ x.outer, settings.IsFirstSuffix suffix (suffix.stemBefore word)

/-- The affixes are the first of their kind where the search looks for alternatives. -/
structure IsChosen : Prop where
  front : ∀ front ∈ x.front, settings.IsFirstPrefix front (front.stemBehind word)
  inner : x.outer = none → ∀ suffix ∈ x.inner, settings.IsFirstSuffix suffix x.root.stem
  outer : ∀ suffix ∈ x.outer, settings.IsFirstSuffix suffix (suffix.stemBefore word)

instance : Decidable (x.TakesFirst settings word) :=
  decidable_of_iff ((∀ front ∈ x.front, settings.IsFirstPrefix front x.root.stem) ∧
      (∀ suffix ∈ x.inner, settings.IsFirstSuffix suffix x.root.stem) ∧
        ∀ suffix ∈ x.outer, settings.IsFirstSuffix suffix (suffix.stemBefore word))
    ⟨fun h ↦ ⟨h.1, h.2.1, h.2.2⟩, fun h ↦ ⟨h.front, h.inner, h.outer⟩⟩

end Derivation

theorem Derivation.Builds.stemBehind_eq {dictionary : Dictionary} {x : Derivation} {word : Text}
    {front : AffixEntry} (h : x.Builds dictionary word) (hinner : x.inner = none)
    (hfront : front ∈ x.front) : front.stemBehind word = x.root.stem := by
  cases h with
  | prefixed _ hattaches =>
      obtain rfl := Option.some.inj hfront
      exact (Dictionary.attachesPrefix_iff.1 hattaches).2.2.2.symm
  | bare => simp at hfront
  | suffixed => simp at hinner
  | twiceSuffixed => simp at hinner
  | crossed => simp at hinner

namespace Dictionary

variable {dictionary : Dictionary} {purpose : Purpose} {position : Position} {word : Text}
  {x : Derivation}

section Formed

variable (ht : dictionary.settings.affixes.Formed)
include ht

/-! ## The slots that count -/

theorem exists_leads_suffixSlots_iff {front : Option AffixEntry} {suffix : AffixEntry} :
    (∃ n, Slot.Leads (fun _ ↦ true) (dictionary.suffixSlots front word) ⟨n, suffix⟩) ↔
      dictionary.settings.AttachesSuffix suffix (suffix.stemBefore word) word ∧
        suffix.goesWith front (suffix.stemBefore word) ∧
          dictionary.settings.IsFirstSuffix suffix (suffix.stemBefore word) := by
  constructor
  · rintro ⟨n, hslot⟩
    obtain ⟨-, hattaches, hgoes⟩ := (mem_suffixSlots ht).1 hslot.mem
    obtain ⟨rule, hget, hleads⟩ := (leads_suffixSlots ht hslot.mem).1 hslot
    exact ⟨hattaches, hgoes, rule, List.mem_of_getElem? hget, hleads⟩
  · rintro ⟨hattaches, hgoes, rule, hrule, hleads⟩
    obtain ⟨n, hget⟩ := List.getElem?_of_mem hrule
    have hslot : ⟨n, suffix⟩ ∈ dictionary.suffixSlots front word :=
      (mem_suffixSlots ht).2 ⟨Slot.mem_ofRules.2 ⟨rule, hget, hleads.mem⟩, hattaches, hgoes⟩
    exact ⟨n, (leads_suffixSlots ht hslot).2 ⟨rule, hget, hleads⟩⟩

theorem exists_leads_prefixSlots_iff {front : AffixEntry} :
    (∃ n, Slot.Leads
        (fun other ↦ other.entry.condition.matchesStart (other.entry.stemBehind word))
        (dictionary.prefixSlots word) ⟨n, front⟩) ↔
      dictionary.settings.AttachesPrefix front (front.stemBehind word) word ∧
        dictionary.settings.IsFirstPrefix front (front.stemBehind word) := by
  constructor
  · rintro ⟨n, hslot⟩
    obtain ⟨-, hattaches⟩ := (mem_prefixSlots ht).1 hslot.mem
    obtain ⟨rule, hget, hleads⟩ := (leads_prefixSlots ht hslot.mem).1 hslot
    exact ⟨hattaches, rule, List.mem_of_getElem? hget, hleads⟩
  · rintro ⟨hattaches, rule, hrule, hleads⟩
    obtain ⟨n, hget⟩ := List.getElem?_of_mem hrule
    have hslot : ⟨n, front⟩ ∈ dictionary.prefixSlots word :=
      (mem_prefixSlots ht).2 ⟨Slot.mem_ofRules.2 ⟨rule, hget, hleads.mem⟩, hattaches⟩
    exact ⟨n, (leads_prefixSlots ht hslot).2 ⟨rule, hget, hleads⟩⟩

theorem mem_suffixed_iff_exists_first {front : Option AffixEntry} :
    x ∈ (dictionary.suffixed purpose position front word).toList ↔
      ∃ suffix stem, dictionary.settings.AttachesSuffix suffix stem word ∧
        suffix.goesWith front stem ∧ dictionary.settings.IsFirstSuffix suffix stem ∧
          ((∃ root ∈ dictionary.lexicon.lookup stem, root.carries front suffix ∧
              { root, front, inner := some suffix } = x ∧ x.isAllowed purpose position) ∨
            front = none ∧
              x ∈ (dictionary.twiceSuffixed purpose position suffix stem).toList) := by
  rw [mem_suffixed]
  constructor
  · rintro ⟨⟨n, suffix⟩, hslot, hx⟩
    obtain ⟨hattaches, hgoes, hfirst⟩ := (exists_leads_suffixSlots_iff ht).1 ⟨n, hslot⟩
    exact ⟨suffix, _, hattaches, hgoes, hfirst, hx⟩
  · rintro ⟨suffix, stem, hattaches, hgoes, hfirst, hx⟩
    obtain ⟨-, -, -, -, rfl⟩ := attachesSuffix_iff.1 hattaches
    obtain ⟨n, hslot⟩ := (exists_leads_suffixSlots_iff ht).2 ⟨hattaches, hgoes, hfirst⟩
    exact ⟨⟨n, suffix⟩, hslot, hx⟩

theorem mem_prefixed_iff_exists_first :
    x ∈ (dictionary.prefixed purpose position word).toList ↔
      ∃ front stem, dictionary.settings.AttachesPrefix front stem word ∧
        dictionary.settings.IsFirstPrefix front stem ∧
          (front.condition.matchesStart stem ∧
              (∃ root ∈ dictionary.lexicon.lookup stem, root.hasFlag front.flag ∧
                { root, front := some front } = x ∧ x.isAllowed purpose position) ∨
            front.cross ∧
              x ∈ (dictionary.suffixed purpose position (some front) stem).toList) := by
  rw [mem_prefixed]
  constructor
  · rintro ⟨⟨n, front⟩, hslot, hx⟩
    obtain ⟨hattaches, hfirst⟩ := (exists_leads_prefixSlots_iff ht).1 ⟨n, hslot⟩
    exact ⟨front, _, hattaches, hfirst, hx⟩
  · rintro ⟨front, stem, hattaches, hfirst, hx⟩
    obtain ⟨-, -, -, rfl⟩ := attachesPrefix_iff.1 hattaches
    obtain ⟨n, hslot⟩ := (exists_leads_prefixSlots_iff ht).2 ⟨hattaches, hfirst⟩
    exact ⟨⟨n, front⟩, hslot, hx⟩

/-! ## What is reported -/

theorem isChosen_of_mem_suffixed (hl : dictionary.lexicon.Built)
    (hx : x ∈ (dictionary.suffixed purpose position none word).toList) :
    x.IsChosen dictionary.settings word := by
  obtain ⟨suffix, stem, hattaches, -, hfirst, hx⟩ := (mem_suffixed_iff_exists_first ht).1 hx
  rcases hx with ⟨root, hroot, -, rfl, -⟩ | ⟨-, hx⟩
  · obtain rfl := hl.stem_eq hroot
    refine ⟨fun _ h ↦ by simp at h, fun _ s hs ↦ ?_, fun _ h ↦ by simp at h⟩
    exact Option.some.inj hs ▸ hfirst
  · obtain ⟨inner, stem', -, -, root, -, -, rfl, -⟩ := (mem_twiceSuffixed ht).1 hx
    refine ⟨fun _ h ↦ by simp at h, fun h ↦ by simp at h, fun s hs ↦ ?_⟩
    obtain ⟨-, -, -, -, rfl⟩ := attachesSuffix_iff.1 hattaches
    exact Option.some.inj hs ▸ hfirst

theorem isChosen_of_mem_prefixed (hl : dictionary.lexicon.Built)
    (hx : x ∈ (dictionary.prefixed purpose position word).toList) :
    x.IsChosen dictionary.settings word := by
  obtain ⟨front, stem, hattaches, hfirst, hx⟩ := (mem_prefixed_iff_exists_first ht).1 hx
  obtain ⟨-, -, -, rfl⟩ := attachesPrefix_iff.1 hattaches
  rcases hx with ⟨-, root, -, -, rfl, -⟩ | ⟨-, hx⟩
  · refine ⟨fun p hp ↦ ?_, fun _ _ h ↦ by simp at h, fun _ h ↦ by simp at h⟩
    exact Option.some.inj hp ▸ hfirst
  · obtain ⟨suffix, stem, -, -, hfirstSuffix, hx⟩ := (mem_suffixed_iff_exists_first ht).1 hx
    obtain ⟨root, hroot, -, rfl, -⟩ := hx.resolve_right fun h ↦ by simp at h
    obtain rfl := hl.stem_eq hroot
    refine ⟨fun p hp ↦ ?_, fun _ s hs ↦ ?_, fun _ h ↦ by simp at h⟩
    · exact Option.some.inj hp ▸ hfirst
    · exact Option.some.inj hs ▸ hfirstSuffix

/-- The search reports the allowed derivations that are chosen, and no others. -/
theorem mem_derivations_iff_isChosen (hl : dictionary.lexicon.Built) :
    x ∈ (dictionary.derivations purpose position word).toList ↔
      x.Builds dictionary word ∧ x.isAllowed purpose position ∧
        x.IsChosen dictionary.settings word := by
  constructor
  · intro hx
    obtain ⟨hbuilds, hallowed, -⟩ := builds_and_isLed_of_mem_derivations hl ht hx
    refine ⟨hbuilds, hallowed, ?_⟩
    rcases mem_derivations.1 hx with hx | hx | hx
    · obtain ⟨root, -, rfl, -⟩ := mem_bare.1 hx
      exact ⟨fun _ h ↦ by simp at h, fun _ _ h ↦ by simp at h, fun _ h ↦ by simp at h⟩
    · exact isChosen_of_mem_suffixed ht hl hx
    · exact isChosen_of_mem_prefixed ht hl hx
  · rintro ⟨hbuilds, hallowed, hchosen⟩
    rw [mem_derivations]
    cases hbuilds with
    | bare hroot => exact Or.inl (mem_bare.2 ⟨_, hroot, rfl, hallowed⟩)
    | suffixed hroot hattaches hflag =>
        refine Or.inr (Or.inl ((mem_suffixed_iff_exists_first ht).2
          ⟨_, _, hattaches, rfl, hchosen.inner rfl _ rfl, Or.inl ⟨_, hroot, ?_, rfl, hallowed⟩⟩))
        simpa [Entry.carries] using hflag
    | twiceSuffixed hroot hinner houter hflag hcont =>
        have hx := (mem_twiceSuffixed ht).2 ⟨_, _, hinner, hcont, _, hroot, hflag, rfl, hallowed⟩
        have hfirst := hchosen.outer _ rfl
        rw [← (attachesSuffix_iff.1 houter).2.2.2.2] at hfirst
        exact Or.inr (Or.inl ((mem_suffixed_iff_exists_first ht).2
          ⟨_, _, houter, rfl, hfirst, Or.inr ⟨rfl, hx⟩⟩))
    | prefixed hroot hattaches hfits hflag =>
        have hfirst := hchosen.front _ rfl
        rw [← (attachesPrefix_iff.1 hattaches).2.2.2] at hfirst
        exact Or.inr (Or.inr ((mem_prefixed_iff_exists_first ht).2
          ⟨_, _, hattaches, hfirst, Or.inl ⟨hfits, _, hroot, hflag, rfl, hallowed⟩⟩))
    | @crossed root front suffix middle _ hroot hsuffix hfront hfits hcrossSuffix hcrossFront
        hflagSuffix hflagFront =>
        have hfirst := hchosen.front _ rfl
        rw [← (attachesPrefix_iff.1 hfront).2.2.2] at hfirst
        have hgoes : suffix.goesWith (some front) root.stem := by
          simp [AffixEntry.goesWith, hcrossSuffix, hfits]
        have hcarries : root.carries (some front) suffix := by
          simpa [Entry.carries] using ⟨hflagSuffix, hflagFront⟩
        have hx := (mem_suffixed_iff_exists_first ht).2 ⟨_, _, hsuffix, hgoes,
          hchosen.inner rfl _ rfl, Or.inl ⟨_, hroot, hcarries, rfl, hallowed⟩⟩
        exact Or.inr (Or.inr ((mem_prefixed_iff_exists_first ht).2
          ⟨_, _, hfront, hfirst, Or.inr ⟨hcrossFront, hx⟩⟩))

end Formed

/-- The suffix `s` by two entries, either of which lets the suffix `t` follow. -/
def stRules : List AffixRule :=
  let s := AffixRule.new .suf 83 true
  let t := AffixRule.new .suf 84 true
  [(s.push (s.entry [] ['s'] ⟨[]⟩ (.ofList [84]) [])).push
      (s.entry [] ['s'] ⟨[.noneOf ['x']]⟩ (.ofList [84]) []),
    t.push (t.entry [] ['t'] ⟨[]⟩ .empty [])]

def stDictionary : Dictionary :=
  { settings := { affixes := .ofRules [] stRules }
    lexicon := Lexicon.empty.add ⟨['a'], .ofList [83], [], []⟩ }

theorem formed_stDictionary : stDictionary.settings.affixes.Formed := by
  refine AffixTable.formed_ofRules (fun _ h ↦ absurd h List.not_mem_nil) fun rule hrule ↦ ?_
  rcases List.mem_cons.1 hrule with rfl | hrule
  · exact ((AffixRule.formed_new .suf 83 true).push _ _ _ _ _).push _ _ _ _ _
  · obtain rfl := List.mem_singleton.1 hrule
    exact (AffixRule.formed_new .suf 84 true).push _ _ _ _ _

end Dictionary
end Orthography
