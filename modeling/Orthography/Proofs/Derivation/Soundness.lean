import Orthography.Proofs.Derivation.Search
import Orthography.Proofs.Lexicon.Lookup

/-!
# Derivations that are found are right

Every derivation that the search lists builds the word and is allowed, and a prefix with a suffix
behind it leads its rule on the form between the two.
-/

namespace Orthography

/-- No earlier entry of the rule casts a shadow on a prefix that is attached to a suffixed form. -/
def Derivation.IsLed (dictionary : Dictionary) (x : Derivation) (word : Text) : Prop :=
  ∀ front, x.front = some front → x.inner.isSome →
    ∃ rule ∈ dictionary.settings.affixes.prefixes,
      rule.Leads (fun other ↦ other.condition.matchesStart (front.stemBehind word)) front

namespace Dictionary

variable {dictionary : Dictionary} {purpose : Purpose} {position : Position} {word middle : Text}
  {x : Derivation}

section Found

variable (hl : dictionary.lexicon.Built)
include hl

theorem builds_of_mem_bare (hx : x ∈ (dictionary.bare purpose position word).toList) :
    x.Builds dictionary word ∧ x.isAllowed purpose position ∧ x.front = none := by
  obtain ⟨root, hroot, rfl, hallowed⟩ := mem_bare.1 hx
  obtain rfl := hl.stem_eq hroot
  exact ⟨.bare hroot, hallowed, rfl⟩

variable (ht : dictionary.settings.affixes.Formed)
include ht

theorem builds_of_mem_twiceSuffixed {outer : AffixEntry}
    (hx : x ∈ (dictionary.twiceSuffixed purpose position outer middle).toList)
    (houter : dictionary.settings.AttachesSuffix outer middle word) :
    x.Builds dictionary word ∧ x.isAllowed purpose position ∧ x.front = none := by
  obtain ⟨inner, stem, hinner, hcont, root, hroot, hflag, rfl, hallowed⟩ :=
    (mem_twiceSuffixed ht).1 hx
  obtain rfl := hl.stem_eq hroot
  exact ⟨.twiceSuffixed hroot hinner houter hflag hcont, hallowed, rfl⟩

theorem builds_of_mem_suffixed
    (hx : x ∈ (dictionary.suffixed purpose position none word).toList) :
    x.Builds dictionary word ∧ x.isAllowed purpose position ∧ x.front = none := by
  obtain ⟨slot, hslot, hx⟩ := mem_suffixed.1 hx
  obtain ⟨_, hattaches, _⟩ := (mem_suffixSlots ht).1 hslot.mem
  rcases hx with ⟨root, hroot, hcarries, rfl, hallowed⟩ | ⟨_, hx⟩
  · have hstem := hl.stem_eq hroot
    rw [← hstem] at hroot hattaches
    exact ⟨.suffixed hroot hattaches (by simpa [Entry.carries] using hcarries), hallowed, rfl⟩
  · exact builds_of_mem_twiceSuffixed hl ht hx hattaches

theorem builds_of_mem_crossed {front : AffixEntry}
    (hx : x ∈ (dictionary.suffixed purpose position (some front) middle).toList)
    (hfront : dictionary.settings.AttachesPrefix front middle word) (hcross : front.cross) :
    x.Builds dictionary word ∧ x.isAllowed purpose position ∧ x.front = some front := by
  obtain ⟨slot, hslot, hx⟩ := mem_suffixed.1 hx
  obtain ⟨_, hattaches, hgoes⟩ := (mem_suffixSlots ht).1 hslot.mem
  obtain ⟨hcrossSuffix, hfits⟩ : slot.entry.cross ∧
      front.condition.matchesStart (slot.entry.stemBefore middle) := by
    simpa [AffixEntry.goesWith] using hgoes
  obtain ⟨root, hroot, hcarries, rfl, hallowed⟩ := hx.resolve_right fun h ↦ by simp at h
  obtain ⟨hflagSuffix, hflagFront⟩ : (root.hasFlag slot.entry.flag ∨
      front.hasContFlag slot.entry.flag) ∧
        (root.hasFlag front.flag ∨ slot.entry.hasContFlag front.flag) := by
    simpa [Entry.carries] using hcarries
  have hstem := hl.stem_eq hroot
  rw [← hstem] at hroot hattaches hfits
  exact ⟨.crossed hroot hattaches hfront hfits hcrossSuffix hcross hflagSuffix hflagFront,
    hallowed, rfl⟩

theorem builds_of_mem_prefixed (hx : x ∈ (dictionary.prefixed purpose position word).toList) :
    x.Builds dictionary word ∧ x.isAllowed purpose position ∧ x.IsLed dictionary word := by
  obtain ⟨slot, hslot, hx⟩ := mem_prefixed.1 hx
  obtain ⟨_, hattaches⟩ := (mem_prefixSlots ht).1 hslot.mem
  rcases hx with ⟨hfits, root, hroot, hflag, rfl, hallowed⟩ | ⟨hcross, hx⟩
  · have hstem := hl.stem_eq hroot
    rw [← hstem] at hroot hattaches hfits
    exact ⟨.prefixed hroot hattaches hfits hflag, hallowed, fun _ _ h ↦ by simp at h⟩
  · obtain ⟨hbuilds, hallowed, hfront⟩ := builds_of_mem_crossed hl ht hx hattaches hcross
    refine ⟨hbuilds, hallowed, fun front h _ ↦ ?_⟩
    obtain rfl : slot.entry = front := Option.some.inj (hfront.symm.trans h)
    obtain ⟨rule, hget, hleads⟩ := (leads_prefixSlots ht hslot.mem).1 hslot
    exact ⟨rule, List.mem_of_getElem? hget, hleads⟩

theorem builds_and_isLed_of_mem_derivations
    (hx : x ∈ (dictionary.derivations purpose position word).toList) :
    x.Builds dictionary word ∧ x.isAllowed purpose position ∧ x.IsLed dictionary word := by
  rcases mem_derivations.1 hx with hx | hx | hx
  · obtain ⟨hbuilds, hallowed, hfront⟩ := builds_of_mem_bare hl hx
    exact ⟨hbuilds, hallowed, fun front h ↦ by simp [hfront] at h⟩
  · obtain ⟨hbuilds, hallowed, hfront⟩ := builds_of_mem_suffixed hl ht hx
    exact ⟨hbuilds, hallowed, fun front h ↦ by simp [hfront] at h⟩
  · exact builds_of_mem_prefixed hl ht hx

/-- Every derivation that is found for a word builds it, and is allowed where it was looked for. -/
theorem builds_of_mem_derivations
    (hx : x ∈ (dictionary.derivations purpose position word).toList) :
    x.Builds dictionary word ∧ x.isAllowed purpose position := by
  obtain ⟨hbuilds, hallowed, -⟩ := builds_and_isLed_of_mem_derivations hl ht hx
  exact ⟨hbuilds, hallowed⟩

end Found

/-! ## A small dictionary -/

/-- The prefix `un` before forms that start with one of some texts, each by an entry of its own. -/
def unRule (starts : List Text) : AffixRule :=
  starts.foldl (fun rule start ↦
    rule.push (rule.entry [] ['u', 'n'] ⟨start.map .exactly⟩ .empty [])) (.new .pre 80 true)

/-- The suffix `add` in the place of a final `strip`. -/
def suffixRule (strip add : Text) : AffixRule :=
  let rule := AffixRule.new .suf 83 true
  rule.push (rule.entry strip add ⟨[]⟩ .empty [])

def ayDictionary (starts : List Text) : Dictionary :=
  { settings := { affixes := .ofRules [unRule starts] [suffixRule ['y'] ['i', 'e', 's']] }
    lexicon := Lexicon.empty.add ⟨['a', 'y'], .ofList [80, 83], [], []⟩ }

theorem formed_unRule (starts : List Text) : (unRule starts).Formed :=
  List.foldlRecOn starts _ (AffixRule.formed_new .pre 80 true)
    fun _ h _ _ ↦ h.push _ _ _ _ _

theorem formed_suffixRule (strip add : Text) : (suffixRule strip add).Formed :=
  (AffixRule.formed_new .suf 83 true).push _ _ _ _ _

theorem formed_ofRules_suffixRule (strip add : Text) :
    (AffixTable.ofRules [] [suffixRule strip add]).Formed := by
  refine AffixTable.formed_ofRules (fun _ h ↦ absurd h List.not_mem_nil) fun rule hrule ↦ ?_
  obtain rfl := List.mem_singleton.1 hrule
  exact formed_suffixRule strip add

theorem marks_of_mem_unRule (starts : List Text) :
    ∀ entry ∈ (unRule starts).entries, entry.marks = [] := by
  refine List.foldlRecOn (motive := fun rule : AffixRule ↦ ∀ entry ∈ rule.entries, entry.marks = [])
    starts _ (fun _ h ↦ absurd h List.not_mem_nil) fun rule h _ _ entry hentry ↦ ?_
  rcases AffixRule.mem_push.1 hentry with hentry | rfl
  · exact h entry hentry
  · rfl

theorem built_ayDictionary (starts : List Text) : (ayDictionary starts).lexicon.Built :=
  .add _ .empty

theorem formed_ayDictionary (starts : List Text) :
    (ayDictionary starts).settings.affixes.Formed := by
  refine AffixTable.formed_ofRules ?_ ?_
  · intro rule hrule
    obtain rfl := List.mem_singleton.1 hrule
    exact formed_unRule starts
  · intro rule hrule
    obtain rfl := List.mem_singleton.1 hrule
    exact formed_suffixRule _ _

theorem marked_ayDictionary (starts : List Text) :
    (ayDictionary starts).settings.affixes.Marked (ayDictionary starts).settings.roles := by
  have hmarks (flags : FlagSet) : Roles.none.marks flags = [] :=
    List.filter_eq_nil_iff.2 fun _ _ ↦ Bool.false_ne_true
  intro rule hrule entry hentry
  refine Eq.trans ?_ (hmarks entry.contFlags).symm
  rcases List.mem_append.1 hrule with hrule | hrule
  · obtain rfl := List.mem_singleton.1 hrule
    exact marks_of_mem_unRule starts entry hentry
  · obtain rfl := List.mem_singleton.1 hrule
    obtain rfl := List.mem_singleton.1 hentry
    rfl

/-- The word `unaies` is found with its prefix and its suffix. -/
theorem builds_unaies :
    let dictionary := ayDictionary [['a', 'y'], ['a', 'i']]
    ∃ x ∈ (dictionary.derivations {} .alone ['u', 'n', 'a', 'i', 'e', 's']).toList,
      x.front.isSome ∧ x.inner.isSome ∧
        x.Builds dictionary ['u', 'n', 'a', 'i', 'e', 's'] ∧ x.isAllowed {} .alone := by
  intro dictionary
  have hfound : ∃ x ∈ (dictionary.derivations {} .alone ['u', 'n', 'a', 'i', 'e', 's']).toList,
      x.front.isSome ∧ x.inner.isSome := by decide +kernel
  obtain ⟨x, hx, hfront, hinner⟩ := hfound
  exact ⟨x, hx, hfront, hinner,
    builds_of_mem_derivations (built_ayDictionary _) (formed_ayDictionary _) hx⟩

end Dictionary
end Orthography
