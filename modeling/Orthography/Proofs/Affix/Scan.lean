import Mathlib.Data.List.Forall2
import Orthography.Proofs.Affix.Table
import Orthography.Proofs.Text.Place

/-!
# The indexes find what a scan would find

Going through all entries of some rules one after another finds those whose letters begin or end a
word.  The indexes of a table find the same ones, sorted by the number of bytes, and taking the
letters off a word never cuts through a character.
-/

namespace Orthography

namespace EntryRef

/-- Declared earlier: in an earlier rule, or earlier in the same one. -/
def IsBefore (a b : EntryRef) : Prop :=
  a.rule < b.rule ∨ a.rule = b.rule ∧ a.entry < b.entry

def PointsTo (rules : List AffixRule) (ref : EntryRef) (slot : Slot) : Prop :=
  slot.rule = ref.rule ∧
    ∃ rule, rules[ref.rule]? = some rule ∧ rule.entries[ref.entry]? = some slot.entry

/-- The places that a scan of some rules finds, with the entries that stand there: those of all
entries whose letters fit, each once, by the number of bytes of the letters and as declared. -/
structure IsScan (rules : List AffixRule) (fits : Text → Prop) (refs : List EntryRef)
    (slots : List Slot) : Prop where
  mem_iff : ∀ ref, ref ∈ refs ↔ ∃ slot, ref.PointsTo rules slot ∧ fits slot.entry.add
  nodup : refs.Nodup
  pointsTo : List.Forall₂ (PointsTo rules) refs slots
  ordered : refs.Pairwise fun a b ↦ ∀ s t, a.PointsTo rules s → b.PointsTo rules t →
    Text.byteSize s.entry.add < Text.byteSize t.entry.add ∨
      s.entry.add = t.entry.add ∧ a.IsBefore b

theorem IsBefore.ne {a b : EntryRef} (h : a.IsBefore b) : a ≠ b := by
  rintro rfl
  rcases h with h | ⟨-, h⟩
  · exact Nat.lt_irrefl _ h
  · exact Nat.lt_irrefl _ h

variable {rules : List AffixRule}

theorem at?_eq_some_iff {ref : EntryRef} {slot : Slot} :
    Slot.at? rules ref = some slot ↔ ref.PointsTo rules slot := by
  obtain ⟨r, entry⟩ := slot
  simp only [Slot.at?, PointsTo, Option.map_eq_some_iff, Option.bind_eq_some_iff, Slot.mk.injEq]
  constructor
  · rintro ⟨entry, ⟨rule, hrule, hentry⟩, rfl, rfl⟩
    exact ⟨rfl, rule, hrule, hentry⟩
  · rintro ⟨rfl, rule, hrule, hentry⟩
    exact ⟨entry, ⟨rule, hrule, hentry⟩, rfl, rfl⟩

theorem pointsTo_toSlot {place : EntryRef × AffixEntry} (h : place ∈ ofRules rules) :
    place.1.PointsTo rules (toSlot place) :=
  at?_eq_some_iff.1 (mem_ofRules.1 h)

theorem PointsTo.unique {ref : EntryRef} {s t : Slot} (hs : ref.PointsTo rules s)
    (ht : ref.PointsTo rules t) : s = t := by
  rw [← at?_eq_some_iff] at hs ht
  exact Option.some.inj (hs.symm.trans ht)

theorem pairwise_snd_zipIdx {β : Type} (l : List β) :
    l.zipIdx.Pairwise fun a b ↦ a.2 < b.2 := by
  have hnumbers : (l.zipIdx.map (·.2)).Pairwise (· < ·) := by
    rw [List.zipIdx_map_snd]
    exact List.pairwise_lt_range'
  exact List.pairwise_map.1 hnumbers

theorem pairwise_ofRules (rules : List AffixRule) :
    (ofRules rules).Pairwise fun a b ↦ a.1.IsBefore b.1 := by
  apply List.pairwise_flatMap.2
  constructor
  · intro pair _
    apply List.pairwise_map.2
    apply (pairwise_snd_zipIdx pair.1.entries).imp
    intro a b hlt
    exact Or.inr ⟨rfl, hlt⟩
  · apply (pairwise_snd_zipIdx rules).imp
    intro a b hlt x hx y hy
    obtain ⟨_, _, rfl⟩ := List.mem_map.1 hx
    obtain ⟨_, _, rfl⟩ := List.mem_map.1 hy
    exact Or.inl hlt

/-- A walk is a scan if the spelling tells letters apart, has their size, and begins the spelled word
just if the letters fit. -/
theorem isScan_walked {spell : Text → List UInt8} {word : List UInt8} {fits : Text → Prop}
    (hspell : Function.Injective spell)
    (hsize : ∀ add, (spell add).length = Text.byteSize add)
    (hfits : ∀ add, spell add <+: word ↔ fits add) :
    IsScan rules fits ((walked spell rules word).map (·.1))
      ((walked spell rules word).map toSlot) := by
  have hordered : (walked spell rules word).Pairwise fun a b ↦
      (spell a.2.add).length < (spell b.2.add).length ∨
        spell a.2.add = spell b.2.add ∧ a.1.IsBefore b.1 :=
    Trie.pairwise_inWalkOrder (pairwise_ofRules rules)
  constructor
  · intro ref
    simp only [List.mem_map, mem_walked, hfits]
    constructor
    · rintro ⟨place, ⟨hplace, hadd⟩, rfl⟩
      exact ⟨toSlot place, pointsTo_toSlot hplace, hadd⟩
    · rintro ⟨slot, hslot, hadd⟩
      refine ⟨(ref, slot.entry), ⟨mem_ofRules.2 ?_, hadd⟩, rfl⟩
      rw [at?_eq_some_iff.2 hslot, toSlot, ← hslot.1]
  · apply List.pairwise_map.2
    apply hordered.imp_of_mem
    intro a b ha hb hab heq
    have hslot : toSlot a = toSlot b := (pointsTo_toSlot (mem_walked.1 ha).1).unique
      (heq ▸ pointsTo_toSlot (mem_walked.1 hb).1)
    rcases hab with hlt | ⟨-, hbefore⟩
    · have hentry : a.2 = b.2 := congrArg Slot.entry hslot
      rw [hentry] at hlt
      exact Nat.lt_irrefl _ hlt
    · exact hbefore.ne heq
  · rw [List.forall₂_map_left_iff, List.forall₂_map_right_iff, List.forall₂_same]
    intro place hplace
    exact pointsTo_toSlot (mem_walked.1 hplace).1
  · apply List.pairwise_map.2
    apply hordered.imp_of_mem
    intro a b ha hb hab s t hs ht
    obtain rfl := hs.unique (pointsTo_toSlot (mem_walked.1 ha).1)
    obtain rfl := ht.unique (pointsTo_toSlot (mem_walked.1 hb).1)
    rw [hsize, hsize] at hab
    exact hab.imp_right fun h ↦ ⟨hspell h.1, h.2⟩

end EntryRef

namespace AffixTable

/-- What the indexes of some rules find for a word is what a scan finds.  The letters of the entries
end, or begin, at the boundary of a character. -/
theorem isScan_ofRules (prefixes suffixes : List AffixRule) (word : Text) :
    (EntryRef.IsScan prefixes (· <+: word) ((ofRules prefixes suffixes).prefixRefs word)
        ((ofRules prefixes suffixes).prefixesOf word) ∧
      ∀ slot ∈ (ofRules prefixes suffixes).prefixesOf word,
        Text.IsBoundary word (Text.byteSize slot.entry.add)) ∧
      EntryRef.IsScan suffixes (· <:+ word) ((ofRules prefixes suffixes).suffixRefs word)
          ((ofRules prefixes suffixes).suffixesOf word) ∧
        ∀ slot ∈ (ofRules prefixes suffixes).suffixesOf word,
          ∃ n, n + Text.byteSize slot.entry.add = Text.byteSize word ∧ Text.IsBoundary word n := by
  refine ⟨⟨?_, fun slot hslot ↦ ?_⟩, ?_, fun slot hslot ↦ ?_⟩
  · rw [prefixRefs_ofRules, prefixesOf_ofRules]
    apply EntryRef.isScan_walked
    · intro a b h
      exact Text.bytes_inj.1 h
    · exact Text.length_bytes
    · intro add
      exact Text.bytes_prefix_iff
  · rw [prefixesOf_ofRules, EntryRef.mem_map_toSlot_walked, Text.bytes_prefix_iff] at hslot
    obtain ⟨-, rest, rfl⟩ := hslot
    exact ⟨slot.entry.add, rest, rfl, rfl⟩
  · rw [suffixRefs_ofRules, suffixesOf_ofRules]
    apply EntryRef.isScan_walked
    · intro a b h
      exact Text.bytes_inj.1 (List.reverse_injective h)
    · intro add
      rw [List.length_reverse, Text.length_bytes]
    · intro add
      rw [List.reverse_prefix, Text.bytes_suffix_iff]
  · rw [suffixesOf_ofRules, EntryRef.mem_map_toSlot_walked, List.reverse_prefix,
      Text.bytes_suffix_iff] at hslot
    obtain ⟨-, rest, rfl⟩ := hslot
    exact ⟨Text.byteSize rest, (Text.byteSize_append _ _).symm, rest, slot.entry.add, rfl, rfl⟩

end AffixTable
end Orthography
