import Orthography.Affix.Table
import Orthography.Proofs.Affix.Trie
import Orthography.Proofs.Text.Bytes

/-!
# Affix tables as lists of rules

A table that is formed holds rules whose entries have the head of their rule, and its two indexes
are those of these rules.  Looking up a word in such a table is the same as going through the
entries in the order of declaration and taking those whose letters fit.
-/

namespace Orthography

namespace AffixRule

/-- Every entry has the head of its rule. -/
def Formed (rule : AffixRule) : Prop :=
  ∀ entry ∈ rule.entries,
    entry.flag = rule.flag ∧ entry.kind = rule.kind ∧ entry.cross = rule.cross

theorem mem_push {rule : AffixRule} {entry new : AffixEntry} :
    entry ∈ (rule.push new).entries ↔ entry ∈ rule.entries ∨ entry = new := by
  simp [push]

theorem formed_new (kind : AffixKind) (flag : Flag) (cross : Bool) : (new kind flag cross).Formed :=
  fun _ h ↦ absurd h List.not_mem_nil

theorem Formed.push {rule : AffixRule} (h : rule.Formed) (strip add : Text) (condition : Condition)
    (contFlags : FlagSet) (morph : List MorphField) :
    (rule.push (rule.entry strip add condition contFlags morph)).Formed := by
  intro entry hentry
  rcases mem_push.1 hentry with hentry | rfl
  · exact h entry hentry
  · exact ⟨rfl, rfl, rfl⟩

theorem Formed.withMarks {rule : AffixRule} (h : rule.Formed) (roles : Roles) :
    (rule.withMarks roles).Formed := by
  intro entry hentry
  obtain ⟨original, horiginal, rfl⟩ := List.mem_map.1 hentry
  exact h original horiginal

end AffixRule

namespace Slot

/-- The entries of some rules in the order of declaration. -/
def ofRules (rules : List AffixRule) : List Slot :=
  rules.zipIdx.flatMap fun (rule, n) ↦ rule.entries.map fun entry ↦ ⟨n, entry⟩

theorem mem_ofRules {rules : List AffixRule} {slot : Slot} :
    slot ∈ ofRules rules ↔ ∃ rule, rules[slot.rule]? = some rule ∧ slot.entry ∈ rule.entries := by
  obtain ⟨n, entry⟩ := slot
  simp only [ofRules, List.mem_flatMap, List.mem_map, Prod.exists, List.mem_zipIdx_iff_getElem?,
    Slot.mk.injEq]
  constructor
  · rintro ⟨rule, m, hrule, _, hentry, rfl, rfl⟩
    exact ⟨rule, hrule, hentry⟩
  · rintro ⟨rule, hrule, hentry⟩
    exact ⟨rule, n, hrule, entry, hentry, rfl, rfl⟩

theorem exists_mem_ofRules {rules : List AffixRule} {entry : AffixEntry} :
    (∃ n, ⟨n, entry⟩ ∈ ofRules rules) ↔ ∃ rule ∈ rules, entry ∈ rule.entries := by
  simp only [mem_ofRules]
  constructor
  · rintro ⟨n, rule, hrule, hentry⟩
    exact ⟨rule, List.mem_of_getElem? hrule, hentry⟩
  · rintro ⟨rule, hrule, hentry⟩
    obtain ⟨n, hn⟩ := List.getElem?_of_mem hrule
    exact ⟨n, rule, hn, hentry⟩

theorem exists_rule_of_at? {rules : List AffixRule} {ref : EntryRef} {slot : Slot}
    (h : at? rules ref = some slot) : ∃ rule ∈ rules, slot.entry ∈ rule.entries := by
  obtain ⟨entry, hentry, rfl⟩ := Option.map_eq_some_iff.1 h
  obtain ⟨rule, hrule, hentry⟩ := Option.bind_eq_some_iff.1 hentry
  exact ⟨rule, List.mem_of_getElem? hrule, List.mem_of_getElem? hentry⟩

/-- The entries of some rules, numbered from `k` on. -/
def numberedFrom (k : Nat) (rules : List AffixRule) : List Slot :=
  (rules.zipIdx k).flatMap fun pair ↦ pair.1.entries.map (mk pair.2)

theorem ofRules_eq (rules : List AffixRule) : ofRules rules = numberedFrom 0 rules := rfl

theorem numberedFrom_cons (k : Nat) (rule : AffixRule) (rules : List AffixRule) :
    numberedFrom k (rule :: rules) = rule.entries.map (mk k) ++ numberedFrom (k + 1) rules := by
  rw [numberedFrom, List.zipIdx_cons, List.flatMap_cons]
  rfl

theorem le_of_mem_numberedFrom {k : Nat} {rules : List AffixRule} {slot : Slot}
    (h : slot ∈ numberedFrom k rules) : k ≤ slot.rule := by
  obtain ⟨⟨rule, n⟩, hn, hslot⟩ := List.mem_flatMap.1 h
  obtain ⟨entry, -, rfl⟩ := List.mem_map.1 hslot
  exact List.le_snd_of_mem_zipIdx hn

theorem filter_numberedFrom {rules : List AffixRule} {k n : Nat} {rule : AffixRule}
    (h : rules[n]? = some rule) :
    (numberedFrom k rules).filter (·.rule == k + n) = rule.entries.map (mk (k + n)) := by
  induction rules generalizing k n with
  | nil => simp at h
  | cons first rules ih =>
      rw [numberedFrom_cons, List.filter_append]
      cases n with
      | zero =>
          obtain rfl : first = rule := by simpa using h
          have hrest : (numberedFrom (k + 1) rules).filter (·.rule == k + 0) = [] := by
            refine List.filter_eq_nil_iff.2 fun slot hslot ↦ ?_
            have hle := le_of_mem_numberedFrom hslot
            simp only [beq_iff_eq]
            omega
          rw [hrest, List.append_nil]
          exact List.filter_eq_self.2 (by simp)
      | succ n =>
          have hfirst : (first.entries.map (mk k)).filter (·.rule == k + (n + 1)) = [] :=
            List.filter_eq_nil_iff.2 (by simp)
          have hnumber : k + (n + 1) = k + 1 + n := by omega
          rw [hfirst, List.nil_append, hnumber]
          exact ih (by simpa using h)

/-- The slots of one rule are its entries in order. -/
theorem filter_ofRules {rules : List AffixRule} {n : Nat} {rule : AffixRule}
    (h : rules[n]? = some rule) :
    (ofRules rules).filter (·.rule == n) = rule.entries.map (mk n) := by
  have key := filter_numberedFrom (k := 0) h
  rw [Nat.zero_add] at key
  rw [ofRules_eq]
  exact key

end Slot

/-! ## References -/

namespace EntryRef

/-- What stands at a place, with the number of the rule. -/
def toSlot (place : EntryRef × AffixEntry) : Slot := ⟨place.1.rule, place.2⟩

theorem map_toSlot_ofRules (rules : List AffixRule) :
    (ofRules rules).map toSlot = Slot.ofRules rules := by
  rw [ofRules, Slot.ofRules, List.map_flatMap]
  refine congrArg (List.flatMap · rules.zipIdx) (funext fun pair ↦ ?_)
  obtain ⟨rule, r⟩ := pair
  change (rule.entries.zipIdx.map _).map toSlot = rule.entries.map (Slot.mk r)
  conv_rhs => rw [← List.zipIdx_map_fst 0 rule.entries, List.map_map]
  rw [List.map_map]
  rfl

/-- References lead to the entries that they were made for. -/
theorem mem_ofRules {rules : List AffixRule} {place : EntryRef × AffixEntry} :
    place ∈ ofRules rules ↔ Slot.at? rules place.1 = some (toSlot place) := by
  obtain ⟨⟨r, e⟩, entry⟩ := place
  simp only [ofRules, toSlot, Slot.at?, List.mem_flatMap, List.mem_map, Prod.exists,
    List.mem_zipIdx_iff_getElem?, Option.map_eq_some_iff, Option.bind_eq_some_iff, Prod.mk.injEq,
    EntryRef.mk.injEq, Slot.mk.injEq, true_and]
  constructor
  · rintro ⟨rule, _, hrule, _, _, hentry, ⟨rfl, rfl⟩, rfl⟩
    exact ⟨_, ⟨rule, hrule, hentry⟩, rfl⟩
  · rintro ⟨_, ⟨rule, hrule, hentry⟩, rfl⟩
    exact ⟨rule, r, hrule, _, e, hentry, ⟨rfl, rfl⟩, rfl⟩

theorem filterMap_at? {rules : List AffixRule} {places : List (EntryRef × AffixEntry)}
    (h : places ⊆ ofRules rules) :
    (places.map (·.1)).filterMap (Slot.at? rules) = places.map toSlot := by
  rw [List.filterMap_map, ← List.filterMap_eq_map]
  exact List.filterMap_congr fun place hplace ↦ mem_ofRules.1 (h hplace)

/-- The places of the entries whose letters, as they are spelled for a walk, begin a word, in the
order of the walk. -/
def walked (spell : Text → List UInt8) (rules : List AffixRule) (word : List UInt8) :
    List (EntryRef × AffixEntry) :=
  Trie.inWalkOrder (fun place ↦ spell place.2.add) (ofRules rules) word

section Walked

variable {spell : Text → List UInt8} {rules : List AffixRule} {word : List UInt8}

theorem mem_walked {place : EntryRef × AffixEntry} :
    place ∈ walked spell rules word ↔ place ∈ ofRules rules ∧ spell place.2.add <+: word :=
  Trie.mem_inWalkOrder

theorem filterMap_at?_walked :
    ((walked spell rules word).map (·.1)).filterMap (Slot.at? rules) =
      (walked spell rules word).map toSlot :=
  filterMap_at? fun _ h ↦ (mem_walked.1 h).1

theorem mem_map_toSlot_walked {slot : Slot} :
    slot ∈ (walked spell rules word).map toSlot ↔
      slot ∈ Slot.ofRules rules ∧ spell slot.entry.add <+: word := by
  simp only [← map_toSlot_ofRules, List.mem_map, mem_walked]
  constructor
  · rintro ⟨place, ⟨hplace, hadd⟩, rfl⟩
    exact ⟨⟨place, hplace, rfl⟩, hadd⟩
  · rintro ⟨⟨place, hplace, rfl⟩, hadd⟩
    exact ⟨place, ⟨hplace, hadd⟩, rfl⟩

theorem filter_map_toSlot_walked {add : Text} (hadd : spell add <+: word) {p : Slot → Bool}
    (hp : ∀ slot, p slot → slot.entry.add = add) :
    ((walked spell rules word).map toSlot).filter p = (Slot.ofRules rules).filter p := by
  have hplace (place : EntryRef × AffixEntry) (h : (p ∘ toSlot) place) :
      spell place.2.add = spell add := congrArg spell (hp _ h)
  rw [← map_toSlot_ofRules, List.filter_map, List.filter_map, walked,
    Trie.filter_inWalkOrder hadd hplace]

end Walked

theorem ofRules_map_withMarks (roles : Roles) (rules : List AffixRule) :
    ofRules (rules.map (.withMarks roles)) =
      (ofRules rules).map fun place ↦ (place.1, place.2.withMarks roles) := by
  simp [ofRules, AffixRule.withMarks, List.zipIdx_map, List.flatMap_map, List.map_flatMap,
    Function.comp_def]

end EntryRef

namespace AffixTable

/-- The indexes are those of the rules, and the rules are formed. -/
structure Formed (table : AffixTable) : Prop where
  indexed : table = ofRules table.prefixes table.suffixes
  prefixes : ∀ rule ∈ table.prefixes, rule.Formed
  suffixes : ∀ rule ∈ table.suffixes, rule.Formed

/-- The marks of every entry are those that its continuation flags give. -/
def Marked (roles : Roles) (table : AffixTable) : Prop :=
  ∀ rule ∈ table.prefixes ++ table.suffixes, ∀ entry ∈ rule.entries,
    entry.marks = roles.marks entry.contFlags

theorem formed_ofRules {prefixes suffixes : List AffixRule} (hp : ∀ rule ∈ prefixes, rule.Formed)
    (hs : ∀ rule ∈ suffixes, rule.Formed) : (ofRules prefixes suffixes).Formed :=
  ⟨rfl, hp, hs⟩

theorem withMarks_ofRules (roles : Roles) (prefixes suffixes : List AffixRule) :
    (ofRules prefixes suffixes).withMarks roles =
      ofRules (prefixes.map (.withMarks roles)) (suffixes.map (.withMarks roles)) := by
  simp only [ofRules, withMarks, EntryRef.ofRules_map_withMarks, List.foldl_map, List.filterMap_map,
    List.any_map]
  rfl

theorem Formed.withMarks {table : AffixTable} (h : table.Formed) (roles : Roles) :
    (table.withMarks roles).Formed := by
  rw [h.indexed, withMarks_ofRules]
  refine formed_ofRules ?_ ?_
  · intro rule hrule
    obtain ⟨original, horiginal, rfl⟩ := List.mem_map.1 hrule
    exact (h.prefixes original horiginal).withMarks roles
  · intro rule hrule
    obtain ⟨original, horiginal, rfl⟩ := List.mem_map.1 hrule
    exact (h.suffixes original horiginal).withMarks roles

theorem marked_withMarks (roles : Roles) (table : AffixTable) :
    (table.withMarks roles).Marked roles := by
  intro rule hrule entry hentry
  change rule ∈ table.prefixes.map _ ++ table.suffixes.map _ at hrule
  rw [← List.map_append] at hrule
  obtain ⟨original, _, rfl⟩ := List.mem_map.1 hrule
  obtain ⟨bare, _, rfl⟩ := List.mem_map.1 hentry
  rfl

/-! ## Looking up a word -/

section Walks

variable (prefixes suffixes : List AffixRule) (word : Text)

theorem prefixRefs_ofRules :
    (ofRules prefixes suffixes).prefixRefs word =
      (EntryRef.walked Text.bytes prefixes (Text.bytes word)).map (·.1) :=
  Trie.along_foldl_insert _ _ _ _

theorem suffixRefs_ofRules :
    (ofRules prefixes suffixes).suffixRefs word =
      (EntryRef.walked (fun add ↦ (Text.bytes add).reverse) suffixes
        (Text.bytes word).reverse).map (·.1) :=
  Trie.along_foldl_insert _ _ _ _

theorem prefixesOf_ofRules :
    (ofRules prefixes suffixes).prefixesOf word =
      (EntryRef.walked Text.bytes prefixes (Text.bytes word)).map EntryRef.toSlot := by
  rw [prefixesOf, prefixRefs_ofRules]
  exact EntryRef.filterMap_at?_walked

theorem suffixesOf_ofRules :
    (ofRules prefixes suffixes).suffixesOf word =
      (EntryRef.walked (fun add ↦ (Text.bytes add).reverse) suffixes
        (Text.bytes word).reverse).map EntryRef.toSlot := by
  rw [suffixesOf, suffixRefs_ofRules]
  exact EntryRef.filterMap_at?_walked

end Walks

section Lookup

variable {table : AffixTable} {word : Text}

variable (h : table.Formed)
include h

theorem mem_prefixesOf {slot : Slot} :
    slot ∈ table.prefixesOf word ↔
      slot ∈ Slot.ofRules table.prefixes ∧ slot.entry.add <+: word := by
  rw [h.indexed, prefixesOf_ofRules, EntryRef.mem_map_toSlot_walked, Text.bytes_prefix_iff]
  rfl

theorem mem_suffixesOf {slot : Slot} :
    slot ∈ table.suffixesOf word ↔
      slot ∈ Slot.ofRules table.suffixes ∧ slot.entry.add <:+ word := by
  rw [h.indexed, suffixesOf_ofRules, EntryRef.mem_map_toSlot_walked, List.reverse_prefix,
    Text.bytes_suffix_iff]
  rfl

theorem mayBegin_iff {c : Char} :
    table.mayBegin c ↔ ∃ rule ∈ table.prefixes, ∃ entry ∈ rule.entries,
      entry.add = [] ∨ entry.add.head? = some c := by
  have hslots : table.mayBegin c ↔ ∃ slot ∈ Slot.ofRules table.prefixes,
      slot.entry.add = [] ∨ slot.entry.add.head? = some c := by
    rw [h.indexed, ← EntryRef.map_toSlot_ofRules]
    simp only [mayBegin, ofRules, Bool.or_eq_true, List.any_eq_true, List.isEmpty_iff,
      List.contains_iff_mem, List.mem_filterMap, ← exists_or, ← and_or_left, List.mem_map,
      exists_exists_and_eq_and, EntryRef.toSlot]
  rw [hslots]
  constructor
  · rintro ⟨⟨n, entry⟩, hslot, hadd⟩
    obtain ⟨rule, hrule, hentry⟩ := Slot.exists_mem_ofRules.1 ⟨n, hslot⟩
    exact ⟨rule, hrule, entry, hentry, hadd⟩
  · rintro ⟨rule, hrule, entry, hentry, hadd⟩
    obtain ⟨n, hslot⟩ := Slot.exists_mem_ofRules.2 ⟨rule, hrule, hentry⟩
    exact ⟨⟨n, entry⟩, hslot, hadd⟩

/-- The prefix entries with letters that begin a word are found in the order of declaration. -/
theorem filter_prefixesOf {add : Text} (hadd : add <+: word) {p : Slot → Bool}
    (hp : ∀ slot, p slot → slot.entry.add = add) :
    (table.prefixesOf word).filter p = (Slot.ofRules table.prefixes).filter p := by
  rw [h.indexed, prefixesOf_ofRules]
  exact EntryRef.filter_map_toSlot_walked (Text.bytes_prefix_iff.2 hadd) hp

theorem filter_suffixesOf {add : Text} (hadd : add <:+ word) {p : Slot → Bool}
    (hp : ∀ slot, p slot → slot.entry.add = add) :
    (table.suffixesOf word).filter p = (Slot.ofRules table.suffixes).filter p := by
  rw [h.indexed, suffixesOf_ofRules]
  exact EntryRef.filter_map_toSlot_walked
    (List.reverse_prefix.2 (Text.bytes_suffix_iff.2 hadd)) hp

end Lookup

end AffixTable
end Orthography
