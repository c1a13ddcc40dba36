import Orthography.Derivation.Search
import Orthography.Proofs.Affix.Table

/-!
# What a derivation builds

A derivation says how a word is made, whatever way it was found: each affix replaces the `strip` at
one end of a form by its `add`.  `Derivation.Builds` tells the five shapes apart, with what each of
them asks of conditions and flags.
-/

namespace Orthography

/-- An entry of one of some rules, with the head of its rule. -/
def AffixEntry.IsDeclaredIn (rules : List AffixRule) (entry : AffixEntry) : Prop :=
  ∃ rule ∈ rules, entry ∈ rule.entries ∧ entry.flag = rule.flag ∧ entry.cross = rule.cross

namespace Settings

variable (settings : Settings)

/-- A suffix makes a word of a form.  Its condition holds at the end of the form, and something of
the form stays unless an affix may replace the whole. -/
structure AttachesSuffix (suffix : AffixEntry) (form word : Text) : Prop where
  declared : suffix.IsDeclaredIn settings.affixes.suffixes
  fits : suffix.condition.matchesEnd form
  swaps : ∃ rest, form = rest ++ suffix.strip ∧ word = rest ++ suffix.add ∧
    (rest ≠ [] ∨ settings.fullStrip)

/-- A prefix makes a word of a form.  Its condition is asked of the root, which is another form if
there is a suffix too. -/
structure AttachesPrefix (front : AffixEntry) (form word : Text) : Prop where
  declared : front.IsDeclaredIn settings.affixes.prefixes
  swaps : ∃ rest, form = front.strip ++ rest ∧ word = front.add ++ rest ∧
    (rest ≠ [] ∨ settings.fullStrip)

end Settings

/-- The word that a derivation builds, by its shape. -/
inductive Derivation.Builds (dictionary : Dictionary) : Derivation → Text → Prop
  | bare {root : Entry} (entry : root ∈ dictionary.lexicon.lookup root.stem) :
      Builds dictionary { root } root.stem
  | suffixed {root : Entry} {suffix : AffixEntry} {word : Text}
      (entry : root ∈ dictionary.lexicon.lookup root.stem)
      (attaches : dictionary.settings.AttachesSuffix suffix root.stem word)
      (flag : root.hasFlag suffix.flag) :
      Builds dictionary { root, inner := some suffix } word
  | twiceSuffixed {root : Entry} {inner outer : AffixEntry} {middle word : Text}
      (entry : root ∈ dictionary.lexicon.lookup root.stem)
      (attachesInner : dictionary.settings.AttachesSuffix inner root.stem middle)
      (attachesOuter : dictionary.settings.AttachesSuffix outer middle word)
      (flag : root.hasFlag inner.flag) (contFlag : inner.hasContFlag outer.flag) :
      Builds dictionary { root, inner := some inner, outer := some outer } word
  | prefixed {root : Entry} {front : AffixEntry} {word : Text}
      (entry : root ∈ dictionary.lexicon.lookup root.stem)
      (attaches : dictionary.settings.AttachesPrefix front root.stem word)
      (fits : front.condition.matchesStart root.stem)
      (flag : root.hasFlag front.flag) :
      Builds dictionary { root, front := some front } word
  | crossed {root : Entry} {front suffix : AffixEntry} {middle word : Text}
      (entry : root ∈ dictionary.lexicon.lookup root.stem)
      (attachesSuffix : dictionary.settings.AttachesSuffix suffix root.stem middle)
      (attachesFront : dictionary.settings.AttachesPrefix front middle word)
      (fits : front.condition.matchesStart root.stem)
      (crossSuffix : suffix.cross) (crossFront : front.cross)
      (flagSuffix : root.hasFlag suffix.flag ∨ front.hasContFlag suffix.flag)
      (flagFront : root.hasFlag front.flag ∨ suffix.hasContFlag front.flag) :
      Builds dictionary { root, front := some front, inner := some suffix } word

theorem Derivation.Builds.root_mem {dictionary : Dictionary} {x : Derivation} {word : Text}
    (h : x.Builds dictionary word) : x.root ∈ dictionary.lexicon.lookup x.root.stem := by
  cases h <;> assumption

/-! ## Taking affixes off -/

namespace AffixEntry

@[simp] theorem stemBefore_append (suffix : AffixEntry) (rest : Text) :
    suffix.stemBefore (rest ++ suffix.add) = rest ++ suffix.strip := by
  simp [stemBefore]

@[simp] theorem stemBehind_append (front : AffixEntry) (rest : Text) :
    front.stemBehind (front.add ++ rest) = front.strip ++ rest := by
  simp [stemBehind]

theorem isDeclaredIn_iff {rules : List AffixRule} (h : ∀ rule ∈ rules, rule.Formed)
    {entry : AffixEntry} : entry.IsDeclaredIn rules ↔ ∃ n, ⟨n, entry⟩ ∈ Slot.ofRules rules := by
  rw [Slot.exists_mem_ofRules]
  constructor
  · rintro ⟨rule, hrule, hentry, _⟩
    exact ⟨rule, hrule, hentry⟩
  · rintro ⟨rule, hrule, hentry⟩
    obtain ⟨hflag, _, hcross⟩ := h rule hrule entry hentry
    exact ⟨rule, hrule, hentry, hflag, hcross⟩

end AffixEntry

namespace Dictionary

variable {dictionary : Dictionary} {entry : AffixEntry} {form word : Text}

theorem leavesStem_append_add {rest : Text} :
    dictionary.leavesStem (rest ++ entry.add) entry ↔ rest ≠ [] ∨ dictionary.settings.fullStrip := by
  simp [leavesStem, List.length_pos_iff]

theorem leavesStem_add_append {rest : Text} :
    dictionary.leavesStem (entry.add ++ rest) entry ↔ rest ≠ [] ∨ dictionary.settings.fullStrip := by
  simp [leavesStem, List.length_pos_iff]

/-- A suffix makes a word of exactly one form, which is found by taking it off. -/
theorem attachesSuffix_iff :
    dictionary.settings.AttachesSuffix entry form word ↔
      entry.IsDeclaredIn dictionary.settings.affixes.suffixes ∧ entry.add <:+ word ∧
        dictionary.leavesStem word entry ∧ entry.condition.matchesEnd form ∧
          form = entry.stemBefore word := by
  constructor
  · rintro ⟨hdecl, hfits, rest, rfl, rfl, hleaves⟩
    exact ⟨hdecl, List.suffix_append .., leavesStem_append_add.2 hleaves, hfits, by simp⟩
  · rintro ⟨hdecl, ⟨rest, rfl⟩, hleaves, hfits, rfl⟩
    exact ⟨hdecl, hfits, rest, by simp, rfl, leavesStem_append_add.1 hleaves⟩

theorem attachesPrefix_iff :
    dictionary.settings.AttachesPrefix entry form word ↔
      entry.IsDeclaredIn dictionary.settings.affixes.prefixes ∧ entry.add <+: word ∧
        dictionary.leavesStem word entry ∧ form = entry.stemBehind word := by
  constructor
  · rintro ⟨hdecl, rest, rfl, rfl, hleaves⟩
    exact ⟨hdecl, List.prefix_append .., leavesStem_add_append.2 hleaves, by simp⟩
  · rintro ⟨hdecl, ⟨rest, rfl⟩, hleaves, rfl⟩
    exact ⟨hdecl, rest, by simp, rfl, leavesStem_add_append.1 hleaves⟩

end Dictionary
end Orthography
