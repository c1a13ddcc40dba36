import Orthography.Proofs.Dictionary.Extension
import Orthography.Proofs.Dictionary.Roots

/-!
# What changes of a dictionary do

A word that is added without flags is right from then on, and nothing that was right gets lost.  A
word that is removed takes with it all that rests on its entries, and whatever is right without
them was right before.
-/

namespace Orthography

@[simp] theorem Roles.marks_empty (roles : Roles) : roles.marks .empty = [] := by
  refine List.eq_nil_iff_forall_not_mem.2 fun role hrole ↦ ?_
  obtain ⟨flag, -, hflag⟩ := Roles.mem_marks.1 hrole
  simp at hflag

namespace Dictionary

variable {dictionary : Dictionary} {word : Text}

theorem stripIgnored_prepare (word : Text) :
    dictionary.settings.stripIgnored (dictionary.prepare word) = dictionary.prepare word := by
  simp [prepare, Settings.stripIgnored, List.filter_filter]

/-! ## Adding -/

section Adding

variable {flags : FlagSet} {morph : List MorphField}

/-- The entry that a word is added as. -/
def newEntry (dictionary : Dictionary) (word : Text) (flags : FlagSet) (morph : List MorphField) :
    Entry :=
  Entry.new dictionary.settings (dictionary.prepare word) flags morph

theorem stem_newEntry : (dictionary.newEntry word flags morph).stem = dictionary.prepare word :=
  stripIgnored_prepare word

theorem settings_addEntry :
    (dictionary.addEntry word flags morph).1.settings = dictionary.settings := by
  simp only [addEntry]
  split
  · rfl
  · split <;> rfl

theorem addEntry_of_prepare_eq_nil (hword : dictionary.prepare word = []) :
    dictionary.addEntry word flags morph = (dictionary, false) := by
  simp [addEntry, hword]

theorem addEntry_snd_iff :
    (dictionary.addEntry word flags morph).2 ↔ dictionary.prepare word ≠ [] := by
  simp only [addEntry, List.isEmpty_iff]
  split
  · simp_all
  · split <;> simp_all

theorem mem_lookup_addEntry (hword : dictionary.prepare word ≠ []) {stem : Text} {entry : Entry} :
    entry ∈ (dictionary.addEntry word flags morph).1.lexicon.lookup stem ↔
      entry ∈ dictionary.lexicon.lookup stem ∨
        dictionary.prepare word = stem ∧ entry = dictionary.newEntry word flags morph := by
  have hstem : (Entry.new dictionary.settings (dictionary.prepare word) flags morph).stem =
      dictionary.prepare word := stem_newEntry
  simp only [addEntry, List.isEmpty_iff, if_neg hword, hstem]
  split
  · rename_i hthere
    refine (or_iff_left_of_imp ?_).symm
    rintro ⟨rfl, rfl⟩
    exact List.contains_iff_mem.1 hthere
  · rw [Lexicon.mem_lookup_add, hstem]
    rfl

/-- A word that is added without the flag of forbidden words takes nothing away. -/
theorem addEntry_extends (hd : dictionary.Coherent)
    (hflags : ∀ flag, dictionary.settings.roles.flagOf .forbidden = some flag →
      flags.contains flag = false) :
    (dictionary.addEntry word flags morph).1.Extends dictionary := by
  by_cases hword : dictionary.prepare word = []
  · rw [addEntry_of_prepare_eq_nil hword]
    exact .refl dictionary
  have hentries (stem : Text) : dictionary.lexicon.lookup stem ⊆
      (dictionary.addEntry word flags morph).1.lexicon.lookup stem :=
    fun entry hentry ↦ (mem_lookup_addEntry hword).2 (Or.inl hentry)
  refine extends_of_lookup_subset (hd.addEntry word flags morph).built hd.built settings_addEntry
    hentries fun form hform ↦ ?_
  obtain ⟨flag, hflag, hne, hall⟩ := isForbidden_iff.1 hform
  rw [settings_addEntry] at hflag
  refine isForbidden_iff.2 ⟨flag, hflag, fun hnil ↦ ?_, fun entry hentry ↦
    hall entry (hentries form hentry)⟩
  -- Otherwise the new entry is the only one of the form, and it lacks the flag.
  obtain ⟨entry, hentry⟩ := List.exists_mem_of_ne_nil _ hne
  have hhas := hall entry hentry
  rw [mem_lookup_addEntry hword, hnil] at hentry
  obtain ⟨-, rfl⟩ := hentry.resolve_left List.not_mem_nil
  exact absurd hhas (by simpa [newEntry, Entry.new, Entry.hasFlag] using hflags flag hflag)

end Adding

theorem acceptsExactly_of_mem_lookup {purpose : Purpose} {root : Entry}
    (hroot : root ∈ dictionary.lexicon.lookup word)
    (hallowed : Derivation.isAllowed purpose .alone { root }) :
    dictionary.acceptsExactly purpose word := by
  have hderived : dictionary.accepts purpose .alone word :=
    accepts_iff.2 ⟨_, mem_derivations.2 (Or.inl (mem_bare.2 ⟨root, hroot, rfl, hallowed⟩))⟩
  rw [acceptsExactly, hderived, Bool.true_or]

/-- A word with an entry that has no flags is right. -/
theorem check_of_mem_lookup {root : Entry}
    (hroot : root ∈ dictionary.lexicon.lookup (dictionary.prepare word))
    (hflags : root.flags = .empty) (hmarks : root.marks = []) : dictionary.check word := by
  have hfree : dictionary.isForbidden (dictionary.prepare word) = false := by
    rw [← Bool.not_eq_true]
    intro hforbidden
    obtain ⟨flag, -, -, hall⟩ := isForbidden_iff.1 hforbidden
    have hhas := hall root hroot
    rw [Entry.hasFlag, hflags, FlagSet.contains_empty] at hhas
    cases hhas
  have hallowed : Derivation.isAllowed {} .alone { root } := by
    simp [Derivation.isAllowed, Derivation.rootServes, Derivation.isComplete, Derivation.isBalanced,
      Derivation.standsAlone, Derivation.isAffixed, Derivation.affixes, Derivation.suffixes,
      Entry.hasRole, hmarks]
  have hcased : dictionary.acceptsCased false (dictionary.prepare word) :=
    acceptsCased_iff.2 (Or.inl (acceptsExactly_of_mem_lookup hroot hallowed))
  simp [check, hfree, acceptsBroken_iff.2 (Or.inl hcased)]

/-- Adding a word makes it right, whatever it was before, and all that was right stays so. -/
theorem check_addWord (hd : dictionary.Reachable) (word : Text) :
    ((dictionary.addWord word).2 ↔ dictionary.prepare word ≠ []) ∧
      (dictionary.prepare word ≠ [] → (dictionary.addWord word).1.check word) ∧
        ∀ other, dictionary.check other → (dictionary.addWord word).1.CheckKeepsLimit other →
          (dictionary.addWord word).1.check other := by
  refine ⟨addEntry_snd_iff, fun hword ↦ ?_, fun other ↦ ?_⟩
  · have hprepare : (dictionary.addWord word).1.prepare word = dictionary.prepare word := by
      rw [prepare, prepare, addWord, settings_addEntry]
    have hentry : dictionary.newEntry word .empty [] ∈
        (dictionary.addWord word).1.lexicon.lookup ((dictionary.addWord word).1.prepare word) := by
      rw [hprepare]
      exact (mem_lookup_addEntry hword).2 (Or.inr ⟨rfl, rfl⟩)
    exact check_of_mem_lookup hentry rfl (Roles.marks_empty _)
  · exact (addEntry_extends hd.coherent fun _ _ ↦ FlagSet.contains_empty _).check

/-- The forbidden word `as` becomes right, and the stem `a` stays so. -/
theorem check_addWord_as :
    asDictionary.Reachable ∧ asDictionary.isForbidden ['a', 's'] ∧
      asDictionary.check ['a', 's'] = false ∧
        (asDictionary.addWord ['a', 's']).1.check ['a', 's'] ∧
          (asDictionary.addWord ['a', 's']).1.check ['a', '-', 'a'] := by
  obtain ⟨-, hadded, hkept⟩ := check_addWord reachable_asDictionary ['a', 's']
  refine ⟨reachable_asDictionary, by decide +kernel, by decide +kernel,
    hadded (by decide +kernel), hkept _ (by decide +kernel) fun _ _ _ ↦ ?_⟩
  exact keepsLimit_of_attempts_le (by decide +kernel)

/-! ## Removing -/

section Removing

theorem lookup_removeWord {stem : Text} :
    (dictionary.removeWord word).1.lexicon.lookup stem =
      if dictionary.prepare word = stem then [] else dictionary.lexicon.lookup stem := by
  rw [removeWord, removeWordMatching, Lexicon.lookup_removeMatching]
  simp

theorem removeWord_snd_iff :
    (dictionary.removeWord word).2 ↔ dictionary.lexicon.lookup (dictionary.prepare word) ≠ [] := by
  have hcount : (dictionary.removeWord word).2 =
      ((dictionary.lexicon.lookup (dictionary.prepare word)).countP (fun _ ↦ true) != 0) := by
    rw [← Lexicon.removeMatching_snd]
    rfl
  simp [hcount, List.length_eq_zero_iff]

/-- If a word that is not forbidden is removed, all that is left was there before. -/
theorem extends_removeWord (hd : dictionary.Coherent)
    (hfree : dictionary.isForbidden (dictionary.prepare word) = false) :
    dictionary.Extends (dictionary.removeWord word).1 := by
  refine extends_of_lookup_subset hd.built (hd.removeWordMatching word fun _ ↦ true).built rfl
    (fun stem entry hentry ↦ ?_) fun form hform ↦ ?_
  · rw [lookup_removeWord] at hentry
    split at hentry
    · exact absurd hentry List.not_mem_nil
    · exact hentry
  · have hne : dictionary.prepare word ≠ form := by
      rintro rfl
      rw [hfree] at hform
      cases hform
    rw [isForbidden_iff] at hform ⊢
    rw [lookup_removeWord, if_neg hne]
    exact hform

/-- Removing a word takes away its entries and no others.  Nothing rests on it any more, and unless
it was forbidden nothing becomes right. -/
theorem check_of_check_removeWord (hd : dictionary.Reachable) (word : Text) :
    let stem := dictionary.prepare word
    let after := (dictionary.removeWord word).1
    ((dictionary.removeWord word).2 ↔ dictionary.lexicon.lookup stem ≠ []) ∧
      after.lexicon.lookup stem = [] ∧
      (∀ other, other ≠ stem → after.lexicon.lookup other = dictionary.lexicon.lookup other) ∧
      (∀ purpose position text, ∀ x ∈ (after.derivations purpose position text).toList,
        x.root.stem ≠ stem) ∧
      (∀ purpose text, ∀ parts ∈ (after.divisions purpose text).toList,
        ∀ part ∈ parts, part.derivation.root.stem ≠ stem) ∧
      (∀ text roots, after.IsRuleRow text roots → ∀ root ∈ roots, root.stem ≠ stem) ∧
      (dictionary.isForbidden stem = false → ∀ other, after.check other →
        dictionary.CheckKeepsLimit other → dictionary.check other) := by
  intro stem after
  have hgone : after.lexicon.lookup stem = [] := by rw [lookup_removeWord, if_pos rfl]
  have hcoherent : after.Coherent := hd.coherent.removeWordMatching word fun _ ↦ true
  have hroot {root : Entry} (h : root ∈ after.lexicon.lookup root.stem) : root.stem ≠ stem := by
    intro hstem
    rw [hstem, hgone] at h
    exact List.not_mem_nil h
  have hderived (purpose : Purpose) (position : Position) (text : Text) :
      ∀ x ∈ (after.derivations purpose position text).toList, x.root.stem ≠ stem := by
    intro x hx
    obtain ⟨hbuilds, -⟩ := builds_and_isLed_of_mem_derivations hcoherent.built hcoherent.formed hx
    exact hroot hbuilds.root_mem
  refine ⟨removeWord_snd_iff, hgone, fun other hother ↦ ?_, hderived, ?_, ?_, fun hfree ↦ ?_⟩
  · rw [lookup_removeWord, if_neg hother.symm]
  · intro purpose text parts hparts part hpart
    obtain ⟨-, hdivision, -⟩ := mem_divisions_iff.1 hparts
    obtain ⟨done, more, hplaces⟩ := hdivision.exists_places hpart
    exact hderived _ _ _ _ hplaces.derived
  · intro text roots hrow root hmem
    exact hroot (hrow.known root hmem)
  · exact fun other ↦ (extends_removeWord hd.coherent hfree).check

/-- Without `foo` no compound rests on it, and `bar` is as right as before. -/
theorem check_removeWord_foo :
    foobarDictionary.Reachable ∧ foobarDictionary.isForbidden ['f', 'o', 'o'] = false ∧
      (foobarDictionary.removeWord ['f', 'o', 'o']).2 ∧
        (∀ text roots, (foobarDictionary.removeWord ['f', 'o', 'o']).1.IsRuleRow text roots →
          ∀ root ∈ roots, root.stem ≠ ['f', 'o', 'o']) ∧
          (foobarDictionary.removeWord ['f', 'o', 'o']).1.check ['b', 'a', 'r'] ∧
            foobarDictionary.CheckKeepsLimit ['b', 'a', 'r'] ∧
              foobarDictionary.check ['b', 'a', 'r'] := by
  have hfoo : foobarDictionary.prepare ['f', 'o', 'o'] = ['f', 'o', 'o'] := by decide +kernel
  have hfree : foobarDictionary.isForbidden ['f', 'o', 'o'] = false := by decide +kernel
  have hbar : (foobarDictionary.removeWord ['f', 'o', 'o']).1.check ['b', 'a', 'r'] := by
    decide +kernel
  have hlimit : foobarDictionary.CheckKeepsLimit ['b', 'a', 'r'] := by
    intro _ _ _
    exact keepsLimit_of_attempts_le (by decide +kernel)
  have hremoved := check_of_check_removeWord reachable_foobarDictionary ['f', 'o', 'o']
  simp only [hfoo] at hremoved
  obtain ⟨hknown, -, -, -, -, hrows, hright⟩ := hremoved
  exact ⟨reachable_foobarDictionary, hfree, hknown.2 (by decide +kernel), hrows, hbar, hlimit,
    hright hfree _ hbar hlimit⟩

end Removing
end Dictionary
end Orthography
