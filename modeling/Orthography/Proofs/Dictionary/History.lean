import Orthography.Proofs.Dictionary.Edit

/-!
# The history of a dictionary

A dictionary is made once, from texts or from its parts, and then words are added to it and removed.
Its settings stay as they were made, so the marks that stand beside the flags of every affix and of
every word are never out of date.
-/

namespace Orthography

theorem AffixTable.marks_of_mem {roles : Roles} {table : AffixTable} {word : Text} {slot : Slot}
    (hmarked : table.Marked roles) (hslot : slot ∈ table.prefixesOf word ++ table.suffixesOf word) :
    slot.entry.marks = roles.marks slot.entry.contFlags := by
  rcases List.mem_append.1 hslot with hslot | hslot
  · obtain ⟨ref, -, hat⟩ := List.mem_filterMap.1 hslot
    obtain ⟨rule, hrule, hentry⟩ := Slot.exists_rule_of_at? hat
    exact hmarked rule (List.mem_append_left _ hrule) slot.entry hentry
  · obtain ⟨ref, -, hat⟩ := List.mem_filterMap.1 hslot
    obtain ⟨rule, hrule, hentry⟩ := Slot.exists_rule_of_at? hat
    exact hmarked rule (List.mem_append_right _ hrule) slot.entry hentry

namespace Dictionary

/-- The dictionaries that have just been made. -/
inductive IsMade : Dictionary → Prop
  | load {words affixes : Text} {dictionary : Dictionary} :
      load words affixes = .ok dictionary → IsMade dictionary
  | ofParts (settings : Settings) {lexicon : Lexicon} : lexicon.Built →
      IsMade (ofParts settings lexicon)

inductive Change where
  | addWord (word : Text)
  | addWordWithFlags (word flags : Text)
  | addWordLike (word model : Text)
  | addEntry (word : Text) (flags : FlagSet) (morph : List MorphField)
  | removeWord (word : Text)
  | removeWordMatching (word : Text) (p : Entry → Bool)

namespace Change

/-- Flags that cannot be read change nothing. -/
def onDictionary (dictionary : Dictionary) : Change → Dictionary
  | addWord word => (dictionary.addWord word).1
  | addWordWithFlags word flags =>
      match dictionary.addWordWithFlags word flags with
      | .ok changed => changed.1
      | .error _ => dictionary
  | addWordLike word model => (dictionary.addWordLike word model).1
  | addEntry word flags morph => (dictionary.addEntry word flags morph).1
  | removeWord word => (dictionary.removeWord word).1
  | removeWordMatching word p => (dictionary.removeWordMatching word p).1

/-- The word that a change adds, if it comes to adding one. -/
def word? (dictionary : Dictionary) : Change → Option Text
  | addWord word => some word
  | addWordWithFlags word flags =>
      (dictionary.settings.parseFlags flags).toOption.map fun _ ↦ word
  | addWordLike word model =>
      (dictionary.lexicon.lookup (dictionary.prepare model)).head?.map fun _ ↦ word
  | addEntry word _ _ => some word
  | removeWord _ => none
  | removeWordMatching .. => none

/-- Whatever is done comes to adding one entry, to removing some, or to nothing. -/
theorem onDictionary_cases (dictionary : Dictionary) (change : Change) :
    (∃ word flags morph, change.word? dictionary = some word ∧
      change.onDictionary dictionary = (dictionary.addEntry word flags morph).1) ∨
    change.word? dictionary = none ∧
      (change.onDictionary dictionary = dictionary ∨
        ∃ word p, change.onDictionary dictionary = (dictionary.removeWordMatching word p).1) := by
  cases change with
  | addWord word => exact Or.inl ⟨word, .empty, [], rfl, rfl⟩
  | addWordWithFlags word text =>
      simp only [word?, onDictionary, Dictionary.addWordWithFlags]
      cases dictionary.settings.parseFlags text with
      | error problem => exact Or.inr ⟨rfl, Or.inl rfl⟩
      | ok flags => exact Or.inl ⟨word, flags, [], rfl, rfl⟩
  | addWordLike word model =>
      simp only [word?, onDictionary, Dictionary.addWordLike]
      cases dictionary.lexicon.lookup (dictionary.prepare model) with
      | nil => exact Or.inr ⟨rfl, Or.inl rfl⟩
      | cons entry more => exact Or.inl ⟨word, entry.flags, entry.morph, rfl, rfl⟩
  | addEntry word flags morph => exact Or.inl ⟨word, flags, morph, rfl, rfl⟩
  | removeWord word => exact Or.inr ⟨rfl, Or.inr ⟨word, fun _ ↦ true, rfl⟩⟩
  | removeWordMatching word p => exact Or.inr ⟨rfl, Or.inr ⟨word, p, rfl⟩⟩

theorem settings_onDictionary (dictionary : Dictionary) (change : Change) :
    (change.onDictionary dictionary).settings = dictionary.settings := by
  rcases change.onDictionary_cases dictionary with ⟨word, flags, morph, -, hadd⟩ |
    ⟨-, hsame | ⟨word, p, hremove⟩⟩
  · rw [hadd, settings_addEntry]
  · rw [hsame]
  · rw [hremove]
    rfl

end Change

/-- The dictionary after some changes. -/
def after (dictionary : Dictionary) (changes : List Change) : Dictionary :=
  changes.foldl Change.onDictionary dictionary

theorem settings_after (dictionary : Dictionary) (changes : List Change) :
    (dictionary.after changes).settings = dictionary.settings := by
  induction changes generalizing dictionary with
  | nil => rfl
  | cons change changes ih =>
      rw [after, List.foldl_cons]
      exact (ih _).trans (change.settings_onDictionary dictionary)

/-! ## Marks -/

/-- All marks agree with the roles, and every entry stands under its own stem. -/
structure UpToDate (dictionary : Dictionary) : Prop where
  affixes : dictionary.settings.affixes.Marked dictionary.settings.roles
  built : dictionary.lexicon.Built
  entries : dictionary.lexicon.Marked dictionary.settings.roles

variable {dictionary : Dictionary}

theorem IsMade.upToDate (h : dictionary.IsMade) : dictionary.UpToDate := by
  cases h with
  | load hload =>
      have hcoherent := (reachable_of_load hload).coherent
      exact ⟨hcoherent.affixesMarked, hcoherent.built, hcoherent.entriesMarked⟩
  | ofParts settings hbuilt =>
      exact ⟨AffixTable.marked_withMarks _ _, hbuilt.withMarks _, Lexicon.marked_withMarks _ _⟩

theorem UpToDate.addEntry (h : dictionary.UpToDate) (word : Text) (flags : FlagSet)
    (morph : List MorphField) : (dictionary.addEntry word flags morph).1.UpToDate := by
  simp only [Dictionary.addEntry]
  split
  · exact h
  split
  · exact h
  · exact ⟨h.affixes, h.built.add _, h.entries.add rfl⟩

theorem UpToDate.onDictionary (h : dictionary.UpToDate) (change : Change) :
    (change.onDictionary dictionary).UpToDate := by
  rcases change.onDictionary_cases dictionary with ⟨word, flags, morph, -, hadd⟩ |
    ⟨-, hsame | ⟨word, p, hremove⟩⟩
  · rw [hadd]
    exact h.addEntry word flags morph
  · rw [hsame]
    exact h
  · rw [hremove]
    exact ⟨h.affixes, h.built.removeMatching _ p, h.entries.removeMatching _ p⟩

theorem UpToDate.after (h : dictionary.UpToDate) (changes : List Change) :
    (dictionary.after changes).UpToDate :=
  List.foldlRecOn changes _ h fun _ h change _ ↦ h.onDictionary change

/-- However a dictionary was made and whatever has been done to it, no mark is out of date: neither
those of the words, each of which stands under its own stem, nor those of the affixes, whether they
are listed or looked up. -/
theorem marks_after (hmade : dictionary.IsMade) (changes : List Change) :
    let now := dictionary.after changes
    now.settings = dictionary.settings ∧
      (∀ stem, ∀ entry ∈ now.lexicon.lookup stem,
        entry.stem = stem ∧ entry.marks = now.settings.roles.marks entry.flags) ∧
      (∀ rule ∈ now.settings.affixes.prefixes ++ now.settings.affixes.suffixes,
        ∀ entry ∈ rule.entries, entry.marks = now.settings.roles.marks entry.contFlags) ∧
      ∀ word, ∀ slot ∈ now.settings.affixes.prefixesOf word ++ now.settings.affixes.suffixesOf word,
        slot.entry.marks = now.settings.roles.marks slot.entry.contFlags := by
  intro now
  have hnow : now.UpToDate := hmade.upToDate.after changes
  refine ⟨settings_after dictionary changes, ?_, hnow.affixes, ?_⟩
  · intro stem entry hentry
    exact ⟨hnow.built.stem_eq hentry, hnow.entries stem entry hentry⟩
  · intro word slot hslot
    exact AffixTable.marks_of_mem hnow.affixes hslot

/-- The roles are declared behind the suffix that has one of them; one word is added with flags as
they are written, another one after its model. -/
theorem marks_after_declared_late :
    let affixes := "SFX S Y 1\nSFX S 0 s/N .\nNEEDAFFIX N\nFORBIDDENWORD !\n".toList
    let changes : List Change := [.addWordWithFlags "baz".toList "!S".toList,
      .addWordLike "qux".toList "baz".toList, .removeWord "foo".toList]
    ∃ dictionary, load "1\nfoo/!\n".toList affixes = .ok dictionary ∧ dictionary.IsMade ∧
      let now := dictionary.after changes
      now.lexicon.size = 2 ∧ now.isForbidden "qux".toList ∧
        (∀ entry ∈ now.lexicon.lookup "qux".toList,
          entry.marks = now.settings.roles.marks entry.flags) ∧
        (now.settings.affixes.suffixesOf "foos".toList).map (·.entry.marks) = [[.needAffix]] ∧
          ∀ slot ∈ now.settings.affixes.suffixesOf "foos".toList,
            slot.entry.marks = now.settings.roles.marks slot.entry.contFlags := by
  intro affixes changes
  have hread : (load "1\nfoo/!\n".toList affixes).map (fun dictionary ↦
      ((dictionary.after changes).lexicon.size,
        (dictionary.after changes).isForbidden "qux".toList,
        ((dictionary.after changes).settings.affixes.suffixesOf "foos".toList).map
          (·.entry.marks))) = .ok (2, true, [[.needAffix]]) := by
    decide +kernel
  obtain ⟨dictionary, hload, hread⟩ := exists_of_map_eq_ok hread
  obtain ⟨hsize, hread⟩ := Prod.mk.inj hread
  obtain ⟨hforbidden, hmarks⟩ := Prod.mk.inj hread
  obtain ⟨-, hwords, -, hslots⟩ := marks_after (.load hload) changes
  refine ⟨dictionary, hload, .load hload, hsize, hforbidden, ?_, hmarks, ?_⟩
  · intro entry hentry
    exact (hwords _ entry hentry).2
  · intro slot hslot
    exact hslots _ slot (List.mem_append_right _ hslot)

end Dictionary
end Orthography
