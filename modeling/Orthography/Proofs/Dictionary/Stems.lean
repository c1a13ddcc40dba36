import Orthography.Proofs.Dictionary.History
import Orthography.Proofs.Dictionary.Lines
import Orthography.Proofs.Lexicon.WrittenLine

/-!
# Stems in normal form

A stem is in normal form if it is looked up as it stands.  No stem that has been loaded or added
keeps an ignored character.  But blanks are trimmed before ignored characters are taken out, so a
stem may come to be empty, or to begin or end with a blank, and then it cannot be named any more.
-/

namespace Orthography

theorem Settings.stripIgnored_eq_self_iff {settings : Settings} {text : Text} :
    settings.stripIgnored text = text ↔ ∀ c ∈ text, c ∉ settings.ignored := by
  simp [stripIgnored, List.filter_eq_self]

theorem Settings.stripIgnored_stripIgnored (settings : Settings) (text : Text) :
    settings.stripIgnored (settings.stripIgnored text) = settings.stripIgnored text := by
  simp [stripIgnored, List.filter_filter]

theorem Lexicon.Built.contains_iff_exists_mem {lexicon : Lexicon} (h : lexicon.Built)
    {stem : Text} : lexicon.contains stem ↔ ∃ entry, entry ∈ lexicon.lookup stem := by
  rw [h.contains_iff]
  constructor
  · exact List.exists_mem_of_ne_nil _
  · intro hentry
    obtain ⟨entry, hentry⟩ := hentry
    exact List.ne_nil_of_mem hentry

namespace Dictionary

open Text

variable {dictionary : Dictionary} {stem word : Text}

/-- The stem is a word that is looked up as it stands. -/
structure IsNormal (dictionary : Dictionary) (stem : Text) : Prop where
  ne_nil : stem ≠ []
  kept : ∀ c ∈ stem, c ∉ dictionary.settings.ignored
  prepared : dictionary.prepare stem = stem

def HasNormalStems (dictionary : Dictionary) : Prop :=
  ∀ stem, dictionary.lexicon.contains stem → dictionary.IsNormal stem

theorem prepare_of_no_inputs (hinputs : dictionary.settings.inputs = []) (word : Text) :
    dictionary.prepare word = dictionary.settings.stripIgnored (trim word) := by
  rw [prepare, hinputs, Replacements.convert_nil]

/-- Without conversions and ignored characters only trimming is left. -/
theorem isNormal_iff (hinputs : dictionary.settings.inputs = [])
    (hkept : dictionary.settings.stripIgnored stem = stem) :
    dictionary.IsNormal stem ↔ stem.IsTidy := by
  have hprepare : dictionary.prepare stem = trim stem := by
    rw [prepare_of_no_inputs hinputs]
    apply Settings.stripIgnored_eq_self_iff.2
    intro c hc
    exact Settings.stripIgnored_eq_self_iff.1 hkept c ((trim_sublist stem).subset hc)
  rw [isTidy_iff, ← hprepare]
  constructor
  · intro h
    exact ⟨h.ne_nil, h.prepared⟩
  · intro h
    exact ⟨h.1, Settings.stripIgnored_eq_self_iff.1 hkept, h.2⟩

/-! ## Where stems come from -/

theorem contains_of_load {words affixes : Text} (hload : load words affixes = .ok dictionary) :
    dictionary.lexicon.contains stem ↔
      ∃ line ∈ (lines words).tail, ∃ entry, LineGives dictionary.settings line entry ∧
        entry.stem = stem := by
  have hbuilt := (reachable_of_load hload).coherent.built
  obtain ⟨settings, -, rfl⟩ := exists_of_map_eq_ok hload
  obtain ⟨problems, hproblems⟩ := exists_withProblems_readLines (ofParts settings .empty)
    (((lines (withoutByteOrderMark words)).zipIdx 1).drop 1)
  have hgives (line : Text) (entry : Entry) :
      LineGives ((ofParts settings .empty).readWords words).settings line entry ↔
        LineGives (ofParts settings .empty).settings line entry := by
    rw [readWords, hproblems]
    exact Iff.rfl
  have hempty : (ofParts settings .empty).lexicon.lookup stem = [] := by
    rw [ofParts, Lexicon.lookup_withMarks, Lexicon.lookup_empty, List.map_nil]
  rw [hbuilt.contains_iff_exists_mem]
  simp only [mem_lookup_readWords, hempty, List.not_mem_nil, false_or, hgives]
  constructor
  · intro h
    obtain ⟨entry, hstem, line, hline, hentry⟩ := h
    exact ⟨line, hline, entry, hentry, hstem⟩
  · intro h
    obtain ⟨line, hline, entry, hentry, hstem⟩ := h
    exact ⟨entry, hstem, line, hline, hentry⟩

theorem contains_addEntry {flags : FlagSet} {morph : List MorphField} :
    (dictionary.addEntry word flags morph).1.lexicon.contains stem ↔
      dictionary.lexicon.contains stem ∨ dictionary.prepare word ≠ [] ∧
        dictionary.prepare word = stem := by
  have hstem : (Entry.new dictionary.settings (dictionary.prepare word) flags morph).stem =
      dictionary.prepare word := stem_newEntry
  by_cases hword : dictionary.prepare word = []
  · simp [addEntry_of_prepare_eq_nil hword, hword]
  simp only [addEntry, List.isEmpty_iff, if_neg hword, hstem]
  split
  · rename_i hthere
    have hknown := Lexicon.contains_of_mem_lookup (List.contains_iff_mem.1 hthere)
    refine (or_iff_left_of_imp ?_).symm
    intro h
    exact h.2 ▸ hknown
  · rw [Lexicon.contains_add, hstem, or_comm, and_iff_right hword]

namespace Change

variable {change : Change}

theorem contains_onDictionary_of_word? (h : change.word? dictionary = some word) :
    (change.onDictionary dictionary).lexicon.contains stem ↔
      dictionary.lexicon.contains stem ∨ dictionary.prepare word ≠ [] ∧
        dictionary.prepare word = stem := by
  rcases change.onDictionary_cases dictionary with ⟨added, flags, morph, hadded, hadd⟩ | ⟨hnone, -⟩
  · obtain rfl := Option.some.inj (hadded.symm.trans h)
    rw [hadd, contains_addEntry]
  · rw [hnone] at h
    cases h

theorem contains_of_contains_onDictionary (h : change.word? dictionary = none)
    (hstem : (change.onDictionary dictionary).lexicon.contains stem) :
    dictionary.lexicon.contains stem := by
  rcases change.onDictionary_cases dictionary with ⟨added, flags, morph, hadded, -⟩ |
    ⟨-, hsame | ⟨removed, p, hremove⟩⟩
  · rw [hadded] at h
    cases h
  · rwa [hsame] at hstem
  · rw [hremove] at hstem
    exact (Lexicon.contains_removeMatching.1 hstem).1

end Change

theorem after_take_add_one (dictionary : Dictionary) (changes : List Change) (n : Nat) :
    dictionary.after (changes.take (n + 1)) =
      changes[n]?.elim (dictionary.after (changes.take n))
        fun change ↦ change.onDictionary (dictionary.after (changes.take n)) := by
  rw [List.take_add_one, after, List.foldl_append]
  cases changes[n]? <;> rfl

/-- What holds of the stems of a dictionary and of every word that is added holds of the stems ever
after. -/
theorem forall_contains_after {P : Text → Prop} {changes : List Change}
    (hfirst : ∀ stem, dictionary.lexicon.contains stem → P stem)
    (hadded : ∀ (n : Nat) (change : Change) (word : Text), changes[n]? = some change →
      change.word? (dictionary.after (changes.take n)) = some word →
        dictionary.prepare word ≠ [] → P (dictionary.prepare word)) (n : Nat) :
    ∀ stem, (dictionary.after (changes.take n)).lexicon.contains stem → P stem := by
  induction n with
  | zero => exact hfirst
  | succ n ih =>
      intro stem hstem
      rw [after_take_add_one] at hstem
      cases hchange : changes[n]? with
      | none =>
          rw [hchange] at hstem
          exact ih stem hstem
      | some change =>
          rw [hchange] at hstem
          cases hword : change.word? (dictionary.after (changes.take n)) with
          | none => exact ih stem (Change.contains_of_contains_onDictionary hword hstem)
          | some word =>
              have hprepare : (dictionary.after (changes.take n)).prepare word =
                  dictionary.prepare word := by
                rw [prepare, prepare, settings_after]
              rcases (Change.contains_onDictionary_of_word? hword).1 hstem with hold | ⟨hne, rfl⟩
              · exact ih stem hold
              · rw [hprepare] at hne ⊢
                exact hadded n change word hchange hword hne

/-! ## When all stems are in normal form -/

/-- Every word of a dictionary text, and every word that is added later, keeps something when its
ignored characters are taken out, and then has no blank at either end. -/
structure KeepsTidy (dictionary : Dictionary) (words : Text) (changes : List Change) : Prop where
  loaded : ∀ line ∈ (lines words).tail, ∀ entry, LineGives dictionary.settings line entry →
    (dictionary.settings.stripIgnored (Entry.writtenWord line)).IsTidy
  added : ∀ (n : Nat) (change : Change) (word : Text), changes[n]? = some change →
    change.word? (dictionary.after (changes.take n)) = some word →
      dictionary.settings.stripIgnored (trim word) ≠ [] →
        (dictionary.settings.stripIgnored (trim word)).IsTidy

section Loaded

variable {words affixes : Text} (hload : load words affixes = .ok dictionary)
  (changes : List Change)

theorem keepsTidy_of_ignored_eq_nil (hignored : dictionary.settings.ignored = []) :
    dictionary.KeepsTidy words changes := by
  have hsame (text : Text) : dictionary.settings.stripIgnored text = text := by
    apply Settings.stripIgnored_eq_self_iff.2
    simp [hignored]
  constructor
  · intro line _ entry hentry
    rw [hsame]
    exact Entry.isTidy_writtenWord (Entry.stem_of_parse hentry.2).1
  · intro _ _ word _ _ hne
    rw [hsame] at hne ⊢
    exact isTidy_trim hne

include hload

theorem stripIgnored_of_contains_after (n : Nat) :
    ∀ stem, (dictionary.after (changes.take n)).lexicon.contains stem →
      dictionary.settings.stripIgnored stem = stem := by
  apply forall_contains_after
  · intro stem hstem
    obtain ⟨line, -, entry, hentry, rfl⟩ := (contains_of_load hload).1 hstem
    rw [(Entry.stem_of_parse hentry.2).2, Settings.stripIgnored_stripIgnored]
  · intro _ _ word _ _ _
    exact stripIgnored_prepare word

variable (hinputs : dictionary.settings.inputs = [])
include hinputs

theorem hasNormalStems_after_iff (n : Nat) :
    (dictionary.after (changes.take n)).HasNormalStems ↔
      ∀ stem, (dictionary.after (changes.take n)).lexicon.contains stem → stem.IsTidy := by
  have hsettings := settings_after dictionary (changes.take n)
  refine forall_congr' fun stem ↦ forall_congr' fun hstem ↦ ?_
  apply isNormal_iff
  · rw [hsettings, hinputs]
  · rw [hsettings]
    exact stripIgnored_of_contains_after hload changes n stem hstem

theorem forall_hasNormalStems_iff :
    (∀ n, (dictionary.after (changes.take n)).HasNormalStems) ↔
      dictionary.KeepsTidy words changes := by
  have hprepare := prepare_of_no_inputs hinputs
  simp only [hasNormalStems_after_iff hload changes hinputs]
  constructor
  · intro h
    constructor
    · intro line hline entry hentry
      rw [← (Entry.stem_of_parse hentry.2).2]
      exact h 0 _ ((contains_of_load hload).2 ⟨line, hline, entry, hentry, rfl⟩)
    · intro n change word hchange hword hne
      rw [← hprepare] at hne ⊢
      apply h (n + 1)
      have hsame : (dictionary.after (changes.take n)).prepare word = dictionary.prepare word := by
        rw [prepare, prepare, settings_after]
      rw [after_take_add_one, hchange]
      apply (Change.contains_onDictionary_of_word? hword).2
      rw [hsame]
      exact Or.inr ⟨hne, rfl⟩
  · intro h
    apply forall_contains_after
    · intro stem hstem
      obtain ⟨line, hline, entry, hentry, rfl⟩ := (contains_of_load hload).1 hstem
      rw [(Entry.stem_of_parse hentry.2).2]
      exact h.loaded line hline entry hentry
    · intro n change word hchange hword hne
      rw [hprepare] at hne ⊢
      exact h.added n change word hchange hword hne

/-- All stems are in normal form for good just if the words that are loaded and added are tidy
without their ignored characters.  So it is in any case where no characters are ignored, and no stem
ever has an ignored character.  A stem in normal form can be named to look it up, to add to it and
to remove it. -/
theorem hasNormalStems_iff :
    ((∀ n, (dictionary.after (changes.take n)).HasNormalStems) ↔
      dictionary.KeepsTidy words changes) ∧
    (dictionary.settings.ignored = [] →
      ∀ n, (dictionary.after (changes.take n)).HasNormalStems) ∧
    (∀ n stem, (dictionary.after (changes.take n)).lexicon.contains stem →
      ∀ c ∈ stem, c ∉ dictionary.settings.ignored) ∧
    let now := dictionary.after changes
    ∀ stem, now.lexicon.contains stem → now.IsNormal stem →
      now.lexicon.lookup (now.prepare stem) ≠ [] ∧
      (∀ flags morph, (now.addEntry stem flags morph).2 ∧
        now.newEntry stem flags morph ∈ (now.addEntry stem flags morph).1.lexicon.lookup stem) ∧
      (now.removeWord stem).2 ∧ (now.removeWord stem).1.lexicon.lookup stem = [] := by
  have hiff := forall_hasNormalStems_iff hload changes hinputs
  refine ⟨hiff, fun hignored ↦ hiff.2 (keepsTidy_of_ignored_eq_nil changes hignored), ?_, ?_⟩
  · intro n stem hstem
    apply Settings.stripIgnored_eq_self_iff.1
    exact stripIgnored_of_contains_after hload changes n stem hstem
  intro now stem hstem hnormal
  have hnow : now.UpToDate := (IsMade.load hload).upToDate.after changes
  have hknown : now.lexicon.lookup (now.prepare stem) ≠ [] := by
    rw [hnormal.prepared]
    exact hnow.built.contains_iff.1 hstem
  have hne : now.prepare stem ≠ [] := by
    rw [hnormal.prepared]
    exact hnormal.ne_nil
  refine ⟨hknown, fun flags morph ↦ ⟨addEntry_snd_iff.2 hne, ?_⟩, removeWord_snd_iff.2 hknown, ?_⟩
  · exact (mem_lookup_addEntry hne).2 (Or.inr ⟨hnormal.prepared, rfl⟩)
  · rw [lookup_removeWord, if_pos hnormal.prepared]

end Loaded

/-- The ignored characters stand inside the words, or next to a letter. -/
theorem hasNormalStems_coop :
    let words := "2\n-co-op/S\nNew York-\n".toList
    let changes : List Change := [.addWord " e-mail ".toList, .removeWord "coop".toList]
    ∃ dictionary, load words "IGNORE -\n".toList = .ok dictionary ∧
      dictionary.settings.inputs = [] ∧ dictionary.settings.ignored = ['-'] ∧
        dictionary.KeepsTidy words changes ∧
          ∀ n, (dictionary.after (changes.take n)).HasNormalStems := by
  intro words changes
  have hread : (load words "IGNORE -\n".toList).map (fun dictionary ↦
      (dictionary.settings.inputs, dictionary.settings.ignored)) = .ok ([], ['-']) := by
    decide +kernel
  obtain ⟨dictionary, hload, hread⟩ := exists_of_map_eq_ok hread
  obtain ⟨hinputs, hignored⟩ := Prod.mk.inj hread
  have hstrip (text : Text) : dictionary.settings.stripIgnored text = text.filter (· ≠ '-') := by
    simp [Settings.stripIgnored, hignored]
  have htidy : dictionary.KeepsTidy words changes := by
    constructor
    · intro line hline _ _
      have hlines : ∀ line ∈ (lines words).tail,
          IsTidy ((Entry.writtenWord line).filter (· ≠ '-')) := by
        decide +kernel
      rw [hstrip]
      exact hlines line hline
    · intro n change word hchange hword _
      match n with
      | 0 =>
          obtain rfl := Option.some.inj hchange
          obtain rfl := Option.some.inj hword
          rw [hstrip]
          decide +kernel
      | 1 =>
          obtain rfl := Option.some.inj hchange
          cases hword
      | n + 2 => cases hchange
  exact ⟨dictionary, hload, hinputs, hignored, htidy,
    (hasNormalStems_iff hload changes hinputs).1.2 htidy⟩

/-- Of `a -` the stem keeps the blank and cannot be named, and of `-` it keeps nothing. -/
theorem not_hasNormalStems_a_blank :
    ∃ dictionary, load "2\na -\n-\n".toList "IGNORE -\n".toList = .ok dictionary ∧
      dictionary.settings.inputs = [] ∧
        dictionary.lexicon.contains ['a', ' '] ∧ ¬ dictionary.IsNormal ['a', ' '] ∧
          (dictionary.removeWord ['a', ' ']).2 = false ∧
            dictionary.lexicon.contains [] ∧ ¬ dictionary.HasNormalStems := by
  have hread : (load "2\na -\n-\n".toList "IGNORE -\n".toList).map (fun dictionary ↦
      (dictionary.settings.inputs, dictionary.lexicon.contains ['a', ' '],
        dictionary.prepare ['a', ' '], (dictionary.removeWord ['a', ' ']).2,
          dictionary.lexicon.contains [])) = .ok ([], true, ['a'], false, true) := by
    decide +kernel
  obtain ⟨dictionary, hload, hread⟩ := exists_of_map_eq_ok hread
  obtain ⟨hinputs, hread⟩ := Prod.mk.inj hread
  obtain ⟨hblank, hread⟩ := Prod.mk.inj hread
  obtain ⟨hprepare, hread⟩ := Prod.mk.inj hread
  obtain ⟨hremove, hempty⟩ := Prod.mk.inj hread
  refine ⟨dictionary, hload, hinputs, hblank, ?_, hremove, hempty, ?_⟩
  · intro hnormal
    have hsame := hnormal.prepared
    rw [hprepare] at hsame
    cases hsame
  · intro hnormal
    exact (hnormal [] hempty).ne_nil rfl

end Dictionary
end Orthography
