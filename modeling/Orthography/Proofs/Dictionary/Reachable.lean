import Orthography.Dictionary.Edit
import Orthography.Proofs.Lexicon.Lookup
import Orthography.Proofs.Settings.Reader

/-!
# Dictionaries that can be reached

A dictionary comes from its parts or from texts, and is changed by reading lines and by adding and
removing words.  Through all of this its table and its lexicon stay well built, and the marks
agree with the roles that the settings declare.
-/

namespace Orthography

theorem Entry.marks_of_parse {settings : Settings} {line : Text} {entry : Entry}
    (h : Entry.parse settings line = .ok entry) :
    entry.marks = settings.roles.marks entry.flags := by
  simp only [Entry.parse] at h
  split at h
  · cases h
  · obtain ⟨flags, -, h⟩ := exists_of_bind_eq_ok h
    cases h
    rfl

namespace Dictionary

/-- The dictionaries that come from parts by the changes there are. -/
inductive Reachable : Dictionary → Prop
  | ofParts {settings : Settings} {lexicon : Lexicon} (table : settings.affixes.Formed)
      (built : lexicon.Built) : Reachable (ofParts settings lexicon)
  | readLine {dictionary : Dictionary} (number : Nat) (line : Text) :
      Reachable dictionary → Reachable (dictionary.readLine number line)
  | addEntry {dictionary : Dictionary} (word : Text) (flags : FlagSet) (morph : List MorphField) :
      Reachable dictionary → Reachable (dictionary.addEntry word flags morph).1
  | removeWordMatching {dictionary : Dictionary} (word : Text) (p : Entry → Bool) :
      Reachable dictionary → Reachable (dictionary.removeWordMatching word p).1

theorem reachable_of_load {words affixes : Text} {dictionary : Dictionary}
    (h : load words affixes = .ok dictionary) : dictionary.Reachable := by
  obtain ⟨settings, hsettings, rfl⟩ := exists_of_map_eq_ok h
  refine List.foldlRecOn _ _ ?_ fun _ hd _ _ ↦ hd.readLine _ _
  exact .ofParts (Settings.formed_of_parse hsettings) .empty

/-- The table and the lexicon are well built, and all marks agree with the roles. -/
structure Coherent (dictionary : Dictionary) : Prop where
  formed : dictionary.settings.affixes.Formed
  affixesMarked : dictionary.settings.affixes.Marked dictionary.settings.roles
  built : dictionary.lexicon.Built
  entriesMarked : dictionary.lexicon.Marked dictionary.settings.roles

namespace Coherent

variable {dictionary : Dictionary}

theorem ofParts {settings : Settings} {lexicon : Lexicon} (ht : settings.affixes.Formed)
    (hl : lexicon.Built) : (ofParts settings lexicon).Coherent where
  formed := ht.withMarks _
  affixesMarked := AffixTable.marked_withMarks _ _
  built := hl.withMarks _
  entriesMarked := Lexicon.marked_withMarks _ _

theorem add (h : dictionary.Coherent) {entry : Entry}
    (hentry : entry.marks = dictionary.settings.roles.marks entry.flags) :
    Coherent { dictionary with lexicon := dictionary.lexicon.add entry } :=
  ⟨h.formed, h.affixesMarked, h.built.add entry, h.entriesMarked.add hentry⟩

theorem readLine (h : dictionary.Coherent) (number : Nat) (line : Text) :
    (dictionary.readLine number line).Coherent := by
  unfold Dictionary.readLine
  split
  · exact h
  split
  · rename_i entry hentry
    exact h.add (Entry.marks_of_parse hentry)
  · exact ⟨h.formed, h.affixesMarked, h.built, h.entriesMarked⟩

theorem addEntry (h : dictionary.Coherent) (word : Text) (flags : FlagSet)
    (morph : List MorphField) : (dictionary.addEntry word flags morph).1.Coherent := by
  simp only [Dictionary.addEntry]
  split
  · exact h
  split
  · exact h
  · exact h.add rfl

theorem removeWordMatching (h : dictionary.Coherent) (word : Text) (p : Entry → Bool) :
    (dictionary.removeWordMatching word p).1.Coherent :=
  ⟨h.formed, h.affixesMarked, h.built.removeMatching _ p, h.entriesMarked.removeMatching _ p⟩

end Coherent

theorem Reachable.coherent {dictionary : Dictionary} (h : dictionary.Reachable) :
    dictionary.Coherent := by
  induction h with
  | ofParts ht hl => exact .ofParts ht hl
  | readLine number line _ ih => exact ih.readLine number line
  | addEntry word flags morph _ ih => exact ih.addEntry word flags morph
  | removeWordMatching word p _ ih => exact ih.removeWordMatching word p

end Dictionary
end Orthography
