import Orthography.Proofs.Dictionary.History

/-!
# Adding an entry and taking it away

A lexicon that has been built is determined by what is found in it, its counts of letters included.
So an entry that was not there can be added and taken away again without a trace, whatever homonyms
it has, and adding it once more while it is there does nothing.
-/

namespace Orthography
namespace Lexicon

variable {one other : Lexicon}

theorem Built.getElem?_homonyms (h : one.Built) (stem : Text) :
    one.homonyms[stem]? = if one.lookup stem = [] then none else some (one.lookup stem) := by
  have hknown : one.contains stem ↔ one.lookup stem ≠ [] := h.contains_iff
  rw [contains, Std.ExtTreeMap.contains_eq_isSome_getElem?] at hknown
  rw [lookup, Std.ExtTreeMap.getD_eq_getD_getElem?] at hknown ⊢
  cases hget : one.homonyms[stem]? with
  | none => simp
  | some entries =>
      simp only [hget, Option.isSome_some, Option.getD_some, true_iff] at hknown
      simp [hknown]

theorem Built.getElem?_initials_eq (hone : one.Built) (hother : other.Built)
    (h : ∀ stem, one.lookup stem = other.lookup stem) (c : Char) :
    one.initials[c]? = other.initials[c]? := by
  obtain ⟨stems, hdistinct, hmem, hcount⟩ := hone.counted
  obtain ⟨stems', hdistinct', hmem', hcount'⟩ := hother.counted
  -- Both counts were taken of lists of the same stems, each of them once.
  have hperm : stems.Perm stems' := by
    apply (List.perm_ext_iff_of_nodup hdistinct hdistinct').2
    intro stem
    rw [← hmem, ← hmem', hone.contains_iff, hother.contains_iff, h]
  rw [hcount, hcount', hperm.countP_eq]

/-- What is found under each stem is all that there is to a lexicon. -/
theorem Built.eq_of_lookup_eq (hone : one.Built) (hother : other.Built)
    (h : ∀ stem, one.lookup stem = other.lookup stem) : one = other := by
  have hhomonyms : one.homonyms = other.homonyms := by
    apply Std.ExtTreeMap.ext_getElem?
    intro stem
    rw [hone.getElem?_homonyms, hother.getElem?_homonyms, h]
  have hinitials : one.initials = other.initials := by
    apply Std.ExtTreeMap.ext_getElem?
    exact hone.getElem?_initials_eq hother h
  cases one
  cases other
  exact congrArg₂ mk hhomonyms hinitials

variable {entry : Entry} {p : Entry → Bool}

/-- A new entry is taken away by whatever picks it out and none of its homonyms. -/
theorem Built.removeMatching_add (h : one.Built) (hentry : p entry)
    (hrest : ∀ homonym ∈ one.lookup entry.stem, p homonym = false) :
    (one.add entry).removeMatching entry.stem p = (one, 1) := by
  have hcount : (one.lookup entry.stem).countP p = 0 := by
    apply List.countP_eq_zero.2
    intro homonym hhomonym
    rw [hrest homonym hhomonym]
    exact Bool.false_ne_true
  have hlookup (stem : Text) :
      ((one.add entry).removeMatching entry.stem p).1.lookup stem = one.lookup stem := by
    rw [lookup_removeMatching, lookup_add]
    split
    · rename_i hstem
      have hkept : (one.lookup stem).filter (fun homonym ↦ !p homonym) = one.lookup stem := by
        apply List.filter_eq_self.2
        intro homonym hhomonym
        rw [hrest homonym (hstem ▸ hhomonym), Bool.not_false]
      rw [List.filter_append, hkept]
      simp [hentry]
    · rfl
  apply Prod.ext
  · exact ((h.add entry).removeMatching entry.stem p).eq_of_lookup_eq h hlookup
  · rw [removeMatching_snd, lookup_add, if_pos rfl, List.countP_append, hcount,
      List.countP_singleton, if_pos hentry]

end Lexicon

/-- Two entries are told the same: stem, flags and fields. -/
def Entry.Alike (one other : Entry) : Prop :=
  one.stem = other.stem ∧ one.flags = other.flags ∧ one.morph = other.morph

instance (one other : Entry) : Decidable (one.Alike other) :=
  inferInstanceAs (Decidable (_ ∧ _ ∧ _))

theorem Entry.alike_iff_eq {roles : Roles} {one other : Entry}
    (hone : one.marks = roles.marks one.flags) (hother : other.marks = roles.marks other.flags) :
    one.Alike other ↔ one = other := by
  constructor
  · intro h
    obtain ⟨hstem, hflags, hmorph⟩ := h
    cases one
    cases other
    simp only at hstem hflags hmorph hone hother
    rw [hstem, hflags, hmorph, hone, hother, hflags]
  · intro h
    rw [h]
    exact ⟨rfl, rfl, rfl⟩

namespace Dictionary

variable {dictionary : Dictionary} {word : Text} {flags : FlagSet} {morph : List MorphField}

theorem addEntry_of_mem (hword : dictionary.prepare word ≠ [])
    (hthere : dictionary.newEntry word flags morph ∈
      dictionary.lexicon.lookup (dictionary.prepare word)) :
    dictionary.addEntry word flags morph = (dictionary, true) := by
  have hstem : (Entry.new dictionary.settings (dictionary.prepare word) flags morph).stem =
      dictionary.prepare word := stem_newEntry
  simp only [addEntry, List.isEmpty_iff, if_neg hword, hstem]
  exact if_pos (List.contains_iff_mem.2 hthere)

theorem addEntry_of_not_mem (hword : dictionary.prepare word ≠ [])
    (hnew : dictionary.newEntry word flags morph ∉
      dictionary.lexicon.lookup (dictionary.prepare word)) :
    dictionary.addEntry word flags morph =
      ({ dictionary with
        lexicon := dictionary.lexicon.add (dictionary.newEntry word flags morph) }, true) := by
  have hstem : (Entry.new dictionary.settings (dictionary.prepare word) flags morph).stem =
      dictionary.prepare word := stem_newEntry
  simp only [addEntry, List.isEmpty_iff, if_neg hword, hstem]
  exact if_neg (mt List.contains_iff_mem.1 hnew)

theorem prepare_addEntry (other : Text) :
    (dictionary.addEntry word flags morph).1.prepare other = dictionary.prepare other := by
  rw [prepare, prepare, settings_addEntry]

theorem addEntry_addEntry (hword : dictionary.prepare word ≠ []) :
    (dictionary.addEntry word flags morph).1.addEntry word flags morph =
      ((dictionary.addEntry word flags morph).1, true) := by
  apply addEntry_of_mem
  · rwa [prepare_addEntry]
  · apply (mem_lookup_addEntry hword).2
    refine Or.inr ⟨(prepare_addEntry word).symm, ?_⟩
    rw [newEntry, newEntry, prepare_addEntry, settings_addEntry]

theorem removeWordMatching_addEntry (hbuilt : dictionary.lexicon.Built)
    (hword : dictionary.prepare word ≠ []) {p : Entry → Bool}
    (hentry : p (dictionary.newEntry word flags morph))
    (hrest : ∀ entry ∈ dictionary.lexicon.lookup (dictionary.prepare word), p entry = false) :
    (dictionary.addEntry word flags morph).1.removeWordMatching word p = (dictionary, 1) := by
  have hnew : dictionary.newEntry word flags morph ∉
      dictionary.lexicon.lookup (dictionary.prepare word) := by
    intro hthere
    rw [hrest _ hthere] at hentry
    cases hentry
  have hstem : (dictionary.newEntry word flags morph).stem = dictionary.prepare word :=
    stem_newEntry
  rw [← hstem] at hrest
  have hback := hbuilt.removeMatching_add hentry hrest
  rw [removeWordMatching, prepare_addEntry, addEntry_of_not_mem hword hnew, ← hstem, hback]

/-- Adding an entry twice is adding it once.  Where no entry is told the same, the one that is added
can be taken away again, and then the dictionary is what it was before; it makes no difference
whether the entries are compared as they are told or with their marks. -/
theorem addEntry_undone {made : Dictionary} (hmade : made.IsMade) (changes : List Change)
    (word : Text) (flags : FlagSet) (morph : List MorphField)
    (hword : (made.after changes).prepare word ≠ []) :
    let before := made.after changes
    let new := before.newEntry word flags morph
    let added := (before.addEntry word flags morph).1
    (new.stem = before.prepare word ∧ new.flags = flags ∧ new.morph = morph) ∧
    added.addEntry word flags morph = (added, true) ∧
    (∀ stem, ∀ entry ∈ added.lexicon.lookup stem, entry.Alike new ↔ entry = new) ∧
    ((∀ entry ∈ before.lexicon.lookup (before.prepare word), ¬entry.Alike new) →
      added.removeWordMatching word (fun entry ↦ entry.Alike new) = (before, 1) ∧
        added.removeWordMatching word (fun entry ↦ entry = new) = (before, 1)) := by
  intro before new added
  have hbefore : before.UpToDate := hmade.upToDate.after changes
  have hadded : added.UpToDate := hbefore.addEntry word flags morph
  have hsettings : added.settings = before.settings := settings_addEntry
  refine ⟨⟨stem_newEntry, rfl, rfl⟩, addEntry_addEntry hword, ?_, fun hnone ↦ ⟨?_, ?_⟩⟩
  · intro stem entry hentry
    have hmarks := hadded.entries stem entry hentry
    rw [hsettings] at hmarks
    exact Entry.alike_iff_eq hmarks rfl
  · apply removeWordMatching_addEntry hbefore.built hword
    · exact decide_eq_true ⟨rfl, rfl, rfl⟩
    · intro entry hentry
      exact decide_eq_false (hnone entry hentry)
  · apply removeWordMatching_addEntry hbefore.built hword
    · exact decide_eq_true rfl
    · intro entry hentry
      apply decide_eq_false
      intro heq
      exact hnone entry hentry (heq ▸ ⟨rfl, rfl, rfl⟩)

/-- The word has a homonym with the same flags but without fields, and another stem begins with the
same letter; the flag has a role. -/
theorem addEntry_undone_foo :
    let changes : List Change := [.removeWord "bar".toList]
    let word := " f-oo ".toList
    let flags := FlagSet.ofList [78]
    let morph : List MorphField := [⟨"po".toList, "noun".toList⟩]
    ∃ made, load "3\nfoo/N\nfox\nbar\n".toList "NOSUGGEST N\nIGNORE -\n".toList = .ok made ∧
      made.IsMade ∧
        let before := made.after changes
        let new := before.newEntry word flags morph
        let added := (before.addEntry word flags morph).1
        before.prepare word = "foo".toList ∧ new.marks = [.noSuggest] ∧
          (before.lexicon.lookup "foo".toList).map (fun entry ↦ (entry.flags, entry.morph)) =
            [(flags, [])] ∧
            added.addEntry word flags morph = (added, true) ∧
              added.removeWordMatching word (fun entry ↦ entry.Alike new) = (before, 1) ∧
                added.removeWordMatching word (fun entry ↦ entry = new) = (before, 1) := by
  intro changes word flags morph
  have hread : (load "3\nfoo/N\nfox\nbar\n".toList "NOSUGGEST N\nIGNORE -\n".toList).map
      (fun made ↦ ((made.after changes).prepare word,
        ((made.after changes).newEntry word flags morph).marks,
        ((made.after changes).lexicon.lookup "foo".toList).map
          fun entry ↦ (entry.flags, entry.morph))) =
      .ok ("foo".toList, [.noSuggest], [(flags, [])]) := by
    decide +kernel
  obtain ⟨made, hload, hread⟩ := exists_of_map_eq_ok hread
  obtain ⟨hprepare, hread⟩ := Prod.mk.inj hread
  obtain ⟨hmarks, hlookup⟩ := Prod.mk.inj hread
  have hword : (made.after changes).prepare word ≠ [] := by
    rw [hprepare]
    exact List.cons_ne_nil _ _
  obtain ⟨⟨-, -, hmorph⟩, htwice, -, hundone⟩ :=
    addEntry_undone (.load hload) changes word flags morph hword
  refine ⟨made, hload, .load hload, hprepare, hmarks, hlookup, htwice, hundone ?_⟩
  intro entry hentry halike
  rw [hprepare] at hentry
  have htold := List.mem_map_of_mem (f := fun entry ↦ (entry.flags, entry.morph)) hentry
  rw [hlookup, List.mem_singleton] at htold
  have hnone : entry.morph = [] := (Prod.mk.inj htold).2
  rw [halike.2.2, hmorph] at hnone
  exact absurd hnone (List.cons_ne_nil _ _)

end Dictionary
end Orthography
