import Orthography.Proofs.Dictionary.Agreement
import Orthography.Proofs.Text.Line

/-!
# The lines of a dictionary text

Each line behind the first gives at most one entry, and which one depends on the settings and on
that line alone.  So two texts whose lines are the same, in whatever order and however often each
of them stands there, give dictionaries with the same entries for every stem.  These agree: whether
a word is accepted asks only whether some homonym will do or whether all of them do.
-/

namespace Orthography

namespace Dictionary

variable {dictionary : Dictionary} {entry : Entry} {stem : Text}

/-- The entry that a line adds under some settings. -/
def LineGives (settings : Settings) (line : Text) (entry : Entry) : Prop :=
  isSkipped line = false ∧ Entry.parse settings line = .ok entry

theorem exists_withProblems_readLine (dictionary : Dictionary) (number : Nat) (line : Text) :
    ∃ problems, (dictionary.readLine number line).settings =
      dictionary.settings.withProblems problems := by
  unfold readLine
  split
  · exact ⟨_, rfl⟩
  split
  · exact ⟨_, rfl⟩
  · exact ⟨_, rfl⟩

theorem mem_lookup_readLine {number : Nat} {line : Text} :
    entry ∈ (dictionary.readLine number line).lexicon.lookup stem ↔
      entry ∈ dictionary.lexicon.lookup stem ∨
        entry.stem = stem ∧ LineGives dictionary.settings line entry := by
  unfold readLine LineGives
  cases hskipped : isSkipped line with
  | true => simp
  | false =>
      cases hparse : Entry.parse dictionary.settings line with
      | error problem => simp
      | ok new =>
          simp only [Bool.false_eq_true, if_false, Lexicon.mem_lookup_add, Except.ok.injEq, true_and]
          refine or_congr_right ⟨?_, ?_⟩
          · rintro ⟨hstem, rfl⟩
            exact ⟨hstem, rfl⟩
          · rintro ⟨hstem, rfl⟩
            exact ⟨hstem, rfl⟩

/-- Reading lines changes the settings only in their problems, so each line is read as if it were
the only one. -/
theorem mem_lookup_readLines {lines : List (Text × Nat)} :
    entry ∈ (lines.foldl (fun d (line, number) ↦ d.readLine number line)
        dictionary).lexicon.lookup stem ↔
      entry ∈ dictionary.lexicon.lookup stem ∨
        entry.stem = stem ∧ ∃ line ∈ lines.map Prod.fst, LineGives dictionary.settings line entry := by
  induction lines generalizing dictionary with
  | nil => simp
  | cons line lines ih =>
      obtain ⟨problems, hsettings⟩ := exists_withProblems_readLine dictionary line.2 line.1
      have hgives (other : Text) :
          LineGives (dictionary.readLine line.2 line.1).settings other entry ↔
            LineGives dictionary.settings other entry := by
        rw [hsettings]
        exact Iff.rfl
      rw [List.foldl_cons, ih, mem_lookup_readLine]
      simp only [hgives, List.map_cons, List.mem_cons, exists_eq_or_imp, and_or_left, or_assoc]

theorem exists_withProblems_readLines (dictionary : Dictionary) (lines : List (Text × Nat)) :
    ∃ problems, (lines.foldl (fun d (line, number) ↦ d.readLine number line) dictionary).settings =
      dictionary.settings.withProblems problems := by
  induction lines generalizing dictionary with
  | nil => exact ⟨_, rfl⟩
  | cons line lines ih =>
      obtain ⟨problems, hline⟩ := exists_withProblems_readLine dictionary line.2 line.1
      obtain ⟨more, hlines⟩ := ih (dictionary.readLine line.2 line.1)
      refine ⟨more, ?_⟩
      rw [List.foldl_cons, hlines, hline]
      rfl

/-! ## Texts with the same lines -/

section Words

variable (dictionary) (words : Text)

theorem lines_of_readWords :
    (((Text.lines (Text.withoutByteOrderMark words)).zipIdx 1).drop 1).map Prod.fst =
      (Text.lines words).tail := by
  rw [List.map_drop, List.zipIdx_map_fst, List.drop_one, Text.tail_lines_withoutByteOrderMark]

theorem mem_lookup_readWords :
    entry ∈ (dictionary.readWords words).lexicon.lookup stem ↔
      entry ∈ dictionary.lexicon.lookup stem ∨
        entry.stem = stem ∧
          ∃ line ∈ (Text.lines words).tail, LineGives dictionary.settings line entry := by
  rw [readWords, mem_lookup_readLines, lines_of_readWords]

theorem settings_readWords :
    (dictionary.readWords words).settings.withProblems [] =
      dictionary.settings.withProblems [] := by
  obtain ⟨problems, hsettings⟩ := exists_withProblems_readLines dictionary
    (((Text.lines (Text.withoutByteOrderMark words)).zipIdx 1).drop 1)
  rw [readWords, hsettings]
  rfl

variable {dictionary words}

theorem Coherent.readWords (hd : dictionary.Coherent) : (dictionary.readWords words).Coherent :=
  List.foldlRecOn _ _ hd fun _ hd _ _ ↦ hd.readLine _ _

variable {words' : Text}
  (hlines : ∀ line, line ∈ (Text.lines words).tail ↔ line ∈ (Text.lines words').tail)
include hlines

theorem agrees_readWords (hd : dictionary.Coherent) :
    (dictionary.readWords words).Agrees (dictionary.readWords words') := by
  apply agrees_of_mem_lookup_iff hd.readWords.built hd.readWords.built
  · rw [settings_readWords, settings_readWords]
  · intro stem entry
    simp only [mem_lookup_readWords, hlines]

end Words

/-- What is right and what is suggested depends on the set of the lines alone.  The first line is
never looked at. -/
theorem check_and_suggestions_of_mem_lines_iff {words words' affixes : Text}
    (hlines : ∀ line, line ∈ (Text.lines words).tail ↔ line ∈ (Text.lines words').tail)
    {settings : Settings} (hsettings : Settings.parse affixes = .ok settings) :
    ∃ one other, load words affixes = .ok one ∧ load words' affixes = .ok other ∧
      ∀ word, one.check word = other.check word ∧
        ∀ max, one.suggestions word max = other.suggestions word max := by
  have hcoherent : (ofParts settings .empty).Coherent :=
    .ofParts (Settings.formed_of_parse hsettings) .empty
  have hagrees := agrees_readWords hlines hcoherent
  refine ⟨_, _, ?_, ?_, fun word ↦ ⟨hagrees.check word, hagrees.suggestions word⟩⟩
  · rw [load, hsettings]
    rfl
  · rw [load, hsettings]
    rfl

/-- The homonyms of `foo`, of which one is forbidden, may change places and come again. -/
theorem check_foobar_of_swapped_lines :
    let affixes := "FORBIDDENWORD !\nBREAK 1\nBREAK -\nCOMPOUNDRULE 1\nCOMPOUNDRULE ab\n".toList
    let words := "3\nfoo/!\nfoo/a\nbar/b\n".toList
    let swapped := "3\nbar/b\nfoo/a\nfoo/!\nbar/b\n".toList
    (∀ line, line ∈ (Text.lines words).tail ↔ line ∈ (Text.lines swapped).tail) ∧
      ∃ settings one other, Settings.parse affixes = .ok settings ∧
        load words affixes = .ok one ∧ load swapped affixes = .ok other ∧
          one.check "foobar-foo".toList ∧
            one.check "foobar-foo".toList = other.check "foobar-foo".toList := by
  intro affixes words swapped
  have hto : (Text.lines words).tail ⊆ (Text.lines swapped).tail := by decide +kernel
  have hfro : (Text.lines swapped).tail ⊆ (Text.lines words).tail := by decide +kernel
  have hlines (line : Text) :
      line ∈ (Text.lines words).tail ↔ line ∈ (Text.lines swapped).tail :=
    ⟨@hto line, @hfro line⟩
  obtain ⟨settings, hsettings⟩ : ∃ settings, Settings.parse affixes = .ok settings := ⟨_, rfl⟩
  obtain ⟨one, other, hone, hother, hsame⟩ :=
    check_and_suggestions_of_mem_lines_iff hlines hsettings
  have hcheck : (load words affixes).map (·.check "foobar-foo".toList) = .ok true := by
    decide +kernel
  rw [hone] at hcheck
  exact ⟨hlines, settings, one, other, hsettings, hone, hother, Except.ok.inj hcheck,
    (hsame _).1⟩

end Dictionary
end Orthography
