import Orthography.Proofs.Settings.Lines

/-!
# Letters of affixes

Words and stems lose the characters that are ignored.  Of an affix entry only what it adds loses
them, and only those that are ignored where its line stands; what it strips is kept as it is
written.  So an entry may keep characters that no word has, and `hasCleanAffixes_iff` says when none
does.
-/

namespace Orthography

open Directive

/-- The letters of an affix entry as they are written, and the characters that are ignored where
its line stands. -/
structure WrittenAffix where
  strip : Text
  add : Text
  ignored : List Char
  deriving DecidableEq

/-- What an entry keeps of the letters that are written, the stripped ones first. -/
def WrittenAffix.kept (written : WrittenAffix) : Text × Text :=
  (written.strip, written.add.filter fun c ↦ !written.ignored.contains c)

def AffixEntry.letters (entry : AffixEntry) : Text × Text := (entry.strip, entry.add)

namespace Directive

/-- What stands before the flags of an affix. -/
def beforeFlags (add : Text) : Text := ((Text.splitOnce? ['/'] add).map Prod.fst).getD add

/-- What an affix line writes, unless it declares a rule. -/
def writtenAffix? (ignored : List Char) : Directive → Option WrittenAffix
  | .affix _ _ (strip :: add :: more) =>
      if (Loading.header? (strip :: add :: more)).isSome then none
      else some ⟨Loading.letters strip, Loading.letters (beforeFlags add), ignored⟩
  | _ => none

section WrittenAffix

variable {kind : AffixKind} {name strip add : Text} {fields more : List Text}

theorem writtenAffix?_of_header (h : (Loading.header? fields).isSome) (ignored : List Char) :
    (Directive.affix kind name fields).writtenAffix? ignored = none := by
  unfold writtenAffix?
  split
  · rename_i heq
    cases heq
    rw [if_pos h]
  · rfl

theorem writtenAffix?_of_entry (h : Loading.header? (strip :: add :: more) = none)
    (ignored : List Char) :
    (Directive.affix kind name (strip :: add :: more)).writtenAffix? ignored =
      some ⟨Loading.letters strip, Loading.letters (beforeFlags add), ignored⟩ := by
  rw [writtenAffix?, h]
  rfl

end WrittenAffix

end Directive

namespace Loading

def entries (l : Loading) : List AffixEntry := (l.prefixes ++ l.suffixes).flatMap (·.entries)

/-- What a line writes of an affix entry, if it can be carried out. -/
def writtenAffix? (l : Loading) (line : Text) : Option WrittenAffix :=
  match ofLine line with
  | .error _ => none
  | .ok directive =>
      if (l.apply directive).isOk then directive.writtenAffix? l.settings.ignored else none

def writtenAffixes (l : Loading) (number : Nat) : List Text → List WrittenAffix
  | [] => []
  | line :: lines =>
      match l.readLine number line with
      | .error _ => []
      | .ok next => (l.writtenAffix? line).toList ++ next.writtenAffixes (number + 1) lines

variable {l next final : Loading} {kind : AffixKind} {flag : Flag} {number : Nat} {line : Text}
  {lines : List Text} {directive : Directive} {pair : Text × Text}

/-! ## What a line adds to the entries -/

theorem addedLetters_eq_ok {settings : Settings} {add letters : Text} {flags : FlagSet}
    (h : addedLetters settings add = .ok (letters, flags)) : letters = beforeFlags add := by
  rw [addedLetters] at h
  split at h
  · rename_i hsplit
    cases h
    rw [beforeFlags, hsplit]
    rfl
  · rename_i hsplit
    obtain ⟨flags, -, h⟩ := exists_of_bind_eq_ok h
    cases h
    rw [beforeFlags, hsplit]
    rfl

theorem entries_of_addRule {cross : Bool} (h : l.addRule kind flag cross = .ok next) :
    next.entries = l.entries := by
  simp only [addRule] at h
  split at h
  · cases h
  · have hdeclared : (l.setRules kind (l.rules kind ++ [.new kind flag cross])).entries =
        l.entries := by
      cases kind <;> simp [entries, setRules, rules, AffixRule.new]
    split at h <;> split at h <;> cases h <;> exact hdeclared

theorem mem_flatMap_push {rules : List AffixRule} {rule : AffixRule} (hrule : rule ∈ rules)
    (hflag : rule.flag = flag) (entry new : AffixEntry) :
    entry ∈ (rules.map fun r ↦ if r.flag = flag then r.push new else r).flatMap (·.entries) ↔
      entry ∈ rules.flatMap (·.entries) ∨ entry = new := by
  simp only [List.mem_flatMap, List.mem_map, exists_exists_and_eq_and]
  constructor
  · intro h
    obtain ⟨r, hr, hentry⟩ := h
    split at hentry
    · exact (AffixRule.mem_push.1 hentry).imp_left fun hold ↦ ⟨r, hr, hold⟩
    · exact Or.inl ⟨r, hr, hentry⟩
  · rintro (⟨r, hr, hentry⟩ | rfl)
    · refine ⟨r, hr, ?_⟩
      split
      · exact AffixRule.mem_push.2 (Or.inl hentry)
      · exact hentry
    · refine ⟨rule, hrule, ?_⟩
      rw [if_pos hflag]
      exact AffixRule.mem_push.2 (Or.inr rfl)

theorem mem_entries_setRules_push {rule : AffixRule} (hrule : rule ∈ l.rules kind)
    (hflag : rule.flag = flag) {entry new : AffixEntry} :
    entry ∈ (l.setRules kind ((l.rules kind).map fun r ↦
        if r.flag = flag then r.push new else r)).entries ↔
      entry ∈ l.entries ∨ entry = new := by
  have hpush := mem_flatMap_push hrule hflag entry new
  cases kind with
  | pre =>
      simp only [entries, setRules, List.flatMap_append, List.mem_append, hpush]
      exact or_right_comm
  | suf =>
      simp only [entries, setRules, List.flatMap_append, List.mem_append, hpush]
      exact or_assoc.symm

theorem exists_of_addEntry {strip add : Text} {more : List Text}
    (h : l.addEntry kind flag strip add more = .ok next) :
    ∃ new : AffixEntry,
      new.letters = (letters strip, l.settings.stripIgnored (letters (beforeFlags add))) ∧
        ∀ entry, entry ∈ next.entries ↔ entry ∈ l.entries ∨ entry = new := by
  simp only [addEntry] at h
  split at h
  · cases h
  rename_i rule hrule
  obtain ⟨⟨added, contFlags⟩, hadded, h⟩ := exists_of_bind_eq_ok h
  obtain ⟨condition, -, h⟩ := exists_of_bind_eq_ok h
  cases h
  have hflag : rule.flag = flag := by simpa using List.find?_some hrule
  refine ⟨_, ?_, fun entry ↦ mem_entries_setRules_push (List.mem_of_find?_eq_some hrule) hflag⟩
  rw [← addedLetters_eq_ok hadded]
  rfl

theorem mem_letters_of_affixLine {name : Text} {fields : List Text}
    (h : l.affixLine kind name fields = .ok next) :
    pair ∈ next.entries.map AffixEntry.letters ↔ pair ∈ l.entries.map AffixEntry.letters ∨
      ∃ written, (Directive.affix kind name fields).writtenAffix? l.settings.ignored =
        some written ∧ written.kept = pair := by
  obtain ⟨flag, -, h⟩ := exists_of_bind_eq_ok h
  split at h
  · rename_i cross hheader
    rw [entries_of_addRule h, writtenAffix?_of_header (by rw [hheader, Option.isSome_some])]
    simp
  · rename_i hheader
    split at h
    · rename_i strip add more _
      obtain ⟨new, hnew, hentries⟩ := exists_of_addEntry h
      have hkept : WrittenAffix.kept
          ⟨letters strip, letters (beforeFlags add), l.settings.ignored⟩ = new.letters := hnew.symm
      simp only [writtenAffix?_of_entry hheader, List.mem_map, hentries, or_and_right, exists_or,
        exists_eq_left, Option.some.injEq, exists_eq_left', hkept]
    · cases h

theorem entries_of_apply (h : l.apply directive = .ok next)
    (hdirective : ∀ kind name fields, directive ≠ .affix kind name fields) :
    next.entries = l.entries := by
  rcases apply_cases h with ⟨settings, -, rfl⟩ | ⟨kind, name, fields, haffix, -⟩ |
    ⟨text, -, -, rfl⟩ | ⟨text, -, -, rfl⟩
  · rfl
  · exact absurd haffix (hdirective kind name fields)
  · rfl
  · rfl

/-- A line adds the letters that it writes, as far as they are kept, and no others. -/
theorem mem_letters_of_readLine (h : l.readLine number line = .ok next) :
    pair ∈ next.entries.map AffixEntry.letters ↔ pair ∈ l.entries.map AffixEntry.letters ∨
      ∃ written, l.writtenAffix? line = some written ∧ written.kept = pair := by
  rcases readLine_cases h with ⟨fault, hline, rfl⟩ | ⟨name, mode, hline, -, rfl⟩ |
    ⟨directive, hline, -, hnext⟩
  -- A line that is at fault or sets the flag mode writes no affix.
  · simp [writtenAffix?, hline, report, entries]
  · simp [writtenAffix?, hline, Directive.writtenAffix?, entries]
  rw [writtenAffix?, hline]
  dsimp only
  rcases hnext with happly | ⟨problem, happly, rfl⟩
  · rw [happly]
    change _ ↔ _ ∨ ∃ written, directive.writtenAffix? l.settings.ignored = some written ∧ _
    cases directive with
    | affix kind name fields => exact mem_letters_of_affixLine happly
    | _ =>
      rw [entries_of_apply happly (by simp)]
      simp [Directive.writtenAffix?]
  -- What cannot be carried out is reported, and nothing of it is written.
  · rw [happly]
    simp [Except.isOk, Except.toBool, report, entries]

theorem mem_letters_of_readLines (h : l.readLines number lines = .ok final) :
    pair ∈ final.entries.map AffixEntry.letters ↔ pair ∈ l.entries.map AffixEntry.letters ∨
      pair ∈ (l.writtenAffixes number lines).map WrittenAffix.kept := by
  induction lines generalizing l number with
  | nil =>
      cases h
      simp [writtenAffixes]
  | cons line lines ih =>
      rw [readLines_cons] at h
      obtain ⟨next, hnext, hrest⟩ := exists_of_bind_eq_ok h
      rw [ih hrest, mem_letters_of_readLine hnext, writtenAffixes, hnext]
      simp [or_assoc]

end Loading

namespace Settings

variable {settings : Settings} {text : Text}

def affixEntries (settings : Settings) : List AffixEntry :=
  (settings.affixes.prefixes ++ settings.affixes.suffixes).flatMap (·.entries)

/-- What an affix text writes of affix entries, line by line. -/
def writtenAffixes (text : Text) : List WrittenAffix :=
  Loading.writtenAffixes {} 1 (linesOf text)

/-- No affix has a character that is taken out of words and stems. -/
def HasCleanAffixes (settings : Settings) : Prop :=
  ∀ entry ∈ settings.affixEntries, ∀ c ∈ settings.ignored, c ∉ entry.strip ∧ c ∉ entry.add

theorem hasCleanAffixes_iff_letters : settings.HasCleanAffixes ↔
    ∀ pair ∈ settings.affixEntries.map AffixEntry.letters, ∀ c ∈ settings.ignored,
      c ∉ pair.1 ∧ c ∉ pair.2 := by
  rw [HasCleanAffixes, List.forall_mem_map]
  rfl

/-- Marks do not change letters. -/
theorem map_letters_finish (l : Loading) :
    l.finish.affixEntries.map AffixEntry.letters = l.entries.map AffixEntry.letters := by
  have hrules (rules : List AffixRule) :
      ((rules.map (AffixRule.withMarks l.settings.roles)).flatMap (·.entries)).map
        AffixEntry.letters = (rules.flatMap (·.entries)).map AffixEntry.letters := by
    rw [List.flatMap_map, List.map_flatMap, List.map_flatMap]
    refine congrArg (List.flatMap · rules) (funext fun rule ↦ ?_)
    exact List.map_map
  have hprefixes := hrules l.prefixes
  have hsuffixes := hrules l.suffixes
  simp only [affixEntries, Loading.entries, List.flatMap_append, List.map_append]
  exact congrArg₂ (· ++ ·) hprefixes hsuffixes

theorem mem_letters_of_parse (h : parse text = .ok settings) (pair : Text × Text) :
    pair ∈ settings.affixEntries.map AffixEntry.letters ↔
      pair ∈ (writtenAffixes text).map WrittenAffix.kept := by
  obtain ⟨final, hfinal, rfl⟩ := exists_of_map_eq_ok h
  rw [map_letters_finish, Loading.mem_letters_of_readLines hfinal]
  simp [Loading.entries, writtenAffixes, linesOf]

/-- The affixes have the letters that are written, but for the added ones that are ignored where
they stand.  So no affix has a character that is ignored in the end just if none is stripped, and
none is added on a line where it is not ignored. -/
theorem hasCleanAffixes_iff (hparse : parse text = .ok settings) :
    (∀ pair, pair ∈ settings.affixEntries.map AffixEntry.letters ↔
      pair ∈ (writtenAffixes text).map WrittenAffix.kept) ∧
    (settings.HasCleanAffixes ↔
      ∀ written ∈ writtenAffixes text, ∀ c ∈ settings.ignored,
        c ∉ written.strip ∧ (c ∈ written.add → c ∈ written.ignored)) := by
  have hletters := mem_letters_of_parse hparse
  refine ⟨hletters, ?_⟩
  simp only [hasCleanAffixes_iff_letters, hletters, List.forall_mem_map]
  refine forall₂_congr fun written _ ↦ forall₂_congr fun c _ ↦ and_congr_right fun _ ↦ ?_
  simp [WrittenAffix.kept]

/-- The ignored characters are declared before each entry, and once more in between. -/
theorem hasCleanAffixes_of_declared_before :
    let text :=
      "IGNORE -\nSFX S Y 1\nSFX S y i-es .\nIGNORE ~-\nPFX P Y 1\nPFX P 0 ~un/S .\n".toList
    ∃ settings, parse text = .ok settings ∧ settings.ignored = ['~', '-'] ∧
      settings.affixEntries.map AffixEntry.letters =
        [([], "un".toList), (['y'], "ies".toList)] ∧ settings.HasCleanAffixes := by
  intro text
  have hsettings : (parse text).map (fun settings ↦
      (settings.ignored, settings.affixEntries.map AffixEntry.letters)) =
      .ok (['~', '-'], [([], "un".toList), (['y'], "ies".toList)]) := by decide +kernel
  have hwritten : writtenAffixes text =
      [⟨['y'], "i-es".toList, ['-']⟩, ⟨[], "~un".toList, ['~', '-']⟩] := by decide +kernel
  obtain ⟨settings, hparse, heq⟩ := exists_of_map_eq_ok hsettings
  obtain ⟨hignored, hletters⟩ := Prod.mk.inj heq
  refine ⟨settings, hparse, hignored, hletters, (hasCleanAffixes_iff hparse).2.2 ?_⟩
  rw [hwritten, hignored]
  simp

/-- The first text strips a character that is ignored; the second one adds one that is ignored only
behind it. -/
theorem not_hasCleanAffixes :
    let stripped := "IGNORE -\nSFX S Y 1\nSFX S -y ies .\n".toList
    let added := "SFX S Y 1\nSFX S y i-es .\nIGNORE -\n".toList
    (∃ settings, parse stripped = .ok settings ∧ ¬settings.HasCleanAffixes) ∧
      ∃ settings, parse added = .ok settings ∧ ¬settings.HasCleanAffixes := by
  intro stripped added
  have hstripped : (parse stripped).map (fun settings ↦
      (settings.ignored, settings.affixEntries.map AffixEntry.letters)) =
      .ok (['-'], [("-y".toList, "ies".toList)]) := by decide +kernel
  have hadded : (parse added).map (fun settings ↦
      (settings.ignored, settings.affixEntries.map AffixEntry.letters)) =
      .ok (['-'], [(['y'], "i-es".toList)]) := by decide +kernel
  constructor
  · obtain ⟨settings, hparse, heq⟩ := exists_of_map_eq_ok hstripped
    obtain ⟨hignored, hletters⟩ := Prod.mk.inj heq
    refine ⟨settings, hparse, ?_⟩
    rw [hasCleanAffixes_iff_letters, hignored, hletters]
    simp
  · obtain ⟨settings, hparse, heq⟩ := exists_of_map_eq_ok hadded
    obtain ⟨hignored, hletters⟩ := Prod.mk.inj heq
    refine ⟨settings, hparse, ?_⟩
    rw [hasCleanAffixes_iff_letters, hignored, hletters]
    simp

end Settings
end Orthography
