import Orthography.Proofs.Dictionary.Lines
import Orthography.Proofs.Lexicon.WrittenLine
import Orthography.Proofs.Settings.AffixLetters

/-!
# Fields that are loaded

The morphological fields of words and affixes are read from tokens, wherever they are written:
behind a word, behind an affix, or under a number that stands for them.  So in all of a dictionary
that has been loaded there is no field with a blank in it or without a value.
-/

namespace Orthography

open Text

namespace MorphField

variable {field : MorphField} {token text : Text}

theorem parse?_eq_some_iff :
    parse? token = some field ↔
      token = field.render ∧ field.tag.length = 2 ∧ ':' ∉ field.tag ∧ field.value ≠ [] := by
  have hrender (field : MorphField) : field.tag ++ [':'] ++ field.value = field.render := by
    simp [render]
  rw [parse?, Option.bind_eq_bind, Option.bind_eq_some_iff]
  constructor
  · intro h
    obtain ⟨⟨tag, value⟩, hsplit, h⟩ := h
    dsimp only at h
    split at h
    · rename_i hsound
      obtain rfl := Option.some.inj h
      have htoken := eq_append_of_splitOnce? hsplit
      rw [htoken, splitOnce?_append_iff] at hsplit
      have hcolon := not_mem_of_isFirstBehind hsplit
      exact ⟨htoken.trans (hrender ⟨tag, value⟩), hsound.1, hcolon, hsound.2⟩
    · cases h
  · intro h
    obtain ⟨rfl, hlength, hcolon, hvalue⟩ := h
    refine ⟨(field.tag, field.value), ?_, if_pos ⟨hlength, hvalue⟩⟩
    rw [← hrender, splitOnce?_append_iff]
    exact isFirstBehind_singleton hcolon

theorem isWritable_of_mem_parseList (h : field ∈ parseList text) : field.IsWritable := by
  obtain ⟨token, htoken, hfield⟩ := List.mem_filterMap.1 h
  obtain ⟨rfl, hlength, hcolon, hvalue⟩ := parse?_eq_some_iff.1 hfield
  refine ⟨hlength, hcolon, hvalue, ?_⟩
  intro c hc
  apply not_isBlank_of_mem_tokens htoken
  rw [render, List.mem_append, List.mem_cons]
  exact (List.mem_append.1 hc).imp_right Or.inr

/-- Fields each of which could have been read from a token. -/
def AreWritable (fields : List MorphField) : Prop := ∀ field ∈ fields, field.IsWritable

theorem areWritable_parseList (text : Text) : AreWritable (parseList text) :=
  fun _ ↦ isWritable_of_mem_parseList

end MorphField

open MorphField

theorem Settings.areWritable_parseMorph {settings : Settings}
    (haliases : ∀ fields ∈ settings.morphAliases, AreWritable fields) (text : Text) :
    AreWritable (settings.parseMorph text) := by
  simp only [parseMorph]
  split
  · exact areWritable_parseList _
  · split
    · exact areWritable_parseList _
    · rename_i n _
      cases n with
      | zero =>
          intro field hfield
          cases hfield
      | succ n =>
          rw [numbered?]
          cases hfields : settings.morphAliases[n]? with
          | none =>
              intro field hfield
              cases hfield
          | some fields => exact haliases fields (List.mem_of_getElem? hfields)

/-! ## Affix texts -/

namespace Loading

/-- All fields read so far could be written again as they are. -/
structure KeepsFields (l : Loading) : Prop where
  aliases : ∀ fields ∈ l.settings.morphAliases, AreWritable fields
  affixes : ∀ entry ∈ l.entries, AreWritable entry.morph

variable {l next : Loading} {directive : Directive}

theorem KeepsFields.of_eq (h : l.KeepsFields)
    (haliases : next.settings.morphAliases = l.settings.morphAliases)
    (hentries : next.entries = l.entries) : next.KeepsFields := by
  constructor
  · rw [haliases]
    exact h.aliases
  · rw [hentries]
    exact h.affixes

theorem KeepsFields.addEntry (h : l.KeepsFields) {kind : AffixKind} {flag : Flag}
    {strip add : Text} {more : List Text} (hnext : l.addEntry kind flag strip add more = .ok next) :
    next.KeepsFields := by
  simp only [Loading.addEntry] at hnext
  split at hnext
  · cases hnext
  rename_i rule hrule
  obtain ⟨⟨added, contFlags⟩, -, hnext⟩ := exists_of_bind_eq_ok hnext
  obtain ⟨condition, -, hnext⟩ := exists_of_bind_eq_ok hnext
  cases hnext
  have hflag : rule.flag = flag := by simpa using List.find?_some hrule
  have hmember := List.mem_of_find?_eq_some hrule
  constructor
  · cases kind <;> exact h.aliases
  · intro entry hentry
    rcases (mem_entries_setRules_push hmember hflag).1 hentry with hold | rfl
    · exact h.affixes entry hold
    · simp only [AffixRule.entry]
      split
      · intro field hfield
        cases hfield
      · exact Settings.areWritable_parseMorph h.aliases _

theorem KeepsFields.affixLine (h : l.KeepsFields) {kind : AffixKind} {name : Text}
    {fields : List Text} (hnext : l.affixLine kind name fields = .ok next) : next.KeepsFields := by
  have haliases : next.settings.morphAliases = l.settings.morphAliases := by
    obtain ⟨prefixes, suffixes, rfl | ⟨flag, rfl⟩⟩ := exists_of_affixLine hnext <;> rfl
  obtain ⟨flag, -, hnext⟩ := exists_of_bind_eq_ok hnext
  split at hnext
  · exact h.of_eq haliases (entries_of_addRule hnext)
  · split at hnext
    · exact h.addEntry hnext
    · cases hnext

theorem areWritable_of_set {settings after : Settings}
    (haliases : ∀ fields ∈ settings.morphAliases, AreWritable fields)
    (h : set settings directive = .ok after) :
    ∀ fields ∈ after.morphAliases, AreWritable fields := by
  by_cases hdirective : ∃ text, directive = .morphAlias text
  · obtain ⟨text, rfl⟩ := hdirective
    cases h
    intro fields hfields
    rcases List.mem_append.1 hfields with hold | hnew
    · exact haliases fields hold
    · rw [List.mem_singleton.1 hnew]
      exact areWritable_parseList text
  · have hkept : after.morphAliases = settings.morphAliases := by
      apply eq_of_set h
      intro settings
      unfold Directive.without
      split <;> first
        | rfl
        | exact absurd ⟨_, rfl⟩ hdirective
    rw [hkept]
    exact haliases

theorem KeepsFields.apply (h : l.KeepsFields) (hnext : l.apply directive = .ok next) :
    next.KeepsFields := by
  rcases apply_cases hnext with ⟨settings, hset, rfl⟩ | ⟨kind, name, fields, -, haffix⟩ |
    ⟨text, -, -, rfl⟩ | ⟨text, -, -, rfl⟩
  · exact ⟨areWritable_of_set h.aliases hset, h.affixes⟩
  · exact h.affixLine haffix
  · exact h.of_eq rfl rfl
  · exact h.of_eq rfl rfl

theorem KeepsFields.readLine (h : l.KeepsFields) {number : Nat} {line : Text}
    (hnext : l.readLine number line = .ok next) : next.KeepsFields := by
  rcases readLine_cases hnext with ⟨fault, -, rfl⟩ | ⟨name, mode, -, -, rfl⟩ |
    ⟨directive, -, -, happly | ⟨problem, -, rfl⟩⟩
  · exact h.of_eq rfl rfl
  · exact h.of_eq rfl rfl
  · exact h.apply happly
  · exact h.of_eq rfl rfl

end Loading

namespace Settings

/-- All fields that the settings hold could be written again as they are. -/
structure KeepsFields (settings : Settings) : Prop where
  aliases : ∀ fields ∈ settings.morphAliases, AreWritable fields
  affixes : ∀ entry ∈ settings.affixEntries, AreWritable entry.morph

/-- Marks do not change fields. -/
theorem exists_of_mem_withMarks {rules : List AffixRule} {roles : Roles} {entry : AffixEntry}
    (h : entry ∈ (rules.map (AffixRule.withMarks roles)).flatMap (·.entries)) :
    ∃ old ∈ rules.flatMap (·.entries), old.morph = entry.morph := by
  rw [List.flatMap_map] at h
  obtain ⟨rule, hrule, hentry⟩ := List.mem_flatMap.1 h
  obtain ⟨old, hold, rfl⟩ := List.mem_map.1 hentry
  exact ⟨old, List.mem_flatMap.2 ⟨rule, hrule, hold⟩, rfl⟩

theorem keepsFields_of_parse {text : Text} {settings : Settings} (h : parse text = .ok settings) :
    settings.KeepsFields := by
  obtain ⟨final, hfinal, hfinish⟩ := exists_of_bind_eq_ok h
  cases hfinish
  have hempty : ({} : Loading).KeepsFields := by
    constructor
    · intro fields hfields
      cases hfields
    · intro entry hentry
      cases hentry
  have hkept : final.KeepsFields :=
    of_foldlM_eq_ok (fun _ _ _ hl hnext ↦ hl.readLine hnext) hempty hfinal
  refine ⟨hkept.aliases, ?_⟩
  intro entry hentry
  have hrules : final.finish.affixEntries =
      ((final.prefixes ++ final.suffixes).map (AffixRule.withMarks final.settings.roles)).flatMap
        (·.entries) := by
    rw [List.map_append]
    rfl
  rw [hrules] at hentry
  obtain ⟨old, hold, hmorph⟩ := exists_of_mem_withMarks hentry
  rw [← hmorph]
  exact hkept.affixes old hold

end Settings

/-! ## Dictionaries -/

namespace Dictionary

variable {dictionary : Dictionary} {d : Derivation} {word words affixes : Text}

/-- All fields of the dictionary could be written again as they are. -/
structure KeepsFields (dictionary : Dictionary) : Prop where
  affixes : ∀ entry ∈ dictionary.settings.affixEntries, AreWritable entry.morph
  entries : ∀ stem, ∀ entry ∈ dictionary.lexicon.lookup stem, AreWritable entry.morph

theorem keepsFields_of_load (h : load words affixes = .ok dictionary) :
    dictionary.KeepsFields := by
  obtain ⟨settings, hsettings, rfl⟩ := exists_of_map_eq_ok h
  have hkept := Settings.keepsFields_of_parse hsettings
  obtain ⟨problems, hproblems⟩ := exists_withProblems_readLines (ofParts settings .empty)
    (((lines (withoutByteOrderMark words)).zipIdx 1).drop 1)
  constructor
  · intro entry hentry
    have hrules : ((ofParts settings .empty).readWords words).settings.affixEntries =
        ((settings.affixes.prefixes ++ settings.affixes.suffixes).map
          (AffixRule.withMarks settings.roles)).flatMap (·.entries) := by
      rw [readWords, hproblems, List.map_append]
      rfl
    rw [hrules] at hentry
    obtain ⟨old, hold, hmorph⟩ := Settings.exists_of_mem_withMarks hentry
    rw [← hmorph]
    exact hkept.affixes old hold
  · intro stem entry hentry
    rcases (mem_lookup_readWords (ofParts settings .empty) words).1 hentry with
      hold | ⟨-, line, -, -, hparse⟩
    · rw [ofParts, Lexicon.lookup_withMarks, Lexicon.lookup_empty] at hold
      cases hold
    · simp only [Entry.parse] at hparse
      split at hparse
      · cases hparse
      · obtain ⟨flags, -, hparse⟩ := exists_of_bind_eq_ok hparse
        cases hparse
        exact Settings.areWritable_parseMorph hkept.aliases _

theorem mem_affixEntries_of_builds (h : d.Builds dictionary word) :
    ∀ affix ∈ d.affixes, affix ∈ dictionary.settings.affixEntries := by
  have hdeclared {rules : List AffixRule} {affix : AffixEntry} (h : affix.IsDeclaredIn rules)
      (hrules : rules ⊆ dictionary.settings.affixes.prefixes ++
        dictionary.settings.affixes.suffixes) : affix ∈ dictionary.settings.affixEntries := by
    obtain ⟨rule, hrule, hentry, -⟩ := h
    exact List.mem_flatMap.2 ⟨rule, hrules hrule, hentry⟩
  have hsuffix {affix : AffixEntry} {form word : Text}
      (h : dictionary.settings.AttachesSuffix affix form word) :
      affix ∈ dictionary.settings.affixEntries :=
    hdeclared h.declared (List.subset_append_right _ _)
  have hfront {affix : AffixEntry} {form word : Text}
      (h : dictionary.settings.AttachesPrefix affix form word) :
      affix ∈ dictionary.settings.affixEntries :=
    hdeclared h.declared (List.subset_append_left _ _)
  cases h with
  | bare entry =>
      intro affix haffix
      cases haffix
  | suffixed entry attaches flag =>
      simpa [Derivation.affixes, Derivation.suffixes] using hsuffix attaches
  | twiceSuffixed entry attachesInner attachesOuter flag contFlag =>
      simpa [Derivation.affixes, Derivation.suffixes] using
        ⟨hsuffix attachesInner, hsuffix attachesOuter⟩
  | prefixed entry attaches fits flag =>
      simpa [Derivation.affixes, Derivation.suffixes] using hfront attaches
  | crossed entry attachesSuffix attachesFront fits crossSuffix crossFront flagSuffix flagFront =>
      simpa [Derivation.affixes, Derivation.suffixes] using
        ⟨hfront attachesFront, hsuffix attachesSuffix⟩

/-- The root of a derivation and its affixes bring no other fields than could be written. -/
theorem KeepsFields.areWritable_of_builds (hkept : dictionary.KeepsFields)
    (h : d.Builds dictionary word) :
    AreWritable (d.root.morph ++ d.affixes.flatMap (·.morph)) := by
  intro field hfield
  rcases List.mem_append.1 hfield with hroot | haffixes
  · exact hkept.entries _ d.root h.root_mem field hroot
  · obtain ⟨affix, haffix, hfield⟩ := List.mem_flatMap.1 haffixes
    exact hkept.affixes affix (mem_affixEntries_of_builds h affix haffix) field hfield

end Dictionary
end Orthography
