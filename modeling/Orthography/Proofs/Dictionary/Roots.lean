import Orthography.Proofs.Compound.DivisionSearch
import Orthography.Proofs.Compound.RuleSearch
import Orthography.Proofs.Dictionary.Forbidden

/-!
# The roots of accepted words

What a word is looked up for says which roots count.  Derivations and divisions keep to that; a
compound rule only leaves out forbidden roots, so a word in another case can rest on a root that
keeps its case, and a correction on one that must not be offered.
-/

namespace Orthography

/-- A root counts for a purpose. -/
structure Entry.Serves (purpose : Purpose) (root : Entry) : Prop where
  allowed : root.hasRole .forbidden = false
  ownCase : purpose.folded → root.hasRole .keepCase = false
  offered : purpose.suggesting → root.hasRole .noSuggest = false

theorem Derivation.root_serves {purpose : Purpose} {position : Position} {x : Derivation}
    (h : x.isAllowed purpose position) : x.root.Serves purpose := by
  simp only [isAllowed, rootServes, Bool.and_eq_true, Bool.not_eq_true', Bool.and_eq_false_iff,
    Bool.or_eq_false_iff] at h
  obtain ⟨⟨⟨⟨⟨hallowed, hcase⟩, hoffered⟩, -⟩, -⟩, -⟩ := h
  refine ⟨hallowed, fun hfolded ↦ ?_, fun hsuggesting ↦ ?_⟩
  · exact hcase.resolve_left (by simp [hfolded])
  · exact (hoffered.resolve_left (by simp [hsuggesting])).1

namespace Dictionary

variable {dictionary : Dictionary} {purpose : Purpose} {word : Text}

/-- A row of entries of which the stems make up a word and which follow a compound rule. -/
structure IsRuleRow (dictionary : Dictionary) (word : Text) (roots : List Entry) : Prop where
  spells : (roots.map (·.stem)).flatten = word
  two_le : 2 ≤ roots.length
  le_max : ∀ n, dictionary.settings.compoundMax = some n → roots.length ≤ n
  long : ∀ root ∈ roots, max dictionary.settings.compoundMin 1 ≤ root.stem.length
  known : ∀ root ∈ roots, root ∈ dictionary.lexicon.lookup root.stem
  follows : ∃ rule ∈ dictionary.settings.rules,
    rule.Follows (fun root flag ↦ root.hasFlag flag) roots

theorem forall₂_mem_lookup_iff (hl : dictionary.lexicon.Built) {good : Entry → Prop}
    {roots : List Entry} {stems : List Text} :
    List.Forall₂ (fun root stem ↦ root ∈ dictionary.lexicon.lookup stem ∧ good root) roots stems ↔
      roots.map (·.stem) = stems ∧
        ∀ root ∈ roots, root ∈ dictionary.lexicon.lookup root.stem ∧ good root := by
  constructor
  · intro h
    induction h with
    | nil => exact ⟨rfl, fun _ h ↦ absurd h List.not_mem_nil⟩
    | cons hroot _ ih =>
        obtain ⟨hstems, hroots⟩ := ih
        have hstem := hl.stem_eq hroot.1
        rw [← hstem] at hroot ⊢
        exact ⟨by rw [List.map_cons, hstems], List.forall_mem_cons.2 ⟨hroot, hroots⟩⟩
  · rintro ⟨rfl, hroots⟩
    rw [List.forall₂_map_right_iff, List.forall₂_same]
    exact hroots

theorem followsRule_iff_exists_isRuleRow (hl : dictionary.lexicon.Built) :
    dictionary.followsRule word ↔ ∃ roots, dictionary.IsRuleRow word roots ∧
      ∀ root ∈ roots, root.hasRole .forbidden = false := by
  have hcarries (stem : Text) (flag : Flag) : dictionary.stemCarries stem flag ↔
      ∃ root, (root ∈ dictionary.lexicon.lookup stem ∧ root.hasRole .forbidden = false) ∧
        root.hasFlag flag := by
    simp only [stemCarries_iff, and_assoc]
  have hrow (rule : CompoundRule) (stems : List Text) :
      rule.matchesAll dictionary.stemCarries stems ↔ ∃ roots : List Entry,
        (roots.map (·.stem) = stems ∧ ∀ root ∈ roots,
          root ∈ dictionary.lexicon.lookup root.stem ∧ root.hasRole .forbidden = false) ∧
            rule.Follows (fun root flag ↦ root.hasFlag flag) roots := by
    rw [CompoundRule.matchesAll_eq_true_iff, CompoundRule.follows_iff_exists_forall₂ hcarries]
    simp only [forall₂_mem_lookup_iff hl]
  rw [followsRule_iff]
  constructor
  · rintro ⟨stems, hflatten, htwo, hmax, hlong, -, rule, hrule, hmatches⟩
    obtain ⟨roots, ⟨rfl, hroots⟩, hfollows⟩ := (hrow rule stems).1 hmatches
    simp only [List.nil_append, List.length_map, List.forall_mem_map] at htwo hmax hlong
    exact ⟨roots, ⟨hflatten, htwo, hmax, hlong, fun root hroot ↦ (hroots root hroot).1, rule,
      hrule, hfollows⟩, fun root hroot ↦ (hroots root hroot).2⟩
  · rintro ⟨roots, ⟨hspells, htwo, hmax, hlong, hknown, rule, hrule, hfollows⟩, hgood⟩
    refine ⟨roots.map (·.stem), hspells, by simpa using htwo, by simpa using hmax, ?_, ?_, rule,
      hrule, (hrow rule _).2 ⟨roots, ⟨rfl, ?_⟩, hfollows⟩⟩
    · rw [List.forall_mem_map]
      exact hlong
    · rw [List.forall_mem_map]
      exact fun root hroot ↦ Lexicon.contains_of_mem_lookup (hknown root hroot)
    · exact fun root hroot ↦ ⟨hknown root hroot, hgood root hroot⟩

/-- A word is accepted on account of roots that are all as asked. -/
def RestsOn (dictionary : Dictionary) (purpose : Purpose) (good : Entry → Prop) (word : Text) :
    Prop :=
  (∃ x ∈ (dictionary.derivations purpose .alone word).toList, good x.root) ∨
    (∃ parts ∈ (dictionary.divisions purpose word).toList,
      ∀ part ∈ parts, good part.derivation.root) ∨
      ∃ roots, dictionary.IsRuleRow word roots ∧ ∀ root ∈ roots, good root

theorem serves_of_mem_divisions (hd : dictionary.Coherent) {parts : List Segment}
    (hparts : parts ∈ (dictionary.divisions purpose word).toList) :
    ∀ part ∈ parts, part.derivation.root.Serves purpose := by
  intro part hpart
  obtain ⟨-, hdivision, -⟩ := mem_divisions_iff.1 hparts
  obtain ⟨done, more, hplaces⟩ := hdivision.exists_places hpart
  obtain ⟨-, hallowed, -⟩ := builds_and_isLed_of_mem_derivations hd.built hd.formed hplaces.derived
  exact Derivation.root_serves hallowed

theorem accepts_iff_exists_serves (hd : dictionary.Coherent) {position : Position} :
    dictionary.accepts purpose position word ↔
      ∃ x ∈ (dictionary.derivations purpose position word).toList, x.root.Serves purpose := by
  rw [accepts_iff]
  refine exists_congr fun x ↦ (and_iff_left_of_imp fun hx ↦ ?_).symm
  obtain ⟨-, hallowed, -⟩ := builds_and_isLed_of_mem_derivations hd.built hd.formed hx
  exact Derivation.root_serves hallowed

theorem divisions_isEmpty_iff_serves (hd : dictionary.Coherent) :
    (dictionary.divisions purpose word).isEmpty ↔
      ¬∃ parts ∈ (dictionary.divisions purpose word).toList,
        ∀ part ∈ parts, part.derivation.root.Serves purpose := by
  rw [LazyList.isEmpty_eq, List.isEmpty_iff, List.eq_nil_iff_forall_not_mem, not_exists]
  exact forall_congr' fun parts ↦ not_congr (and_iff_left_of_imp (serves_of_mem_divisions hd)).symm

theorem acceptsExactly_iff (hd : dictionary.Coherent) :
    dictionary.acceptsExactly purpose word ↔
      (∃ x ∈ (dictionary.derivations purpose .alone word).toList, x.root.Serves purpose) ∨
        (∃ parts ∈ (dictionary.divisions purpose word).toList,
          ∀ part ∈ parts, part.derivation.root.Serves purpose) ∨
          ∃ roots, dictionary.IsRuleRow word roots ∧
            ∀ root ∈ roots, root.hasRole .forbidden = false := by
  have hdivided : (dictionary.divisions purpose word).isEmpty = false ↔
      ∃ parts ∈ (dictionary.divisions purpose word).toList,
        ∀ part ∈ parts, part.derivation.root.Serves purpose := by
    rw [← Bool.not_eq_true, divisions_isEmpty_iff_serves hd, not_not]
  rw [acceptsExactly, isCompound, Bool.or_eq_true, Bool.or_eq_true, Bool.not_eq_true',
    accepts_iff_exists_serves hd, hdivided, followsRule_iff_exists_isRuleRow hd.built]

/-- Where all entries that carry a flag of a compound rule count for the purpose, accepted words
rest on roots that do. -/
theorem restsOn_serves_of_acceptsExactly (hd : dictionary.Coherent)
    (hrules : ∀ rule ∈ dictionary.settings.rules, ∀ element ∈ rule, ∀ stem,
      ∀ root ∈ dictionary.lexicon.lookup stem, root.hasFlag element.flag →
        root.hasRole .forbidden = false → root.Serves purpose)
    (h : dictionary.acceptsExactly purpose word) :
    dictionary.RestsOn purpose (·.Serves purpose) word := by
  refine ((acceptsExactly_iff hd).1 h).imp id (Or.imp id ?_)
  rintro ⟨roots, hrow, hallowed⟩
  refine ⟨roots, hrow, fun root hroot ↦ ?_⟩
  obtain ⟨rule, hrule, hfollows⟩ := hrow.follows
  obtain ⟨element, helement, hflag⟩ := hfollows.exists_flag root hroot
  exact hrules rule hrule element helement _ root (hrow.known root hroot) hflag
    (hallowed root hroot)

/-- Exactly when a word that is accepted rests on roots that count for the purpose.  It does so
wherever all entries that carry a flag of a compound rule count. -/
theorem restsOn_serves_iff (hd : dictionary.Reachable) :
    ((dictionary.acceptsExactly purpose word →
        dictionary.RestsOn purpose (·.Serves purpose) word) ↔
      (dictionary.accepts purpose .alone word = false →
        (dictionary.divisions purpose word).isEmpty →
          (∃ roots, dictionary.IsRuleRow word roots ∧
            ∀ root ∈ roots, root.hasRole .forbidden = false) →
              ∃ roots, dictionary.IsRuleRow word roots ∧ ∀ root ∈ roots, root.Serves purpose)) ∧
    (dictionary.acceptsExactly purpose word ↔
      (∃ x ∈ (dictionary.derivations purpose .alone word).toList, x.root.Serves purpose) ∨
        (∃ parts ∈ (dictionary.divisions purpose word).toList,
          ∀ part ∈ parts, part.derivation.root.Serves purpose) ∨
          ∃ roots, dictionary.IsRuleRow word roots ∧
            ∀ root ∈ roots, root.hasRole .forbidden = false) ∧
    ((∀ rule ∈ dictionary.settings.rules, ∀ element ∈ rule, ∀ stem,
        ∀ root ∈ dictionary.lexicon.lookup stem, root.hasFlag element.flag →
          root.hasRole .forbidden = false → root.Serves purpose) →
      dictionary.acceptsExactly purpose word →
        dictionary.RestsOn purpose (·.Serves purpose) word) := by
  refine ⟨?_, acceptsExactly_iff hd.coherent, restsOn_serves_of_acceptsExactly hd.coherent⟩
  rw [acceptsExactly_iff hd.coherent, ← Bool.not_eq_true, accepts_iff_exists_serves hd.coherent,
    divisions_isEmpty_iff_serves hd.coherent]
  constructor
  · intro h hderived hdivided hrow
    exact ((h (Or.inr (Or.inr hrow))).resolve_left hderived).resolve_left hdivided
  · rintro h (hderived | hdivided | hrow)
    · exact Or.inl hderived
    · exact Or.inr (Or.inl hdivided)
    · by_cases hderived : ∃ x ∈ (dictionary.derivations purpose .alone word).toList,
          x.root.Serves purpose
      · exact Or.inl hderived
      by_cases hdivided : ∃ parts ∈ (dictionary.divisions purpose word).toList,
          ∀ part ∈ parts, part.derivation.root.Serves purpose
      · exact Or.inr (Or.inl hdivided)
      · exact Or.inr (Or.inr (h hderived hdivided hrow))

/-- Only together do `foo` and `bar` make a compound, and `foo` keeps its case. -/
def foobarDictionary : Dictionary :=
  ofParts { roles := Roles.none.declare .keepCase 75, rules := [[.once 97, .once 98]] }
    ((Lexicon.empty.add ⟨['f', 'o', 'o'], .ofList [75, 97], [], []⟩).add
      ⟨['b', 'a', 'r'], .ofList [98], [], []⟩)

theorem reachable_foobarDictionary : foobarDictionary.Reachable :=
  .ofParts (AffixTable.formed_ofRules (fun _ h ↦ absurd h List.not_mem_nil)
    fun _ h ↦ absurd h List.not_mem_nil) (.add _ (.add _ .empty))

theorem restsOn_foobar :
    foobarDictionary.Reachable ∧ foobarDictionary.acceptsExactly {} ['f', 'o', 'o', 'b', 'a', 'r'] ∧
      foobarDictionary.RestsOn {} (·.Serves {}) ['f', 'o', 'o', 'b', 'a', 'r'] := by
  have haccepts : foobarDictionary.acceptsExactly {} ['f', 'o', 'o', 'b', 'a', 'r'] := by
    decide +kernel
  refine ⟨reachable_foobarDictionary, haccepts, ?_⟩
  refine (restsOn_serves_iff reachable_foobarDictionary).1.2 ?_ haccepts
  rintro - - ⟨roots, hrow, hallowed⟩
  exact ⟨roots, hrow, fun root hroot ↦ ⟨hallowed root hroot, nofun, nofun⟩⟩

theorem hasRole_keepCase_of_hasFlag {stem : Text} {root : Entry}
    (hroot : root ∈ foobarDictionary.lexicon.lookup stem) (hflag : root.hasFlag 97) :
    root.hasRole .keepCase := by
  obtain ⟨original, horiginal, rfl⟩ := Lexicon.mem_lookup_withMarks.1 hroot
  rcases Lexicon.mem_lookup_add.1 horiginal with horiginal | ⟨-, rfl⟩
  · rcases Lexicon.mem_lookup_add.1 horiginal with horiginal | ⟨-, rfl⟩
    · simp at horiginal
    · decide
  · exact absurd hflag (by decide)

/-- In another case `Foobar` is accepted too, although `foo` keeps its case. -/
theorem not_restsOn_serves_foobar :
    foobarDictionary.Reachable ∧
      foobarDictionary.check ['F', 'o', 'o', 'b', 'a', 'r'] ∧
      foobarDictionary.acceptsExactly { folded := true } ['f', 'o', 'o', 'b', 'a', 'r'] ∧
        ¬foobarDictionary.RestsOn { folded := true } (·.Serves { folded := true })
          ['f', 'o', 'o', 'b', 'a', 'r'] := by
  refine ⟨reachable_foobarDictionary, by decide +kernel, by decide +kernel, ?_⟩
  have hderived : (foobarDictionary.derivations { folded := true } .alone
      ['f', 'o', 'o', 'b', 'a', 'r']).toList = [] := by decide +kernel
  have hdivided : (foobarDictionary.divisions { folded := true }
      ['f', 'o', 'o', 'b', 'a', 'r']).toList = [] := rfl
  rintro (⟨x, hx, -⟩ | ⟨parts, hparts, -⟩ | ⟨roots, hrow, hgood⟩)
  · rw [hderived] at hx
    exact List.not_mem_nil hx
  · rw [hdivided] at hparts
    exact List.not_mem_nil hparts
  · obtain ⟨rule, hrule, hfollows⟩ := hrow.follows
    obtain rfl := List.mem_singleton.1 hrule
    cases roots with
    | nil => cases hfollows
    | cons root roots =>
        have hflag : root.hasFlag 97 := by
          cases hfollows with
          | once hflag _ => exact hflag
        have hkeeps := hasRole_keepCase_of_hasFlag (hrow.known root List.mem_cons_self) hflag
        rw [(hgood root List.mem_cons_self).ownCase rfl] at hkeeps
        cases hkeeps

end Dictionary
end Orthography
