import Orthography.Proofs.Compound.DivisionSearch
import Orthography.Proofs.Derivation.Soundness
import Orthography.Proofs.Dictionary.Analysis
import Orthography.Proofs.Dictionary.LoadedFields

/-!
# Analyses token by token

An analysis tells the stem and the fields of each root, one behind the other.  The fields have no
blank in them, but a stem is told as it is, and it may be a phrase.  So the tokens of an analysis
can be told apart just if each stem reads as a single one, or happens to go on with fields.
-/

namespace Orthography

open Text MorphField

/-! ## What an analysis tells of a root -/

namespace Derivation

variable (d : Derivation)

/-- The fields that are shown behind the stem. -/
def shown : List MorphField :=
  (d.root.morph ++ d.affixes.flatMap (·.morph)).filter (·.isShown)

/-- What is told of a derivation: the stem, and the fields that are shown. -/
def told : List MorphField := ⟨stemTag, d.root.stem⟩ :: d.shown

theorem describe_eq : d.describe = List.intercalate [' '] (d.told.map render) := rfl

end Derivation

/-- The description of a row of derivations: one that stands alone, or those of the parts of a
compound. -/
def describeAll (row : List Derivation) : Text :=
  List.intercalate [' '] (row.map Derivation.describe)

theorem Segment.describe_eq (parts : List Segment) :
    describe parts = describeAll (parts.map (·.derivation)) := by
  rw [describe, describeAll, List.map_map]
  rfl

/-- A token that is read as a field with a tag that analyses show. -/
def IsShownToken (token : Text) : Prop :=
  ∃ field, parse? token = some field ∧ field.tag ∈ stemTag :: analysisTags

def isStemToken (token : Text) : Bool := (parse? token).any (·.tag == stemTag)

/-- An analysis is made of fields, with as many stems as there are roots. -/
structure IsToldIn (analysis : Text) (roots : Nat) : Prop where
  tokens : ∀ token ∈ splitOn ' ' analysis, IsShownToken token
  stems : (splitOn ' ' analysis).countP isStemToken = roots

/-- A stem that can be told in an analysis: behind its first piece there are only fields, and no
stem among them. -/
def ReadsAsStem (stem : Text) : Prop :=
  ∃ first pieces, splitOn ' ' stem = first :: pieces ∧ first ≠ [] ∧
    ∀ piece ∈ pieces, IsShownToken piece ∧ isStemToken piece = false

theorem readsAsStem_of_not_mem {stem : Text} (hne : stem ≠ []) (h : ' ' ∉ stem) :
    ReadsAsStem stem := by
  refine ⟨stem, [], splitOn_of_not_mem h, hne, ?_⟩
  intro piece hpiece
  cases hpiece


section Told

variable {field : MorphField} {d : Derivation} {row : List Derivation} {first : Text}
  {pieces : List Text}

theorem isShownToken_render (h : field.IsWritable) (hshown : field.isShown) :
    IsShownToken field.render ∧ isStemToken field.render = false := by
  have htag : field.tag ∈ analysisTags := List.contains_iff_mem.1 hshown
  constructor
  · exact ⟨field, parse?_render h, List.mem_cons_of_mem _ htag⟩
  · have hstem : field.tag ≠ stemTag := by
      intro heq
      rw [heq] at htag
      exact absurd htag (by decide)
    rw [isStemToken, parse?_render h, Option.any_some]
    exact beq_false_of_ne hstem

theorem parse?_stem (hfirst : first ≠ []) :
    parse? (render ⟨stemTag, first⟩) = some ⟨stemTag, first⟩ :=
  parse?_eq_some_iff.2 ⟨rfl, rfl, (by decide : ':' ∉ stemTag), hfirst⟩

theorem isShownToken_stem_iff : IsShownToken (render ⟨stemTag, first⟩) ↔ first ≠ [] := by
  constructor
  · intro h hnil
    obtain ⟨field, hfield, -⟩ := h
    rw [hnil] at hfield
    cases hfield
  · intro hfirst
    exact ⟨_, parse?_stem hfirst, List.mem_cons_self⟩

theorem isStemToken_stem (hfirst : first ≠ []) : isStemToken (render ⟨stemTag, first⟩) := by
  rw [isStemToken, parse?_stem hfirst]
  rfl

/-- The first piece of the stem stands behind the tag; its other pieces are tokens of their own. -/
theorem splitOn_describe (hd : AreWritable d.shown)
    (hstem : splitOn ' ' d.root.stem = first :: pieces) :
    splitOn ' ' d.describe = render ⟨stemTag, first⟩ :: (pieces ++ d.shown.map render) := by
  have hhead : splitOn ' ' (stemTag ++ [':'] ++ d.root.stem) =
      (stemTag ++ [':'] ++ first) :: pieces := splitOn_append (by decide) hstem
  have hshown : (d.shown.map render).flatMap (splitOn ' ') = d.shown.map render := by
    rw [List.flatMap_map]
    calc d.shown.flatMap (fun field ↦ splitOn ' ' field.render)
        = d.shown.flatMap fun field ↦ [field.render] := by
          apply List.flatMap_congr
          intro field hfield
          apply splitOn_of_not_mem
          intro hspace
          have hblank := not_blank_render (hd field hfield) ' ' hspace
          cases hblank
      _ = d.shown.map render := List.map_eq_flatMap.symm
  have htold : d.told.map render ≠ [] := List.cons_ne_nil _ _
  rw [Derivation.describe_eq, splitOn_intercalate htold, Derivation.told, List.map_cons,
    List.flatMap_cons, hshown]
  exact congrArg (· ++ d.shown.map render) hhead

theorem isShown_of_mem_shown (h : field ∈ d.shown) : field.isShown := (List.mem_filter.1 h).2

section Tokens

variable (hd : AreWritable d.shown) (hstem : splitOn ' ' d.root.stem = first :: pieces)
include hd hstem

theorem forall_isShownToken_iff :
    (∀ token ∈ splitOn ' ' d.describe, IsShownToken token) ↔
      first ≠ [] ∧ ∀ piece ∈ pieces, IsShownToken piece := by
  have hshown : ∀ token ∈ d.shown.map render, IsShownToken token := by
    rw [List.forall_mem_map]
    intro field hfield
    exact (isShownToken_render (hd field hfield) (isShown_of_mem_shown hfield)).1
  rw [splitOn_describe hd hstem, List.forall_mem_cons, List.forall_mem_append,
    isShownToken_stem_iff, and_iff_left hshown]

theorem countP_isStemToken (hfirst : first ≠ []) :
    (splitOn ' ' d.describe).countP isStemToken = pieces.countP isStemToken + 1 := by
  have hshown : (d.shown.map render).countP isStemToken = 0 := by
    rw [List.countP_eq_zero, List.forall_mem_map]
    intro field hfield
    rw [(isShownToken_render (hd field hfield) (isShown_of_mem_shown hfield)).2]
    exact Bool.false_ne_true
  rw [splitOn_describe hd hstem, List.countP_cons_of_pos (isStemToken_stem hfirst),
    List.countP_append, hshown, Nat.add_zero]

theorem one_le_countP_isStemToken
    (htokens : ∀ token ∈ splitOn ' ' d.describe, IsShownToken token) :
    1 ≤ (splitOn ' ' d.describe).countP isStemToken := by
  obtain ⟨hfirst, -⟩ := (forall_isShownToken_iff hd hstem).1 htokens
  rw [countP_isStemToken hd hstem hfirst]
  exact Nat.le_add_left 1 _

end Tokens

/-- One root is told by one stem just if its stem reads as one. -/
theorem isToldIn_describe_iff (hd : AreWritable d.shown) :
    IsToldIn d.describe 1 ↔ ReadsAsStem d.root.stem := by
  constructor
  · intro h
    obtain ⟨first, pieces, hstem⟩ :=
      List.exists_cons_of_ne_nil (splitOn_ne_nil ' ' d.root.stem)
    obtain ⟨hfirst, hpieces⟩ := (forall_isShownToken_iff hd hstem).1 h.tokens
    have hone := h.stems
    rw [countP_isStemToken hd hstem hfirst, Nat.add_eq_right, List.countP_eq_zero] at hone
    refine ⟨first, pieces, hstem, hfirst, ?_⟩
    intro piece hpiece
    exact ⟨hpieces piece hpiece, by simpa using hone piece hpiece⟩
  · intro h
    obtain ⟨first, pieces, hstem, hfirst, hpieces⟩ := h
    constructor
    · apply (forall_isShownToken_iff hd hstem).2
      exact ⟨hfirst, fun piece hpiece ↦ (hpieces piece hpiece).1⟩
    · rw [countP_isStemToken hd hstem hfirst, Nat.add_eq_right, List.countP_eq_zero]
      intro piece hpiece
      rw [(hpieces piece hpiece).2]
      exact Bool.false_ne_true

/-- Whatever has one member or more in each part of a row has as many members as there are parts
just if it has one in each. -/
theorem countP_flatMap_eq_length_iff {α : Type} {p : Text → Bool} {f : α → List Text} {row : List α}
    (h : ∀ a ∈ row, 1 ≤ (f a).countP p) :
    row.length ≤ (row.flatMap f).countP p ∧
      ((row.flatMap f).countP p = row.length ↔ ∀ a ∈ row, (f a).countP p = 1) := by
  induction row with
  | nil => simp
  | cons a row ih =>
      rw [List.forall_mem_cons] at h
      obtain ⟨hle, hiff⟩ := ih h.2
      rw [List.flatMap_cons, List.countP_append, List.length_cons, List.forall_mem_cons, ← hiff]
      omega

theorem splitOn_describeAll (hrow : row ≠ []) :
    splitOn ' ' (describeAll row) = row.flatMap fun d ↦ splitOn ' ' d.describe := by
  have hne : row.map Derivation.describe ≠ [] := by simpa using hrow
  rw [describeAll, splitOn_intercalate hne, List.flatMap_map]

/-- No root makes up for another one that is told by too many stems. -/
theorem isToldIn_describeAll_iff (hrow : row ≠ []) (hfields : ∀ d ∈ row, AreWritable d.shown) :
    IsToldIn (describeAll row) row.length ↔ ∀ d ∈ row, IsToldIn d.describe 1 := by
  have hcount (htokens : ∀ d ∈ row, ∀ token ∈ splitOn ' ' d.describe, IsShownToken token) :
      (row.flatMap fun d ↦ splitOn ' ' d.describe).countP isStemToken = row.length ↔
        ∀ d ∈ row, (splitOn ' ' d.describe).countP isStemToken = 1 := by
    refine (countP_flatMap_eq_length_iff ?_).2
    intro d hd
    obtain ⟨first, pieces, hstem⟩ :=
      List.exists_cons_of_ne_nil (splitOn_ne_nil ' ' d.root.stem)
    exact one_le_countP_isStemToken (hfields d hd) hstem (htokens d hd)
  have hall : (∀ token ∈ splitOn ' ' (describeAll row), IsShownToken token) ↔
      ∀ d ∈ row, ∀ token ∈ splitOn ' ' d.describe, IsShownToken token := by
    rw [splitOn_describeAll hrow, List.forall_mem_flatMap]
  constructor
  · intro h d hd
    have htokens := hall.1 h.tokens
    have hstems := h.stems
    rw [splitOn_describeAll hrow] at hstems
    exact ⟨htokens d hd, (hcount htokens).1 hstems d hd⟩
  · intro h
    have htokens : ∀ d ∈ row, ∀ token ∈ splitOn ' ' d.describe, IsShownToken token :=
      fun d hd ↦ (h d hd).tokens
    refine ⟨hall.2 htokens, ?_⟩
    rw [splitOn_describeAll hrow]
    exact (hcount htokens).2 fun d hd ↦ (h d hd).stems

/-- If no stem is a phrase, the fields of all roots are read back from their analysis. -/
theorem map_parse?_describeAll (hrow : row ≠ []) (hfields : ∀ d ∈ row, AreWritable d.shown)
    (hstems : ∀ d ∈ row, d.root.stem ≠ [] ∧ ' ' ∉ d.root.stem) :
    (splitOn ' ' (describeAll row)).map parse? = (row.flatMap Derivation.told).map some := by
  rw [splitOn_describeAll hrow, List.map_flatMap, List.map_flatMap]
  apply List.flatMap_congr
  intro d hd
  obtain ⟨hne, hspace⟩ := hstems d hd
  have hshown : ∀ field ∈ d.shown, (parse? ∘ render) field = some field := by
    intro field hfield
    exact parse?_render (hfields d hd field hfield)
  rw [splitOn_describe (hfields d hd) (splitOn_of_not_mem hspace), List.nil_append, List.map_cons,
    parse?_stem hne, List.map_map, List.map_congr_left hshown]
  rfl

end Told

/-! ## Analyses that are gathered -/

section Gathered

variable {results : List Text} {text : Text} {texts : LazyList Text}

theorem mem_of_mem_gather (h : text ∈ gather results texts) :
    text ∈ results ∨ text ∈ texts.toList := by
  induction texts generalizing results with
  | nil => exact Or.inl h
  | cons first texts ih =>
      rw [gather, LazyList.foldUntil] at h
      split at h
      · exact Or.inl h
      · rcases ih () h with hold | hnew
        · rw [addNew] at hold
          split at hold
          · exact Or.inl hold
          · rcases List.mem_append.1 hold with hold | hfirst
            · exact Or.inl hold
            · rw [List.mem_singleton.1 hfirst]
              exact Or.inr List.mem_cons_self
        · exact Or.inr (List.mem_cons_of_mem _ hnew)

theorem mem_of_mem_foldl_gather {α : Type} {list : α → LazyList Text} {variants : List α}
    (h : text ∈ variants.foldl (fun results variant ↦ gather results (list variant)) results) :
    text ∈ results ∨ ∃ variant ∈ variants, text ∈ (list variant).toList := by
  induction variants generalizing results with
  | nil => exact Or.inl h
  | cons variant variants ih =>
      rcases ih h with hold | ⟨other, hother, htext⟩
      · rcases mem_of_mem_gather hold with hold | hnew
        · exact Or.inl hold
        · exact Or.inr ⟨variant, List.mem_cons_self, hnew⟩
      · exact Or.inr ⟨other, List.mem_cons_of_mem _ hother, htext⟩

end Gathered

namespace Dictionary

variable {dictionary : Dictionary} {word words affixes analysis : Text} {row : List Derivation}

/-- A row by which a word is analysed: one derivation of a form of the word or, for a form that has
none, those of the parts of a compound. -/
def IsAnalysedBy (dictionary : Dictionary) (word : Text) (row : List Derivation) : Prop :=
  ∃ variant ∈ dictionary.usableVariants (dictionary.prepare word),
    let derivations := dictionary.derivations { folded := variant.2 } .alone variant.1
    (∃ d ∈ derivations.toList, row = [d]) ∨
      derivations.isEmpty ∧
        ∃ parts ∈ (dictionary.divisions { folded := variant.2 } variant.1).toList,
          row = parts.map (·.derivation)

theorem exists_isAnalysedBy (h : analysis ∈ dictionary.analyses word) :
    ∃ row, dictionary.IsAnalysedBy word row ∧ analysis = describeAll row := by
  rw [analyses, ways_eq] at h
  split at h
  · cases h
  rcases mem_of_mem_foldl_gather h with hnone | ⟨variant, hvariant, hanalysis⟩
  · cases hnone
  rw [waysOf] at hanalysis
  split at hanalysis
  · rename_i hempty
    rw [LazyList.toList_map] at hanalysis
    obtain ⟨parts, hparts, rfl⟩ := List.mem_map.1 hanalysis
    exact ⟨_, ⟨variant, hvariant, Or.inr ⟨hempty, parts, hparts, rfl⟩⟩, Segment.describe_eq parts⟩
  · rw [LazyList.toList_map] at hanalysis
    obtain ⟨d, hd, rfl⟩ := List.mem_map.1 hanalysis
    exact ⟨[d], ⟨variant, hvariant, Or.inl ⟨d, hd, rfl⟩⟩, (List.intercalate_singleton).symm⟩

theorem IsAnalysedBy.ne_nil (h : dictionary.IsAnalysedBy word row) : row ≠ [] := by
  obtain ⟨variant, -, ⟨d, -, rfl⟩ | ⟨-, parts, hparts, rfl⟩⟩ := h
  · exact List.cons_ne_nil _ _
  · have htwo := (isDivision_of_mem_divisions hparts).two_le
    rw [Ne, List.map_eq_nil_iff]
    intro hnil
    rw [hnil] at htwo
    cases htwo

theorem IsAnalysedBy.exists_builds (hd : dictionary.Coherent)
    (h : dictionary.IsAnalysedBy word row) : ∀ d ∈ row, ∃ form, d.Builds dictionary form := by
  obtain ⟨variant, -, ⟨x, hx, rfl⟩ | ⟨-, parts, hparts, rfl⟩⟩ := h
  · intro d hmem
    rw [List.mem_singleton.1 hmem]
    exact ⟨_, (builds_of_mem_derivations hd.built hd.formed hx).1⟩
  · rw [List.forall_mem_map]
    intro part hpart
    obtain ⟨done, more, hplaces⟩ := (isDivision_of_mem_divisions hparts).exists_places hpart
    exact ⟨_, (builds_of_mem_derivations hd.built hd.formed hplaces.derived).1⟩

/-- Every analysis of a word tells a row of derivations.  Its tokens are fields, as many of them
stems as there are roots, just if each stem is without spaces and not empty, or goes on with fields
behind its first piece; and if none has a space all fields of the roots can be read back. -/
theorem isToldIn_analysis_iff (hload : load words affixes = .ok dictionary)
    (hanalysis : analysis ∈ dictionary.analyses word) :
    (∃ row, dictionary.IsAnalysedBy word row ∧ analysis = describeAll row) ∧
      ∀ row, dictionary.IsAnalysedBy word row → analysis = describeAll row →
        (IsToldIn analysis row.length ↔ ∀ d ∈ row, ReadsAsStem d.root.stem) ∧
          ((∀ d ∈ row, d.root.stem ≠ [] ∧ ' ' ∉ d.root.stem) →
            (∀ d ∈ row, ReadsAsStem d.root.stem) ∧
              (splitOn ' ' analysis).map parse? = (row.flatMap Derivation.told).map some) := by
  refine ⟨exists_isAnalysedBy hanalysis, ?_⟩
  rintro row hrow rfl
  have hfields : ∀ d ∈ row, AreWritable d.shown := by
    intro d hd field hfield
    obtain ⟨form, hbuilds⟩ := hrow.exists_builds (reachable_of_load hload).coherent d hd
    apply (keepsFields_of_load hload).areWritable_of_builds hbuilds field
    exact (List.mem_filter.1 hfield).1
  have htold : IsToldIn (describeAll row) row.length ↔ ∀ d ∈ row, ReadsAsStem d.root.stem := by
    rw [isToldIn_describeAll_iff hrow.ne_nil hfields]
    exact forall₂_congr fun d hd ↦ isToldIn_describe_iff (hfields d hd)
  refine ⟨htold, ?_⟩
  intro hstems
  refine ⟨?_, map_parse?_describeAll hrow.ne_nil hfields hstems⟩
  intro d hd
  exact readsAsStem_of_not_mem (hstems d hd).1 (hstems d hd).2

/-- A compound of two roots, of which the second one has a suffix and a field that is not shown. -/
theorem isToldIn_foobars :
    let words := "2\nfoo/X po:noun\nbar/XS al:bare zz:no\n".toList
    let affixes := "COMPOUNDFLAG X\nSFX S Y 1\nSFX S 0 s . is:plural\n".toList
    let analysis := "st:foo po:noun st:bar al:bare is:plural".toList
    ∃ dictionary row, load words affixes = .ok dictionary ∧
      analysis ∈ dictionary.analyses "foobars".toList ∧
        dictionary.IsAnalysedBy "foobars".toList row ∧ analysis = describeAll row ∧
          IsToldIn analysis 2 ∧
            (splitOn ' ' analysis).map parse? = (row.flatMap Derivation.told).map some := by
  intro words affixes analysis
  have hread : (load words affixes).map (fun dictionary ↦
      (dictionary.analyses "foobars".toList,
        dictionary.usableVariants (dictionary.prepare "foobars".toList),
        (dictionary.derivations {} .alone "foobars".toList).isEmpty)) =
      .ok ([analysis], [("foobars".toList, false)], true) := by decide +kernel
  have hdivisions : (load words affixes).map (fun dictionary ↦
      (dictionary.divisions {} "foobars".toList).toList.map fun parts ↦
        (describeAll (parts.map (·.derivation)), parts.map (·.derivation.root.stem))) =
      .ok [(analysis, ["foo".toList, "bar".toList])] := by decide +kernel
  obtain ⟨dictionary, hload, hread⟩ := exists_of_map_eq_ok hread
  obtain ⟨hanalyses, hread⟩ := Prod.mk.inj hread
  obtain ⟨hvariants, hempty⟩ := Prod.mk.inj hread
  rw [hload] at hdivisions
  obtain ⟨parts, more, hparts, htold, -⟩ := List.map_eq_cons_iff.1 (Except.ok.inj hdivisions)
  obtain ⟨hdescribe, hroots⟩ := Prod.mk.inj htold
  have hanalysis : analysis ∈ dictionary.analyses "foobars".toList := by
    rw [hanalyses]
    exact List.mem_cons_self
  have hrow : dictionary.IsAnalysedBy "foobars".toList (parts.map (·.derivation)) := by
    refine ⟨("foobars".toList, false), ?_, Or.inr ⟨hempty, parts, ?_, rfl⟩⟩
    · rw [hvariants]
      exact List.mem_cons_self
    · rw [hparts]
      exact List.mem_cons_self
  have hstems : ∀ d ∈ parts.map (·.derivation), d.root.stem ≠ [] ∧ ' ' ∉ d.root.stem := by
    have hall : ∀ stem ∈ parts.map (·.derivation.root.stem), stem ≠ [] ∧ ' ' ∉ stem := by
      rw [hroots]
      decide
    rw [List.forall_mem_map] at hall ⊢
    exact hall
  obtain ⟨htold, hback⟩ :=
    (isToldIn_analysis_iff hload hanalysis).2 _ hrow hdescribe.symm
  have hlength : (parts.map (·.derivation)).length = 2 := by
    have htwo := congrArg List.length hroots
    rwa [List.length_map] at htwo ⊢
  rw [hlength] at htold
  refine ⟨dictionary, _, hload, hanalysis, hrow, hdescribe.symm, ?_, (hback hstems).2⟩
  exact htold.2 (hback hstems).1

/-- The stem is a phrase, and its second word is taken for a token of its own. -/
theorem not_isToldIn_new_york :
    let analysis := "st:New York po:noun".toList
    ∃ dictionary, load "1\nNew York po:noun\n".toList [] = .ok dictionary ∧
      analysis ∈ dictionary.analyses "New York".toList ∧ "York".toList ∈ splitOn ' ' analysis ∧
        parse? "York".toList = none ∧ ∀ roots, ¬IsToldIn analysis roots := by
  intro analysis
  have hread : (load "1\nNew York po:noun\n".toList []).map
      (fun dictionary ↦ dictionary.analyses "New York".toList) = .ok [analysis] := by
    decide +kernel
  obtain ⟨dictionary, hload, hanalyses⟩ := exists_of_map_eq_ok hread
  have hmem : "York".toList ∈ splitOn ' ' analysis := by decide
  have hnone : parse? "York".toList = none := by decide
  refine ⟨dictionary, hload, ?_, hmem, hnone, ?_⟩
  · rw [hanalyses]
    exact List.mem_cons_self
  · intro roots h
    obtain ⟨field, hfield, -⟩ := h.tokens _ hmem
    rw [hnone] at hfield
    cases hfield

end Dictionary
end Orthography
