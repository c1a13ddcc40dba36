import Orthography.Proofs.Lexicon.WordEnd

/-!
# Lines with fields and without flags

Where a word is followed by fields and no flags, nothing but their form tells the two apart.  The
search for the flags' slash does not stop at the fields, and the search for the first field counts
bytes where a tag has two characters.  So the line is read back exactly if the word holds nothing
that looks like a field, the first tag has two bytes, and no value has a slash that separates.
-/

namespace Orthography
namespace Entry

open Text

variable {stem : Text}

/-! ## Written fields -/

/-- A field with letters or digits for its tag. -/
structure IsWellNamed (field : MorphField) : Prop where
  length_tag : field.tag.length = 2
  isAlphanumeric_tag : ∀ c ∈ field.tag, isAlphanumeric c
  value_ne_nil : field.value ≠ []
  not_blank_value : ∀ c ∈ field.value, isBlank c = false

theorem IsWellNamed.isWritable {field : MorphField} (h : IsWellNamed field) :
    field.IsWritable where
  length_tag := h.length_tag
  colon_not_mem_tag hmem := ne_of_isAlphanumeric (h.isAlphanumeric_tag _ hmem)
    isAlphanumeric_colon rfl
  value_ne_nil := h.value_ne_nil
  not_blank c hc := by
    rcases List.mem_append.1 hc with hc | hc
    · exact not_isBlank_of_isAlphanumeric (h.isAlphanumeric_tag c hc)
    · exact h.not_blank_value c hc

/-- What stands before the value of a field. -/
def label (field : MorphField) : Text := ' ' :: (field.tag ++ [':'])

theorem write_cons_eq (field : MorphField) (fields : List MorphField) :
    MorphField.write (field :: fields) =
      label field ++ (field.value ++ MorphField.write fields) := by
  simp [MorphField.write_cons, MorphField.render, label]

theorem count_label_pos (field : MorphField) : 0 < (label field).count ':' :=
  List.count_pos_iff.2 (by simp [label])

theorem splitAtSlash?_label {field : MorphField} (h : IsWellNamed field) (escaped : Bool) :
    splitAtSlash? escaped false (label field) = none ∧
      escapesNext escaped (label field) = false := by
  constructor
  · rw [splitAtSlash?_eq_none_iff]
    intro left right hlabel
    have hmem : '/' ∈ label field := by simp [hlabel]
    have htag : '/' ∈ field.tag := by simpa [label] using hmem
    exact absurd rfl (ne_of_isAlphanumeric (h.isAlphanumeric_tag _ htag) isAlphanumeric_slash)
  · rw [label, ← List.cons_append, escapesNext_concat]
    rfl

theorem splitAtSlash?_write {fields : List MorphField} (h : ∀ field ∈ fields, IsWellNamed field)
    (escaped : Bool) : splitAtSlash? escaped false (MorphField.write fields) = none ↔
      ∀ field ∈ fields, ¬ HasBareSlash field.value := by
  induction fields generalizing escaped with
  | nil => simp [MorphField.write, splitAtSlash?]
  | cons field fields ih =>
      obtain ⟨hfield, hfields⟩ := List.forall_mem_cons.1 h
      obtain ⟨hnone, hnext⟩ := splitAtSlash?_label hfield escaped
      rw [write_cons_eq, splitAtSlash?_append_eq_none_iff, and_iff_right hnone, hnext,
        splitAtSlash?_append_eq_none_iff, Bool.false_and, Bool.false_and, ih hfields,
        splitAtSlash?_eq_none_iff_not_hasBareSlash, List.forall_mem_cons]

theorem looksLikeField_render_append {field : MorphField} (h : IsWellNamed field) (rest : Text) :
    LooksLikeField (field.render ++ rest) ↔ byteSize field.tag = 2 := by
  constructor
  · rintro ⟨tag, rest', heq, hsize, htag⟩
    have hcolon : ':' ∉ tag := fun hmem ↦
      ne_of_isAlphanumeric (htag _ hmem) isAlphanumeric_colon rfl
    rw [MorphField.render, List.append_assoc, List.cons_append] at heq
    rwa [eq_of_append_cons_eq h.isWritable.colon_not_mem_tag hcolon heq]
  · intro hsize
    exact ⟨field.tag, field.value ++ rest, by simp [MorphField.render], hsize,
      h.isAlphanumeric_tag⟩

theorem splitAtField?_write {field : MorphField} (h : IsWellNamed field)
    (hsize : byteSize field.tag = 2) (fields : List MorphField) :
    splitAtField? (MorphField.write (field :: fields)) =
      some ([], field.render ++ MorphField.write fields) := by
  have htag : startsWithTag (field.render ++ MorphField.write fields) :=
    startsWithTag_iff.2 ((looksLikeField_render_append h _).2 hsize)
  rw [MorphField.write_cons, splitAtField?, if_pos ⟨.inl rfl, htag⟩]

/-- A tag that is not of two bytes is passed over. -/
theorem splitAtField?_write_of_ne {field : MorphField} (h : IsWellNamed field)
    (hsize : byteSize field.tag ≠ 2) (fields : List MorphField) :
    splitAtField? (MorphField.write (field :: fields)) =
      (splitAtField? (field.value ++ MorphField.write fields)).map fun parts ↦
        (label field ++ parts.1, parts.2) := by
  have htag : ¬ startsWithTag (field.render ++ MorphField.write fields) := by
    rwa [startsWithTag_iff, looksLikeField_render_append h]
  have hgap : ∀ c ∈ field.tag ++ [':'], c ≠ ' ' ∧ c ≠ '\t' := by
    intro c hc
    have hblank : isBlank c = false := by
      rcases List.mem_append.1 hc with hc | hc
      · exact h.isWritable.not_blank c (List.mem_append_left _ hc)
      · obtain rfl := List.mem_singleton.1 hc
        rfl
    constructor
    all_goals
      rintro rfl
      cases hblank
  have hrender : field.render ++ MorphField.write fields =
      (field.tag ++ [':']) ++ (field.value ++ MorphField.write fields) := by
    simp [MorphField.render]
  rw [MorphField.write_cons, splitAtField?, if_neg (by simp [htag]), hrender,
    splitAtField?_append hgap]
  simp [label, Function.comp_def]

/-! ## Colons

No step from the line to the stem drops a colon or brings one in, so the stem tells by its colons
where the line was cut. -/

theorem count_unescape {c : Char} (hc : c ≠ '\\') (text : Text) :
    (unescape text).count c = text.count c := by
  fun_induction unescape text with
  | case1 => rfl
  | case2 text ih => rw [List.count_cons, ih, List.count_cons_of_ne (Ne.symm hc), List.count_cons]
  | case3 d text _ ih => rw [List.count_cons, ih, List.count_cons]

theorem count_colon_escape (h : '\\' ∉ stem) : (escape stem).count ':' = stem.count ':' := by
  have hcount := count_unescape (by decide : ':' ≠ '\\') (escape stem)
  rwa [unescape_escape h, eq_comm] at hcount

theorem count_colon_of_parse {settings : Settings} (hsettings : settings.IsLiteral) {line : Text}
    {entry : Entry} (h : parse settings line = .ok entry) :
    (split (trimEnd line)).1.count ':' = entry.stem.count ':' := by
  rw [(stem_of_parse h).2, hsettings.stripIgnored_eq, writtenWord, count_unescape (by decide),
    count_trim rfl]

/-! ## Where the line is cut -/

theorem split_of_splitAtField? {line word fields : Text}
    (hslash : splitAtSlash? false true line = none)
    (h : splitAtField? line = some (word, fields)) : split line = (word, [], fields) := by
  simp [split, hslash, h]

theorem split_of_splitAtField?_eq_none {line : Text}
    (hslash : splitAtSlash? false true line = none) (h : splitAtField? line = none) :
    split line = (line, [], []) := by
  simp [split, hslash, h]

section Written

variable {field : MorphField} {fields : List MorphField} (hstem : stem.IsTidy)
  (hbackslash : '\\' ∉ stem) (hfields : ∀ f ∈ field :: fields, IsWellNamed f)
include hstem hbackslash hfields

/-- A slash that separates in a value is taken for the one before the flags. -/
theorem count_split_of_hasBareSlash (h : ∃ f ∈ field :: fields, HasBareSlash f.value) :
    stem.count ':' < (split (escape stem ++ MorphField.write (field :: fields))).1.count ':' := by
  obtain ⟨hnone, hnext⟩ := splitAtSlash?_label (hfields field List.mem_cons_self) false
  have hsome : splitAtSlash? false false (MorphField.write (field :: fields)) ≠ none := by
    rw [Ne, splitAtSlash?_write hfields]
    push Not
    exact h
  rw [write_cons_eq, splitAtSlash?_append hnone, Ne, Option.map_eq_none_iff] at hsome
  obtain ⟨parts, hparts⟩ := Option.ne_none_iff_exists'.1 hsome
  rw [split, splitAtSlash?_escape_append hstem.ne_nil hbackslash, write_cons_eq,
    splitAtSlash?_append hnone, hparts]
  have hlabel := count_label_pos field
  simp only [Option.map_some, List.count_append, count_colon_escape hbackslash]
  omega

theorem splitAtSlash?_written (h : ∀ f ∈ field :: fields, ¬ HasBareSlash f.value) :
    splitAtSlash? false true (escape stem ++ MorphField.write (field :: fields)) = none := by
  rw [splitAtSlash?_escape_append hstem.ne_nil hbackslash, (splitAtSlash?_write hfields false).2 h]
  rfl

theorem count_split_of_hidesField (hslash : ∀ f ∈ field :: fields, ¬ HasBareSlash f.value)
    (h : HidesField stem) :
    (split (escape stem ++ MorphField.write (field :: fields))).1.count ':' < stem.count ':' := by
  obtain ⟨⟨word, hidden⟩, hsplit⟩ : ∃ parts, splitAtField? stem = some parts := by
    rw [← Option.ne_none_iff_exists', Ne, splitAtField?_eq_none_iff]
    exact not_not_intro h
  obtain ⟨gap, rfl, tag, rest, rfl, -⟩ := eq_append_of_splitAtField? hsplit
  have hword : '\\' ∉ word := fun hmem ↦ hbackslash (List.mem_append_left _ hmem)
  rw [split_of_splitAtField? (splitAtSlash?_written hstem hbackslash hfields hslash)
    (splitAtField?_escape_append_of_some hsplit _), count_colon_escape hword]
  have hcolon : 0 < (gap :: (tag ++ ':' :: rest)).count ':' := List.count_pos_iff.2 (by simp)
  rw [List.count_append]
  exact Nat.lt_add_of_pos_right hcolon

theorem count_split_of_ne (hslash : ∀ f ∈ field :: fields, ¬ HasBareSlash f.value)
    (hhides : ¬ HidesField stem) (h : byteSize field.tag ≠ 2) :
    stem.count ':' < (split (escape stem ++ MorphField.write (field :: fields))).1.count ':' := by
  have hfield := hfields field List.mem_cons_self
  have hwritten := splitAtSlash?_written hstem hbackslash hfields hslash
  have hlabel := count_label_pos field
  have hcut := splitAtField?_escape_append (splitAtField?_eq_none_iff.2 hhides)
    (field.render ++ MorphField.write fields)
  rw [← MorphField.write_cons, splitAtField?_write_of_ne hfield h] at hcut
  cases hrest : splitAtField? (field.value ++ MorphField.write fields) with
  | none =>
      rw [hrest] at hcut
      rw [split_of_splitAtField?_eq_none hwritten hcut, write_cons_eq, List.count_append,
        List.count_append, count_colon_escape hbackslash]
      omega
  | some parts =>
      rw [hrest] at hcut
      rw [split_of_splitAtField? hwritten hcut, List.count_append, List.count_append,
        count_colon_escape hbackslash]
      omega

theorem split_written (hslash : ∀ f ∈ field :: fields, ¬ HasBareSlash f.value)
    (hhides : ¬ HidesField stem) (h : byteSize field.tag = 2) :
    split (escape stem ++ MorphField.write (field :: fields)) =
      (escape stem, [], field.render ++ MorphField.write fields) := by
  have hcut := splitAtField?_escape_append (splitAtField?_eq_none_iff.2 hhides)
    (field.render ++ MorphField.write fields)
  rw [← MorphField.write_cons, splitAtField?_write (hfields field List.mem_cons_self) h,
    Option.map_some, List.append_nil] at hcut
  exact split_of_splitAtField? (splitAtSlash?_written hstem hbackslash hfields hslash) hcut

end Written

/-- The word and its fields are told apart: nothing in the word looks like a field, the first tag
is of two bytes, and no value has a slash that separates. -/
structure IsToldApart (stem : Text) (fields : List MorphField) : Prop where
  stem : ¬ HidesField stem
  first : ∀ field, fields.head? = some field → byteSize field.tag = 2
  values : ∀ field ∈ fields, ¬ HasBareSlash field.value

theorem parseFlags_nil {settings : Settings} : settings.parseFlags [] = .ok .empty := by
  rw [Settings.parseFlags, List.isEmpty_nil, Bool.or_true, if_pos rfl]
  cases settings.flagMode <;> rfl

/-- A line without flags is read back as it was written just if the word and the fields are told
apart. -/
theorem parse_write_plain_iff {settings : Settings} (hsettings : settings.IsLiteral)
    (hstem : stem.IsTidy) (hbackslash : '\\' ∉ stem) {fields : List MorphField} (hne : fields ≠ [])
    (hfields : ∀ field ∈ fields, IsWellNamed field) :
    parse settings (escape stem ++ MorphField.write fields) =
        .ok { stem, flags := .empty, morph := fields, marks := settings.roles.marks .empty } ↔
      IsToldApart stem fields := by
  obtain ⟨field, fields, rfl⟩ := List.exists_cons_of_ne_nil hne
  have hwritable : ∀ f ∈ field :: fields, f.IsWritable := fun f hf ↦ (hfields f hf).isWritable
  have hend : trimEnd (escape stem ++ MorphField.write (field :: fields)) = _ :=
    trimEnd_eq_self_iff.2 fun c hc ↦ by
      rw [MorphField.write_cons, List.getLast?_append_of_ne_nil _ (List.cons_ne_nil _ _),
        ← MorphField.write_cons] at hc
      exact MorphField.not_blank_of_getLast?_write hwritable hc
  constructor
  · intro h
    have hcount := count_colon_of_parse hsettings h
    rw [hend] at hcount
    have hvalues : ∀ f ∈ field :: fields, ¬ HasBareSlash f.value := by
      by_contra hslash
      push Not at hslash
      exact absurd hcount
        (count_split_of_hasBareSlash hstem hbackslash hfields hslash).ne'
    have hhides : ¬ HidesField stem := fun hhides ↦ absurd hcount
      (count_split_of_hidesField hstem hbackslash hfields hvalues hhides).ne
    refine ⟨hhides, ?_, hvalues⟩
    rintro f hf
    obtain rfl := Option.some.inj hf
    by_contra hsize
    exact absurd hcount (count_split_of_ne hstem hbackslash hfields hvalues hhides hsize).ne'
  · intro h
    have hspace : isBlank ' ' := rfl
    have hmorph : MorphField.parseList (field.render ++ MorphField.write fields) =
        field :: fields := by
      rw [← MorphField.parseList_write hwritable, MorphField.parseList, MorphField.parseList,
        MorphField.write_cons, tokens_cons_of_isBlank hspace]
    have hword : unescape (trim (escape stem)) = stem := by
      rw [(isTidy_escape hstem).trim_eq, unescape_escape hbackslash]
    rw [parse, hend, split_written hstem hbackslash hfields h.values h.stem (h.first field rfl)]
    simp [hword, hstem.ne_nil, parseFlags_nil, new, hsettings.stripIgnored_eq,
      hsettings.parseMorph_eq, hmorph]

/-- The second tag may be of any script, and a slash in a value may stand behind a backslash. -/
theorem parse_write_plain_new_york :
    let stem : Text := "New York/é:".toList
    let fields : List MorphField := [⟨"po".toList, "noun".toList⟩, ⟨"éé".toList, "a\\/b".toList⟩]
    Settings.IsLiteral {} ∧ stem.IsTidy ∧ '\\' ∉ stem ∧ fields ≠ [] ∧
      (∀ field ∈ fields, IsWellNamed field) ∧ IsToldApart stem fields ∧
      escape stem ++ MorphField.write fields = "New York\\/é: po:noun éé:a\\/b".toList ∧
      parse {} (escape stem ++ MorphField.write fields) =
        .ok { stem, flags := .empty, morph := fields, marks := [] } := by
  intro stem fields
  have hsettings : Settings.IsLiteral {} := ⟨rfl, rfl, rfl⟩
  have hstem : stem.IsTidy := by decide
  have hbackslash : '\\' ∉ stem := by decide
  have hfields : ∀ field ∈ fields, IsWellNamed field := by
    intro field hfield
    rcases List.mem_pair.1 hfield with rfl | rfl
    · exact ⟨rfl, List.all_eq_true.1 rfl, by decide, forall_not_isBlank rfl⟩
    · exact ⟨rfl, List.all_eq_true.1 rfl, by decide, forall_not_isBlank rfl⟩
  have htold : IsToldApart stem fields := by
    refine ⟨splitAtField?_eq_none_iff.1 rfl, ?_, ?_⟩
    · intro field hfield
      obtain rfl := Option.some.inj hfield
      rfl
    · intro field hfield
      rw [← splitAtSlash?_eq_none_iff_not_hasBareSlash]
      rcases List.mem_pair.1 hfield with rfl | rfl <;> rfl
  refine ⟨hsettings, hstem, hbackslash, by decide, hfields, htold, rfl, ?_⟩
  exact (parse_write_plain_iff hsettings hstem hbackslash (by decide) hfields).2 htold

/-- The slash in the value is taken for the one before the flags, and behind the accented tag no
field is seen. -/
theorem not_parse_write_plain_walk :
    let stem : Text := "walk".toList
    let slashed : MorphField := ⟨"po".toList, "a/b".toList⟩
    let accented : MorphField := ⟨"éé".toList, ['x']⟩
    Settings.IsLiteral {} ∧ stem.IsTidy ∧ '\\' ∉ stem ∧
      (∀ left gap a b right, stem = left ++ gap :: a :: b :: ':' :: right →
        gap ≠ ' ' ∧ gap ≠ '\t') ∧
      IsWellNamed slashed ∧ IsWellNamed accented ∧
      parse {} (escape stem ++ MorphField.write [slashed]) =
        .ok { stem := "walk po:a".toList, flags := .ofList [98], morph := [], marks := [] } ∧
      parse {} (escape stem ++ MorphField.write [accented]) =
        .ok { stem := "walk éé:x".toList, flags := .empty, morph := [], marks := [] } := by
  intro stem slashed accented
  have hgap : ∀ left gap a b right, stem = left ++ gap :: a :: b :: ':' :: right →
      gap ≠ ' ' ∧ gap ≠ '\t' := by
    intro left gap a b right hstem
    have hcolon : ':' ∈ stem := by simp [hstem]
    exact absurd hcolon (by decide)
  exact ⟨⟨rfl, rfl, rfl⟩, by decide, by decide, hgap,
    ⟨rfl, List.all_eq_true.1 rfl, by decide, forall_not_isBlank rfl⟩,
    ⟨rfl, List.all_eq_true.1 rfl, by decide, forall_not_isBlank rfl⟩,
    by decide +kernel, by decide +kernel⟩

end Entry
end Orthography
