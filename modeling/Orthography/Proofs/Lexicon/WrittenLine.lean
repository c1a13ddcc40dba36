import Orthography.Lexicon.Line
import Orthography.Proofs.Settings.Reader
import Orthography.Proofs.Text.Occurrence
import Orthography.Proofs.Text.Tokens

/-!
# Written lines

How an entry is written as a line of a dictionary: the slashes of the word behind backslashes, then
a slash and the flags, then the fields, each behind a space.  Such a line is read back as the entry.
-/

namespace Orthography

open Text

/-! ## Fields -/

namespace MorphField

variable {field : MorphField} {fields : List MorphField}

/-- The first colon ends the tag, and no blank falls into the field. -/
structure IsWritable (field : MorphField) : Prop where
  length_tag : field.tag.length = 2
  colon_not_mem_tag : ':' ∉ field.tag
  value_ne_nil : field.value ≠ []
  not_blank : ∀ c ∈ field.tag ++ field.value, isBlank c = false

/-- Fields as they stand behind a word. -/
def write (fields : List MorphField) : Text := fields.flatMap fun field ↦ ' ' :: field.render

theorem write_cons (field : MorphField) (fields : List MorphField) :
    write (field :: fields) = ' ' :: (field.render ++ write fields) := rfl

theorem isBlank_of_head?_write {c : Char} (hc : (write fields).head? = some c) : isBlank c := by
  cases fields with
  | nil => cases hc
  | cons field fields =>
      obtain rfl := Option.some.inj hc
      rfl

theorem parse?_render (h : field.IsWritable) : parse? field.render = some field := by
  have hsplit : splitOnce? [':'] field.render = some (field.tag, field.value) := by
    have hrender : field.render = field.tag ++ [':'] ++ field.value := by simp [render]
    rw [hrender, splitOnce?_append_iff]
    exact isFirstBehind_singleton h.colon_not_mem_tag
  simp [parse?, hsplit, h.length_tag, h.value_ne_nil]

theorem not_blank_render (h : field.IsWritable) : ∀ c ∈ field.render, isBlank c = false := by
  intro c hc
  rw [render, List.mem_append, List.mem_cons] at hc
  rcases hc with hc | rfl | hc
  · exact h.not_blank c (List.mem_append_left _ hc)
  · rfl
  · exact h.not_blank c (List.mem_append_right _ hc)

theorem render_ne_nil (field : MorphField) : field.render ≠ [] := by simp [render]

theorem tokens_write (h : ∀ field ∈ fields, field.IsWritable) :
    tokens (write fields) = fields.map render := by
  induction fields with
  | nil => rfl
  | cons field fields ih =>
      obtain ⟨hfield, hfields⟩ := List.forall_mem_cons.1 h
      have hspace : isBlank ' ' := rfl
      rw [write_cons, tokens_cons_of_isBlank hspace,
        tokens_append field.render_ne_nil (not_blank_render hfield) fun _ ↦ isBlank_of_head?_write,
        ih hfields, List.map_cons]

theorem parseList_write (h : ∀ field ∈ fields, field.IsWritable) :
    parseList (write fields) = fields := by
  have hparse : ∀ field ∈ fields, (parse? ∘ render) field = some field :=
    fun field hfield ↦ parse?_render (h field hfield)
  rw [parseList, tokens_write h, List.filterMap_map, List.filterMap_congr hparse,
    List.filterMap_some]

theorem not_blank_of_getLast?_write (h : ∀ field ∈ fields, field.IsWritable) {c : Char}
    (hc : (write fields).getLast? = some c) : isBlank c = false := by
  rcases List.eq_nil_or_concat fields with rfl | ⟨fields, field, rfl⟩
  · cases hc
  · have hfield := h field (by simp)
    have hlast := List.getLast?_eq_some_getLast field.render_ne_nil
    have hwrite : (write (fields.concat field)).getLast? = field.render.getLast? := by
      simp [write, List.getLast?_append, List.getLast?_cons, hlast]
    exact not_blank_render hfield c (List.mem_of_getLast? (hwrite.symm.trans hc))

end MorphField

/-! ## Settings that take a line as it stands -/

/-- No number stands for flags or fields, and no character is ignored. -/
structure Settings.IsLiteral (settings : Settings) : Prop where
  flagAliases : settings.flagAliases = []
  morphAliases : settings.morphAliases = []
  ignored : settings.ignored = []

namespace Settings.IsLiteral

variable {settings : Settings} (h : settings.IsLiteral)
include h

theorem parseFlags_eq (text : Text) :
    settings.parseFlags text = FlagSet.parse settings.flagMode text := by
  simp [parseFlags, h.flagAliases]

theorem parseMorph_eq (text : Text) : settings.parseMorph text = MorphField.parseList text := by
  simp [parseMorph, h.morphAliases, MorphField.parseList, tokens_trim]

theorem stripIgnored_eq (text : Text) : settings.stripIgnored text = text := by
  simp [stripIgnored, h.ignored]

end Settings.IsLiteral

/-! ## Words -/

namespace Entry

/-- The word on a line of a dictionary, ignored characters included. -/
def writtenWord (line : Text) : Text := unescape (trim (split (trimEnd line)).1)

theorem stem_of_parse {settings : Settings} {line : Text} {entry : Entry}
    (h : parse settings line = .ok entry) :
    writtenWord line ≠ [] ∧ entry.stem = settings.stripIgnored (writtenWord line) := by
  simp only [parse] at h
  split at h
  · cases h
  · rename_i hword
    obtain ⟨flags, -, h⟩ := exists_of_bind_eq_ok h
    cases h
    exact ⟨fun hnil ↦ hword (List.isEmpty_iff.2 hnil), rfl⟩

theorem unescape_ne_nil {text : Text} (h : text ≠ []) : unescape text ≠ [] := by
  fun_cases unescape text
  · exact absurd rfl h
  · exact List.cons_ne_nil _ _
  · exact List.cons_ne_nil _ _

theorem getLast?_unescape (text : Text) : (unescape text).getLast? = text.getLast? := by
  fun_induction unescape text with
  | case1 => rfl
  | case2 text ih =>
      rw [List.getLast?_cons, ih, List.getLast?_cons, List.getLast?_cons, Option.getD_some]
  | case3 c text _ ih => rw [List.getLast?_cons, ih, List.getLast?_cons]

/-- A backslash gives way to a slash, and neither is a blank. -/
theorem isTidy_unescape {text : Text} (h : text.IsTidy) : (unescape text).IsTidy where
  ne_nil := unescape_ne_nil h.ne_nil
  head c hc := by
    have hhead := h.head
    revert hc
    fun_cases unescape text
    · intro hc
      cases hc
    · intro hc
      obtain rfl := Option.some.inj hc
      rfl
    · intro hc
      exact hhead c hc
  last c hc := h.last c ((getLast?_unescape text).symm.trans hc)

theorem isTidy_writtenWord {line : Text} (h : writtenWord line ≠ []) :
    (writtenWord line).IsTidy := by
  apply isTidy_unescape
  apply isTidy_trim
  intro hnil
  rw [writtenWord, hnil] at h
  exact h rfl

variable {stem head rest : Text}

/-- A word as it is written, with a backslash before each slash. -/
def escape (word : Text) : Text := word.flatMap fun c ↦ if c = '/' then ['\\', '/'] else [c]

theorem escape_slash (word : Text) : escape ('/' :: word) = '\\' :: '/' :: escape word := rfl

theorem escape_cons {c : Char} (hc : c ≠ '/') (word : Text) :
    escape (c :: word) = c :: escape word := by
  simp [escape, hc]

theorem unescape_cons {c : Char} (hc : c ≠ '\\') (word : Text) :
    unescape (c :: word) = c :: unescape word := by
  rw [unescape.eq_3]
  rintro _ rfl
  exact absurd rfl hc

theorem unescape_escape (h : '\\' ∉ stem) : unescape (escape stem) = stem := by
  induction stem with
  | nil => rfl
  | cons c stem ih =>
      obtain ⟨hc, hstem⟩ := List.ne_and_not_mem_of_not_mem_cons h
      by_cases hslash : c = '/'
      · rw [hslash, escape_slash, unescape, ih hstem]
      · rw [escape_cons hslash, unescape_cons (Ne.symm hc), ih hstem]

theorem escape_ne_nil (h : stem ≠ []) : escape stem ≠ [] := by
  obtain ⟨c, stem, rfl⟩ := List.exists_cons_of_ne_nil h
  by_cases hslash : c = '/' <;> simp [escape, hslash]

theorem getLast?_escape (stem : Text) : (escape stem).getLast? = stem.getLast? := by
  rcases List.eq_nil_or_concat stem with rfl | ⟨stem, c, rfl⟩
  · rfl
  · by_cases hslash : c = '/' <;> simp [escape, hslash]

theorem isTidy_escape (h : stem.IsTidy) : (escape stem).IsTidy where
  ne_nil := escape_ne_nil h.ne_nil
  head c hc := by
    have hhead := h.head
    obtain ⟨d, stem, rfl⟩ := List.exists_cons_of_ne_nil h.ne_nil
    by_cases hslash : d = '/'
    · rw [hslash, escape_slash] at hc
      obtain rfl := Option.some.inj hc
      rfl
    · rw [escape_cons hslash] at hc
      exact hhead c hc
  last c hc := h.last c ((getLast?_escape stem).symm.trans hc)

/-! ## Where the word ends -/

/-- Whether what follows a text stands behind a backslash that counts. -/
def escapesNext (escaped : Bool) (text : Text) : Bool :=
  text.foldl (fun escaped c ↦ c == '\\' && !escaped) escaped

/-- Where no slash in the beginning separates, the search goes on behind it. -/
theorem splitAtSlash?_append {escaped atStart : Bool}
    (h : splitAtSlash? escaped atStart head = none) :
    splitAtSlash? escaped atStart (head ++ rest) =
      (splitAtSlash? (escapesNext escaped head) (atStart && head.isEmpty) rest).map
        fun parts ↦ (head ++ parts.1, parts.2) := by
  induction head generalizing escaped atStart with
  | nil => simp [escapesNext]
  | cons c head ih =>
      simp only [splitAtSlash?] at h
      split at h
      · cases h
      · rename_i hc
        rw [List.cons_append, splitAtSlash?, if_neg hc, ih (Option.map_eq_none_iff.1 h)]
        simp [escapesNext, Function.comp_def]

/-- In a word without backslashes of its own every slash is escaped, and nothing else is. -/
theorem splitAtSlash?_escape (h : '\\' ∉ stem) (atStart : Bool) :
    splitAtSlash? false atStart (escape stem) = none ∧ escapesNext false (escape stem) = false := by
  induction stem generalizing atStart with
  | nil => exact ⟨rfl, rfl⟩
  | cons c stem ih =>
      obtain ⟨hc, hstem⟩ := List.ne_and_not_mem_of_not_mem_cons h
      obtain ⟨hnone, hnext⟩ := ih hstem false
      by_cases hslash : c = '/'
      · rw [hslash, escape_slash]
        constructor
        · simp [splitAtSlash?, hnone]
        · exact hnext
      · rw [escape_cons hslash]
        have hback : (c == '\\') = false := by simpa using Ne.symm hc
        constructor
        · simp [splitAtSlash?, hslash, hback, hnone]
        · simpa [escapesNext, hback] using hnext

theorem splitAtSlash?_escape_append (hne : stem ≠ []) (h : '\\' ∉ stem) (rest : Text) :
    splitAtSlash? false true (escape stem ++ rest) =
      (splitAtSlash? false false rest).map fun parts ↦ (escape stem ++ parts.1, parts.2) := by
  obtain ⟨hnone, hnext⟩ := splitAtSlash?_escape h true
  rw [splitAtSlash?_append hnone, hnext, Bool.true_and,
    List.isEmpty_eq_false_iff.2 (escape_ne_nil hne)]

/-! ## Lines with flags -/

theorem token_append {word rest : Text} (hword : ∀ c ∈ word, isBlank c = false)
    (hrest : ∀ c, rest.head? = some c → isBlank c) : token (word ++ rest) = (word, rest) := by
  have hword : ∀ c ∈ word, (!isBlank c) = true := by simpa using hword
  cases rest with
  | nil => simpa [token] using hword
  | cons c rest =>
      simp [token, List.takeWhile_append_of_pos hword, List.dropWhile_append_of_pos hword,
        hrest c rfl]

/-- A line with flags is read back as it was written. -/
theorem parse_write {settings : Settings} (hsettings : settings.IsLiteral) {stem flags : Text}
    {set : FlagSet} {fields : List MorphField} (hstem : stem.IsTidy) (hbackslash : '\\' ∉ stem)
    (hblank : ∀ c ∈ flags, isBlank c = false)
    (hset : FlagSet.parse settings.flagMode flags = .ok set)
    (hfields : ∀ field ∈ fields, field.IsWritable) :
    parse settings (escape stem ++ '/' :: flags ++ MorphField.write fields) =
      .ok { stem, flags := set, morph := fields, marks := settings.roles.marks set } := by
  have hend : trimEnd (escape stem ++ '/' :: flags ++ MorphField.write fields) = _ :=
    trimEnd_eq_self_iff.2 fun c hc ↦ by
      rw [List.getLast?_append, Option.or_eq_some_iff] at hc
      rcases hc with hc | ⟨-, hc⟩
      · exact MorphField.not_blank_of_getLast?_write hfields hc
      · rw [List.getLast?_append, List.getLast?_cons, Option.some_or] at hc
        obtain rfl := Option.some.inj hc
        cases hflags : flags.getLast? with
        | none => rfl
        | some d => exact hblank d (List.mem_of_getLast? hflags)
  have hslash : splitAtSlash? false true (escape stem ++ '/' :: flags ++ MorphField.write fields) =
      some (escape stem, flags ++ MorphField.write fields) := by
    rw [List.append_assoc, splitAtSlash?_escape_append hstem.ne_nil hbackslash]
    simp [splitAtSlash?]
  have htoken : token (flags ++ MorphField.write fields) = _ :=
    token_append hblank fun _ ↦ MorphField.isBlank_of_head?_write
  have hword : unescape (trim (escape stem)) = stem := by
    rw [(isTidy_escape hstem).trim_eq, unescape_escape hbackslash]
  simp only [parse, hend, split, hslash, htoken, hword, hsettings.parseFlags_eq, hset]
  simp [hstem.ne_nil, new, hsettings.stripIgnored_eq, hsettings.parseMorph_eq,
    MorphField.parseList_write hfields]

/-- Slashes at both ends of the word and in a field, and a flag that has a role. -/
theorem parse_write_slashes :
    let settings : Settings := { flagMode := .num, roles := Roles.none.declare .forbidden 3 }
    let stem : Text := "/a b/".toList
    let fields : List MorphField := [⟨"p/".toList, "x/y".toList⟩]
    settings.IsLiteral ∧ stem.IsTidy ∧ '\\' ∉ stem ∧
      FlagSet.parse settings.flagMode "12,3".toList = .ok (.ofList [3, 12]) ∧
      (∀ field ∈ fields, field.IsWritable) ∧
      escape stem ++ '/' :: "12,3".toList ++ MorphField.write fields =
        "\\/a b\\//12,3 p/:x/y".toList ∧
      parse settings (escape stem ++ '/' :: "12,3".toList ++ MorphField.write fields) =
        .ok { stem, flags := .ofList [3, 12], morph := fields, marks := [.forbidden] } := by
  intro settings stem fields
  have hsettings : settings.IsLiteral := ⟨rfl, rfl, rfl⟩
  have hstem : stem.IsTidy := by decide
  have hset : FlagSet.parse settings.flagMode "12,3".toList = .ok (.ofList [3, 12]) :=
    rfl
  have hfields : ∀ field ∈ fields, field.IsWritable := by
    intro field hfield
    obtain rfl := List.mem_singleton.1 hfield
    exact ⟨rfl, by decide, by decide, forall_not_isBlank rfl⟩
  have hmarks : settings.roles.marks (.ofList [3, 12]) = [.forbidden] := rfl
  refine ⟨hsettings, hstem, by decide, hset, hfields, rfl, ?_⟩
  rw [← hmarks]
  have hblank : ∀ c ∈ "12,3".toList, isBlank c = false := forall_not_isBlank rfl
  exact parse_write hsettings hstem (by decide) hblank hset hfields

end Entry
end Orthography
