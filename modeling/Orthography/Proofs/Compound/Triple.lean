import Mathlib.Data.List.Induction
import Orthography.Proofs.Compound.DivisionSearch

/-!
# Three equal letters in a compound

Where three equal letters must not meet, only two neighbouring parts at a time are looked at.  So
there is one way for such letters to be spread over several parts: the middle one is a part of its
own.
-/

namespace Orthography

/-- The letters of some parts in a row. -/
def Segment.letters (parts : List Segment) : Text := parts.flatMap (·.text)

namespace Segment

variable {parts done more : List Segment} {part : Segment}

@[simp] theorem letters_nil : letters [] = [] := rfl

@[simp] theorem letters_cons : letters (part :: more) = part.text ++ letters more :=
  List.flatMap_cons ..

@[simp] theorem letters_append : letters (done ++ more) = letters done ++ letters more :=
  List.flatMap_append ..

theorem letters_prefix (h : done <+: parts) : letters done <+: letters parts := by
  obtain ⟨more, rfl⟩ := h
  exact ⟨letters more, letters_append.symm⟩

theorem exists_part_of_letters_eq {left right : Text} {c : Char}
    (h : letters parts = left ++ c :: right) :
    ∃ done part more before after, parts = done ++ part :: more ∧
      part.text = before ++ c :: after ∧ left = letters done ++ before ∧
        right = after ++ letters more := by
  induction parts generalizing left with
  | nil => simp at h
  | cons first parts ih =>
      rw [letters_cons] at h
      rcases List.append_eq_append_iff.1 h with ⟨left, rfl, hletters⟩ | ⟨tail, htext, hright⟩
      · obtain ⟨done, part, more, before, after, rfl, htext, rfl, rfl⟩ := ih hletters
        exact ⟨first :: done, part, more, before, after, rfl, htext, by simp, rfl⟩
      · cases tail with
        | nil =>
            have hletters : letters parts = [] ++ c :: right := hright.symm
            obtain ⟨done, part, more, before, after, rfl, htext', hnil, rfl⟩ := ih hletters
            obtain ⟨hdone, rfl⟩ := List.append_eq_nil_iff.1 hnil.symm
            exact ⟨first :: done, part, more, [], after, rfl, htext', by simp [htext, hdone], rfl⟩
        | cons d tail =>
            obtain ⟨rfl, rfl⟩ := List.cons.inj hright
            exact ⟨[], first, parts, left, tail, rfl, htext, rfl, rfl⟩

theorem exists_next_of_letters_eq {right : Text} {c : Char} (hne : ∀ part ∈ parts, part.text ≠ [])
    (h : letters parts = c :: right) :
    ∃ part more after, parts = part :: more ∧ part.text = c :: after ∧
      right = after ++ letters more := by
  cases parts with
  | nil => simp at h
  | cons part more =>
      obtain ⟨d, after, htext⟩ := List.exists_cons_of_ne_nil (hne part List.mem_cons_self)
      rw [letters_cons, htext, List.cons_append] at h
      obtain ⟨rfl, rfl⟩ := List.cons.inj h
      exact ⟨part, more, after, rfl, htext, rfl⟩

end Segment

/-! ## Three equal letters in a row of parts -/

/-- No three equal letters in a row stand in more than one part. -/
def KeepsTriples (word : Text) (parts : List Segment) : Prop :=
  ∀ c start stop, Text.StandsBetween word start stop [c, c, c] →
    ∃ part ∈ parts, part.start ≤ start ∧ stop ≤ part.stop

/-- A part is a single letter, and the same letter stands on either side of it. -/
def SplitsTriple (parts : List Segment) : Prop :=
  ∃ done left middle right more c, parts = done ++ left :: middle :: right :: more ∧
    [c] <:+ left.text ∧ middle.text = [c] ∧ [c] <+: right.text

/-- Three equal letters do not meet where one part stands before another. -/
def AvoidsTriples (parts : List Segment) : Prop :=
  ∀ done left right more, parts = done ++ left :: right :: more →
    ∀ c, ¬([c, c] <:+ left.text ∧ [c] <+: right.text) ∧ ¬([c] <:+ left.text ∧ [c, c] <+: right.text)

open Segment in
/-- Three equal letters in a row stand in one part, or one of them is a part. -/
theorem exists_part_or_splitsTriple {parts : List Segment} {left right : Text} {c : Char}
    (hne : ∀ part ∈ parts, part.text ≠ []) (havoids : AvoidsTriples parts)
    (h : letters parts = left ++ [c, c, c] ++ right) :
    (∃ done part more before after, parts = done ++ part :: more ∧
      part.text = before ++ [c, c, c] ++ after ∧ left = letters done ++ before) ∨
    SplitsTriple parts := by
  have hletters : letters parts = left ++ c :: c :: c :: right := by simpa using h
  obtain ⟨done, part, more, before, after, rfl, htext, rfl, hafter⟩ :=
    exists_part_of_letters_eq hletters
  have hmore : ∀ part ∈ more, part.text ≠ [] := fun other hother ↦
    hne other (List.mem_append_right _ (List.mem_cons_of_mem _ hother))
  -- The first letter belongs to `part`; what follows it there tells where the others belong.
  rcases after with _ | ⟨d, _ | ⟨e, after⟩⟩
  · obtain ⟨next, rest, tail, rfl, hnext, htail⟩ := exists_next_of_letters_eq hmore hafter.symm
    rcases tail with _ | ⟨d, tail⟩
    · obtain ⟨last, rest, tail, rfl, hlast, -⟩ :=
        exists_next_of_letters_eq (fun other hother ↦ hmore other (List.mem_cons_of_mem _ hother))
          htail.symm
      exact Or.inr ⟨done, part, next, last, rest, c, rfl, ⟨before, htext.symm⟩, hnext,
        ⟨tail, hlast.symm⟩⟩
    · obtain ⟨rfl, -⟩ := List.cons.inj htail
      exact absurd ⟨⟨before, htext.symm⟩, ⟨tail, hnext.symm⟩⟩
        (havoids done part next rest rfl c).2
  · rw [List.cons_append, List.nil_append, List.cons.injEq] at hafter
    obtain ⟨rfl, hletters⟩ := hafter
    obtain ⟨next, rest, tail, rfl, hnext, -⟩ := exists_next_of_letters_eq hmore hletters.symm
    exact absurd ⟨⟨before, htext.symm⟩, ⟨tail, hnext.symm⟩⟩ (havoids done part next rest rfl c).1
  · rw [List.cons_append, List.cons.injEq, List.cons_append, List.cons.injEq] at hafter
    obtain ⟨rfl, rfl, -⟩ := hafter
    exact Or.inl ⟨done, part, more, before, after, rfl, by simpa using htext, rfl⟩

namespace Dictionary

open Segment

variable {dictionary : Dictionary} {purpose : Purpose} {word : Text}
  {parts done more : List Segment} {part : Segment}

/-! ## Where the parts stand -/

/-- A part that no pattern joins to its neighbours reads as the word does. -/
theorem Places.stands (h : dictionary.Places purpose word done part more) {head : Text}
    (hhead : head <+: word) (hstart : part.start = Text.byteSize head) (hvia : part.via = none)
    (hnext : ∀ next ∈ more, next.via = none) :
    part.stop = Text.byteSize (head ++ part.text) ∧ head ++ part.text <+: word := by
  obtain ⟨rest, rfl⟩ := hhead
  obtain ⟨surface, hsurface, -, htext⟩ := h.reads
  have hending : more.head?.bind (·.via) = none := by
    cases more with
    | nil => rfl
    | cons next more => exact hnext next List.mem_cons_self
  rw [hvia, hending, Option.elim_none, Option.elim_none, List.nil_append, List.append_nil] at htext
  rw [hstart, Text.standsBetween_append_iff] at hsurface
  obtain ⟨right, rfl, hstop⟩ := hsurface
  rw [htext, hstop, Text.byteSize_append, ← List.append_assoc]
  exact ⟨rfl, List.prefix_append _ _⟩

section Plain

variable (h : dictionary.IsDivision purpose word parts) (hvia : ∀ part ∈ parts, part.via = none)
include h hvia

/-- Without patterns each part begins where the one before it ends, and reads as the word does. -/
theorem IsDivision.stands (hparts : parts = done ++ part :: more) :
    part.start = Text.byteSize (letters done) ∧
      part.stop = Text.byteSize (letters (done ++ [part])) ∧ letters (done ++ [part]) <+: word := by
  have hplaces := h.places done part more hparts
  have hpart : part.via = none := hvia part (by simp [hparts])
  have hmore : ∀ next ∈ more, next.via = none := fun next hnext ↦ hvia next (by simp [hparts, hnext])
  rw [letters_append, letters_cons, letters_nil, List.append_nil]
  induction done using List.reverseRecOn generalizing part more with
  | nil =>
      obtain ⟨hstart, -⟩ := hplaces.opens rfl
      exact ⟨hstart, hplaces.stands List.nil_prefix hstart hpart hmore⟩
  | append_singleton done before ih =>
      rw [List.append_assoc] at hparts
      obtain ⟨-, hstop, hprefix⟩ := ih hparts (h.places done before (part :: more) hparts)
        (hvia before (by simp [hparts])) (List.forall_mem_cons.2 ⟨hpart, hmore⟩)
      have hletters : letters (done ++ [before]) = letters done ++ before.text := by simp
      have hstart : part.start = Text.byteSize (letters (done ++ [before])) := by
        have hleads := hplaces.follows before (by simp)
        rw [hpart] at hleads
        rw [hletters, ← hstop]
        exact hleads
      exact ⟨hstart, hplaces.stands (hletters ▸ hprefix) hstart hpart hmore⟩

theorem IsDivision.letters_eq : letters parts = word := by
  cases parts using List.reverseRecOn with
  | nil => exact absurd h.two_le (by simp)
  | append_singleton done part =>
      obtain ⟨-, hstop, rest, hrest⟩ := h.stands hvia rfl
      have hcloses := (h.places done part [] rfl).closes rfl
      rw [← hrest, Text.byteSize_append, hstop] at hcloses
      obtain rfl : rest = [] := by
        by_contra hne
        have hpos := Text.byteSize_pos hne
        omega
      rw [← hrest, List.append_nil]

theorem IsDivision.avoidsTriples (htriple : dictionary.settings.forbidTriple) :
    AvoidsTriples parts := by
  intro done left right more hparts
  have hplaces := h.places (done ++ [left]) right more (by simp [hparts])
  have hjoins := hplaces.joins left (by simp)
  have hright : right.via = none := hvia right (by simp [hparts])
  rw [Settings.JoinsWith, hright] at hjoins
  exact hjoins.triples htriple

theorem IsDivision.not_covers {left : Segment} (hparts : parts = done ++ left :: more)
    {start stop : Nat} (hstart : start < Text.byteSize (letters (done ++ [left])))
    (hstop : Text.byteSize (letters (done ++ [left])) < stop) :
    ∀ part ∈ parts, ¬(part.start ≤ start ∧ stop ≤ part.stop) := by
  rintro part hpart ⟨hfirst, hlast⟩
  obtain ⟨before, after, hsplit⟩ := List.append_of_mem hpart
  obtain ⟨hpartStart, hpartStop, -⟩ := h.stands hvia hsplit
  have hsize {a b : List Segment} (hab : a <+: b) :
      Text.byteSize (letters a) ≤ Text.byteSize (letters b) := by
    obtain ⟨tail, htail⟩ := letters_prefix hab
    rw [← htail, Text.byteSize_append]
    exact Nat.le_add_right _ _
  have hpart : before ++ [part] <+: parts := ⟨after, by simp [hsplit]⟩
  have hleft : done ++ [left] <+: parts := ⟨more, by simp [hparts]⟩
  rcases List.prefix_or_prefix_of_prefix hpart hleft with hle | hle
  · have := hsize hle
    omega
  · rcases List.prefix_concat_iff.1 hle with heq | hle
    · rw [heq] at hstop
      omega
    · have := hsize hle
      omega

/-! ## Which triples are kept -/

theorem IsDivision.not_splitsTriple (hkeeps : KeepsTriples word parts) : ¬SplitsTriple parts := by
  rintro ⟨done, left, middle, right, more, c, hparts, ⟨front, hleft⟩, hmiddle, ⟨back, hright⟩⟩
  have hword : word = letters done ++ front ++ [c, c, c] ++ (back ++ letters more) := by
    rw [← h.letters_eq hvia, hparts]
    simp [← hleft, hmiddle, ← hright]
  obtain ⟨part, hpart, hcovers⟩ := hkeeps c _ _ ⟨_, _, hword, rfl, rfl⟩
  have hc := c.utf8Size_pos
  refine h.not_covers hvia hparts ?_ ?_ part hpart hcovers
  all_goals
    simp only [letters_append, letters_cons, letters_nil, List.append_nil, ← hleft,
      Text.byteSize_append, Text.byteSize]
    omega

theorem IsDivision.keepsTriples (htriple : dictionary.settings.forbidTriple)
    (hsplits : ¬SplitsTriple parts) : KeepsTriples word parts := by
  rintro c - - ⟨left, right, hword, rfl, rfl⟩
  have hne : ∀ part ∈ parts, part.text ≠ [] := by
    intro part hpart
    obtain ⟨done, more, hplaces⟩ := h.exists_places hpart
    exact hplaces.text_ne_nil
  have hletters : letters parts = left ++ [c, c, c] ++ right := (h.letters_eq hvia).trans hword
  obtain ⟨done, part, more, before, after, hparts, htext, rfl⟩ :=
    (exists_part_or_splitsTriple hne (h.avoidsTriples hvia htriple) hletters).resolve_right hsplits
  obtain ⟨hstart, hstop, -⟩ := h.stands hvia hparts
  refine ⟨part, by simp [hparts], ?_, ?_⟩
  · rw [hstart, Text.byteSize_append]
    exact Nat.le_add_right _ _
  · rw [hstop]
    simp only [letters_append, letters_cons, letters_nil, List.append_nil, htext,
      Text.byteSize_append]
    omega

end Plain

/-- Where three equal letters must not meet and no pattern joins parts, such letters always stand in
one part, unless one of them is a part between two others.  There is no such part if parts have
two letters or more. -/
theorem keepsTriples_iff (h : parts ∈ (dictionary.divisions purpose word).toList)
    (htriple : dictionary.settings.forbidTriple) (hvia : ∀ part ∈ parts, part.via = none) :
    (KeepsTriples word parts ↔ ¬SplitsTriple parts) ∧
      (2 ≤ dictionary.settings.compoundMin → KeepsTriples word parts) := by
  have hdivision : dictionary.IsDivision purpose word parts := (mem_divisions_iff.1 h).2.1
  refine ⟨⟨hdivision.not_splitsTriple hvia, hdivision.keepsTriples hvia htriple⟩, fun hmin ↦ ?_⟩
  refine hdivision.keepsTriples hvia htriple ?_
  rintro ⟨done, left, middle, right, more, c, rfl, -, hmiddle, -⟩
  have hlong := (hdivision.places (done ++ [left]) middle (right :: more) (by simp)).long
  rw [hmiddle, List.length_singleton] at hlong
  omega

/-- Parts of one letter are allowed, and three equal letters must not meet. -/
def baacDictionary : Dictionary :=
  ofParts
    { roles := Roles.none.declare .compoundFlag 88, compoundMin := 1, forbidTriple := true }
    (([['b', 'a'], ['a'], ['a', 'c'], ['c', 'a', 'a', 'a', 'c']].map fun stem ↦
      ⟨stem, .ofList [88], [], []⟩).foldl Lexicon.add .empty)

/-- In `bacaaac` the three letters stand in one part, where they may. -/
theorem keepsTriples_bacaaac :
    ∃ parts ∈ (baacDictionary.divisions {} ['b', 'a', 'c', 'a', 'a', 'a', 'c']).toList,
      baacDictionary.settings.forbidTriple ∧ (∀ part ∈ parts, part.via = none) ∧
        ¬SplitsTriple parts ∧ KeepsTriples ['b', 'a', 'c', 'a', 'a', 'a', 'c'] parts := by
  have hfound : ∃ parts ∈
      (baacDictionary.divisions {} ['b', 'a', 'c', 'a', 'a', 'a', 'c']).toList,
      (∀ part ∈ parts, part.via = none) ∧ parts.length = 2 := by decide +kernel
  obtain ⟨parts, hparts, hvia, hlength⟩ := hfound
  have hsplits : ¬SplitsTriple parts := by
    rintro ⟨done, left, middle, right, more, c, rfl, -⟩
    simp only [List.length_append, List.length_cons] at hlength
    omega
  exact ⟨parts, hparts, rfl, hvia, hsplits,
    (keepsTriples_iff hparts rfl hvia).1.2 hsplits⟩

/-- The word `baaac` is found to be `ba`, `a` and `ac`, with an equal letter in each. -/
theorem not_keepsTriples_baaac :
    baacDictionary.settings.forbidTriple ∧
      ∃ parts ∈ (baacDictionary.divisions {} ['b', 'a', 'a', 'a', 'c']).toList,
        parts.map (·.text) = [['b', 'a'], ['a'], ['a', 'c']] ∧
          (∀ part ∈ parts, part.via = none) ∧
            ¬KeepsTriples ['b', 'a', 'a', 'a', 'c'] parts := by
  have hfound : ∃ parts ∈ (baacDictionary.divisions {} ['b', 'a', 'a', 'a', 'c']).toList,
      parts.map (·.text) = [['b', 'a'], ['a'], ['a', 'c']] ∧
        (∀ part ∈ parts, part.via = none) ∧
          ∀ part ∈ parts, ¬(part.start ≤ 1 ∧ 4 ≤ part.stop) := by decide +kernel
  obtain ⟨parts, hparts, htexts, hvia, hcovers⟩ := hfound
  refine ⟨rfl, parts, hparts, htexts, hvia, fun hkeeps ↦ ?_⟩
  obtain ⟨part, hpart, hcover⟩ := hkeeps 'a' 1 4 ⟨['b'], ['c'], rfl, rfl, rfl⟩
  exact hcovers part hpart hcover

end Dictionary
end Orthography
