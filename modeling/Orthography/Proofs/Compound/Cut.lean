import Orthography.Compound.Search

/-!
# The cuts of a text

`Cut.all` lists the ways of taking a part off the beginning of a text.  A cut is told by what it
leaves: something of both sides and nothing between them, or the replacement of a pattern between
them.
-/

namespace Orthography
namespace Cut

variable {patterns : List CompoundPattern} {carry rest left right : Text} {cut : Cut rest}

theorem eq_plain_iff {h : right.length < rest.length} :
    cut = plain carry left right h ↔ cut.surface = left ∧ cut.text = carry ++ left ∧
      cut.gap = [] ∧ cut.via = none ∧ cut.after = right := by
  obtain ⟨surface, text, gap, via, after, shorter⟩ := cut
  simp [plain]

theorem joined?_eq_some_iff {h : right.length < rest.length} {pattern : CompoundPattern} :
    joined? carry left right h pattern = some cut ↔
      pattern.replacement = some cut.gap ∧ cut.gap ≠ [] ∧ cut.surface = left ∧
        cut.text = carry ++ left ++ pattern.ending.chars ∧ cut.via = some pattern ∧
          right = cut.gap ++ cut.after := by
  simp only [joined?]
  split
  · rename_i hnone
    simp [hnone]
  · rename_i hempty
    constructor
    · intro h
      cases h
    · rintro ⟨hgap, hne, -⟩
      rw [hempty] at hgap
      exact absurd (Option.some.inj hgap).symm hne
  · rename_i gap hne hgap
    have hne : gap ≠ [] := hne
    split
    · rename_i hafter
      constructor
      · intro h
        cases h
      · rintro ⟨hgap', -, -, -, -, rfl⟩
        obtain rfl : gap = cut.gap := Option.some.inj (hgap.symm.trans hgap')
        have hsome := Text.after?_eq_some_iff.2 (rfl : cut.gap ++ cut.after = cut.gap ++ cut.after)
        rw [hafter] at hsome
        cases hsome
    · rename_i after hafter
      have hright := Text.after?_eq_some_iff.1 hafter
      obtain ⟨surface, text, gap', via, after', shorter⟩ := cut
      simp only [Option.some.injEq, mk.injEq, hgap]
      constructor
      · rintro ⟨rfl, rfl, rfl, rfl, rfl⟩
        exact ⟨rfl, hne, rfl, rfl, rfl, hright⟩
      · rintro ⟨rfl, -, rfl, rfl, rfl, hright'⟩
        exact ⟨rfl, rfl, rfl, rfl, List.append_cancel_left (hright.symm.trans hright')⟩

/-- The part reads as what is cut off, with the letters of the patterns at both sides, and the gap
behind it is that of its pattern. -/
structure Reads (patterns : List CompoundPattern) (carry : Text) (cut : Cut rest) : Prop where
  text : cut.text = carry ++ cut.surface ++ cut.via.elim [] (·.ending.chars)
  gap : (cut.via = none ∧ cut.gap = [] ∧ cut.after ≠ []) ∨
    ∃ pattern ∈ patterns, cut.via = some pattern ∧ pattern.replacement = some cut.gap ∧ cut.gap ≠ []

theorem reads_iff (h : right.length < rest.length) :
    (cut.Reads patterns carry ∧ cut.surface = left ∧ right = cut.gap ++ cut.after) ↔
      (right ≠ [] ∧ cut = plain carry left right h) ∨
        ∃ pattern ∈ patterns, joined? carry left right h pattern = some cut := by
  simp only [eq_plain_iff, joined?_eq_some_iff]
  constructor
  · rintro ⟨⟨htext, hgap⟩, rfl, hright⟩
    rcases hgap with ⟨hvia, hgap, hafter⟩ | ⟨pattern, hpattern, hvia, hgap, hne⟩
    · left
      rw [hgap, List.nil_append] at hright
      rw [hvia, Option.elim_none, List.append_nil] at htext
      exact ⟨hright ▸ hafter, rfl, htext, hgap, hvia, hright.symm⟩
    · right
      rw [hvia, Option.elim_some] at htext
      exact ⟨pattern, hpattern, hgap, hne, rfl, htext, hvia, hright⟩
  · rintro (⟨hne, rfl, htext, hgap, hvia, rfl⟩ |
      ⟨pattern, hpattern, hgap, hne, rfl, htext, hvia, hright⟩)
    · exact ⟨⟨by simp [htext, hvia], Or.inl ⟨hvia, hgap, hne⟩⟩, rfl, by simp [hgap]⟩
    · exact ⟨⟨by simp [htext, hvia], Or.inr ⟨pattern, hpattern, hvia, hgap, hne⟩⟩, rfl, hright⟩

theorem Reads.ne_nil (h : cut.Reads patterns carry) : cut.gap ++ cut.after ≠ [] := by
  rcases h.gap with ⟨-, -, hafter⟩ | ⟨-, -, -, -, hgap⟩
  · exact List.append_ne_nil_of_right_ne_nil _ hafter
  · exact List.append_ne_nil_of_left_ne_nil hgap _

theorem mem_allFrom_iff {h : right.length < rest.length} :
    cut ∈ (allFrom patterns carry left right h).toList ↔
      cut.Reads patterns carry ∧
        ∃ more, cut.surface = left ++ more ∧ right = more ++ (cut.gap ++ cut.after) := by
  induction right generalizing left with
  | nil =>
      simp only [allFrom, LazyList.toList_nil, List.not_mem_nil, false_iff]
      rintro ⟨hreads, more, -, hright⟩
      exact hreads.ne_nil (List.append_eq_nil_iff.1 hright.symm).2
  | cons c right ih =>
      have hhere : (cut.Reads patterns carry ∧ cut.surface = left ∧ _) ↔ _ := reads_iff h
      simp only [allFrom, LazyList.toList_cons, LazyList.toList_append, LazyList.toList_ofList,
        List.mem_cons, List.mem_append, List.mem_filterMap, ih]
      constructor
      · rintro (hcut | hcut | ⟨hreads, more, hsurface, rfl⟩)
        · obtain ⟨hreads, hsurface, hright⟩ := hhere.2 (Or.inl ⟨List.cons_ne_nil c right, hcut⟩)
          exact ⟨hreads, [], by simpa using hsurface, hright⟩
        · obtain ⟨hreads, hsurface, hright⟩ := hhere.2 (Or.inr hcut)
          exact ⟨hreads, [], by simpa using hsurface, hright⟩
        · exact ⟨hreads, c :: more, by simpa using hsurface, rfl⟩
      · rintro ⟨hreads, more, hsurface, hright⟩
        cases more with
        | nil =>
            rw [List.append_nil] at hsurface
            exact (hhere.1 ⟨hreads, hsurface, hright⟩).imp And.right Or.inl
        | cons d more =>
            obtain ⟨rfl, hmore⟩ := List.cons.inj hright
            exact Or.inr (Or.inr ⟨hreads, more, by simpa using hsurface, hmore⟩)

/-- The cuts of a text are those that take something off and leave something. -/
theorem mem_all_iff :
    cut ∈ (all patterns carry rest).toList ↔
      cut.Reads patterns carry ∧ cut.surface ≠ [] ∧
        rest = cut.surface ++ (cut.gap ++ cut.after) := by
  cases rest with
  | nil => exact absurd cut.shorter (Nat.not_lt_zero _)
  | cons c rest =>
      rw [all, mem_allFrom_iff]
      refine and_congr_right fun _ ↦ ?_
      constructor
      · rintro ⟨more, hsurface, hrest⟩
        exact ⟨by simp [hsurface], by simp [hsurface, hrest]⟩
      · rintro ⟨hne, hrest⟩
        obtain ⟨d, more, hsurface⟩ := List.exists_cons_of_ne_nil hne
        rw [hsurface] at hrest ⊢
        obtain ⟨rfl, hmore⟩ := List.cons.inj hrest
        exact ⟨more, rfl, hmore⟩

end Cut
end Orthography
