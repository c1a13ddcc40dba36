import Mathlib.Data.List.Induction
import Orthography.Replacement

/-!
# Conversion by the longest match

A word is converted part by part: at each place the replacement with the longest pattern that fits
there takes its part of the word, and where none fits a single character is kept.
-/

namespace Orthography

variable {r other : Replacement} {table before after : Replacements} {isStart : Bool} {c : Char}
  {text word : Text}

/-- Whether a replacement fits where `text` is what is left of the word. -/
structure Replacement.Fits (r : Replacement) (isStart : Bool) (text : Text) : Prop where
  stands : r.pattern <+: text
  atStart : r.atStart → isStart
  atEnd : r.atEnd → text = r.pattern

theorem Text.after?_isSome_iff {head : Text} : (Text.after? head text).isSome ↔ head <+: text := by
  rw [Option.isSome_iff_exists]
  exact exists_congr fun rest ↦ Text.after?_eq_some_iff.trans eq_comm

theorem Replacement.applies_iff : r.applies isStart text ↔ r.Fits isStart text := by
  rw [Replacement.applies]
  split
  · rename_i hstart
    rw [Bool.and_eq_true, Bool.not_eq_true'] at hstart
    refine iff_of_false Bool.false_ne_true fun hfits ↦ ?_
    rw [hfits.atStart hstart.1] at hstart
    exact Bool.false_ne_true hstart.2.symm
  · rename_i hstart
    have hstart : r.atStart → isStart := by simpa using hstart
    split
    · rename_i hend
      rw [beq_iff_eq]
      exact ⟨fun h ↦ ⟨h ▸ List.prefix_refl _, hstart, fun _ ↦ h⟩, fun h ↦ h.atEnd hend⟩
    · rename_i hend
      rw [Text.after?_isSome_iff]
      exact ⟨fun h ↦ ⟨h, hstart, fun htrue ↦ absurd htrue hend⟩, fun h ↦ h.stands⟩

namespace Replacements

/-! ## The replacement that is taken -/

/-- The longest pattern that fits, and the first one in the table among equally long ones. -/
def IsLongest (table : Replacements) (isStart : Bool) (text : Text) (r : Replacement) : Prop :=
  r.Fits isStart text ∧ ∃ before after, table = before ++ r :: after ∧
    (∀ other ∈ before, other.Fits isStart text → other.pattern.length < r.pattern.length) ∧
    ∀ other ∈ after, other.Fits isStart text → other.pattern.length ≤ r.pattern.length

theorem longer_some (best r : Replacement) :
    longer (some best) r = some (if best.pattern.length < r.pattern.length then r else best) := by
  rw [apply_ite some]
  rfl

theorem IsLongest.mem (h : IsLongest table isStart text r) : r ∈ table := by
  obtain ⟨-, before, after, rfl, -, -⟩ := h
  simp

theorem foldl_longer_concat :
    (table ++ [r]).foldl longer none = longer (table.foldl longer none) r := by
  rw [List.foldl_append, List.foldl_cons, List.foldl_nil]

theorem foldl_longer_eq_none_iff : table.foldl longer none = none ↔ table = [] := by
  rcases List.eq_nil_or_concat table with rfl | ⟨table, r, rfl⟩
  · exact iff_of_true rfl rfl
  · refine iff_of_false ?_ (by simp)
    rw [List.concat_eq_append, foldl_longer_concat]
    cases table.foldl longer none with
    | none => exact Option.some_ne_none r
    | some best => exact longer_some best r ▸ Option.some_ne_none _

theorem exists_of_foldl_longer (h : table.foldl longer none = some r) :
    ∃ before after, table = before ++ r :: after ∧
      (∀ other ∈ before, other.pattern.length < r.pattern.length) ∧
      ∀ other ∈ after, other.pattern.length ≤ r.pattern.length := by
  -- The fold looks at the last replacement last: either it wins or it comes behind the winner.
  induction table using List.reverseRecOn generalizing r with
  | nil => cases h
  | append_singleton table last ih =>
      rw [foldl_longer_concat] at h
      cases hbest : table.foldl longer none with
      | none =>
          rw [hbest] at h
          obtain rfl := Option.some.inj h
          exact ⟨[], [], by rw [foldl_longer_eq_none_iff.1 hbest], by simp, by simp⟩
      | some best =>
          rw [hbest, longer_some] at h
          obtain ⟨before, after, rfl, hbefore, hafter⟩ := ih hbest
          obtain rfl := Option.some.inj h
          split
          · rename_i hlt
            refine ⟨before ++ best :: after, [], rfl, ?_, by simp⟩
            rw [List.forall_mem_append, List.forall_mem_cons]
            exact ⟨fun other hother ↦ Nat.lt_trans (hbefore other hother) hlt, hlt,
              fun other hother ↦ Nat.lt_of_le_of_lt (hafter other hother) hlt⟩
          · rename_i hle
            refine ⟨before, after ++ [last], by simp, hbefore, ?_⟩
            rw [List.forall_mem_append, List.forall_mem_singleton]
            exact ⟨hafter, Nat.le_of_not_lt hle⟩

theorem foldl_longer_of_forall_le (h : ∀ other ∈ table, other.pattern.length ≤ r.pattern.length) :
    table.foldl longer (some r) = some r := by
  induction table with
  | nil => rfl
  | cons other table ih =>
      rw [List.forall_mem_cons] at h
      rw [List.foldl_cons, longer_some, if_neg (Nat.not_lt.2 h.1), ih h.2]

theorem foldl_longer_append_cons
    (hbefore : ∀ other ∈ before, other.pattern.length < r.pattern.length)
    (hafter : ∀ other ∈ after, other.pattern.length ≤ r.pattern.length) :
    (before ++ r :: after).foldl longer none = some r := by
  have hlonger : longer (before.foldl longer none) r = some r := by
    cases hbest : before.foldl longer none with
    | none => rfl
    | some best =>
        obtain ⟨_, _, rfl, -, -⟩ := exists_of_foldl_longer hbest
        rw [longer_some, if_pos (hbefore best (by simp))]
  rw [List.foldl_append, List.foldl_cons, hlonger, foldl_longer_of_forall_le hafter]

theorem longest?_eq_some_iff :
    table.longest? isStart text = some r ↔ table.IsLongest isStart text r := by
  rw [longest?]
  constructor
  · intro h
    -- What the filter left out does not fit, so nothing is asked of its length.
    obtain ⟨first, behind, hfilter, hfirst, hbehind⟩ := exists_of_foldl_longer h
    obtain ⟨before, rest, rfl, rfl, hrest⟩ := List.filter_eq_append_iff.1 hfilter
    obtain ⟨unfit, after, rfl, hunfit, hr, rfl⟩ := List.filter_eq_cons_iff.1 hrest
    refine ⟨Replacement.applies_iff.1 hr, before ++ unfit, after, by simp, ?_, ?_⟩
    · rw [List.forall_mem_append]
      refine ⟨fun other hother hfits ↦ ?_, fun other hother hfits ↦ ?_⟩
      · exact hfirst other (List.mem_filter.2 ⟨hother, Replacement.applies_iff.2 hfits⟩)
      · exact absurd (Replacement.applies_iff.2 hfits) (hunfit other hother)
    · intro other hother hfits
      exact hbehind other (List.mem_filter.2 ⟨hother, Replacement.applies_iff.2 hfits⟩)
  · rintro ⟨hr, before, after, rfl, hbefore, hafter⟩
    have happlies : r.applies isStart text := Replacement.applies_iff.2 hr
    rw [List.filter_append, List.filter_cons, if_pos happlies]
    apply foldl_longer_append_cons
    · rw [List.forall_mem_filter]
      exact fun other hother happlies ↦ hbefore other hother (Replacement.applies_iff.1 happlies)
    · rw [List.forall_mem_filter]
      exact fun other hother happlies ↦ hafter other hother (Replacement.applies_iff.1 happlies)

theorem longest?_eq_none_iff :
    table.longest? isStart text = none ↔ ∀ r ∈ table, ¬r.Fits isStart text := by
  rw [longest?, foldl_longer_eq_none_iff, List.filter_eq_nil_iff]
  simp only [Replacement.applies_iff]

/-! ## The parts of a word -/

/-- What becomes of a part of a word. -/
inductive Part where
  | kept (c : Char)
  | replaced (r : Replacement)
  deriving DecidableEq, Repr

def Part.source : Part → Text
  | kept c => [c]
  | replaced r => r.pattern

def Part.result : Part → Text
  | kept c => [c]
  | replaced r => r.result

/-- A text taken part by part from its beginning on: by the longest replacement that fits there, or
as it is where none fits.  Only the beginning of the first part can be the start of the word. -/
inductive Reads (table : Replacements) : (isStart : Bool) → Text → List Part → Prop
  | nil {isStart : Bool} : Reads table isStart [] []
  | kept {isStart : Bool} {c : Char} {text : Text} {parts : List Part}
      (hnone : ∀ r ∈ table, ¬r.Fits isStart (c :: text))
      (hrest : Reads table false text parts) :
      Reads table isStart (c :: text) (.kept c :: parts)
  | replaced {isStart : Bool} {r : Replacement} {text : Text} {parts : List Part}
      (hlongest : table.IsLongest isStart (r.pattern ++ text) r)
      (hrest : Reads table false text parts) :
      Reads table isStart (r.pattern ++ text) (.replaced r :: parts)

variable {parts : List Part}

theorem Reads.eq_source (h : table.Reads isStart text parts) :
    text = parts.flatMap Part.source := by
  induction h with
  | nil => rfl
  | kept _ _ ih => rw [List.flatMap_cons, ← ih, Part.source, List.singleton_append]
  | replaced _ _ ih => rw [List.flatMap_cons, ← ih, Part.source]

/-! ## Conversion -/

theorem convertFrom_eq_drop (skip : Nat) (text : Text) :
    convertFrom table false skip text = convertFrom table false 0 (text.drop skip) := by
  induction text generalizing skip with
  | nil => cases skip <;> rfl
  | cons c text ih =>
      cases skip with
      | zero => rfl
      | succ skip => exact ih skip

theorem convertFrom_of_isLongest (hpattern : r.pattern ≠ [])
    (h : table.IsLongest isStart (r.pattern ++ text) r) :
    convertFrom table isStart 0 (r.pattern ++ text) =
      r.result ++ convertFrom table false 0 text := by
  obtain ⟨c, pattern, hcons⟩ := List.exists_cons_of_ne_nil hpattern
  have hlongest := longest?_eq_some_iff.2 h
  rw [hcons, List.cons_append] at hlongest ⊢
  rw [convertFrom, hlongest]
  simp only [hcons, List.length_cons, Nat.add_sub_cancel]
  rw [convertFrom_eq_drop, List.drop_left]

theorem convertFrom_of_forall_not_fits (h : ∀ r ∈ table, ¬r.Fits isStart (c :: text)) :
    convertFrom table isStart 0 (c :: text) = c :: convertFrom table false 0 text := by
  rw [convertFrom, longest?_eq_none_iff.2 h]

theorem Reads.convertFrom_eq (hpatterns : ∀ r ∈ table, r.pattern ≠ [])
    (h : Reads table isStart text parts) :
    convertFrom table isStart 0 text = parts.flatMap Part.result := by
  induction h with
  | nil => rfl
  | kept hnone _ ih =>
      rw [convertFrom_of_forall_not_fits hnone, ih, List.flatMap_cons]
      rfl
  | replaced hlongest _ ih =>
      rw [convertFrom_of_isLongest (hpatterns _ hlongest.mem) hlongest, ih, List.flatMap_cons]
      rfl

/-- The text behind any number of characters has parts: the induction passes over the characters of
a replaced part one by one. -/
theorem exists_reads_drop (hpatterns : ∀ r ∈ table, r.pattern ≠ []) (isStart : Bool) (skip : Nat)
    (text : Text) : ∃ parts, Reads table isStart (text.drop skip) parts := by
  induction text generalizing isStart skip with
  | nil => exact ⟨[], by rw [List.drop_nil]; exact .nil⟩
  | cons c text ih =>
      cases skip with
      | succ skip => exact ih isStart skip
      | zero =>
          rw [List.drop_zero]
          cases hlongest : table.longest? isStart (c :: text) with
          | none =>
              obtain ⟨parts, hparts⟩ := ih false 0
              exact ⟨_, .kept (longest?_eq_none_iff.1 hlongest) hparts⟩
          | some r =>
              rw [longest?_eq_some_iff] at hlongest
              obtain ⟨rest, hrest⟩ := hlongest.1.stands
              obtain ⟨d, pattern, hcons⟩ := List.exists_cons_of_ne_nil (hpatterns r hlongest.mem)
              have hdrop : text.drop pattern.length = rest := by
                rw [hcons, List.cons_append] at hrest
                rw [← (List.cons.inj hrest).2, List.drop_left]
              obtain ⟨parts, hparts⟩ := ih false pattern.length
              rw [hdrop] at hparts
              rw [← hrest] at hlongest ⊢
              exact ⟨_, .replaced hlongest hparts⟩

/-! ## Tables that are filled line by line -/

/-- The table that a list of patterns and results fills. -/
def ofPairs (pairs : List (Text × Text)) : Replacements :=
  pairs.foldl (fun table pair ↦ table.push pair.1 pair.2) []

theorem pattern_ne_nil_of_ofPattern? {pattern result : Text}
    (h : Replacement.ofPattern? pattern result = some r) : r.pattern ≠ [] := by
  rw [Replacement.ofPattern?] at h
  split at h
  split at h
  split at h
  · cases h
  · rename_i hne
    obtain rfl := Option.some.inj h
    simpa using hne

theorem pattern_ne_nil_of_mem_ofPairs {pairs : List (Text × Text)} (h : r ∈ ofPairs pairs) :
    r.pattern ≠ [] := by
  induction pairs using List.reverseRecOn with
  | nil => cases h
  | append_singleton pairs pair ih =>
      rw [ofPairs, List.foldl_append, List.foldl_cons, List.foldl_nil, push, List.mem_append,
        Option.mem_toList] at h
      rcases h with h | h
      · exact ih h
      · exact pattern_ne_nil_of_ofPattern? h

/-- Converting a word gives what its parts become, each the longest replacement that fits at its
place or a single character that is kept. -/
theorem convert_eq_iff_exists_reads (pairs : List (Text × Text)) (word converted : Text) :
    (convert (ofPairs pairs) word = converted ↔
      ∃ parts, Reads (ofPairs pairs) true word parts ∧ converted = parts.flatMap Part.result) ∧
    ∀ parts, Reads (ofPairs pairs) true word parts → word = parts.flatMap Part.source := by
  refine ⟨?_, fun parts hparts ↦ hparts.eq_source⟩
  have hpatterns : ∀ r ∈ ofPairs pairs, r.pattern ≠ [] := fun r ↦ pattern_ne_nil_of_mem_ofPairs
  constructor
  · rintro rfl
    obtain ⟨parts, hparts⟩ := exists_reads_drop hpatterns true 0 word
    exact ⟨parts, hparts, hparts.convertFrom_eq hpatterns⟩
  · rintro ⟨parts, hparts, rfl⟩
    exact hparts.convertFrom_eq hpatterns

example : convert (ofPairs [(['a'], ['b']), (['a', 'a'], ['c'])]) ['a', 'a', 'a'] = ['c', 'b'] := by
  decide

end Replacements
end Orthography
