import Orthography.Dictionary.Basic
import Orthography.Proofs.Compound.Cut
import Orthography.Proofs.Compound.Division

/-!
# The divisions that the search lists

The search lists exactly the divisions of a word of which every part begins as words do.
-/

namespace Orthography
namespace Dictionary

variable {dictionary : Dictionary} {purpose : Purpose} {word : Text}
  {done more parts : List Segment} {part : Segment} {via : Option CompoundPattern} {start : Nat}
  {rest : Text}

/-! ## One step of the search -/

theorem mem_segments {before : Option Segment} {position : Position} {stop : Nat} {text : Text} :
    part ∈ (dictionary.segments purpose word before position via start stop text).toList ↔
      part.text = text ∧ part.start = start ∧ part.stop = stop ∧ part.via = via ∧
        part.derivation ∈ (dictionary.derivations purpose position text).toList ∧
          ∀ b, before = some b →
            dictionary.settings.joins word b text part.derivation via := by
  obtain ⟨text', start', stop', derivation, via'⟩ := part
  simp only [segments, LazyList.toList_map, LazyList.toList_filter, List.mem_map, List.mem_filter,
    Segment.mk.injEq]
  constructor
  · rintro ⟨x, ⟨hx, hjoins⟩, rfl, rfl, rfl, rfl, rfl⟩
    refine ⟨rfl, rfl, rfl, rfl, hx, ?_⟩
    rintro b rfl
    exact hjoins
  · rintro ⟨rfl, rfl, rfl, rfl, hx, hjoins⟩
    refine ⟨derivation, ⟨hx, ?_⟩, rfl, rfl, rfl, rfl, rfl⟩
    cases before with
    | none => rfl
    | some b => exact hjoins b rfl

/-- Some part is cut off and the rest divided, or the rest is the last part. -/
theorem mem_divisionsFrom {depth : Nat} {before : Option Segment} {carry : Text}
    (hcarry : via.elim [] (·.beginning.chars) = carry) :
    parts ∈ (dictionary.divisionsFrom purpose word depth before via start rest).toList ↔
      ((∀ n, dictionary.settings.compoundMax = some n → depth < n) ∧
        dictionary.mayBegin (carry ++ rest)) ∧
      ((∃ cut, (cut ∈ (Cut.all dictionary.settings.patterns carry rest).toList ∧
            dictionary.settings.leastPart ≤ cut.text.length) ∧
          ∃ part ∈ (dictionary.segments purpose word before (if depth = 0 then .first else .inner)
              via start (start + Text.byteSize cut.surface) cut.text).toList,
            ∃ more ∈ (dictionary.divisionsFrom purpose word (depth + 1) (some part) cut.via
                (start + Text.byteSize cut.surface + Text.byteSize cut.gap) cut.after).toList,
              part :: more = parts) ∨
        (0 < depth ∧ dictionary.settings.leastPart ≤ (carry ++ rest).length) ∧
          ∃ part ∈ (dictionary.segments purpose word before .last via start
              (start + Text.byteSize rest) (carry ++ rest)).toList,
            [part] = parts) := by
  subst hcarry
  have hmax : dictionary.settings.compoundMax.any (· ≤ depth) = false ↔
      ∀ n, dictionary.settings.compoundMax = some n → depth < n := by
    cases dictionary.settings.compoundMax <;> simp
  rw [divisionsFrom, ← hmax]
  split
  · rename_i h
    simp only [Bool.or_eq_true, Bool.not_eq_true'] at h
    simp only [LazyList.toList_nil, List.not_mem_nil, false_iff]
    rintro ⟨⟨hmax, hmay⟩, -⟩
    rcases h with h | h
    · simp [hmax] at h
    · simp [hmay] at h
  · rename_i h
    simp only [Bool.or_eq_true, Bool.not_eq_true', not_or, Bool.not_eq_true,
      Bool.not_eq_false] at h
    simp only [h, true_and, and_self, LazyList.toList_append, LazyList.toList_flatMap,
      LazyList.toList_filter, List.mem_append, List.mem_flatMap, List.mem_filter,
      decide_eq_true_eq, LazyList.toList_map, List.mem_map]
    refine or_congr Iff.rfl ?_
    split
    · rename_i hlast
      simp only [hlast, and_self, true_and, LazyList.toList_map, List.mem_map]
    · rename_i hlast
      simp only [hlast, false_and, LazyList.toList_nil, List.not_mem_nil]

theorem mayBegin_congr {a b : Text} (h : a.head? = b.head?) :
    dictionary.mayBegin a = dictionary.mayBegin b := by
  cases a with
  | nil =>
      obtain rfl : b = [] := List.head?_eq_none_iff.1 h.symm
      rfl
  | cons c a =>
      obtain ⟨b, rfl⟩ := List.head?_eq_some_iff.1 h.symm
      rfl

section Step

variable {cut : Cut rest}

/-- A part that is cut off begins as all the rest does. -/
theorem mayBegin_cut {carry : Text}
    (hcut : cut ∈ (Cut.all dictionary.settings.patterns carry rest).toList) :
    dictionary.mayBegin cut.text = dictionary.mayBegin (carry ++ rest) := by
  obtain ⟨hreads, hsurface, hrest⟩ := Cut.mem_all_iff.1 hcut
  obtain ⟨c, surface, hc⟩ := List.exists_cons_of_ne_nil hsurface
  have hhead : rest.head? = some c := by
    rw [hrest, hc]
    rfl
  apply mayBegin_congr
  rw [hreads.text, hc]
  cases carry with
  | nil => exact hhead.symm
  | cons d carry => rfl

theorem Awaits.concat_cut (h : dictionary.Awaits word done via start rest)
    (hcut : cut ∈ (Cut.all dictionary.settings.patterns
      (via.elim [] (·.beginning.chars)) rest).toList)
    (hstop : part.stop = start + Text.byteSize cut.surface) :
    dictionary.Awaits word (done ++ [part]) cut.via
      (start + Text.byteSize cut.surface + Text.byteSize cut.gap) cut.after := by
  obtain ⟨hreads, -, hrest⟩ := Cut.mem_all_iff.1 hcut
  refine h.concat hrest hstop (hreads.gap.imp ?_ id)
  rintro ⟨hvia, hgap, -⟩
  exact ⟨hvia, hgap⟩

variable (h : dictionary.Awaits word done part.via part.start rest)
include h

/-- A part that is cut off has its place before parts that go on as the cut does. -/
theorem Awaits.places_of_cut
    (hcut : cut ∈ (Cut.all dictionary.settings.patterns
      (part.via.elim [] (·.beginning.chars)) rest).toList)
    (hlong : dictionary.settings.leastPart ≤ cut.text.length)
    (hpart : part ∈ (dictionary.segments purpose word done.getLast?
      (if done.length = 0 then .first else .inner) part.via part.start
        (part.start + Text.byteSize cut.surface) cut.text).toList)
    (hmore : more.head?.map (·.via) = some cut.via) :
    dictionary.Places purpose word done part more := by
  obtain ⟨hreads, hsurface, hrest⟩ := Cut.mem_all_iff.1 hcut
  obtain ⟨htext, -, hstop, -, hderived, hjoins⟩ := mem_segments.1 hpart
  have hne : more ≠ [] := by
    rintro rfl
    cases hmore
  have hending : more.head?.bind (·.via) = cut.via := by
    obtain ⟨next, hnext, hvia⟩ := Option.map_eq_some_iff.1 hmore
    rw [hnext, Option.bind_some, hvia]
  rw [h.places_iff, htext, Position.between_of_ne_nil hne, hending]
  exact ⟨⟨cut.surface, cut.gap ++ cut.after, hrest, hstop, fun hnil ↦ absurd hnil hne,
    fun _ ↦ hsurface, hreads.text⟩, hlong, hderived, hjoins⟩

/-- A part before another one is cut off where the next one follows. -/
theorem Awaits.exists_cut {next : Segment}
    (hplaces : dictionary.Places purpose word done part (next :: more))
    (hnext : dictionary.Places purpose word (done ++ [part]) next more) :
    ∃ cut ∈ (Cut.all dictionary.settings.patterns
        (part.via.elim [] (·.beginning.chars)) rest).toList,
      dictionary.settings.leastPart ≤ cut.text.length ∧
        part ∈ (dictionary.segments purpose word done.getLast?
          (if done.length = 0 then .first else .inner) part.via part.start
            (part.start + Text.byteSize cut.surface) cut.text).toList ∧
          next.via = cut.via ∧
            next.start = part.start + Text.byteSize cut.surface + Text.byteSize cut.gap := by
  obtain ⟨⟨surface, right, hrest, hstop, -, hne, htext⟩, hlong, hderived, hjoins⟩ :=
    h.places_iff.1 hplaces
  have hsurface : surface ≠ [] := hne (List.cons_ne_nil next more)
  obtain ⟨gap, after, rfl, hstart, hgap⟩ :=
    h.exists_gap hrest hstop (hnext.follows part (by simp))
  have hawaits : dictionary.Awaits word (done ++ [part]) next.via next.start after := by
    rw [hstart]
    exact h.concat hrest hstop hgap
  have hshorter : after.length < rest.length := by
    have hpos := List.length_pos_iff.2 hsurface
    rw [hrest, List.length_append, List.length_append]
    omega
  refine ⟨⟨surface, part.text, gap, next.via, after, hshorter⟩, ?_, hlong, ?_, rfl, hstart⟩
  · refine Cut.mem_all_iff.2 ⟨⟨htext, hgap.imp ?_ id⟩, hsurface, hrest⟩
    rintro ⟨hvia, hnil⟩
    exact ⟨hvia, hnil, hawaits.rest_ne_nil hnext hvia⟩
  · rw [Position.between_of_ne_nil (List.cons_ne_nil next more)] at hderived
    exact mem_segments.2 ⟨rfl, rfl, hstop, rfl, hderived, hjoins⟩

/-- The last part takes all the rest. -/
theorem Awaits.places_nil_iff (hdepth : 0 < done.length) :
    dictionary.Places purpose word done part [] ↔
      dictionary.settings.leastPart ≤ (part.via.elim [] (·.beginning.chars) ++ rest).length ∧
        part ∈ (dictionary.segments purpose word done.getLast? .last part.via part.start
          (part.start + Text.byteSize rest)
            (part.via.elim [] (·.beginning.chars) ++ rest)).toList := by
  rw [h.places_iff, mem_segments, Position.between_nil hdepth]
  constructor
  · rintro ⟨⟨surface, right, hrest, hstop, hright, -, htext⟩, hlong, hderived, hjoins⟩
    obtain rfl : rest = surface := by rw [hrest, hright rfl, List.append_nil]
    rw [List.head?_nil, Option.bind_none, Option.elim_none, List.append_nil] at htext
    rw [← htext]
    exact ⟨hlong, rfl, rfl, hstop, rfl, hderived, hjoins⟩
  · rintro ⟨hlong, htext, -, hstop, -, hderived, hjoins⟩
    rw [← htext] at hlong hderived hjoins
    exact ⟨⟨rest, [], (List.append_nil rest).symm, hstop, fun _ ↦ rfl, fun hne ↦ absurd rfl hne,
      by simpa using htext⟩, hlong, hderived, hjoins⟩

end Step

/-! ## The whole search -/

theorem ne_nil_of_mem_divisionsFrom {depth : Nat} {before : Option Segment}
    (h : parts ∈ (dictionary.divisionsFrom purpose word depth before via start rest).toList) :
    parts ≠ [] := by
  rintro rfl
  rw [mem_divisionsFrom rfl] at h
  obtain ⟨-, ⟨_, -, _, -, _, -, hnil⟩ | ⟨-, _, -, hnil⟩⟩ := h
  · cases hnil
  · cases hnil

/-- The parts that the search lists begin where it stands and complete the division. -/
theorem completes_of_mem_divisionsFrom (h : dictionary.Awaits word done via start rest)
    (hparts : parts ∈ (dictionary.divisionsFrom purpose word done.length done.getLast? via start
      rest).toList) :
    parts.head?.map (·.via) = some via ∧
      dictionary.CompletesDivision purpose word done parts ∧
        ∀ part ∈ parts, dictionary.mayBegin part.text := by
  induction parts generalizing done via start rest with
  | nil => exact absurd rfl (ne_nil_of_mem_divisionsFrom hparts)
  | cons part more ih =>
      rw [mem_divisionsFrom rfl] at hparts
      obtain ⟨⟨hmax, hmay⟩, ⟨cut, ⟨hcut, hlong⟩, part', hpart, more', hmore, heq⟩ |
        ⟨⟨hdepth, hlong⟩, part', hpart, heq⟩⟩ := hparts
      · obtain ⟨rfl, rfl⟩ := List.cons.inj heq
        obtain ⟨htext, rfl, hstop, rfl, -⟩ := mem_segments.1 hpart
        have hlength : done.length + 1 = (done ++ [part']).length := by simp
        have hlast : some part' = (done ++ [part']).getLast? := by simp
        rw [hlength, hlast] at hmore
        obtain ⟨hhead, hcompletes, hbegin⟩ := ih (h.concat_cut hcut hstop) hmore
        have hplaces := h.places_of_cut hcut hlong hpart hhead
        refine ⟨rfl, completesDivision_cons.2 ⟨hplaces, hcompletes⟩,
          List.forall_mem_cons.2 ⟨?_, hbegin⟩⟩
        rw [htext, mayBegin_cut hcut]
        exact hmay
      · obtain ⟨rfl, rfl⟩ := List.cons.inj heq
        obtain ⟨htext, rfl, -, rfl, -⟩ := mem_segments.1 hpart
        have hplaces := (h.places_nil_iff hdepth).2 ⟨hlong, hpart⟩
        refine ⟨rfl, completesDivision_cons.2 ⟨hplaces, ?_, ?_, by simp⟩, ?_⟩
        · simp only [List.length_append, List.length_singleton, List.length_nil]
          omega
        · intro n hn
          have hlt := hmax n hn
          simp only [List.length_append, List.length_singleton, List.length_nil]
          omega
        · simpa [htext] using hmay

theorem CompletesDivision.length_lt
    (h : dictionary.CompletesDivision purpose word done (part :: more)) :
    ∀ n, dictionary.settings.compoundMax = some n → done.length < n := by
  intro n hn
  have hle := h.le_max n hn
  simp only [List.length_append, List.length_cons] at hle
  omega

/-- The search lists every way of completing a division whose parts begin as words do. -/
theorem mem_divisionsFrom_of_completes
    (h : dictionary.Awaits word done part.via part.start rest)
    (hcompletes : dictionary.CompletesDivision purpose word done (part :: more))
    (hbegin : ∀ other ∈ part :: more, dictionary.mayBegin other.text) :
    part :: more ∈ (dictionary.divisionsFrom purpose word done.length done.getLast? part.via
      part.start rest).toList := by
  have hmay := hbegin part List.mem_cons_self
  induction more generalizing done part rest with
  | nil =>
      obtain ⟨hplaces, htwo, -⟩ := completesDivision_cons.1 hcompletes
      have hdepth : 0 < done.length := by
        simp only [List.length_append, List.length_singleton, List.length_nil] at htwo
        omega
      obtain ⟨hlong, hpart⟩ := (h.places_nil_iff hdepth).1 hplaces
      obtain ⟨htext, -⟩ := mem_segments.1 hpart
      rw [htext] at hmay
      rw [mem_divisionsFrom rfl]
      exact ⟨⟨hcompletes.length_lt, hmay⟩, Or.inr ⟨⟨hdepth, hlong⟩, part, hpart, rfl⟩⟩
  | cons next more ih =>
      obtain ⟨hplaces, hrests⟩ := completesDivision_cons.1 hcompletes
      obtain ⟨hplacesNext, -⟩ := completesDivision_cons.1 hrests
      obtain ⟨cut, hcut, hlong, hpart, hvia, hstart⟩ := h.exists_cut hplaces hplacesNext
      obtain ⟨htext, -, hstop, -⟩ := mem_segments.1 hpart
      have hawaits : dictionary.Awaits word (done ++ [part]) next.via next.start cut.after := by
        rw [hvia, hstart]
        exact h.concat_cut hcut hstop
      have hrest : ∀ other ∈ next :: more, dictionary.mayBegin other.text :=
        fun other hother ↦ hbegin other (List.mem_cons_of_mem part hother)
      have hmore := ih hawaits hrests hrest (hrest next List.mem_cons_self)
      have hlength : (done ++ [part]).length = done.length + 1 := by simp
      have hlast : (done ++ [part]).getLast? = some part := by simp
      rw [hlength, hlast, hvia, hstart] at hmore
      rw [htext, mayBegin_cut hcut] at hmay
      rw [mem_divisionsFrom rfl]
      exact ⟨⟨hcompletes.length_lt, hmay⟩,
        Or.inl ⟨cut, ⟨hcut, hlong⟩, part, hpart, next :: more, hmore, rfl⟩⟩

theorem mem_divisions_iff :
    parts ∈ (dictionary.divisions purpose word).toList ↔
      (dictionary.settings.roles.compounding ∧ word ≠ []) ∧
        dictionary.IsDivision purpose word parts ∧
          ∀ part ∈ parts, dictionary.mayBegin part.text := by
  rw [divisions]
  split
  · rename_i h
    simp only [Bool.and_eq_true, Bool.not_eq_true', List.isEmpty_eq_false_iff] at h
    simp only [h, ne_eq, not_false_eq_true, and_self, true_and, isDivision_iff]
    constructor
    · intro hparts
      exact (completes_of_mem_divisionsFrom awaits_start hparts).2
    · rintro ⟨hcompletes, hbegin⟩
      cases parts with
      | nil => exact absurd hcompletes.two_le (by simp)
      | cons part more =>
          obtain ⟨hplaces, -⟩ := completesDivision_cons.1 hcompletes
          obtain ⟨hstart, hvia⟩ := hplaces.opens rfl
          have hawaits : dictionary.Awaits word [] part.via part.start word := by
            rw [hstart, hvia]
            exact awaits_start
          have hmem := mem_divisionsFrom_of_completes hawaits hcompletes hbegin
          rw [hstart, hvia] at hmem
          exact hmem
  · rename_i h
    simp only [Bool.and_eq_true, Bool.not_eq_true', List.isEmpty_eq_false_iff] at h
    simp only [LazyList.toList_nil, List.not_mem_nil, false_iff, not_and]
    intro hboth
    exact absurd hboth h

/-- Every division that is listed is one: its parts tile the word, at the places and with the
letters that the patterns between them give, and they suit their positions and their neighbours. -/
theorem isDivision_of_mem_divisions (h : parts ∈ (dictionary.divisions purpose word).toList) :
    dictionary.IsDivision purpose word parts :=
  (mem_divisions_iff.1 h).2.1

/-- The words `foo` and `bar` may be joined, and where they meet a `z` stands for `ob`. -/
def fozarDictionary : Dictionary :=
  ofParts
    { roles := Roles.none.declare .compoundFlag 88
      patterns := [⟨⟨['o'], none⟩, ⟨['b'], none⟩, some ['z']⟩] }
    ((Lexicon.empty.add ⟨['f', 'o', 'o'], .ofList [88], [], []⟩).add
      ⟨['b', 'a', 'r'], .ofList [88], [], []⟩)

theorem isDivision_fozar :
    ∃ parts ∈ (fozarDictionary.divisions {} ['f', 'o', 'z', 'a', 'r']).toList,
      parts.map (·.text) = [['f', 'o', 'o'], ['b', 'a', 'r']] ∧
        parts.map (fun part ↦ (part.start, part.stop)) = [(0, 2), (3, 5)] ∧
          fozarDictionary.IsDivision {} ['f', 'o', 'z', 'a', 'r'] parts := by
  have hfound : ∃ parts ∈ (fozarDictionary.divisions {} ['f', 'o', 'z', 'a', 'r']).toList,
      parts.map (·.text) = [['f', 'o', 'o'], ['b', 'a', 'r']] ∧
        parts.map (fun part ↦ (part.start, part.stop)) = [(0, 2), (3, 5)] := by decide +kernel
  obtain ⟨parts, hparts, htexts, hplaces⟩ := hfound
  exact ⟨parts, hparts, htexts, hplaces, isDivision_of_mem_divisions hparts⟩

end Dictionary
end Orthography
