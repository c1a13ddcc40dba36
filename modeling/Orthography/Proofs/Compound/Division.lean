import Mathlib.Tactic.ByContra
import Orthography.Proofs.Compound.Meeting
import Orthography.Proofs.Text.Place

/-!
# Divisions of a compound

`Dictionary.IsDivision` says of the parts of a compound, without the search that finds them, where
each of them stands, how it reads and what it has to do with its neighbours.  `Dictionary.Awaits`
says what is known between two of them, so that a division can be completed part by part.
-/

namespace Orthography

/-- The position of a part in a compound, by what stands before and behind it. -/
def Position.between (done more : List Segment) : Position :=
  match done, more with
  | [], _ => .first
  | _ :: _, [] => .last
  | _ :: _, _ :: _ => .inner

theorem Position.between_of_ne_nil {done more : List Segment} (h : more ≠ []) :
    between done more = if done.length = 0 then .first else .inner := by
  cases more with
  | nil => exact absurd rfl h
  | cons next more => cases done <;> rfl

theorem Position.between_nil {done : List Segment} (h : 0 < done.length) :
    between done [] = .last := by
  cases done with
  | nil => exact absurd h (Nat.lt_irrefl 0)
  | cons first done => rfl

/-- A place behind a part where the next one can begin: at once, or behind the replacement of a
pattern that joins the two. -/
def Segment.LeadsTo (patterns : List CompoundPattern) (word : Text) (before : Segment)
    (via : Option CompoundPattern) (start : Nat) : Prop :=
  match via with
  | none => start = before.stop
  | some pattern => pattern ∈ patterns ∧ ∃ gap, pattern.replacement = some gap ∧ gap ≠ [] ∧
      Text.StandsBetween word before.stop start gap

namespace Dictionary

variable (dictionary : Dictionary) (purpose : Purpose) (word : Text)

/-- A part at its place in a compound, behind the parts `done` and before the parts `more`. -/
structure Places (done : List Segment) (part : Segment) (more : List Segment) : Prop where
  opens : done = [] → part.start = 0 ∧ part.via = none
  follows : ∀ before, done.getLast? = some before →
    before.LeadsTo dictionary.settings.patterns word part.via part.start
  closes : more = [] → part.stop = Text.byteSize word
  /-- Only the last part can be without letters of its own. -/
  reads : ∃ surface, Text.StandsBetween word part.start part.stop surface ∧
    (more ≠ [] → surface ≠ []) ∧
      part.text = part.via.elim [] (·.beginning.chars) ++ surface ++
        (more.head?.bind (·.via)).elim [] (·.ending.chars)
  long : max dictionary.settings.compoundMin 1 ≤ part.text.length
  derived : part.derivation ∈
    (dictionary.derivations purpose (.between done more) part.text).toList
  joins : ∀ before, done.getLast? = some before → dictionary.settings.JoinsWith word before part

/-- Parts that make up a compound. -/
structure IsDivision (parts : List Segment) : Prop where
  two_le : 2 ≤ parts.length
  le_max : ∀ n, dictionary.settings.compoundMax = some n → parts.length ≤ n
  places : ∀ done part more, parts = done ++ part :: more →
    dictionary.Places purpose word done part more

variable {dictionary purpose word} {done more parts : List Segment} {part : Segment}
  {via : Option CompoundPattern} {start : Nat} {rest : Text}

theorem IsDivision.exists_places (h : dictionary.IsDivision purpose word parts)
    (hpart : part ∈ parts) : ∃ done more, dictionary.Places purpose word done part more := by
  obtain ⟨done, more, hparts⟩ := List.append_of_mem hpart
  exact ⟨done, more, h.places done part more hparts⟩

theorem Places.text_ne_nil (h : dictionary.Places purpose word done part more) :
    part.text ≠ [] := by
  apply List.length_pos_iff.1
  exact Nat.le_trans (Nat.le_max_right _ 1) h.long

/-! ## The parts that are still to come -/

/-- What is known behind the parts `done`, where the next part is to begin. -/
structure Awaits (dictionary : Dictionary) (word : Text) (done : List Segment)
    (via : Option CompoundPattern) (start : Nat) (rest : Text) : Prop where
  spelled : ∃ head, word = head ++ rest ∧ Text.byteSize head = start
  opens : done = [] → start = 0 ∧ via = none
  follows : ∀ before, done.getLast? = some before →
    before.LeadsTo dictionary.settings.patterns word via start

theorem awaits_start : dictionary.Awaits word [] none 0 word where
  spelled := ⟨[], rfl, rfl⟩
  opens := fun _ ↦ ⟨rfl, rfl⟩
  follows := by simp

theorem Awaits.concat (h : dictionary.Awaits word done via start rest) {surface gap after : Text}
    {next : Option CompoundPattern} (hrest : rest = surface ++ (gap ++ after))
    (hstop : part.stop = start + Text.byteSize surface)
    (hgap : (next = none ∧ gap = []) ∨ ∃ pattern ∈ dictionary.settings.patterns,
      next = some pattern ∧ pattern.replacement = some gap ∧ gap ≠ []) :
    dictionary.Awaits word (done ++ [part]) next
      (start + Text.byteSize surface + Text.byteSize gap) after := by
  obtain ⟨head, hword, hstart⟩ := h.spelled
  have hword' : word = (head ++ surface) ++ (gap ++ after) := by
    rw [hword, hrest, List.append_assoc]
  have hhead : Text.byteSize (head ++ surface) = part.stop := by
    rw [Text.byteSize_append, hstart, hstop]
  refine ⟨⟨head ++ surface ++ gap, ?_, ?_⟩, ?_, ?_⟩
  · rw [hword', List.append_assoc _ gap after]
  · rw [Text.byteSize_append, hhead, hstop]
  · intro hnil
    simp at hnil
  · intro before hbefore
    obtain rfl : part = before := by simpa using hbefore
    rcases hgap with ⟨rfl, rfl⟩ | ⟨pattern, hpattern, rfl, hreplacement, hne⟩
    · exact hstop.symm
    · refine ⟨hpattern, gap, hreplacement, hne, ?_⟩
      rw [hword', ← hhead, Text.standsBetween_append_iff]
      exact ⟨after, rfl, by rw [hhead, hstop]⟩

/-- Parts that bring a division to its end behind the parts `done`. -/
structure CompletesDivision (dictionary : Dictionary) (purpose : Purpose) (word : Text)
    (done parts : List Segment) : Prop where
  two_le : 2 ≤ (done ++ parts).length
  le_max : ∀ n, dictionary.settings.compoundMax = some n → (done ++ parts).length ≤ n
  places : ∀ before part more, parts = before ++ part :: more →
    dictionary.Places purpose word (done ++ before) part more

theorem isDivision_iff :
    dictionary.IsDivision purpose word parts ↔
      dictionary.CompletesDivision purpose word [] parts :=
  ⟨fun ⟨htwo, hmax, hplaces⟩ ↦ ⟨htwo, hmax, hplaces⟩,
    fun ⟨htwo, hmax, hplaces⟩ ↦ ⟨htwo, hmax, hplaces⟩⟩

theorem completesDivision_cons :
    dictionary.CompletesDivision purpose word done (part :: more) ↔
      dictionary.Places purpose word done part more ∧
        dictionary.CompletesDivision purpose word (done ++ [part]) more := by
  constructor
  · rintro ⟨htwo, hmax, hplaces⟩
    rw [List.append_cons] at htwo hmax
    refine ⟨by simpa using hplaces [] part more rfl, htwo, hmax, ?_⟩
    intro before other rest hmore
    have hplace := hplaces (part :: before) other rest (by rw [hmore, List.cons_append])
    rwa [List.append_cons] at hplace
  · rintro ⟨hplace, htwo, hmax, hplaces⟩
    rw [← List.append_cons] at htwo hmax
    refine ⟨htwo, hmax, ?_⟩
    intro before other rest hmore
    cases before with
    | nil =>
        obtain ⟨rfl, rfl⟩ := List.cons.inj hmore
        rwa [List.append_nil]
    | cons first before =>
        obtain ⟨rfl, hbefore⟩ := List.cons.inj hmore
        rw [List.append_cons]
        exact hplaces before other rest hbefore

/-- A part that begins where it is awaited has its place if it reads on from there. -/
theorem Awaits.places_iff (h : dictionary.Awaits word done part.via part.start rest) :
    dictionary.Places purpose word done part more ↔
      (∃ surface right, rest = surface ++ right ∧
          part.stop = part.start + Text.byteSize surface ∧ (more = [] → right = []) ∧
            (more ≠ [] → surface ≠ []) ∧
              part.text = part.via.elim [] (·.beginning.chars) ++ surface ++
                (more.head?.bind (·.via)).elim [] (·.ending.chars)) ∧
        dictionary.settings.leastPart ≤ part.text.length ∧
          part.derivation ∈ (dictionary.derivations purpose (.between done more)
            part.text).toList ∧
            ∀ before, done.getLast? = some before →
              dictionary.settings.joins word before part.text part.derivation part.via := by
  obtain ⟨head, hword, hstart⟩ := h.spelled
  have hstands (surface : Text) : Text.StandsBetween word part.start part.stop surface ↔
      ∃ right, rest = surface ++ right ∧ part.stop = part.start + Text.byteSize surface := by
    rw [hword, ← hstart, Text.standsBetween_append_iff]
  have hsize : Text.byteSize word = part.start + Text.byteSize rest := by
    rw [hword, Text.byteSize_append, hstart]
  constructor
  · rintro ⟨-, -, hcloses, ⟨surface, hsurface, hne, htext⟩, hlong, hderived, hjoins⟩
    obtain ⟨right, hrest, hstop⟩ := (hstands surface).1 hsurface
    refine ⟨⟨surface, right, hrest, hstop, fun hnil ↦ ?_, hne, htext⟩, hlong, hderived,
      fun before hbefore ↦ Settings.joins_iff.2 (hjoins before hbefore)⟩
    by_contra hright
    have hpos := Text.byteSize_pos hright
    have hend := hcloses hnil
    rw [hsize, hstop, hrest, Text.byteSize_append] at hend
    omega
  · rintro ⟨⟨surface, right, hrest, hstop, hright, hne, htext⟩, hlong, hderived, hjoins⟩
    refine ⟨h.opens, h.follows, fun hnil ↦ ?_,
      ⟨surface, (hstands surface).2 ⟨right, hrest, hstop⟩, hne, htext⟩, hlong, hderived,
      fun before hbefore ↦ Settings.joins_iff.1 (hjoins before hbefore)⟩
    rw [hsize, hrest, hright hnil, List.append_nil, hstop]

/-- Where the next part has its place, the letters behind a part are a gap and what comes after. -/
theorem Awaits.exists_gap (h : dictionary.Awaits word done via start rest) {surface right : Text}
    {next : Segment} (hrest : rest = surface ++ right)
    (hstop : part.stop = start + Text.byteSize surface)
    (hleads : part.LeadsTo dictionary.settings.patterns word next.via next.start) :
    ∃ gap after, right = gap ++ after ∧
      next.start = start + Text.byteSize surface + Text.byteSize gap ∧
        ((next.via = none ∧ gap = []) ∨ ∃ pattern ∈ dictionary.settings.patterns,
          next.via = some pattern ∧ pattern.replacement = some gap ∧ gap ≠ []) := by
  cases hvia : next.via with
  | none =>
      rw [hvia] at hleads
      exact ⟨[], right, rfl, Eq.trans hleads hstop, Or.inl ⟨rfl, rfl⟩⟩
  | some pattern =>
      rw [hvia] at hleads
      obtain ⟨hpattern, gap, hreplacement, hne, hstands⟩ := hleads
      obtain ⟨head, hword, hstart⟩ := h.spelled
      have hhead : part.stop = Text.byteSize (head ++ surface) := by
        rw [Text.byteSize_append, hstart, hstop]
      rw [hword, hrest, ← List.append_assoc, hhead, Text.standsBetween_append_iff] at hstands
      obtain ⟨after, hright, hnext⟩ := hstands
      refine ⟨gap, after, hright, ?_, Or.inr ⟨pattern, hpattern, rfl, hreplacement, hne⟩⟩
      rw [hnext, ← hhead, hstop]

theorem Awaits.rest_ne_nil (h : dictionary.Awaits word done part.via part.start rest)
    (hplaces : dictionary.Places purpose word done part more) (hvia : part.via = none) :
    rest ≠ [] := by
  rintro rfl
  obtain ⟨⟨surface, right, hrest, -, -, hne, htext⟩, hlong, -⟩ := h.places_iff.1 hplaces
  obtain ⟨rfl, -⟩ := List.append_eq_nil_iff.1 hrest.symm
  obtain rfl : more = [] := by
    by_contra hmore
    exact hne hmore rfl
  have hpos : 1 ≤ part.text.length := Nat.le_trans (Nat.le_max_right _ _) hlong
  simp [htext, hvia] at hpos

end Dictionary
end Orthography
