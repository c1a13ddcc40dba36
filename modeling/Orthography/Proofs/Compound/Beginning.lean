import Orthography.Proofs.Compound.DivisionSearch
import Orthography.Proofs.Derivation.Soundness
import Orthography.Proofs.Dictionary.Reachable
import Orthography.Proofs.Lexicon.Initials

/-!
# How the parts of a compound begin

The search for divisions gives up at letters that neither a stem nor a prefix begins with.  A word
that keeps something of its root begins with such a letter, so nothing is lost that way; but where
a suffix may replace the whole root, it can make a part that begins with any letter.
-/

namespace Orthography

theorem Settings.AttachesSuffix.head?_eq {settings : Settings} {suffix : AffixEntry}
    {form word : Text} (h : settings.AttachesSuffix suffix form word)
    (hkeep : settings.fullStrip = false) : word.head? = form.head? := by
  obtain ⟨rest, rfl, rfl, hrest⟩ := h.swaps
  have hne : rest ≠ [] := hrest.resolve_right (by simp [hkeep])
  obtain ⟨c, rest, rfl⟩ := List.exists_cons_of_ne_nil hne
  rfl

namespace Dictionary

variable {dictionary : Dictionary} {purpose : Purpose} {position : Position} {word text : Text}

/-- A text begins with a letter that some stem begins with, or that a prefix may bring. -/
def BeginsKnown (dictionary : Dictionary) (text : Text) : Prop :=
  ∃ c, text.head? = some c ∧
    ((∃ stem, dictionary.lexicon.contains (c :: stem)) ∨
      ∃ rule ∈ dictionary.settings.affixes.prefixes, ∃ entry ∈ rule.entries,
        entry.add = [] ∨ entry.add.head? = some c)

theorem mayBegin_iff (hl : dictionary.lexicon.Built) (ht : dictionary.settings.affixes.Formed) :
    dictionary.mayBegin text ↔ dictionary.BeginsKnown text := by
  cases text with
  | nil => simp [mayBegin, BeginsKnown]
  | cons c text =>
      rw [mayBegin, Bool.or_eq_true, hl.mayBegin_iff, AffixTable.mayBegin_iff ht]
      constructor
      · intro h
        exact ⟨c, rfl, h⟩
      · rintro ⟨d, hd, h⟩
        obtain rfl : c = d := Option.some.inj hd
        exact h

theorem beginsKnown_congr {form : Text} (h : text.head? = form.head?) :
    dictionary.BeginsKnown text ↔ dictionary.BeginsKnown form := by
  rw [BeginsKnown, BeginsKnown, h]

theorem beginsKnown_of_mem_lookup {root : Entry} {stem : Text}
    (hroot : root ∈ dictionary.lexicon.lookup stem) (hne : stem ≠ []) :
    dictionary.BeginsKnown stem := by
  obtain ⟨c, rest, rfl⟩ := List.exists_cons_of_ne_nil hne
  exact ⟨c, rfl, Or.inl ⟨rest, Lexicon.contains_of_mem_lookup hroot⟩⟩

theorem beginsKnown_of_attachesPrefix {front : AffixEntry} {form : Text}
    (h : dictionary.settings.AttachesPrefix front form word) (hne : word ≠ []) :
    dictionary.BeginsKnown word := by
  obtain ⟨rule, hrule, hentry, -⟩ := h.declared
  obtain ⟨rest, -, rfl, -⟩ := h.swaps
  obtain ⟨c, tail, hword⟩ := List.exists_cons_of_ne_nil hne
  refine ⟨c, by rw [hword, List.head?_cons], Or.inr ⟨rule, hrule, front, hentry, ?_⟩⟩
  cases hadd : front.add with
  | nil => exact Or.inl rfl
  | cons d add =>
      rw [hadd, List.cons_append] at hword
      obtain ⟨rfl, -⟩ := List.cons.inj hword
      exact Or.inr rfl

/-- A word that keeps something of every form to which an affix was attached begins with a known
letter. -/
theorem beginsKnown_of_builds {x : Derivation} (hx : x.Builds dictionary word) (hne : word ≠ [])
    (hkeep : dictionary.settings.fullStrip = false) : dictionary.BeginsKnown word := by
  have hstem {root : Entry} (hroot : root ∈ dictionary.lexicon.lookup root.stem)
      (hhead : word.head? = root.stem.head?) : dictionary.BeginsKnown word := by
    have hrootne : root.stem ≠ [] := by
      rw [← List.head?_eq_none_iff.ne, ← hhead]
      exact List.head?_eq_none_iff.ne.2 hne
    exact (beginsKnown_congr hhead).2 (beginsKnown_of_mem_lookup hroot hrootne)
  cases hx with
  | bare entry => exact hstem entry rfl
  | suffixed entry attaches _ => exact hstem entry (attaches.head?_eq hkeep)
  | twiceSuffixed entry attachesInner attachesOuter _ _ =>
      exact hstem entry ((attachesOuter.head?_eq hkeep).trans (attachesInner.head?_eq hkeep))
  | prefixed _ attaches _ _ => exact beginsKnown_of_attachesPrefix attaches hne
  | crossed _ _ attachesFront _ _ _ _ _ => exact beginsKnown_of_attachesPrefix attachesFront hne

theorem IsDivision.beginsKnown {parts : List Segment} (h : dictionary.IsDivision purpose word parts)
    (hd : dictionary.Coherent) (hkeep : dictionary.settings.fullStrip = false) :
    ∀ part ∈ parts, dictionary.BeginsKnown part.text := by
  intro part hpart
  obtain ⟨done, more, hplaces⟩ := h.exists_places hpart
  obtain ⟨hbuilds, -⟩ := builds_and_isLed_of_mem_derivations hd.built hd.formed hplaces.derived
  exact beginsKnown_of_builds hbuilds hplaces.text_ne_nil hkeep

/-- A word is found to be a compound exactly if it has a division, of which all parts begin with
known letters should affixes be free to replace whole forms. -/
theorem divisions_isEmpty_eq_false_iff (hd : dictionary.Reachable) :
    (dictionary.divisions purpose word).isEmpty = false ↔
      (dictionary.settings.roles.compounding ∧ word ≠ []) ∧
        ∃ parts, dictionary.IsDivision purpose word parts ∧
          (dictionary.settings.fullStrip → ∀ part ∈ parts, dictionary.BeginsKnown part.text) := by
  have hmay (text : Text) : dictionary.mayBegin text ↔ dictionary.BeginsKnown text :=
    mayBegin_iff hd.coherent.built hd.coherent.formed
  rw [LazyList.isEmpty_eq, List.isEmpty_eq_false_iff_exists_mem]
  simp only [mem_divisions_iff, hmay, exists_and_left]
  refine and_congr_right fun _ ↦ exists_congr fun parts ↦ and_congr_right fun hparts ↦ ?_
  constructor
  · intro hbegin _
    exact hbegin
  · intro hbegin
    by_cases hfull : dictionary.settings.fullStrip
    · exact hbegin hfull
    · exact hparts.beginsKnown hd.coherent (by simpa using hfull)

/-- The stems `foo` and `a` may be joined, and a suffix may replace the whole of `a` by `xyz`. -/
def xyzDictionary : Dictionary :=
  ofParts
    { affixes := .ofRules [] [suffixRule ['a'] ['x', 'y', 'z']]
      roles := Roles.none.declare .compoundFlag 88, fullStrip := true }
    ((Lexicon.empty.add ⟨['f', 'o', 'o'], .ofList [88], [], []⟩).add
      ⟨['a'], .ofList [83, 88], [], []⟩)

theorem reachable_xyzDictionary : xyzDictionary.Reachable :=
  .ofParts (formed_ofRules_suffixRule _ _) (.add _ (.add _ .empty))

theorem beginsKnown_foofoo :
    xyzDictionary.Reachable ∧ xyzDictionary.settings.fullStrip ∧
      ∃ parts, xyzDictionary.IsDivision {} ['f', 'o', 'o', 'f', 'o', 'o'] parts ∧
        ∀ part ∈ parts, xyzDictionary.BeginsKnown part.text := by
  have hfound : (xyzDictionary.divisions {} ['f', 'o', 'o', 'f', 'o', 'o']).isEmpty = false := by
    decide +kernel
  obtain ⟨-, parts, hparts, hbegin⟩ :=
    (divisions_isEmpty_eq_false_iff reachable_xyzDictionary).1 hfound
  exact ⟨reachable_xyzDictionary, rfl, parts, hparts, hbegin rfl⟩

/-- The word `fooxyz` divides into `foo` and `xyz`, but no division of it is found. -/
theorem divisions_fooxyz_isEmpty :
    xyzDictionary.Reachable ∧ xyzDictionary.settings.roles.compounding ∧
      (∃ parts, xyzDictionary.IsDivision {} ['f', 'o', 'o', 'x', 'y', 'z'] parts) ∧
        (xyzDictionary.divisions {} ['f', 'o', 'o', 'x', 'y', 'z']).isEmpty := by
  have hfoo : xyzDictionary.accepts {} .first ['f', 'o', 'o'] := by decide +kernel
  have hxyz : xyzDictionary.accepts {} .last ['x', 'y', 'z'] := by decide +kernel
  obtain ⟨x, hx⟩ := accepts_iff.1 hfoo
  obtain ⟨y, hy⟩ := accepts_iff.1 hxyz
  let left : Segment := ⟨['f', 'o', 'o'], 0, 3, x, none⟩
  let right : Segment := ⟨['x', 'y', 'z'], 3, 6, y, none⟩
  have hleft : xyzDictionary.Places {} ['f', 'o', 'o', 'x', 'y', 'z'] [] left [right] := by
    refine ⟨fun _ ↦ ⟨rfl, rfl⟩, by simp, by simp, ?_, Nat.le_refl 3, hx, by simp⟩
    exact ⟨['f', 'o', 'o'], ⟨[], ['x', 'y', 'z'], rfl, rfl, rfl⟩, by simp, rfl⟩
  have hright : xyzDictionary.Places {} ['f', 'o', 'o', 'x', 'y', 'z'] [left] right [] := by
    refine ⟨by simp, ?_, fun _ ↦ rfl, ?_, Nat.le_refl 3, hy, ?_⟩
    · rintro _ ⟨⟩
      rfl
    · exact ⟨['x', 'y', 'z'], ⟨['f', 'o', 'o'], [], rfl, rfl, rfl⟩, by simp, rfl⟩
    · rintro _ ⟨⟩
      exact Settings.joins_iff.1 rfl
  have hdivision : xyzDictionary.IsDivision {} ['f', 'o', 'o', 'x', 'y', 'z'] [left, right] := by
    refine isDivision_iff.2 (completesDivision_cons.2 ⟨hleft, completesDivision_cons.2
      ⟨hright, Nat.le_refl 2, fun n hn ↦ ?_, by simp⟩⟩)
    cases hn
  exact ⟨reachable_xyzDictionary, by decide, ⟨_, hdivision⟩, by decide +kernel⟩

end Dictionary
end Orthography
