import Orthography.Proofs.Dictionary.Extension
import Orthography.Proofs.Settings.Problems
import Orthography.Suggestion.Basic

/-!
# Dictionaries that agree

Checking and correcting see a dictionary only through its settings, through the words that it
forbids and through the words that it accepts in some case.  The counter of attempts adds nothing
to this, as it is carried along by answers alone.  So two dictionaries that agree in these three
give the same results; the problems found in their texts are told to the reader and acted on
nowhere.
-/

namespace Orthography

namespace Dictionary

def withProblems (dictionary : Dictionary) (problems : List Problem) : Dictionary :=
  { dictionary with settings := dictionary.settings.withProblems problems }

structure Agrees (one other : Dictionary) : Prop where
  settings : one.settings.withProblems [] = other.settings.withProblems []
  isForbidden : ∀ word, one.isForbidden word = other.isForbidden word
  acceptsCased : ∀ suggesting word,
    one.acceptsCased suggesting word = other.acceptsCased suggesting word

namespace Agrees

variable {one other third : Dictionary}

theorem symm (h : one.Agrees other) : other.Agrees one where
  settings := h.settings.symm
  isForbidden word := (h.isForbidden word).symm
  acceptsCased suggesting word := (h.acceptsCased suggesting word).symm

theorem trans (h : one.Agrees other) (h' : other.Agrees third) : one.Agrees third where
  settings := h.settings.trans h'.settings
  isForbidden word := (h.isForbidden word).trans (h'.isForbidden word)
  acceptsCased suggesting word :=
    (h.acceptsCased suggesting word).trans (h'.acceptsCased suggesting word)

/-! ## What follows from agreement -/

section Results

variable (h : one.Agrees other)
include h

/-- Whatever is read off the settings besides the problems is the same. -/
theorem of_settings {α : Type} (read : Settings → α)
    (hread : ∀ settings, read (settings.withProblems []) = read settings) :
    read one.settings = read other.settings := by
  rw [← hread one.settings, ← hread other.settings, h.settings]

theorem prepare (word : Text) : one.prepare word = other.prepare word :=
  h.of_settings (fun settings ↦ Dictionary.prepare ⟨settings, .empty⟩ word) fun _ ↦ rfl

theorem acceptsBroken (suggesting : Bool) (word : Text) :
    one.acceptsBroken suggesting word = other.acceptsBroken suggesting word := by
  have haccepts : one.acceptsCased suggesting = other.acceptsCased suggesting :=
    funext (h.acceptsCased suggesting)
  have hbreaks := h.of_settings (·.breaks) fun _ ↦ rfl
  rw [Dictionary.acceptsBroken, Dictionary.acceptsBroken, attempts, attempts, haccepts, hbreaks]

theorem check (word : Text) : one.check word = other.check word := by
  simp only [Dictionary.check, h.prepare, h.isForbidden, h.acceptsBroken]

theorem mayOffer (word : Text) : one.mayOffer word = other.mayOffer word := by
  induction hlength : word.length using Nat.strong_induction_on generalizing word with
  | _ n ih =>
      rw [Dictionary.mayOffer, Dictionary.mayOffer, h.isForbidden, h.acceptsBroken]
      split
      · rfl
      split
      · rfl
      split
      · rfl
      · rename_i left right hsplit
        have hlen : word.length = left.length + (right.length + 1) := by
          simpa using congrArg List.length (Text.eq_append_of_splitOnce? hsplit)
        rw [ih left.length (by omega) left rfl, ih right.length (by omega) right rfl]

theorem form? (word : Text) (exact : Bool) (found : List Text) (candidate : Text) :
    one.form? word exact found candidate = other.form? word exact found candidate := by
  have hcased : one.recased? word candidate = other.recased? word candidate :=
    h.of_settings (fun settings ↦ recased? ⟨settings, .empty⟩ word candidate) fun _ ↦ rfl
  have hoffer : one.mayOffer = other.mayOffer := funext h.mayOffer
  rw [Dictionary.form?, Dictionary.form?, hcased, hoffer]

theorem collect (word : Text) (max : Nat) (found : List Text) (source : Source) :
    one.collect word max found source = other.collect word max found source := by
  have hoffer : one.offer word max source.exact = other.offer word max source.exact := by
    funext collection candidate
    rw [offer, offer, h.form?]
  rw [Dictionary.collect, Dictionary.collect, hoffer]

theorem sources (word : Text) : one.sources word = other.sources word :=
  h.of_settings (fun settings ↦ Dictionary.sources ⟨settings, .empty⟩ word) fun _ ↦ rfl

theorem suggestions (word : Text) (max : Nat) :
    one.suggestions word max = other.suggestions word max := by
  have houtputs := h.of_settings (·.outputs) fun _ ↦ rfl
  have hcollect : one.collect (other.prepare word) max = other.collect (other.prepare word) max := by
    funext found source
    exact h.collect _ max found source
  rw [Dictionary.suggestions, Dictionary.suggestions, suggestionsFor, suggestionsFor, h.prepare,
    h.sources, hcollect, houtputs]

end Results
end Agrees

/-! ## Where dictionaries agree -/

theorem agrees_of_extends {one other : Dictionary} (h : one.Extends other)
    (h' : other.Extends one) : one.Agrees other where
  settings := by rw [h.settings]
  isForbidden word := Bool.eq_iff_iff.2 ⟨h.allows word, h'.allows word⟩
  acceptsCased suggesting word :=
    Bool.eq_iff_iff.2 ⟨h'.acceptsCased id, h.acceptsCased id⟩

section Problems

variable (dictionary : Dictionary) (problems : List Problem)

theorem divisionsFrom_withProblems (purpose : Purpose) (word : Text) (depth : Nat)
    (before : Option Segment) (via : Option CompoundPattern) (start : Nat) (rest : Text) :
    (dictionary.withProblems problems).divisionsFrom purpose word depth before via start rest =
      dictionary.divisionsFrom purpose word depth before via start rest := by
  induction hlength : rest.length using Nat.strong_induction_on
    generalizing depth before via start rest with
  | _ n ih =>
      have hafter (cut : Cut rest) (depth : Nat) (before : Option Segment)
          (via : Option CompoundPattern) (start : Nat) :
          (dictionary.withProblems problems).divisionsFrom purpose word depth before via start
              cut.after =
            dictionary.divisionsFrom purpose word depth before via start cut.after :=
        ih _ (hlength ▸ cut.shorter) _ _ _ _ _ rfl
      rw [divisionsFrom, divisionsFrom.eq_def dictionary]
      simp only [hafter]
      rfl

theorem followsRuleFrom_withProblems (progress : List CompoundRule.Progress) (count : Nat)
    (stem rest : Text) :
    (dictionary.withProblems problems).followsRuleFrom progress count stem rest =
      dictionary.followsRuleFrom progress count stem rest := by
  induction rest generalizing progress count stem with
  | nil => rfl
  | cons c rest ih =>
      simp only [followsRuleFrom, ih]
      rfl

/-- Problems play no part in any search. -/
theorem agrees_withProblems : (dictionary.withProblems problems).Agrees dictionary where
  settings := rfl
  isForbidden _ := rfl
  acceptsCased suggesting word := by
    have hcompound (purpose : Purpose) (form : Text) :
        (dictionary.withProblems problems).isCompound purpose form =
          dictionary.isCompound purpose form := by
      rw [isCompound, isCompound, divisions, divisions, followsRule, followsRule,
        divisionsFrom_withProblems, followsRuleFrom_withProblems]
      rfl
    simp only [Dictionary.acceptsCased, acceptsExactly, hcompound]
    rfl

end Problems

section Entries

variable {one other : Dictionary}

theorem isForbidden_of_mem_lookup_iff (hsettings : one.settings = other.settings)
    (hentries : ∀ stem entry,
      entry ∈ one.lexicon.lookup stem ↔ entry ∈ other.lexicon.lookup stem)
    {word : Text} (hword : one.isForbidden word) : other.isForbidden word := by
  obtain ⟨flag, hflag, hne, hall⟩ := isForbidden_iff.1 hword
  obtain ⟨entry, hentry⟩ := List.exists_mem_of_ne_nil _ hne
  have hother : other.lexicon.lookup word ≠ [] :=
    List.ne_nil_of_mem ((hentries word entry).1 hentry)
  rw [hsettings] at hflag
  exact isForbidden_iff.2 ⟨flag, hflag, hother, fun entry hentry ↦
    hall entry ((hentries word entry).2 hentry)⟩

theorem extends_of_mem_lookup_iff (hone : one.lexicon.Built) (hother : other.lexicon.Built)
    (hsettings : one.settings = other.settings)
    (hentries : ∀ stem entry,
      entry ∈ one.lexicon.lookup stem ↔ entry ∈ other.lexicon.lookup stem) :
    one.Extends other := by
  apply extends_of_lookup_subset hone hother hsettings
  · exact fun stem entry ↦ (hentries stem entry).2
  · exact fun word ↦ isForbidden_of_mem_lookup_iff hsettings hentries

/-- Of the entries of a stem it matters only which there are, not in what order they came nor how
often one of them did. -/
theorem agrees_of_mem_lookup_iff (hone : one.lexicon.Built) (hother : other.lexicon.Built)
    (hsettings : one.settings.withProblems [] = other.settings.withProblems [])
    (hentries : ∀ stem entry,
      entry ∈ one.lexicon.lookup stem ↔ entry ∈ other.lexicon.lookup stem) :
    one.Agrees other := by
  have hto : (one.withProblems []).Extends (other.withProblems []) :=
    extends_of_mem_lookup_iff hone hother hsettings hentries
  have hfro : (other.withProblems []).Extends (one.withProblems []) :=
    extends_of_mem_lookup_iff hother hone hsettings.symm fun stem entry ↦
      (hentries stem entry).symm
  have hsame := agrees_of_extends hto hfro
  exact ((agrees_withProblems one []).symm.trans hsame).trans (agrees_withProblems other [])

end Entries

end Dictionary
end Orthography
