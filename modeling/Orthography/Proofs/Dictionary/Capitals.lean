import Orthography.Proofs.Dictionary.Numbers
import Orthography.Proofs.Text.Alphabet

/-!
# Words in capitals

A word that stands in the dictionary in small letters may be written with a capital, or all in
capitals.  The small form is looked up for either one, so both are right if some entry of it is
plain enough, unless a form with capitals is itself forbidden.
-/

namespace Orthography

open Text

/-- What begins with neither a sign nor a digit is no number. -/
theorem Text.isNumeric_cons_eq_false {c : Char} {text : Text} (hdigit : c.isDigit = false)
    (hsign : c ∉ ['-', '.', ',']) : isNumeric (c :: text) = false := by
  rw [← Bool.not_eq_true, isNumeric_iff_isNumber]
  intro hnumber
  rcases hnumber.char_cases List.mem_cons_self with h | h
  · rw [hdigit] at h
    cases h
  · exact hsign h

namespace Entry

/-- The entry may be used on its own, in another case than its own, and without an affix. -/
def IsPlain (roles : Roles) (entry : Entry) : Prop :=
  ∀ role ∈ [Role.forbidden, .keepCase, .needAffix, .onlyInCompound], role ∉ roles.marks entry.flags

variable {roles : Roles} {entry : Entry}

theorem IsPlain.hasRole_eq_false (h : entry.IsPlain roles)
    (hmarks : entry.marks = roles.marks entry.flags) {role : Role}
    (hrole : role ∈ [Role.forbidden, .keepCase, .needAffix, .onlyInCompound]) :
    entry.hasRole role = false := by
  rw [hasRole, hmarks, ← Bool.not_eq_true, List.contains_iff_mem]
  exact h role hrole

theorem IsPlain.isAllowed (h : entry.IsPlain roles) (hmarks : entry.marks = roles.marks entry.flags)
    (folded : Bool) : Derivation.isAllowed { folded } .alone { root := entry } := by
  have hforbidden : entry.hasRole .forbidden = false := h.hasRole_eq_false hmarks (by simp)
  have hkeepCase : entry.hasRole .keepCase = false := h.hasRole_eq_false hmarks (by simp)
  have hneedAffix : entry.hasRole .needAffix = false := h.hasRole_eq_false hmarks (by simp)
  have honly : entry.hasRole .onlyInCompound = false := h.hasRole_eq_false hmarks (by simp)
  simp [Derivation.isAllowed, Derivation.rootServes, Derivation.isComplete, Derivation.isBalanced,
    Derivation.standsAlone, Derivation.isAffixed, Derivation.affixes, Derivation.suffixes,
    hforbidden, hkeepCase, hneedAffix, honly]

end Entry

namespace Dictionary

variable {dictionary : Dictionary} {form word : Text} {entry : Entry}

theorem isForbidden_eq_false_of_isPlain (hentry : entry ∈ dictionary.lexicon.lookup word)
    (hplain : entry.IsPlain dictionary.settings.roles) : dictionary.isForbidden word = false := by
  rw [← Bool.not_eq_true]
  intro hforbidden
  obtain ⟨flag, hflag, -, hall⟩ := isForbidden_iff.1 hforbidden
  apply hplain .forbidden List.mem_cons_self
  exact Roles.mem_marks.2 ⟨flag, hflag, hall entry hentry⟩

theorem mem_caseVariants_lowercase
    (hstyle : CapStyle.ofText form = .capitalized ∨ CapStyle.ofText form = .allCaps) :
    (dictionary.settings.casing.lowercase form, true) ∈ dictionary.caseVariants form := by
  rw [caseVariants]
  rcases hstyle with hstyle | hstyle <;> simp [hstyle]

/-- A word with capitals is right if its small form has a plain entry, and then it can be refused
only as a forbidden word of its own. -/
theorem check_iff_of_lowercase (hd : dictionary.UpToDate)
    (hprepare : dictionary.prepare form = form) (hne : form ≠ [])
    (hnumeric : isNumeric form = false)
    (hstyle : CapStyle.ofText form = .capitalized ∨ CapStyle.ofText form = .allCaps)
    (hentry : entry ∈ dictionary.lexicon.lookup (dictionary.settings.casing.lowercase form))
    (hplain : entry.IsPlain dictionary.settings.roles) :
    dictionary.check form ↔ dictionary.isForbidden form = false := by
  have hmarks := hd.entries _ entry hentry
  have hexact := acceptsExactly_of_mem_lookup hentry (hplain.isAllowed hmarks true)
  have husable : (dictionary.settings.casing.lowercase form, true) ∈
      dictionary.usableVariants form := by
    apply mem_usableVariants_iff.2
    exact ⟨mem_caseVariants_lowercase hstyle,
      fun _ ↦ isForbidden_eq_false_of_isPlain hentry hplain⟩
  have hcased : dictionary.acceptsCased false form :=
    acceptsCased_iff.2 (Or.inr ⟨_, husable, hexact⟩)
  have hbroken := acceptsBroken_iff.2 (Or.inl hcased)
  simp [check, hprepare, hne, hnumeric, hbroken]

theorem check_iff_of_capital (hd : dictionary.UpToDate) (hinputs : dictionary.settings.inputs = [])
    (hignored : dictionary.settings.ignored = []) {small capital : Char} {rest : Text}
    (hpair : dictionary.settings.casing.Pairs small capital)
    (hrest : ∀ c ∈ rest, isBlank c = false)
    (hstyle : CapStyle.ofText (capital :: rest) = .capitalized ∨
      CapStyle.ofText (capital :: rest) = .allCaps)
    (hlower : dictionary.settings.casing.lowercase (capital :: rest) = word)
    (hentry : entry ∈ dictionary.lexicon.lookup word)
    (hplain : entry.IsPlain dictionary.settings.roles) :
    dictionary.check (capital :: rest) ↔ dictionary.isForbidden (capital :: rest) = false := by
  have htidy : Text.IsTidy (capital :: rest) := by
    apply isTidy_of_forall_not_isBlank (List.cons_ne_nil _ _)
    rw [List.forall_mem_cons]
    exact ⟨hpair.not_isBlank.2, hrest⟩
  have hnumeric : isNumeric (capital :: rest) = false :=
    isNumeric_cons_eq_false hpair.not_numeric.1 hpair.not_numeric.2
  rw [← hlower] at hentry
  exact check_iff_of_lowercase hd (prepare_of_isTidy hinputs hignored htidy) htidy.ne_nil hnumeric
    hstyle hentry hplain

/-- A word in small letters of the alphabet comes back from its two forms with capitals, and both
are right if it has a plain entry, but for a form that is itself a forbidden word. -/
theorem check_capitals {made : Dictionary} (hmade : made.IsMade) (changes : List Change)
    (hinputs : made.settings.inputs = []) (hignored : made.settings.ignored = [])
    (hne : word ≠ []) (hword : ∀ c ∈ word, c ∈ made.settings.casing.alphabet)
    (hentry : entry ∈ (made.after changes).lexicon.lookup word)
    (hplain : entry.IsPlain made.settings.roles) :
    let casing := made.settings.casing
    let now := made.after changes
    let capitals := casing.uppercase word
    let capitalized := casing.titlecase word
    casing.lowercase capitals = word ∧ casing.lowercase capitalized = word ∧
    CapStyle.ofText capitals = .allCaps ∧
    CapStyle.ofText capitalized = (if word.length = 1 then .allCaps else .capitalized) ∧
    (now.check capitals ↔ now.isForbidden capitals = false) ∧
    (now.check capitalized ↔ now.isForbidden capitalized = false) := by
  intro casing now capitals capitalized
  have hnow : now.UpToDate := hmade.upToDate.after changes
  have hsettings : now.settings = made.settings := settings_after made changes
  obtain ⟨c, rest, rfl⟩ := List.exists_cons_of_ne_nil hne
  obtain ⟨all, hpairs⟩ := Casing.exists_forall₂_pairs hword
  obtain ⟨capital, more, hpair, hmore, rfl⟩ := List.forall₂_cons_left_iff.1 hpairs
  have hcapitals : capitals = capital :: more := Casing.uppercase_eq_of_pairs hpairs
  have hcapitalized : capitalized = capital :: rest := Casing.titlecase_cons_of_pairs hmore hpair
  have hlower : casing.lowercase (capital :: more) = c :: rest := Casing.lowercase_of_pairs hpairs
  have hlower' : casing.lowercase (capital :: rest) = c :: rest :=
    Casing.lowercase_cons_of_pairs hmore hpair
  have hstyle : CapStyle.ofText (capital :: more) = .allCaps := Casing.ofText_capitals hmore hpair
  have hstyle' : CapStyle.ofText (capital :: rest) = if rest = [] then .allCaps else .capitalized :=
    Casing.ofText_capitalized hmore hpair
  obtain ⟨hblank, hblank'⟩ := Casing.not_isBlank_of_pairs hmore
  -- The settings stay as they were made.
  change casing.Pairs c capital at hpair
  rw [hcapitals, hcapitalized, hstyle']
  rw [← hsettings] at hinputs hignored hplain
  simp only [casing, ← hsettings] at hpair hlower hlower' ⊢
  refine ⟨hlower, hlower', hstyle, ?_, ?_, ?_⟩
  · simp
  · exact check_iff_of_capital hnow hinputs hignored hpair hblank' (Or.inr hstyle) hlower hentry
      hplain
  · apply check_iff_of_capital hnow hinputs hignored hpair hblank _ hlower' hentry hplain
    rw [hstyle']
    split
    · exact Or.inr rfl
    · exact Or.inl rfl

/-- The dotless letter keeps its place, and the capitals alone have been forbidden. -/
theorem check_capitals_border :
    let changes : List Change := [.addEntry "SINIR".toList (FlagSet.ofList [33]) []]
    let word := "sınır".toList
    ∃ made, load "1\nsınır\n".toList "LANG tr_TR\nFORBIDDENWORD !\n".toList = .ok made ∧
      made.IsMade ∧ made.settings.casing = .turkic ∧
        made.settings.casing.uppercase word = "SINIR".toList ∧
          made.settings.casing.lowercase "SINIR".toList = word ∧
            ((made.after changes).check "SINIR".toList = false) ∧
              (made.after changes).check "Sınır".toList := by
  intro changes word
  have hread : (load "1\nsınır\n".toList "LANG tr_TR\nFORBIDDENWORD !\n".toList).map
      (fun made ↦ (made.settings.casing, (made.settings.inputs, made.settings.ignored),
        ((made.after changes).isForbidden "SINIR".toList,
          (made.after changes).isForbidden "Sınır".toList))) =
      .ok (.turkic, ([], []), (true, false)) := by
    decide +kernel
  obtain ⟨made, hload, hread⟩ := exists_of_map_eq_ok hread
  obtain ⟨hcasing, hread⟩ := Prod.mk.inj hread
  obtain ⟨hmaps, hforbidden⟩ := Prod.mk.inj hread
  obtain ⟨hinputs, hignored⟩ := Prod.mk.inj hmaps
  obtain ⟨hcapitals, hcapitalized⟩ := Prod.mk.inj hforbidden
  have hentries : (load "1\nsınır\n".toList "LANG tr_TR\nFORBIDDENWORD !\n".toList).map
      (fun made ↦ ((made.after changes).lexicon.lookup word).map
        fun entry ↦ made.settings.roles.marks entry.flags) = .ok [[]] := by
    decide +kernel
  rw [hload] at hentries
  obtain ⟨entry, rest, hlookup, hmarks, -⟩ := List.map_eq_cons_iff.1 (Except.ok.inj hentries)
  have hentry : entry ∈ (made.after changes).lexicon.lookup word := by
    rw [hlookup]
    exact List.mem_cons_self
  have hplain : entry.IsPlain made.settings.roles := by
    intro role _
    rw [hmarks]
    exact List.not_mem_nil
  have hword : ∀ c ∈ word, c ∈ made.settings.casing.alphabet := by
    rw [hcasing]
    intro c hc
    exact List.contains_iff_mem.1 (List.all_eq_true.1 (by decide : word.all
      (Casing.turkic.alphabet.contains ·) = true) c hc)
  have hupper : made.settings.casing.uppercase word = "SINIR".toList := by
    rw [hcasing]
    decide +kernel
  have htitle : made.settings.casing.titlecase word = "Sınır".toList := by
    rw [hcasing]
    decide +kernel
  obtain ⟨hlower, -, -, -, hcheck, hcheck'⟩ :=
    check_capitals (.load hload) changes hinputs hignored (by decide) hword hentry hplain
  rw [hupper] at hlower hcheck
  rw [htitle] at hcheck'
  refine ⟨made, hload, .load hload, hcasing, hupper, hlower, ?_, hcheck'.2 hcapitalized⟩
  rw [← Bool.not_eq_true, hcheck, hcapitals]
  decide

end Dictionary
end Orthography
