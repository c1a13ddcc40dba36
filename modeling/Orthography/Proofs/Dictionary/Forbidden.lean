import Orthography.Proofs.Derivation.Soundness
import Orthography.Proofs.Dictionary.Breaking
import Orthography.Proofs.Dictionary.Reachable

/-!
# Forbidden words

A forbidden word is refused as a whole.  As a piece of a broken word it is refused only as an entry
of its own: it passes if it is an affixed form of another stem, a compound, or right in another
case.
-/

namespace Orthography

theorem Derivation.root_not_forbidden {purpose : Purpose} {position : Position} {x : Derivation}
    (h : x.isAllowed purpose position) : x.root.hasRole .forbidden = false := by
  simp only [isAllowed, rootServes, Bool.and_eq_true, Bool.not_eq_true'] at h
  exact h.1.1.1.1.1

namespace Dictionary

variable {dictionary : Dictionary} {word : Text}

/-! ## Forbidden words without breaks -/

theorem isForbidden_iff :
    dictionary.isForbidden word ↔ ∃ flag, dictionary.settings.roles.flagOf .forbidden = some flag ∧
      dictionary.lexicon.lookup word ≠ [] ∧
        ∀ entry ∈ dictionary.lexicon.lookup word, entry.hasFlag flag := by
  rw [isForbidden]
  cases dictionary.settings.roles.flagOf .forbidden <;> simp [Lexicon.allHomonymsHave]

theorem hasRole_of_isForbidden (hd : dictionary.Coherent) (hf : dictionary.isForbidden word)
    {root : Entry} (hroot : root ∈ dictionary.lexicon.lookup word) : root.hasRole .forbidden := by
  obtain ⟨flag, hflag, -, hall⟩ := isForbidden_iff.1 hf
  have hmem : Role.forbidden ∈ root.marks := by
    rw [hd.entriesMarked word root hroot]
    exact Roles.mem_marks.2 ⟨flag, hflag, hall root hroot⟩
  simpa [Entry.hasRole] using hmem

theorem stem_ne_of_isForbidden (hd : dictionary.Coherent) (hf : dictionary.isForbidden word)
    {purpose : Purpose} {position : Position} {x : Derivation}
    (hx : x ∈ (dictionary.derivations purpose position word).toList) : x.root.stem ≠ word := by
  obtain ⟨hbuilds, hallowed, -⟩ := builds_and_isLed_of_mem_derivations hd.built hd.formed hx
  intro hstem
  have hroot := hbuilds.root_mem
  rw [hstem] at hroot
  have hforbidden := hasRole_of_isForbidden hd hf hroot
  rw [Derivation.root_not_forbidden hallowed] at hforbidden
  cases hforbidden

theorem mem_usableVariants_iff {form : Text} {folded : Bool} :
    (form, folded) ∈ dictionary.usableVariants word ↔
      (form, folded) ∈ dictionary.caseVariants word ∧
        (folded → dictionary.isForbidden form = false) := by
  cases folded <;> simp [usableVariants]

theorem mem_usableVariants_false {form : Text} :
    (form, false) ∈ dictionary.usableVariants word ↔ form = word := by
  rw [mem_usableVariants_iff, caseVariants]
  split <;> simp

/-- A word is accepted, but not as an entry of its own. -/
def AcceptsIndirectly (dictionary : Dictionary) (word : Text) : Prop :=
  (∃ x ∈ (dictionary.derivations {} .alone word).toList, x.root.stem ≠ word) ∨
    dictionary.isCompound {} word ∨
      ∃ form, (form, true) ∈ dictionary.usableVariants word ∧
        dictionary.acceptsExactly { folded := true } form

theorem acceptsCased_iff :
    dictionary.acceptsCased false word ↔ dictionary.acceptsExactly {} word ∨
      ∃ form, (form, true) ∈ dictionary.usableVariants word ∧
        dictionary.acceptsExactly { folded := true } form := by
  simp only [acceptsCased, List.any_eq_true, Prod.exists]
  constructor
  · rintro ⟨form, folded, hmem, haccepts⟩
    cases folded with
    | false =>
        obtain rfl := mem_usableVariants_false.1 hmem
        exact Or.inl haccepts
    | true => exact Or.inr ⟨form, hmem, haccepts⟩
  · rintro (haccepts | ⟨form, hmem, haccepts⟩)
    · exact ⟨word, false, mem_usableVariants_false.2 rfl, haccepts⟩
    · exact ⟨form, true, hmem, haccepts⟩

theorem acceptsCased_iff_of_isForbidden (hd : dictionary.Coherent)
    (hf : dictionary.isForbidden word) :
    dictionary.acceptsCased false word ↔ dictionary.AcceptsIndirectly word := by
  have hderived : dictionary.accepts {} .alone word ↔
      ∃ x ∈ (dictionary.derivations {} .alone word).toList, x.root.stem ≠ word := by
    constructor
    · intro h
      obtain ⟨x, hx⟩ := accepts_iff.1 h
      exact ⟨x, hx, stem_ne_of_isForbidden hd hf hx⟩
    · rintro ⟨x, hx, -⟩
      exact accepts_iff.2 ⟨x, hx⟩
  rw [acceptsCased_iff, acceptsExactly, Bool.or_eq_true, hderived, or_assoc, AcceptsIndirectly]

theorem isForbidden_eq_false_iff (hd : dictionary.Coherent)
    (haccepts : dictionary.acceptsCased false word) :
    dictionary.isForbidden word = false ↔
      ¬(dictionary.isForbidden word ∧ dictionary.AcceptsIndirectly word) := by
  constructor
  · rintro hfree ⟨hf, -⟩
    rw [hfree] at hf
    cases hf
  · intro h
    by_contra hf
    have hf : dictionary.isForbidden word := by simpa using hf
    exact h ⟨hf, (acceptsCased_iff_of_isForbidden hd hf).1 haccepts⟩

/-! ## Forbidden words between breaks -/

/-- Some finite tree of breakings takes a word to pieces that are as asked. -/
abbrev BreaksInto (dictionary : Dictionary) (good : Text → Prop) (word : Text) : Prop :=
  BreakTree (Text.Breaks dictionary.settings.breaks) good word

theorem breaksInto_of_acceptsBroken (h : dictionary.acceptsBroken false word) :
    dictionary.BreaksInto (fun piece ↦ dictionary.acceptsCased false piece) word :=
  (breakTree_of_attempt h).mono (fun _ _ ↦ Text.breaks_of_mem_breakings) fun _ ↦ id

theorem check_iff (hp : dictionary.prepare word ≠ [])
    (hn : Text.isNumeric (dictionary.prepare word) = false) :
    dictionary.check word ↔ dictionary.isForbidden (dictionary.prepare word) = false ∧
      dictionary.acceptsBroken false (dictionary.prepare word) := by
  simp [check, hp, hn]

/-- Where no forbidden word is accepted in another way, no piece of a right word is forbidden. -/
theorem breaksInto_allowed_of_check (hd : dictionary.Reachable)
    (hp : dictionary.prepare word ≠ []) (hn : Text.isNumeric (dictionary.prepare word) = false)
    (hnone : ∀ piece, dictionary.isForbidden piece → ¬dictionary.AcceptsIndirectly piece)
    (h : dictionary.check word) :
    dictionary.BreaksInto (fun piece ↦
      dictionary.acceptsCased false piece ∧ dictionary.isForbidden piece = false)
        (dictionary.prepare word) := by
  refine (breaksInto_of_acceptsBroken ((check_iff hp hn).1 h).2).mono (fun _ _ ↦ id) ?_
  intro piece haccepts
  refine ⟨haccepts, (isForbidden_eq_false_iff hd.coherent haccepts).2 ?_⟩
  rintro ⟨hf, hindirect⟩
  exact hnone piece hf hindirect

/-- Exactly when a word that is right breaks into accepted pieces of which none is forbidden.  It
does so wherever no forbidden word is accepted in another way. -/
theorem breaksInto_allowed_iff (hd : dictionary.Reachable) (hp : dictionary.prepare word ≠ [])
    (hn : Text.isNumeric (dictionary.prepare word) = false) :
    let whole := dictionary.prepare word
    ((dictionary.check word → dictionary.BreaksInto (fun piece ↦
        dictionary.acceptsCased false piece ∧ dictionary.isForbidden piece = false) whole) ↔
      (dictionary.isForbidden whole = false → dictionary.acceptsBroken false whole →
        dictionary.BreaksInto (fun piece ↦ dictionary.acceptsCased false piece ∧
          ¬(dictionary.isForbidden piece ∧ dictionary.AcceptsIndirectly piece)) whole)) ∧
    (dictionary.acceptsBroken false whole →
      dictionary.BreaksInto (fun piece ↦ dictionary.acceptsCased false piece) whole) ∧
    ((dictionary.attempts false whole 0).2 ≤ maxBreakAttempts →
      BreakTree (fun text pieces ↦ pieces ∈ Text.breakings dictionary.settings.breaks text)
        (fun piece ↦ dictionary.acceptsCased false piece) whole →
          dictionary.acceptsBroken false whole) ∧
    (∀ piece, dictionary.isForbidden piece →
      (dictionary.acceptsCased false piece ↔ dictionary.AcceptsIndirectly piece)) ∧
    ((∀ piece, dictionary.isForbidden piece → ¬dictionary.AcceptsIndirectly piece) →
      dictionary.check word → dictionary.BreaksInto (fun piece ↦
        dictionary.acceptsCased false piece ∧ dictionary.isForbidden piece = false) whole) := by
  intro whole
  have hgood (piece : Text) : dictionary.acceptsCased false piece ∧
      dictionary.isForbidden piece = false ↔ dictionary.acceptsCased false piece ∧
        ¬(dictionary.isForbidden piece ∧ dictionary.AcceptsIndirectly piece) :=
    and_congr_right (isForbidden_eq_false_iff hd.coherent)
  refine ⟨?_, breaksInto_of_acceptsBroken, ?_,
    fun piece ↦ acceptsCased_iff_of_isForbidden hd.coherent, breaksInto_allowed_of_check hd hp hn⟩
  · rw [check_iff hp hn]
    constructor
    · intro h hfree hbroken
      exact (h ⟨hfree, hbroken⟩).mono (fun _ _ ↦ id) fun piece ↦ (hgood piece).1
    · rintro h ⟨hfree, hbroken⟩
      exact (h hfree hbroken).mono (fun _ _ ↦ id) fun piece ↦ (hgood piece).2
  · intro hlimit htree
    exact attempt_of_breakTree htree (Nat.lt_succ_self _) hlimit

/-! ## A small dictionary -/

/-- The word `as` is forbidden, but it is also the stem `a` with a suffix; words break at dashes. -/
def asDictionary : Dictionary :=
  ofParts
    { affixes := .ofRules [] [suffixRule [] ['s']], roles := Roles.none.declare .forbidden 33,
      breaks := [['-']] }
    ((Lexicon.empty.add ⟨['a'], .ofList [83], [], []⟩).add ⟨['a', 's'], .ofList [33], [], []⟩)

theorem reachable_asDictionary : asDictionary.Reachable :=
  .ofParts (formed_ofRules_suffixRule _ _) (.add _ (.add _ .empty))

/-- The forbidden word `as` passes as a piece of `as-a`. -/
theorem acceptsIndirectly_as :
    asDictionary.prepare ['a', 's', '-', 'a'] ≠ [] ∧
      Text.isNumeric (asDictionary.prepare ['a', 's', '-', 'a']) = false ∧
        asDictionary.isForbidden ['a', 's'] ∧ asDictionary.AcceptsIndirectly ['a', 's'] := by
  have hp : asDictionary.prepare ['a', 's', '-', 'a'] ≠ [] := by decide +kernel
  have hn : Text.isNumeric (asDictionary.prepare ['a', 's', '-', 'a']) = false := by decide +kernel
  have hf : asDictionary.isForbidden ['a', 's'] := by decide +kernel
  obtain ⟨-, -, -, hpiece, -⟩ := breaksInto_allowed_iff reachable_asDictionary hp hn
  exact ⟨hp, hn, hf, (hpiece _ hf).1 (by decide +kernel)⟩

theorem breaks_dash {text : Text} {pieces : List Text} (h : Text.Breaks [['-']] text pieces) :
    ∃ left right, text = left ++ '-' :: right ∧ pieces = [left, right] := by
  cases h with
  | start anchored _ => simp at anchored
  | finish anchored _ _ =>
      have := congrArg List.getLast? (List.mem_singleton.1 anchored)
      simp at this
  | inside mem _ _ _ _ =>
      obtain rfl := List.mem_singleton.1 mem
      exact ⟨_, _, by simp, rfl⟩

/-- The word `as-a` is right, and yet every way of breaking it leaves the forbidden word `as`. -/
theorem not_breaksInto_allowed_as_a :
    asDictionary.Reachable ∧ asDictionary.prepare ['a', 's', '-', 'a'] = ['a', 's', '-', 'a'] ∧
      Text.isNumeric ['a', 's', '-', 'a'] = false ∧ asDictionary.check ['a', 's', '-', 'a'] ∧
        ¬asDictionary.BreaksInto (fun piece ↦ asDictionary.acceptsCased false piece ∧
          asDictionary.isForbidden piece = false) ['a', 's', '-', 'a'] := by
  refine ⟨reachable_asDictionary, by decide +kernel, by decide +kernel, by decide +kernel, ?_⟩
  rintro (⟨haccepts, -⟩ | ⟨hstep, hpieces⟩)
  · exact absurd haccepts (by decide +kernel)
  obtain ⟨left, right, htext, rfl⟩ := breaks_dash hstep
  obtain rfl : left = ['a', 's'] := by
    rcases left with _ | ⟨a, _ | ⟨b, _ | ⟨c, left⟩⟩⟩ <;> simp at htext
    · rw [htext.1, htext.2.1]
    · have hmem : '-' ∈ ['a'] := by simp [htext.2.2.2]
      simp at hmem
  rcases hpieces _ List.mem_cons_self with ⟨-, hfree⟩ | ⟨hstep, -⟩
  · exact absurd hfree (by decide +kernel)
  · obtain ⟨left, right, htext, -⟩ := breaks_dash hstep
    have hmem : '-' ∈ ['a', 's'] := by simp [htext]
    simp at hmem

end Dictionary
end Orthography
