import Orthography.Dictionary.Check

/-!
# Breaking words into pieces

The search by counted attempts finds exactly the words that some tree of breakings takes to pieces
that are accepted, as long as it stays within its limit.
-/

namespace Orthography

/-! ## Breakings -/

/-- The pieces into which one of some break texts breaks a text. -/
inductive Text.Breaks (breaks : List Text) : Text → List Text → Prop
  | start {head rest : Text} (anchored : '^' :: head ∈ breaks) (kept : rest ≠ []) :
      Breaks breaks (head ++ rest) [rest]
  | finish {rest tail : Text} (anchored : tail ++ ['$'] ∈ breaks)
      (free : (tail ++ ['$']).head? ≠ some '^') (kept : rest ≠ []) :
      Breaks breaks (rest ++ tail) [rest]
  | inside {left brk right : Text} (mem : brk ∈ breaks) (freeStart : brk.head? ≠ some '^')
      (freeEnd : brk.getLast? ≠ some '$') (keptLeft : left ≠ []) (keptRight : right ≠ []) :
      Breaks breaks (left ++ brk ++ right) [left, right]

namespace Text

variable {breaks : List Text} {text : Text} {pieces : List Text}

theorem after?_caret_isSome {brk : Text} : (after? ['^'] brk).isSome ↔ brk.head? = some '^' := by
  simp only [Option.isSome_iff_exists, after?_eq_some_iff, List.singleton_append]
  constructor
  · rintro ⟨rest, rfl⟩
    rfl
  · intro h
    obtain ⟨rest, rfl⟩ := List.head?_eq_some_iff.1 h
    exact ⟨rest, rfl⟩

theorem before?_dollar_isSome {brk : Text} :
    (before? ['$'] brk).isSome ↔ brk.getLast? = some '$' := by
  simp only [Option.isSome_iff_exists, before?_eq_some_iff, List.getLast?_eq_some_iff]

theorem breaks_of_anchoredPieces? {brk : Text} (hmem : brk ∈ breaks)
    (h : anchoredPieces? text brk = some pieces) (hkept : ∀ piece ∈ pieces, piece ≠ []) :
    Breaks breaks text pieces := by
  simp only [anchoredPieces?] at h
  split at h
  · rename_i head hhead
    obtain rfl := after?_eq_some_iff.1 hhead
    obtain ⟨rest, hrest, rfl⟩ := Option.map_eq_some_iff.1 h
    obtain rfl := after?_eq_some_iff.1 hrest
    exact .start hmem (hkept rest (List.mem_singleton_self rest))
  · rename_i hcaret
    have hfree : brk.head? ≠ some '^' := by
      intro h
      rw [← after?_caret_isSome, hcaret] at h
      cases h
    split at h
    · rename_i tail htail
      obtain rfl := before?_eq_some_iff.1 htail
      obtain ⟨rest, hrest, rfl⟩ := Option.map_eq_some_iff.1 h
      obtain rfl := before?_eq_some_iff.1 hrest
      exact .finish hmem hfree (hkept rest (List.mem_singleton_self rest))
    · cases h

theorem breaks_of_splitPieces? {brk : Text} (hmem : brk ∈ breaks)
    (h : splitPieces? text brk = some pieces) (hkept : ∀ piece ∈ pieces, piece ≠ []) :
    Breaks breaks text pieces := by
  simp only [splitPieces?] at h
  split at h
  · cases h
  · rename_i hfree
    simp only [Bool.or_eq_true, after?_caret_isSome, before?_dollar_isSome, not_or] at hfree
    obtain ⟨⟨left, right⟩, hsplit, rfl⟩ := Option.map_eq_some_iff.1 h
    obtain rfl := eq_append_of_splitOnce? hsplit
    exact .inside hmem hfree.1 hfree.2 (hkept left (by simp)) (hkept right (by simp))

theorem breaks_of_mem_breakings (h : pieces ∈ breakings breaks text) :
    Breaks breaks text pieces := by
  obtain ⟨hmem, hkept⟩ := List.mem_filter.1 h
  have hkept : ∀ piece ∈ pieces, piece ≠ [] := by simpa using hkept
  rcases List.mem_append.1 hmem with hmem | hmem
  · obtain ⟨brk, hbrk, hpieces⟩ := List.mem_filterMap.1 hmem
    exact breaks_of_anchoredPieces? hbrk hpieces hkept
  · obtain ⟨brk, hbrk, hpieces⟩ := List.mem_filterMap.1 hmem
    exact breaks_of_splitPieces? hbrk hpieces hkept

end Text

/-- A finite tree takes a text to pieces by steps of one kind, and each leaf is as asked. -/
inductive BreakTree (step : Text → List Text → Prop) (good : Text → Prop) : Text → Prop
  | leaf {text : Text} (h : good text) : BreakTree step good text
  | node {text : Text} {pieces : List Text} (h : step text pieces)
      (hpieces : ∀ piece ∈ pieces, BreakTree step good piece) : BreakTree step good text

theorem BreakTree.mono {step step' : Text → List Text → Prop} {good good' : Text → Prop}
    {text : Text} (hstep : ∀ text pieces, step text pieces → step' text pieces)
    (hgood : ∀ text, good text → good' text) (h : BreakTree step good text) :
    BreakTree step' good' text := by
  induction h with
  | leaf h => exact .leaf (hgood _ h)
  | node h _ ih => exact .node (hstep _ _ h) ih

/-! ## Attempts -/

section Attempts

variable {f : Text → Nat → Bool × Nat} {pieces : List Text} {options : List (List Text)}
  {count limit : Nat}

theorem exists_of_tryAll (h : (tryAll f pieces count).1) :
    ∀ piece ∈ pieces, ∃ n, (f piece n).1 := by
  induction pieces generalizing count with
  | nil => simp
  | cons first pieces ih =>
      simp only [tryAll] at h
      split at h
      · rename_i n hfirst
        intro piece hpiece
        rcases List.mem_cons.1 hpiece with rfl | hpiece
        · exact ⟨count, by rw [hfirst]⟩
        · exact ih h piece hpiece
      · cases h

theorem exists_of_tryAny (h : (tryAny f options count).1) :
    ∃ pieces ∈ options, ∃ n, (tryAll f pieces n).1 := by
  induction options generalizing count with
  | nil => cases h
  | cons first options ih =>
      simp only [tryAny] at h
      split at h
      · rename_i n hfirst
        exact ⟨first, List.mem_cons_self, count, by rw [hfirst]⟩
      · obtain ⟨pieces, hpieces, hn⟩ := ih h
        exact ⟨pieces, List.mem_cons_of_mem _ hpieces, hn⟩

variable (hcount : ∀ piece n, n ≤ (f piece n).2)
include hcount

theorem le_tryAll : count ≤ (tryAll f pieces count).2 := by
  induction pieces generalizing count with
  | nil => exact Nat.le_refl _
  | cons first pieces ih =>
      have hfirst := hcount first count
      simp only [tryAll]
      split <;> rename_i n hn <;> rw [hn] at hfirst
      · exact Nat.le_trans hfirst ih
      · exact hfirst

theorem le_tryAny : count ≤ (tryAny f options count).2 := by
  induction options generalizing count with
  | nil => exact Nat.le_refl _
  | cons first options ih =>
      have hfirst : count ≤ (tryAll f first count).2 := le_tryAll hcount
      simp only [tryAny]
      split <;> rename_i n hn <;> rw [hn] at hfirst
      · exact hfirst
      · exact Nat.le_trans hfirst ih

/-- If each piece is accepted by attempts that stay within a limit, so are all of them together. -/
theorem tryAll_of_forall
    (h : ∀ piece ∈ pieces, ∀ n, count ≤ n → (f piece n).2 ≤ limit → (f piece n).1)
    (hlimit : (tryAll f pieces count).2 ≤ limit) : (tryAll f pieces count).1 := by
  induction pieces generalizing count with
  | nil => rfl
  | cons first pieces ih =>
      have hfirst := h first List.mem_cons_self count (Nat.le_refl _)
      have hle := hcount first count
      simp only [tryAll] at hlimit ⊢
      split at hlimit <;> rename_i n hn <;> rw [hn] at hfirst hle
      · refine ih (fun piece hpiece m hm ↦ ?_) hlimit
        exact h piece (List.mem_cons_of_mem _ hpiece) m (by omega)
      · exact hfirst hlimit

theorem tryAny_of_mem (hmem : pieces ∈ options)
    (h : ∀ piece ∈ pieces, ∀ n, count ≤ n → (f piece n).2 ≤ limit → (f piece n).1)
    (hlimit : (tryAny f options count).2 ≤ limit) : (tryAny f options count).1 := by
  induction options generalizing count with
  | nil => cases hmem
  | cons first options ih =>
      have hle : count ≤ (tryAll f first count).2 := le_tryAll hcount
      simp only [tryAny] at hlimit ⊢
      split at hlimit
      · rfl
      · rename_i n hn
        rw [hn] at hle
        have hrest : n ≤ (tryAny f options n).2 := le_tryAny hcount
        rcases List.mem_cons.1 hmem with rfl | hmem
        · -- The count only grows from here on, so this list cannot have failed.
          have hfirst := tryAll_of_forall hcount h (by rw [hn]; exact Nat.le_trans hrest hlimit)
          rw [hn] at hfirst
          cases hfirst
        · exact ih hmem (fun piece hpiece m hm ↦ h piece hpiece m (by omega)) hlimit

/-- Counts that agree up to a limit stay so through all attempts. -/
theorem tryAll_min {g : Text → Nat → Bool × Nat}
    (h : ∀ piece n, count ≤ n → g piece (min n limit) = ((f piece n).1, min (f piece n).2 limit)) :
    tryAll g pieces (min count limit) =
      ((tryAll f pieces count).1, min (tryAll f pieces count).2 limit) := by
  induction pieces generalizing count with
  | nil => rfl
  | cons first pieces ih =>
      have hle := hcount first count
      simp only [tryAll]
      rw [h first count (Nat.le_refl _)]
      rcases hn : f first count with ⟨accepted, n⟩
      rw [hn] at hle
      cases accepted with
      | false => rfl
      | true => exact ih fun piece m hm ↦ h piece m (Nat.le_trans hle hm)

theorem tryAny_min {g : Text → Nat → Bool × Nat}
    (h : ∀ piece n, count ≤ n → g piece (min n limit) = ((f piece n).1, min (f piece n).2 limit)) :
    tryAny g options (min count limit) =
      ((tryAny f options count).1, min (tryAny f options count).2 limit) := by
  induction options generalizing count with
  | nil => rfl
  | cons first options ih =>
      have hle : count ≤ (tryAll f first count).2 := le_tryAll hcount
      simp only [tryAny]
      rw [tryAll_min hcount h]
      rcases hn : tryAll f first count with ⟨accepted, n⟩
      rw [hn] at hle
      cases accepted with
      | false => exact ih fun piece m hm ↦ h piece m (Nat.le_trans hle hm)
      | true => rfl

end Attempts

section Attempt

variable {accepts : Text → Bool} {breaks : List Text} {fuel count : Nat} {word : Text}

theorem le_attempt : count ≤ (attempt accepts breaks fuel word count).2 := by
  induction fuel generalizing word count with
  | zero => exact Nat.le_refl _
  | succ fuel ih =>
      simp only [attempt]
      split
      · exact Nat.le_refl _
      split
      · exact Nat.le_succ _
      · exact Nat.le_of_succ_le (le_tryAny fun _ _ ↦ ih)

/-- A word that passes an attempt breaks into pieces that are accepted. -/
theorem breakTree_of_attempt (h : (attempt accepts breaks fuel word count).1) :
    BreakTree (fun text pieces ↦ pieces ∈ Text.breakings breaks text) (fun text ↦ accepts text)
      word := by
  induction fuel generalizing word count with
  | zero => cases h
  | succ fuel ih =>
      simp only [attempt] at h
      split at h
      · cases h
      split at h
      · rename_i haccepts
        exact .leaf haccepts
      · obtain ⟨pieces, hpieces, n, hall⟩ := exists_of_tryAny h
        refine .node hpieces fun piece hpiece ↦ ?_
        obtain ⟨m, hm⟩ := exists_of_tryAll hall piece hpiece
        exact ih hm

/-! ## Attempts beyond the limit -/

/-- The same search with all attempts counted, those that fail for the limit among them. -/
def countedAttempt (accepts : Text → Bool) (breaks : List Text) :
    (fuel : Nat) → Text → Nat → Bool × Nat
  | 0, _, count => (false, count + 1)
  | fuel + 1, word, count =>
      if maxBreakAttempts < count then (false, count + 1)
      else if accepts word then (true, count + 1)
      else tryAny (countedAttempt accepts breaks fuel) (Text.breakings breaks word) (count + 1)

theorem lt_countedAttempt : count < (countedAttempt accepts breaks fuel word count).2 := by
  induction fuel generalizing word count with
  | zero => exact Nat.lt_succ_self _
  | succ fuel ih =>
      simp only [countedAttempt]
      split
      · exact Nat.lt_succ_self _
      split
      · exact Nat.lt_succ_self _
      · exact le_tryAny fun _ _ ↦ Nat.le_of_lt ih

/-- Counting all attempts changes nothing but the count, and that only above the limit. -/
theorem attempt_eq_countedAttempt (hfuel : maxBreakAttempts < fuel + count) :
    attempt accepts breaks fuel word (min count (maxBreakAttempts + 1)) =
      ((countedAttempt accepts breaks fuel word count).1,
        min (countedAttempt accepts breaks fuel word count).2 (maxBreakAttempts + 1)) := by
  induction fuel generalizing word count with
  | zero =>
      rw [Nat.min_eq_right (by omega)]
      simp only [attempt, countedAttempt]
      rw [Nat.min_eq_right (by omega)]
  | succ fuel ih =>
      simp only [attempt, countedAttempt]
      by_cases hlimit : maxBreakAttempts < count
      · rw [Nat.min_eq_right (by omega), if_pos (Nat.lt_succ_self _), if_pos hlimit,
          Nat.min_eq_right (by omega)]
      have hnext : min (count + 1) (maxBreakAttempts + 1) = count + 1 := by omega
      rw [Nat.min_eq_left (by omega), if_neg hlimit, if_neg hlimit]
      split
      · rw [hnext]
      · have hrest : tryAny (attempt accepts breaks fuel) (Text.breakings breaks word)
            (min (count + 1) (maxBreakAttempts + 1)) = _ :=
          tryAny_min (fun _ _ ↦ Nat.le_of_lt lt_countedAttempt) fun piece n hn ↦ ih (by omega)
        rwa [hnext] at hrest

/-- A word that breaks into pieces that are accepted passes an attempt, if none is made beyond the
limit. -/
theorem countedAttempt_of_breakTree
    (h : BreakTree (fun text pieces ↦ pieces ∈ Text.breakings breaks text)
      (fun text ↦ accepts text) word) (hfuel : maxBreakAttempts < fuel + count)
    (hlimit : (countedAttempt accepts breaks fuel word count).2 ≤ maxBreakAttempts + 1) :
    (countedAttempt accepts breaks fuel word count).1 := by
  have hcount : count ≤ maxBreakAttempts :=
    Nat.le_of_lt_succ (Nat.lt_of_lt_of_le lt_countedAttempt hlimit)
  induction h generalizing fuel count with
  | leaf haccepts =>
      obtain ⟨fuel, rfl⟩ := Nat.exists_eq_succ_of_ne_zero (n := fuel) (by omega)
      simp [countedAttempt, Nat.not_lt.2 hcount, haccepts]
  | node hpieces _ ih =>
      obtain ⟨fuel, rfl⟩ := Nat.exists_eq_succ_of_ne_zero (n := fuel) (by omega)
      simp only [countedAttempt, Nat.not_lt.2 hcount, if_false] at hlimit ⊢
      split at hlimit <;> rename_i haccepts
      · rw [if_pos haccepts]
      · rw [if_neg haccepts]
        refine tryAny_of_mem (fun _ _ ↦ Nat.le_of_lt lt_countedAttempt) hpieces
          (fun piece hpiece n hn hle ↦ ?_) hlimit
        exact ih piece hpiece (by omega) hle
          (Nat.le_of_lt_succ (Nat.lt_of_lt_of_le lt_countedAttempt hle))

/-- A word that breaks into pieces that are accepted passes an attempt that stays within the
limit. -/
theorem attempt_of_breakTree
    (h : BreakTree (fun text pieces ↦ pieces ∈ Text.breakings breaks text)
      (fun text ↦ accepts text) word) (hfuel : maxBreakAttempts < fuel + count)
    (hlimit : (attempt accepts breaks fuel word count).2 ≤ maxBreakAttempts) :
    (attempt accepts breaks fuel word count).1 := by
  have hcount : count ≤ maxBreakAttempts := Nat.le_trans le_attempt hlimit
  have heq : attempt accepts breaks fuel word (min count (maxBreakAttempts + 1)) = _ :=
    attempt_eq_countedAttempt hfuel
  rw [Nat.min_eq_left (Nat.le_succ_of_le hcount)] at heq
  rw [heq] at hlimit ⊢
  exact countedAttempt_of_breakTree h hfuel (by omega)

end Attempt

namespace Dictionary

variable {dictionary : Dictionary} {suggesting : Bool} {word : Text}

/-- A word is accepted by breaking it, when the attempt at the whole has failed. -/
def acceptsInPieces (dictionary : Dictionary) (suggesting : Bool) (word : Text) : Bool :=
  (tryAny (attempt (dictionary.acceptsCased suggesting) dictionary.settings.breaks maxBreakAttempts)
    (Text.breakings dictionary.settings.breaks word) 1).1

theorem acceptsBroken_iff :
    dictionary.acceptsBroken suggesting word ↔
      dictionary.acceptsCased suggesting word ∨ dictionary.acceptsInPieces suggesting word := by
  rw [acceptsBroken, attempts, attempt, if_neg (Nat.not_lt_zero _)]
  split <;> rename_i haccepts
  · simp [haccepts]
  · simp [haccepts, acceptsInPieces]

/-- The search for ways of breaking a word makes no attempt beyond the limit. -/
def KeepsLimit (dictionary : Dictionary) (suggesting : Bool) (word : Text) : Prop :=
  (countedAttempt (dictionary.acceptsCased suggesting) dictionary.settings.breaks
    (maxBreakAttempts + 1) word 0).2 ≤ maxBreakAttempts + 1

theorem attempts_eq_countedAttempt :
    dictionary.attempts suggesting word 0 =
      let counted := countedAttempt (dictionary.acceptsCased suggesting) dictionary.settings.breaks
        (maxBreakAttempts + 1) word 0
      (counted.1, min counted.2 (maxBreakAttempts + 1)) := by
  have hfuel : maxBreakAttempts < maxBreakAttempts + 1 + 0 := Nat.lt_succ_self _
  have heq : dictionary.attempts suggesting word (min 0 (maxBreakAttempts + 1)) = _ :=
    attempt_eq_countedAttempt hfuel
  rwa [Nat.zero_min] at heq

theorem keepsLimit_of_attempts_le
    (h : (dictionary.attempts suggesting word 0).2 ≤ maxBreakAttempts) :
    dictionary.KeepsLimit suggesting word := by
  rw [attempts_eq_countedAttempt] at h
  dsimp only at h
  rw [KeepsLimit]
  omega

theorem acceptsBroken_of_breakTree
    (h : BreakTree (fun text pieces ↦ pieces ∈ Text.breakings dictionary.settings.breaks text)
      (fun text ↦ dictionary.acceptsCased suggesting text) word)
    (hlimit : dictionary.KeepsLimit suggesting word) :
    dictionary.acceptsBroken suggesting word := by
  rw [acceptsBroken, attempts_eq_countedAttempt]
  exact countedAttempt_of_breakTree h (Nat.lt_succ_self _) hlimit

/-- If a word is to be searched for at all, the search makes no attempt beyond the limit. -/
def CheckKeepsLimit (dictionary : Dictionary) (word : Text) : Prop :=
  let whole := dictionary.prepare word
  whole ≠ [] → Text.isNumeric whole = false → dictionary.isForbidden whole = false →
    dictionary.KeepsLimit false whole

end Dictionary
end Orthography
