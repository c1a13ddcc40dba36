import Mathlib.Logic.Basic
import Orthography.Derivation.Visit

/-!
# What a visitor is told

Whatever a visitor does with the derivations of a word, the search for them tells it the members of
one list, in their order, until it asks to stop.
-/

namespace Orthography

/-! ## Visits of lists -/

section Lists

variable {m : Type → Type} [Monad m] {α β : Type}

theorem orM_eq (x y : m Bool) :
    (x <||> y) = x >>= fun stopped ↦ if stopped then pure true else y := by
  unfold orM
  refine bind_congr fun stopped ↦ ?_
  cases stopped <;> rfl

theorem anyM_cons (found : α → m Bool) (a : α) (l : List α) :
    (a :: l).anyM found = (found a <||> l.anyM found) := by
  rw [List.anyM_cons, orM_eq]

theorem anyM_map (found : β → m Bool) (f : α → β) (l : List α) :
    (l.map f).anyM found = l.anyM fun a ↦ found (f a) := by
  induction l with
  | nil => rfl
  | cons a l ih => rw [List.map_cons, anyM_cons, anyM_cons, ih]

theorem anyM_ite_nil (found : α → m Bool) (p : Prop) [Decidable p] (l : LazyList α) :
    (if p then l else .nil).toList.anyM found = if p then l.toList.anyM found else pure false := by
  split <;> rfl

variable [LawfulMonad m]

theorem pure_false_orM (x : m Bool) : (pure false <||> x) = x := by
  simp [orM_eq]

theorem orM_assoc (x y z : m Bool) : ((x <||> y) <||> z) = (x <||> (y <||> z)) := by
  simp only [orM_eq, bind_assoc]
  refine bind_congr fun stopped ↦ ?_
  cases stopped <;> simp

theorem anyM_append (found : α → m Bool) (l l' : List α) :
    (l ++ l').anyM found = (l.anyM found <||> l'.anyM found) := by
  induction l with
  | nil => rw [List.nil_append, List.anyM_nil, pure_false_orM]
  | cons a l ih => rw [List.cons_append, anyM_cons, anyM_cons, ih, orM_assoc]

theorem anyM_flatMap (found : β → m Bool) (f : α → List β) (l : List α) :
    (l.flatMap f).anyM found = l.anyM fun a ↦ (f a).anyM found := by
  induction l with
  | nil => rfl
  | cons a l ih => rw [List.flatMap_cons, anyM_append, anyM_cons, ih]

theorem anyM_filter (found : α → m Bool) (p : α → Bool) (l : List α) :
    (l.filter p).anyM found = l.anyM fun a ↦ if p a then found a else pure false := by
  induction l with
  | nil => rfl
  | cons a l ih =>
      rw [List.filter_cons, anyM_cons, ← ih]
      split
      · rw [anyM_cons]
      · rw [pure_false_orM]

theorem anyM_filterMap (found : β → m Bool) (f : α → Option β) (l : List α) :
    (l.filterMap f).anyM found = l.anyM fun a ↦ (f a).elim (pure false) found := by
  induction l with
  | nil => rfl
  | cons a l ih =>
      rw [List.filterMap_cons, anyM_cons, ← ih]
      cases f a with
      | none => exact (pure_false_orM _).symm
      | some b => exact anyM_cons found b _

end Lists

/-! ## Visitors that keep what they are told -/

section Keeping

variable {α : Type}

theorem run_anyM_keepAll (kept l : List α) : (l.anyM keepAll).run kept = (false, kept ++ l) := by
  induction l generalizing kept with
  | nil => rw [List.append_nil]; rfl
  | cons a l ih =>
      rw [anyM_cons, orM_eq, StateT.run_bind, List.append_cons]
      exact ih (kept ++ [a])

/-- With room for more, the visitor asks to stop where it has been told as many as it wants. -/
theorem run_anyM_keepUpTo {n : Nat} {kept : List α} (h : kept.length < n) (l : List α) :
    (l.anyM (keepUpTo n)).run kept =
      (decide (n ≤ (kept ++ l).length), (kept ++ l).take n) := by
  induction l generalizing kept with
  | nil =>
      rw [List.append_nil, List.take_of_length_le (Nat.le_of_lt h), decide_eq_false (by omega)]
      rfl
  | cons a l ih =>
      have hstep : (keepUpTo n a).run kept = ((kept ++ [a]).length == n, kept ++ [a]) := rfl
      rw [anyM_cons, orM_eq, StateT.run_bind, hstep, List.append_cons kept a l]
      change StateT.run (if ((kept ++ [a]).length == n) = true then pure true else
        l.anyM (keepUpTo n)) (kept ++ [a]) = _
      have hlength : (kept ++ [a]).length = kept.length + 1 := by simp
      split
      · rename_i hfull
        rw [beq_iff_eq] at hfull
        rw [List.take_left' hfull, decide_eq_true (by rw [List.length_append]; omega)]
        rfl
      · rename_i hroom
        rw [beq_iff_eq] at hroom
        exact ih (by omega)

end Keeping

/-! ## Visits of indexes -/

section Indexes

variable {m : Type → Type} [Monad m] [LawfulMonad m] {α : Type}

theorem Branches.visitAlong_eq (found : α → m Bool) (branches : Branches α) (word : List UInt8) :
    branches.visitAlong found word = (branches.along word).anyM found := by
  induction branches generalizing word with
  | none => rfl
  | edge label here below beside ihBelow ihBeside =>
      cases word with
      | nil => rfl
      | cons b word =>
          rw [visitAlong, along]
          split
          · rw [ihBelow, anyM_append]
          · split
            · rfl
            · exact ihBeside (b :: word)

theorem Trie.visitAlong_eq (trie : Trie α) (word : List UInt8) (found : α → m Bool) :
    trie.visitAlong word found = (trie.along word).anyM found := by
  rw [visitAlong, along, anyM_append, Branches.visitAlong_eq]

theorem AffixTable.visitPrefixes_eq (table : AffixTable) (word : Text) (found : Slot → m Bool) :
    table.visitPrefixes word found = (table.prefixesOf word).anyM found := by
  rw [visitPrefixes, prefixesOf, prefixRefs, Trie.visitAlong_eq, anyM_filterMap]

theorem AffixTable.visitSuffixes_eq (table : AffixTable) (word : Text) (found : Slot → m Bool) :
    table.visitSuffixes word found = (table.suffixesOf word).anyM found := by
  rw [visitSuffixes, suffixesOf, suffixRefs, Trie.visitAlong_eq, anyM_filterMap]

theorem run'_orM {σ : Type} (x y : StateT σ m Bool) (s : σ) :
    (x <||> y).run' s = x.run s >>= fun result ↦
      if result.1 then pure true else y.run' result.2 := by
  rw [orM_eq, StateT.run'_eq, StateT.run_bind, map_bind]
  refine bind_congr fun result ↦ ?_
  split <;> simp

theorem Slot.run_visitUnshadowed (commits : Bool) (visit : m Bool) (slot : Slot)
    (committed : List Slot) :
    (slot.visitUnshadowed commits visit).run committed =
      if committed.any slot.sameEffect then pure (false, committed)
      else visit >>= fun stopped ↦
        pure (stopped, if commits then slot :: committed else committed) := by
  rw [visitUnshadowed, StateT.run_bind, StateT.run_get, pure_bind]
  cases committed.any slot.sameEffect with
  | true => simp
  | false => cases commits <;> simp

/-- What has been committed to is known to the visit alone, which tells what `unshadowed` leaves. -/
theorem Slot.run'_anyM_visitUnshadowed (fits commits : Slot → Bool) (visit : Slot → m Bool)
    (committed slots : List Slot) :
    (slots.anyM fun slot ↦ if fits slot then slot.visitUnshadowed (commits slot) (visit slot)
        else pure false : StateT (List Slot) m Bool).run' committed =
      (unshadowed commits committed (slots.filter fits)).anyM visit := by
  induction slots generalizing committed with
  | nil => exact map_pure _ _
  | cons slot slots ih =>
      rw [anyM_cons, List.filter_cons]
      by_cases hfits : fits slot
      · rw [if_pos hfits, if_pos hfits, unshadowed, run'_orM, run_visitUnshadowed]
        split
        · rw [pure_bind, if_neg Bool.false_ne_true, ih]
        · rw [bind_assoc, anyM_cons, orM_eq]
          refine bind_congr fun stopped ↦ ?_
          rw [pure_bind, ih]
      · rw [if_neg hfits, if_neg hfits, pure_false_orM, ih]

end Indexes

/-! ## Visits of derivations -/

theorem AffixTable.slots_of_isEmpty {table : AffixTable} (h : table.isEmpty) (word : Text) :
    table.prefixesOf word = [] ∧ table.suffixesOf word = [] := by
  rw [isEmpty, Bool.and_eq_true, List.isEmpty_iff, List.isEmpty_iff] at h
  rw [prefixesOf, suffixesOf, h.1, h.2, List.filterMap_eq_nil_iff, List.filterMap_eq_nil_iff]
  simp [Slot.at?]

namespace Dictionary

variable {m : Type → Type} [Monad m] [LawfulMonad m] (dictionary : Dictionary)
  (purpose : Purpose) (position : Position)

theorem visitRoots_eq (stem : Text) (carries : Entry → Bool) (derive : Entry → Derivation)
    (found : Derivation → m Bool) :
    dictionary.visitRoots purpose position stem carries derive found =
      (dictionary.fromRoots purpose position stem carries derive).toList.anyM found := by
  rw [visitRoots, fromRoots, LazyList.toList_ofList, anyM_filter, anyM_map, anyM_filter]
  simp only [Bool.and_eq_true, ite_and]

theorem visitTwiceSuffixed_eq (outer : AffixEntry) (word : Text)
    (found : Derivation → m Bool) :
    dictionary.visitTwiceSuffixed purpose position outer word found =
      (dictionary.twiceSuffixed purpose position outer word).toList.anyM found := by
  rw [visitTwiceSuffixed, twiceSuffixed, AffixTable.visitSuffixes_eq, LazyList.toList_flatMap,
    LazyList.toList_ofList, anyM_flatMap, anyM_filter]
  simp only [visitRoots_eq]

theorem visitSuffixed_eq (front : Option AffixEntry) (word : Text)
    (found : Derivation → m Bool) :
    dictionary.visitSuffixed purpose position front word found =
      (dictionary.suffixed purpose position front word).toList.anyM found := by
  rw [visitSuffixed, suffixed, AffixTable.visitSuffixes_eq, LazyList.toList_flatMap,
    LazyList.toList_ofList, anyM_flatMap, Slot.run'_anyM_visitUnshadowed]
  simp only [visitRoots_eq, visitTwiceSuffixed_eq, LazyList.toList_append, anyM_append,
    anyM_ite_nil]

theorem visitPrefixed_eq (word : Text) (found : Derivation → m Bool) :
    dictionary.visitPrefixed purpose position word found =
      (dictionary.prefixed purpose position word).toList.anyM found := by
  rw [visitPrefixed, prefixed, AffixTable.visitPrefixes_eq, LazyList.toList_flatMap,
    LazyList.toList_ofList, anyM_flatMap, Slot.run'_anyM_visitUnshadowed]
  simp only [visitRoots_eq, visitSuffixed_eq, LazyList.toList_append, anyM_append, anyM_ite_nil]

/-- Any visitor is told the members of `derivations` in their order, until it asks to stop. -/
theorem visitDerivations_eq (word : Text) (found : Derivation → m Bool) :
    dictionary.visitDerivations purpose position word found =
      (dictionary.derivations purpose position word).toList.anyM found := by
  rw [visitDerivations, derivations, bare, LazyList.toList_append, LazyList.toList_append,
    anyM_append, anyM_append, visitRoots_eq, visitSuffixed_eq, visitPrefixed_eq]
  split
  · rename_i hempty
    obtain ⟨hprefixes, hsuffixes⟩ := AffixTable.slots_of_isEmpty hempty word
    rw [suffixed, prefixed, hprefixes, hsuffixes]
    simp [Slot.unshadowed, pure_false_orM]
  · rfl

end Dictionary
end Orthography
