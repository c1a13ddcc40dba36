import Orthography.Compound.Visit
import Orthography.Proofs.Compound.DivisionSearch
import Orthography.Proofs.Derivation.Visit

/-!
# Stopping early

The search for divisions tells a visitor the members of one list, as the search for derivations
does, and each time it has exactly the parts of one division on its stack.  So a visitor that asks
to stop has been told the beginning of what it would be told otherwise.
-/

namespace Orthography

/-! ## Searches that restore a stack -/

section Restoring

variable {m : Type → Type} [Monad m] [LawfulMonad m] {σ α : Type} {stack : σ}
  {search search' : StateT σ m Bool} {result result' : m Bool}

omit [LawfulMonad m] in
theorem LazyList.anyM_eq (found : α → m Bool) (l : LazyList α) :
    l.anyM found = l.toList.anyM found := by
  induction l with
  | nil => rfl
  | cons a l ih => rw [anyM, toList_cons, anyM_cons, ih]

/-- From a stack on, a search comes to a result and leaves the stack as it was. -/
def Restores (stack : σ) (search : StateT σ m Bool) (result : m Bool) : Prop :=
  search.run stack = result >>= fun stopped ↦ pure (stopped, stack)

theorem restores_pure_false : Restores stack (pure false : StateT σ m Bool) (pure false) := by
  simp [Restores]

theorem Restores.ite {p : Prop} [Decidable p] (h : Restores stack search result) :
    Restores stack (if p then search else pure false) (if p then result else pure false) := by
  split
  · exact h
  · exact restores_pure_false

theorem Restores.orM (h : Restores stack search result) (h' : Restores stack search' result') :
    Restores stack (search <||> search') (result <||> result') := by
  rw [Restores, orM_eq, orM_eq, StateT.run_bind, h, bind_assoc, bind_assoc]
  refine bind_congr fun stopped ↦ ?_
  rw [pure_bind]
  cases stopped with
  | true => simp
  | false => exact h'

theorem Restores.anyM {l : List α} {visit : α → StateT σ m Bool} {told : α → m Bool}
    (h : ∀ a ∈ l, Restores stack (visit a) (told a)) :
    Restores stack (l.anyM visit) (l.anyM told) := by
  induction l with
  | nil => exact restores_pure_false
  | cons a l ih =>
      rw [List.forall_mem_cons] at h
      rw [anyM_cons, anyM_cons]
      exact h.1.orM (ih h.2)

theorem Restores.run'_eq (h : Restores stack search result) : search.run' stack = result := by
  rw [StateT.run'_eq, h]
  simp

end Restoring

/-! ## Visits of divisions -/

namespace Dictionary

section Visits

variable {m : Type → Type} [Monad m] [LawfulMonad m] (dictionary : Dictionary)
  (purpose : Purpose) (word : Text)

/-- A part is put behind the parts so far, and taken off when the search has gone on from there. -/
theorem restores_visitSegments {parts : List Segment} {onward : StateT (List Segment) m Bool}
    {told : Segment → m Bool} (h : ∀ part, Restores (parts ++ [part]) onward (told part))
    (position : Position) (via : Option CompoundPattern) (start stop : Nat) (text : Text) :
    Restores parts (dictionary.visitSegments purpose word position via start stop text onward)
      ((dictionary.segments purpose word parts.getLast? position via start stop text).toList.anyM
        told) := by
  rw [visitSegments, visitDerivations_eq, segments, LazyList.toList_map, LazyList.toList_filter,
    anyM_map, anyM_filter]
  apply Restores.anyM
  intro derivation _
  rw [Restores, StateT.run_bind, StateT.run_get, pure_bind]
  split
  · rw [StateT.run_bind, StateT.run_set, pure_bind, StateT.run_bind, h, bind_assoc]
    simp
  · simp

/-- Behind some parts, a visitor is told the stack of these parts and those of each way to divide
the rest. -/
theorem restores_visitDivisionsFrom (found : List Segment → m Bool) (parts : List Segment)
    (via : Option CompoundPattern) (start : Nat) (rest : Text) :
    Restores parts (dictionary.visitDivisionsFrom purpose word via start rest found)
      ((dictionary.divisionsFrom purpose word parts.length parts.getLast? via start
        rest).toList.anyM fun more ↦ found (parts ++ more)) := by
  induction hlength : rest.length using Nat.strongRecOn generalizing parts via start rest with
  | ind n ih =>
      rw [visitDivisionsFrom, divisionsFrom, Restores, StateT.run_bind, StateT.run_get, pure_bind]
      dsimp only
      by_cases hends : dictionary.settings.compoundMax.any (· ≤ parts.length) ||
          !dictionary.mayBegin (via.elim [] (·.beginning.chars) ++ rest)
      · rw [if_pos hends, if_pos hends]
        exact restores_pure_false
      · rw [if_neg hends, if_neg hends, LazyList.toList_append, anyM_append,
          LazyList.toList_flatMap, LazyList.toList_filter, anyM_flatMap, anyM_filter,
          LazyList.anyM_eq]
        apply Restores.orM
        · apply Restores.anyM
          intro cut _
          rw [LazyList.toList_flatMap, anyM_flatMap]
          simp only [decide_eq_true_eq, LazyList.toList_map, anyM_map]
          apply Restores.ite
          apply restores_visitSegments
          intro part
          have hrest := ih _ (hlength ▸ cut.shorter) (parts ++ [part]) cut.via
            (start + Text.byteSize cut.surface + Text.byteSize cut.gap) cut.after rfl
          simpa using hrest
        · rw [anyM_ite_nil, LazyList.toList_map, anyM_map]
          apply Restores.ite
          apply restores_visitSegments
          intro part
          simp [Restores]

/-- Any visitor is told the members of `divisions` in their order, until it asks to stop. -/
theorem visitDivisions_eq (found : List Segment → m Bool) :
    dictionary.visitDivisions purpose word found =
      (dictionary.divisions purpose word).toList.anyM found := by
  rw [visitDivisions, divisions]
  split
  · exact (dictionary.restores_visitDivisionsFrom purpose word found [] none 0 word).run'_eq
  · rfl

end Visits

/-! ## Visitors that ask to stop -/

/-- All derivations that a visitor is told that never asks to stop. -/
def toldDerivations (dictionary : Dictionary) (purpose : Purpose) (position : Position)
    (word : Text) : List Derivation :=
  ((dictionary.visitDerivations purpose position word keepAll).run []).2

/-- All stacks of parts that a visitor is told that never asks to stop. -/
def toldDivisions (dictionary : Dictionary) (purpose : Purpose) (word : Text) :
    List (List Segment) :=
  ((dictionary.visitDivisions purpose word keepAll).run []).2

variable (dictionary : Dictionary) (purpose : Purpose) (position : Position) (word : Text)

theorem toldDerivations_eq :
    dictionary.toldDerivations purpose position word =
      (dictionary.derivations purpose position word).toList := by
  rw [toldDerivations, visitDerivations_eq, run_anyM_keepAll, List.nil_append]

theorem toldDivisions_eq :
    dictionary.toldDivisions purpose word = (dictionary.divisions purpose word).toList := by
  rw [toldDivisions, visitDivisions_eq, run_anyM_keepAll, List.nil_append]

/-- Every visitor is told the members of one list until it asks to stop, and learns whether it has
done so.  The stacks of parts that it is told are the divisions of the word. -/
theorem stopping_truncates :
    (∀ position n,
      (dictionary.visitDerivations purpose position word (keepUpTo (n + 1))).run [] =
        (decide (n + 1 ≤ (dictionary.toldDerivations purpose position word).length),
          (dictionary.toldDerivations purpose position word).take (n + 1))) ∧
    (∀ n, (dictionary.visitDivisions purpose word (keepUpTo (n + 1))).run [] =
      (decide (n + 1 ≤ (dictionary.toldDivisions purpose word).length),
        (dictionary.toldDivisions purpose word).take (n + 1))) ∧
    (∀ position (σ : Type) (found : Derivation → StateM σ Bool),
      dictionary.visitDerivations purpose position word found =
        (dictionary.toldDerivations purpose position word).anyM found) ∧
    (∀ (σ : Type) (found : List Segment → StateM σ Bool),
      dictionary.visitDivisions purpose word found =
        (dictionary.toldDivisions purpose word).anyM found) ∧
    (∀ position, dictionary.accepts purpose position word ↔
      dictionary.toldDerivations purpose position word ≠ []) ∧
    dictionary.reduce? purpose word =
      (dictionary.toldDerivations purpose .alone word).head?.map (·.root) ∧
    ∀ parts ∈ dictionary.toldDivisions purpose word, dictionary.IsDivision purpose word parts := by
  simp only [toldDerivations_eq, toldDivisions_eq]
  refine ⟨fun position n ↦ ?_, fun n ↦ ?_, fun position σ found ↦ ?_, fun σ found ↦ ?_,
    fun position ↦ ?_, ?_, fun parts hparts ↦ ?_⟩
  · rw [visitDerivations_eq]
    exact run_anyM_keepUpTo (Nat.succ_pos n) _
  · rw [visitDivisions_eq]
    exact run_anyM_keepUpTo (Nat.succ_pos n) _
  · exact visitDerivations_eq dictionary purpose position word found
  · exact visitDivisions_eq dictionary purpose word found
  · rw [accepts, LazyList.isEmpty_eq, Bool.not_eq_true', List.isEmpty_eq_false_iff]
  · rw [reduce?, LazyList.head?_eq]
  · exact (mem_divisions_iff.1 hparts).2.1

/-- The letters of `foobar` can be divided behind `foo` and behind `foob`. -/
def foobarTwice : Dictionary :=
  ofParts { roles := Roles.none.declare .compoundFlag 88, compoundMin := 2 }
    (["foo", "bar", "foob", "ar"].foldl
      (fun lexicon stem ↦ lexicon.add ⟨stem.toList, .ofList [88], [], []⟩) .empty)

theorem stopping_truncates_foobar :
    let told := foobarTwice.toldDivisions {} "foobar".toList
    told.map (·.map (·.text)) = [["foo".toList, "bar".toList], ["foob".toList, "ar".toList]] ∧
      (foobarTwice.visitDivisions {} "foobar".toList (keepUpTo 1)).run [] = (true, told.take 1) ∧
        (foobarTwice.visitDivisions {} "foobar".toList (keepUpTo 3)).run [] = (false, told) ∧
          ∃ parts ∈ told, foobarTwice.IsDivision {} "foobar".toList parts := by
  have htexts : (foobarTwice.toldDivisions {} "foobar".toList).map (·.map (·.text)) =
      [["foo".toList, "bar".toList], ["foob".toList, "ar".toList]] := by
    rw [toldDivisions_eq]
    decide +kernel
  have hlength : (foobarTwice.toldDivisions {} "foobar".toList).length = 2 := by
    rw [← List.length_map, htexts]
    rfl
  obtain ⟨-, hstops, -, -, -, -, hdivision⟩ := stopping_truncates foobarTwice {} "foobar".toList
  refine ⟨htexts, ?_, ?_, _, List.getElem_mem (by omega : 0 < _), hdivision _ (List.getElem_mem _)⟩
  · rw [hstops 0, hlength]
    rfl
  · rw [hstops 2, List.take_of_length_le (Nat.le_of_lt (by omega)), hlength]
    rfl

end Dictionary
end Orthography
