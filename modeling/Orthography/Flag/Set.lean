import Orthography.Flag.Basic

/-!
# Sets of flags

A set is kept as its strictly ascending list, so two sets with the same members are equal.
-/

namespace Orthography

/-- Inserts a number into an ascending list, unless it is there already. -/
def insertAscending (n : Nat) : List Nat → List Nat
  | [] => [n]
  | f :: fs =>
      if n < f then n :: f :: fs
      else if n = f then f :: fs
      else f :: insertAscending n fs

theorem mem_insertAscending {n g : Nat} {fs : List Nat} :
    g ∈ insertAscending n fs ↔ g = n ∨ g ∈ fs := by
  induction fs with
  | nil => simp [insertAscending]
  | cons f fs ih =>
      simp only [insertAscending]
      split
      · simp
      · split
        · rename_i h
          simp [h]
        · simp only [List.mem_cons, ih]
          exact or_left_comm

theorem pairwise_insertAscending {n : Nat} {fs : List Nat} (h : fs.Pairwise (· < ·)) :
    (insertAscending n fs).Pairwise (· < ·) := by
  induction fs with
  | nil => simp [insertAscending]
  | cons f fs ih =>
      obtain ⟨hf, hfs⟩ := List.pairwise_cons.1 h
      simp only [insertAscending]
      split
      · rename_i hlt
        refine List.pairwise_cons.2 ⟨fun g hg ↦ ?_, h⟩
        rcases List.mem_cons.1 hg with rfl | hg
        · exact hlt
        · exact Nat.lt_trans hlt (hf g hg)
      · split
        · exact h
        · refine List.pairwise_cons.2 ⟨fun g hg ↦ ?_, ih hfs⟩
          rcases mem_insertAscending.1 hg with rfl | hg
          · omega
          · exact hf g hg

/-- Looks for a number in an ascending list by halving the list.  There are as many steps as the
list has members, which is more than are taken. -/
def searchAscending (n : Nat) : (steps : Nat) → List Nat → Bool
  | 0, _ => false
  | steps + 1, fs =>
      match fs.drop (fs.length / 2) with
      | [] => false
      | f :: above =>
          if n = f then true
          else if n < f then searchAscending n steps (fs.take (fs.length / 2))
          else searchAscending n steps above

/-- What is less than the middle is not above it, and what is greater is not below it. -/
theorem searchAscending_iff {n steps : Nat} {fs : List Nat} (h : fs.Pairwise (· < ·))
    (hsteps : fs.length ≤ steps) : searchAscending n steps fs ↔ n ∈ fs := by
  induction steps generalizing fs with
  | zero =>
      obtain rfl := List.length_eq_zero_iff.1 (Nat.le_zero.1 hsteps)
      simp [searchAscending]
  | succ steps ih =>
      rw [searchAscending]
      split
      · rename_i hdrop
        have hle : fs.length ≤ fs.length / 2 := List.drop_eq_nil_iff.1 hdrop
        obtain rfl := List.length_eq_zero_iff.1 (show fs.length = 0 by omega)
        simp
      · rename_i f above hdrop
        have hsplit : fs = fs.take (fs.length / 2) ++ f :: above := by
          rw [← hdrop, List.take_append_drop]
        have hlength : fs.length = min (fs.length / 2) fs.length + (above.length + 1) := by
          rw [← List.length_take, ← List.length_cons, ← List.length_append, ← hsplit]
        have hmem : n ∈ fs ↔ n ∈ fs.take (fs.length / 2) ∨ n = f ∨ n ∈ above := by
          rw [← List.mem_cons, ← List.mem_append, ← hsplit]
        rw [hsplit, List.pairwise_append, List.pairwise_cons] at h
        obtain ⟨hbelow, ⟨hgreater, habove⟩, hless⟩ := h
        rw [hmem]
        split
        · rename_i heq
          simp [heq]
        · split
          · rename_i hne hlt
            rw [ih hbelow (by rw [List.length_take]; omega)]
            have hnot : n ∉ above := fun hn ↦ Nat.lt_asymm hlt (hgreater n hn)
            simp [hne, hnot]
          · rename_i hne hge
            rw [ih habove (by omega)]
            have hnot : n ∉ fs.take (fs.length / 2) :=
              fun hn ↦ hge (hless n hn f List.mem_cons_self)
            simp [hne, hnot]

structure FlagSet where
  toList : List Flag
  ascending : toList.Pairwise (· < ·)
  deriving DecidableEq, Repr

namespace FlagSet

def empty : FlagSet := ⟨[], .nil⟩

def insert (set : FlagSet) (flag : Flag) : FlagSet :=
  ⟨insertAscending flag set.toList, pairwise_insertAscending set.ascending⟩

def ofList (flags : List Flag) : FlagSet := flags.foldr (fun f set ↦ set.insert f) empty

def parse (mode : FlagMode) (text : Text) : Except Problem FlagSet :=
  (mode.parse text).map ofList

def contains (set : FlagSet) (flag : Flag) : Bool :=
  searchAscending flag set.toList.length set.toList

/-- A flag that is not declared is in no set. -/
def containsOpt (set : FlagSet) : Option Flag → Bool
  | none => false
  | some flag => set.contains flag

def isSubset (a b : FlagSet) : Bool := a.toList.all b.contains

def union (a b : FlagSet) : FlagSet := a.toList.foldr (fun f set ↦ set.insert f) b

def isEmpty (set : FlagSet) : Bool := set.toList.isEmpty

def size (set : FlagSet) : Nat := set.toList.length

/-- The search finds what is there because the list is ascending. -/
theorem contains_iff_mem {set : FlagSet} {flag : Flag} : set.contains flag ↔ flag ∈ set.toList :=
  searchAscending_iff set.ascending (Nat.le_refl _)

theorem contains_eq_contains_toList (set : FlagSet) (flag : Flag) :
    set.contains flag = set.toList.contains flag := by
  rw [Bool.eq_iff_iff, contains_iff_mem, List.contains_iff_mem]

@[simp] theorem contains_empty (flag : Flag) : empty.contains flag = false := rfl

@[simp] theorem contains_insert (set : FlagSet) (f g : Flag) :
    (set.insert f).contains g = (g == f || set.contains g) := by
  rw [Bool.eq_iff_iff, Bool.or_eq_true, beq_iff_eq, contains_iff_mem, contains_iff_mem]
  exact mem_insertAscending

theorem contains_ofList (flags : List Flag) (f : Flag) :
    (ofList flags).contains f = flags.contains f := by
  induction flags with
  | nil => rfl
  | cons g flags ih =>
      change ((ofList flags).insert g).contains f = _
      rw [contains_insert, ih, List.contains_cons]

theorem contains_union (a b : FlagSet) (f : Flag) :
    (a.union b).contains f = (a.contains f || b.contains f) := by
  have key (fs : List Flag) : (fs.foldr (fun f set ↦ set.insert f) b).contains f =
      (fs.contains f || b.contains f) := by
    induction fs with
    | nil => rfl
    | cons g fs ih => rw [List.foldr_cons, contains_insert, ih, List.contains_cons, Bool.or_assoc]
  rw [contains_eq_contains_toList a]
  exact key a.toList

end FlagSet
end Orthography
