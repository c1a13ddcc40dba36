import Mathlib.Data.List.Infix
import Orthography.Affix.Trie

/-!
# What a walk along a trie meets

The edges of every node are sorted by their labels, which insertion keeps so and the search for an
edge rests on.  The values under each key are told by `Trie.under`.  Insertion changes them at one
key, and a walk along a word collects them from the beginnings of the word, the shortest one first.
-/

namespace Orthography

variable {α : Type}

namespace Branches

def labels : Branches α → List UInt8
  | none => []
  | edge label _ _ beside => label :: beside.labels

/-- The labels increase from edge to edge, at this node and at all nodes below. -/
def Sorted : Branches α → Prop
  | none => True
  | edge label _ below beside =>
      below.Sorted ∧ beside.Sorted ∧ ∀ other ∈ beside.labels, label < other

/-- The values under the key `c :: key`, wherever among the edges they are. -/
def under : Branches α → UInt8 → List UInt8 → List α
  | none, _, _ => []
  | edge label here below beside, c, key =>
      if c = label then
        match key with
        | [] => here
        | d :: key => below.under d key
      else beside.under c key

theorem under_eq_nil {b : Branches α} {c : UInt8} (h : c ∉ b.labels) (key : List UInt8) :
    b.under c key = [] := by
  induction b with
  | none => rfl
  | edge label here below beside _ ihBeside =>
      obtain ⟨hlabel, hbeside⟩ := List.ne_and_not_mem_of_not_mem_cons h
      simp [under, hlabel, ihBeside hbeside]

theorem sorted_none : (none : Branches α).Sorted := trivial

theorem not_mem_labels_of_lt {b : Branches α} {c : UInt8} (h : ∀ other ∈ b.labels, c < other) :
    c ∉ b.labels :=
  fun hmem ↦ UInt8.lt_irrefl c (h c hmem)

theorem Sorted.lt_labels {label c : UInt8} {here : List α} {below beside : Branches α}
    (h : (edge label here below beside).Sorted) (hlt : c < label) :
    ∀ other ∈ (edge label here below beside).labels, c < other := by
  intro other hother
  rcases List.mem_cons.1 hother with rfl | hother
  · exact hlt
  · exact UInt8.lt_trans hlt (h.2.2 other hother)

/-! ## Insertion -/

@[simp] theorem labels_path (c : UInt8) (key : List UInt8) (a : α) (beside : Branches α) :
    (path c key a beside).labels = c :: beside.labels := by
  cases key <;> rfl

theorem sorted_path {c : UInt8} {beside : Branches α} (hbeside : beside.Sorted)
    (hlt : ∀ other ∈ beside.labels, c < other) (key : List UInt8) (a : α) :
    (path c key a beside).Sorted := by
  induction key generalizing c beside with
  | nil => exact ⟨trivial, hbeside, hlt⟩
  | cons d key ih => exact ⟨ih sorted_none fun _ h ↦ absurd h List.not_mem_nil, hbeside, hlt⟩

theorem under_path {c : UInt8} {beside : Branches α} (hc : c ∉ beside.labels) (d : UInt8)
    (a : α) (key key' : List UInt8) :
    (path c key a beside).under d key' =
      beside.under d key' ++ if c :: key = d :: key' then [a] else [] := by
  induction key generalizing c beside d key' with
  | nil =>
      by_cases h : d = c
      · subst h
        cases key' <;> simp [path, under, under_eq_nil hc]
      · simp [path, under, h, Ne.symm h]
  | cons e key ih =>
      by_cases h : d = c
      · subst h
        cases key' with
        | nil => simp [path, under, under_eq_nil hc]
        | cons e' key' =>
            have hnone : e ∉ (none : Branches α).labels := List.not_mem_nil
            simp [path, under, under_eq_nil hc, ih hnone]
      · simp [path, under, h, Ne.symm h]

theorem mem_labels_insert {b : Branches α} {c other : UInt8} {key : List UInt8} {a : α} :
    other ∈ (b.insert c key a).labels ↔ other = c ∨ other ∈ b.labels := by
  induction b with
  | none => simp [insert, labels]
  | edge label here below beside _ ihBeside =>
      by_cases hc : c = label
      · subst hc
        cases key <;> simp [insert, labels]
      · by_cases hlt : c < label
        · simp [insert, hc, hlt]
        · simp [insert, hc, hlt, labels, ihBeside, or_left_comm]

theorem Sorted.insert {b : Branches α} (h : b.Sorted) (c : UInt8) (key : List UInt8) (a : α) :
    (b.insert c key a).Sorted := by
  induction b generalizing c key with
  | none => exact sorted_path sorted_none (fun _ h ↦ absurd h List.not_mem_nil) key a
  | edge label here below beside ihBelow ihBeside =>
      obtain ⟨hbelow, hbeside, hlabel⟩ := id h
      by_cases hc : c = label
      · subst hc
        cases key with
        | nil => simpa [Branches.insert] using! h
        | cons d key => simpa [Branches.insert] using! ⟨ihBelow hbelow d key, hbeside, hlabel⟩
      by_cases hlt : c < label
      · simpa [Branches.insert, hc, hlt] using sorted_path h (h.lt_labels hlt) key a
      · have hgt : label < c := UInt8.lt_of_le_of_ne (UInt8.not_lt.1 hlt) (Ne.symm hc)
        simp only [Branches.insert, if_neg hc, if_neg hlt]
        refine ⟨hbelow, ihBeside hbeside c key, fun other hother ↦ ?_⟩
        rcases mem_labels_insert.1 hother with rfl | hother
        · exact hgt
        · exact hlabel other hother

theorem under_insert {b : Branches α} (h : b.Sorted) (c d : UInt8) (a : α)
    (key key' : List UInt8) :
    (b.insert c key a).under d key' =
      b.under d key' ++ if c :: key = d :: key' then [a] else [] := by
  induction b generalizing c d key key' with
  | none => exact under_path List.not_mem_nil d a key key'
  | edge label here below beside ihBelow ihBeside =>
      obtain ⟨hbelow, hbeside, -⟩ := id h
      by_cases hc : c = label
      · subst hc
        by_cases hd : d = c
        · subst hd
          cases key <;> cases key' <;> simp [insert, under, ihBelow hbelow]
        · cases key <;> simp [insert, under, hd, Ne.symm hd]
      by_cases hlt : c < label
      · simp only [insert, if_neg hc, if_pos hlt]
        exact under_path (not_mem_labels_of_lt (h.lt_labels hlt)) d a key key'
      · by_cases hd : d = label
        · subst hd
          simp [insert, under, hc, hlt]
        · simp [insert, under, hc, hlt, hd, ihBeside hbeside]

/-! ## Walks -/

theorem along_cons {b : Branches α} (h : b.Sorted) (c : UInt8) (word : List UInt8) :
    b.along (c :: word) = word.inits.flatMap (b.under c) := by
  induction b generalizing c word with
  | none => simp [along, under]
  | edge label here below beside ihBelow ihBeside =>
      obtain ⟨hbelow, hbeside, -⟩ := id h
      by_cases hc : c = label
      · subst hc
        cases word with
        | nil => cases below <;> simp [along, under]
        | cons d word => simp [along, under, ihBelow hbelow, List.flatMap_map]
      by_cases hlt : c < label
      · have hnone : (edge label here below beside).under c = fun _ ↦ [] :=
          funext (under_eq_nil (not_mem_labels_of_lt (h.lt_labels hlt)))
        simp [along, hc, hlt, hnone]
      · have hbesides : (edge label here below beside).under c = beside.under c :=
          funext fun key ↦ if_neg hc
        simp [along, hc, hlt, ihBeside hbeside, hbesides]

end Branches

namespace Trie

def Sorted (trie : Trie α) : Prop := trie.branches.Sorted

/-- The values under a key. -/
def under (trie : Trie α) : List UInt8 → List α
  | [] => trie.here
  | c :: key => trie.branches.under c key

theorem sorted_empty : (empty : Trie α).Sorted := trivial

theorem Sorted.insert {trie : Trie α} (h : trie.Sorted) (key : List UInt8) (a : α) :
    (trie.insert key a).Sorted := by
  cases key with
  | nil => exact h
  | cons c key => exact Branches.Sorted.insert h c key a

@[simp] theorem under_empty (key : List UInt8) : (empty : Trie α).under key = [] := by
  cases key <;> rfl

theorem under_insert {trie : Trie α} (h : trie.Sorted) (a : α) (key key' : List UInt8) :
    (trie.insert key a).under key' = trie.under key' ++ if key = key' then [a] else [] := by
  cases key <;> cases key' <;> simp [insert, under, Branches.under_insert h]

theorem along_eq_flatMap {trie : Trie α} (h : trie.Sorted) (word : List UInt8) :
    trie.along word = word.inits.flatMap trie.under := by
  cases word with
  | nil => cases hb : trie.branches <;> simp [along, under, Branches.along, hb]
  | cons c word =>
      simp only [along, Branches.along_cons h, List.inits_cons, List.flatMap_cons,
        List.flatMap_map]
      rfl

/-! ## Tries filled from a list -/

variable {β : Type} (key : β → List UInt8)

/-- The items whose keys begin a word: shorter keys first, and the items of one key in order. -/
def inWalkOrder (items : List β) (word : List UInt8) : List β :=
  word.inits.flatMap fun k ↦ items.filter (key · = k)

section Fill

variable (value : β → α)

theorem sorted_foldl_insert (items : List β) {trie : Trie α} (h : trie.Sorted) :
    (items.foldl (fun trie b ↦ trie.insert (key b) (value b)) trie).Sorted :=
  List.foldlRecOn items _ h fun _ h _ _ ↦ h.insert _ _

theorem under_foldl_insert (items : List β) {trie : Trie α} (h : trie.Sorted) (k : List UInt8) :
    (items.foldl (fun trie b ↦ trie.insert (key b) (value b)) trie).under k =
      trie.under k ++ (items.filter (key · = k)).map value := by
  induction items generalizing trie with
  | nil => simp
  | cons b items ih =>
      rw [List.foldl_cons, ih (h.insert _ _), under_insert h]
      by_cases hb : key b = k <;> simp [hb]

theorem along_foldl_insert (items : List β) (word : List UInt8) :
    (items.foldl (fun trie b ↦ trie.insert (key b) (value b)) empty).along word =
      (inWalkOrder key items word).map value := by
  rw [along_eq_flatMap (sorted_foldl_insert key value items sorted_empty), inWalkOrder,
    List.map_flatMap]
  congr 1
  funext k
  simpa using under_foldl_insert key value items sorted_empty k

end Fill

variable {key} {items : List β} {word : List UInt8}

theorem mem_inWalkOrder {b : β} :
    b ∈ inWalkOrder key items word ↔ b ∈ items ∧ key b <+: word := by
  simp [inWalkOrder, List.mem_inits, and_comm]

theorem flatMap_inits_of_prefix {k : List UInt8} (h : k <+: word) (l : List β) :
    (word.inits.flatMap fun k' ↦ if k' = k then l else []) = l := by
  obtain ⟨rest, rfl⟩ := h
  induction k with
  | nil =>
      cases rest with
      | nil => simp
      | cons c rest => simp [List.flatMap_map]
  | cons c k ih =>
      rw [List.cons_append, List.inits_cons, List.flatMap_cons, List.flatMap_map]
      simpa only [List.cons.injEq, true_and, reduceCtorEq, if_false, List.nil_append] using ih

/-- Of the items under one key that begins the word, none is lost and their order is kept. -/
theorem filter_inWalkOrder {k : List UInt8} (h : k <+: word) {p : β → Bool}
    (hp : ∀ b, p b → key b = k) : (inWalkOrder key items word).filter p = items.filter p := by
  rw [inWalkOrder, List.filter_flatMap]
  have hkey : (fun k' ↦ (items.filter (key · = k')).filter p) =
      fun k' ↦ if k' = k then items.filter p else [] := by
    funext k'
    rw [List.filter_filter]
    split
    · rename_i he
      refine List.filter_congr fun b _ ↦ ?_
      by_cases hb : p b
      · simp [hb, hp b hb, he]
      · simp [hb]
    · rename_i he
      refine List.filter_eq_nil_iff.2 fun b _ hb ↦ he ?_
      simp only [Bool.and_eq_true, decide_eq_true_eq] at hb
      exact hb.2.symm.trans (hp b hb.1)
  rw [hkey, flatMap_inits_of_prefix h]

theorem pairwise_length_inits (word : List UInt8) :
    word.inits.Pairwise fun k k' ↦ k.length < k'.length := by
  induction word with
  | nil => simp
  | cons c word ih => simp [List.pairwise_map, ih]

/-- The order of a walk: by the length of the key, and for one key as before. -/
theorem pairwise_inWalkOrder {R : β → β → Prop} (h : items.Pairwise R) :
    (inWalkOrder key items word).Pairwise fun a b ↦
      (key a).length < (key b).length ∨ key a = key b ∧ R a b := by
  refine List.pairwise_flatMap.2 ⟨fun k _ ↦ ?_, ?_⟩
  · refine (h.filter _).imp_of_mem fun ha hb hR ↦ Or.inr ⟨?_, hR⟩
    rw [List.mem_filter, decide_eq_true_eq] at ha hb
    exact ha.2.trans hb.2.symm
  · refine (pairwise_length_inits word).imp fun hlt a ha b hb ↦ Or.inl ?_
    rw [List.mem_filter, decide_eq_true_eq] at ha hb
    rwa [ha.2, hb.2]

end Trie
end Orthography
