import Mathlib.Data.List.Forall2
import Mathlib.Data.List.TakeDrop
import Orthography.Condition

/-!
# The grammar of conditions

A condition is read exactly if it is written by its grammar, and then as the items that it writes.
What is read this way holds of the first characters of a word, or of the last ones, one item for
each of them.
-/

namespace Orthography

namespace ConditionItem

variable {item : ConditionItem} {items : List ConditionItem} {text word chars rest : Text}
  {c : Char} {negated : Bool} {place : Place}

/-! ## How items are written -/

def write : ConditionItem → Text
  | any => ['.']
  | exactly c => [c]
  | oneOf chars => '[' :: (chars ++ [']'])
  | noneOf chars => '[' :: '^' :: (chars ++ [']'])

/-- A group names at least one character and does not begin with the sign of negation; a negated
group may be empty. -/
def IsWritable : ConditionItem → Prop
  | any => True
  | exactly c => c ≠ '.' ∧ c ≠ '[' ∧ c ≠ ']'
  | oneOf chars => chars ≠ [] ∧ chars.head? ≠ some '^' ∧ ']' ∉ chars
  | noneOf chars => ']' ∉ chars

instance : DecidablePred IsWritable
  | any => inferInstanceAs (Decidable True)
  | exactly c => inferInstanceAs (Decidable (c ≠ '.' ∧ c ≠ '[' ∧ c ≠ ']'))
  | oneOf chars => inferInstanceAs (Decidable (chars ≠ [] ∧ chars.head? ≠ some '^' ∧ ']' ∉ chars))
  | noneOf chars => inferInstanceAs (Decidable (']' ∉ chars))

/-- The text is these items one after the other. -/
structure AreWritten (items : List ConditionItem) (text : Text) : Prop where
  eq : text = items.flatMap write
  writable : ∀ item ∈ items, item.IsWritable

theorem areWritten_nil : AreWritten [] [] := ⟨rfl, by simp⟩

theorem AreWritten.cons (hitem : item.IsWritable) (h : AreWritten items text) :
    AreWritten (item :: items) (item.write ++ text) where
  eq := by rw [h.eq, List.flatMap_cons]
  writable := List.forall_mem_cons.2 ⟨hitem, h.writable⟩

/-! ## Reading -/

/-- The item that a closing bracket completes. -/
def ofGroup (negated : Bool) (chars : Text) : ConditionItem :=
  if negated then noneOf chars else oneOf chars

/-- What is read of an item that is not complete. -/
def Place.behind : Place → Text
  | between => []
  | opened => ['[']
  | inside negated chars => '[' :: ((if negated then ['^'] else []) ++ chars)

/-- A closing bracket would complete an item that can be written. -/
def Place.IsSound : Place → Prop
  | between => True
  | opened => True
  | inside negated chars => (ofGroup negated chars).IsWritable

theorem write_ofGroup :
    (ofGroup negated chars).write = (Place.inside negated chars).behind ++ [']'] := by
  cases negated <;> simp [ofGroup, write, Place.behind]

theorem isWritable_ofGroup_append (h : (ofGroup negated chars).IsWritable) (hc : c ≠ ']') :
    (ofGroup negated (chars ++ [c])).IsWritable := by
  cases negated with
  | true => simpa [ofGroup, IsWritable, Ne.symm hc] using h
  | false =>
      obtain ⟨hne, hcaret, hclose⟩ := h
      refine ⟨by simp, ?_, by simp [hclose, Ne.symm hc]⟩
      rwa [List.head?_append_of_ne_nil _ hne]

theorem read?_inside (negated : Bool) (chars text : Text) (hrest : ']' ∉ rest) :
    read? (.inside negated chars) (rest ++ ']' :: text) =
      (read? .between text).map (ofGroup negated (chars ++ rest) :: ·) := by
  induction rest generalizing chars with
  | nil => simp [read?, ofGroup]
  | cons c rest ih =>
      rw [List.mem_cons, not_or] at hrest
      rw [List.cons_append, read?, if_neg (Ne.symm hrest.1), ih (chars ++ [c]) hrest.2,
        List.append_assoc, List.singleton_append]

/-- A written item is read, whatever follows it. -/
theorem read?_write_append (h : item.IsWritable) :
    read? .between (item.write ++ text) = (read? .between text).map (item :: ·) := by
  cases item with
  | any => rfl
  | exactly c => simp [write, read?, h.1, h.2.1, h.2.2]
  | noneOf chars =>
      have hinside := read?_inside true [] text h
      simpa [write, read?, ofGroup] using hinside
  | oneOf chars =>
      obtain ⟨hne, hcaret, hclose⟩ := h
      obtain ⟨c, chars, rfl⟩ := List.exists_cons_of_ne_nil hne
      rw [List.mem_cons, not_or] at hclose
      have hc : c ≠ '^' := by simpa using hcaret
      have hinside := read?_inside false [c] text hclose.2
      simpa [write, read?, ofGroup, hc, Ne.symm hclose.1] using hinside

theorem AreWritten.read? (h : AreWritten items text) : read? .between text = some items := by
  obtain ⟨rfl, hwritable⟩ := h
  induction items with
  | nil => rfl
  | cons item items ih =>
      rw [List.forall_mem_cons] at hwritable
      rw [List.flatMap_cons, read?_write_append hwritable.1, ih hwritable.2, Option.map_some]

/-- What is read is written by the part of an item behind the place together with the text. -/
theorem areWritten_of_read? (hplace : place.IsSound) (h : read? place text = some items) :
    AreWritten items (place.behind ++ text) := by
  -- A group that is still open must stay one that a closing bracket completes.
  fun_induction ConditionItem.read? place text generalizing items with
  | case1 =>
      obtain rfl := Option.some.inj h
      exact areWritten_nil
  | case2 => cases h
  | case3 => cases h
  | case4 text ih => exact ih trivial h
  | case5 => cases h
  | case6 text _ _ ih =>
      obtain ⟨items, hitems, rfl⟩ := Option.map_eq_some_iff.1 h
      exact (ih trivial hitems).cons (trivial : any.IsWritable)
  | case7 c text hopen hclose hdot ih =>
      obtain ⟨items, hitems, rfl⟩ := Option.map_eq_some_iff.1 h
      have hwritable : (exactly c).IsWritable := ⟨hdot, hopen, hclose⟩
      exact (ih trivial hitems).cons hwritable
  | case8 text ih =>
      have hsound : (ofGroup true []).IsWritable := by simp [ofGroup, IsWritable]
      exact ih hsound h
  | case9 => cases h
  | case10 c text hcaret hclose ih =>
      have hsound : (ofGroup false [c]).IsWritable := by
        simp [ofGroup, IsWritable, hcaret, Ne.symm hclose]
      exact ih hsound h
  | case11 negated chars text ih =>
      obtain ⟨items, hitems, rfl⟩ := Option.map_eq_some_iff.1 h
      have hcons := (ih trivial hitems).cons hplace
      rw [write_ofGroup, List.append_assoc] at hcons
      exact hcons
  | case12 negated chars c text hclose ih =>
      have hbehind := ih (isWritable_ofGroup_append hplace hclose) h
      simpa [Place.behind] using hbehind

theorem read?_eq_some_iff : read? .between text = some items ↔ AreWritten items text :=
  ⟨areWritten_of_read? trivial, AreWritten.read?⟩

/-! ## Characters that satisfy items -/

/-- Which characters an item stands for. -/
def Admits : ConditionItem → Char → Prop
  | any, _ => True
  | exactly a, c => c = a
  | oneOf chars, c => c ∈ chars
  | noneOf chars, c => c ∉ chars

theorem accepts_eq_true_iff : item.accepts c = true ↔ item.Admits c := by
  cases item with
  | exactly a => simp [accepts, Admits, eq_comm (a := a)]
  | _ => simp [accepts, Admits]

instance (item : ConditionItem) (c : Char) : Decidable (item.Admits c) :=
  decidable_of_iff _ accepts_eq_true_iff

/-- The first characters of the word satisfy the items in order. -/
def AreMetAtStart (items : List ConditionItem) (word : Text) : Prop :=
  items.length ≤ word.length ∧ List.Forall₂ Admits items (word.take items.length)

/-- The last characters of the word satisfy the items in order. -/
def AreMetAtEnd (items : List ConditionItem) (word : Text) : Prop :=
  items.length ≤ word.length ∧
    List.Forall₂ Admits items (word.drop (word.length - items.length))

instance (items : List ConditionItem) (word : Text) : Decidable (AreMetAtEnd items word) :=
  inferInstanceAs (Decidable (_ ∧ _))

theorem startsWith_iff : Condition.startsWith items word ↔ AreMetAtStart items word := by
  induction items generalizing word with
  | nil => simp [Condition.startsWith, AreMetAtStart]
  | cons item items ih =>
      cases word with
      | nil => simp [Condition.startsWith, AreMetAtStart]
      | cons c word =>
          rw [Condition.startsWith, Bool.and_eq_true, accepts_eq_true_iff, ih]
          simp [AreMetAtStart, and_left_comm]

theorem areMetAtStart_reverse_iff :
    AreMetAtStart items.reverse word.reverse ↔ AreMetAtEnd items word := by
  rw [AreMetAtStart, AreMetAtEnd, List.length_reverse, List.length_reverse, List.take_reverse,
    List.forall₂_reverse_iff]

end ConditionItem

namespace Condition

open ConditionItem

variable {condition : Condition} {items : List ConditionItem} {text word : Text}

theorem matchesStart_iff : condition.matchesStart word ↔ AreMetAtStart condition.items word :=
  startsWith_iff

theorem matchesEnd_iff : condition.matchesEnd word ↔ AreMetAtEnd condition.items word :=
  startsWith_iff.trans areMetAtStart_reverse_iff

/-- What items ask for: a single dot asks for nothing. -/
def asked (items : List ConditionItem) : List ConditionItem :=
  if items = [.any] then [] else items

theorem asked_reverse (items : List ConditionItem) :
    asked items.reverse = (asked items).reverse := by
  have hdot : items.reverse = [.any] ↔ items = [.any] := List.reverse_eq_iff
  simp only [asked, hdot]
  split <;> simp

theorem parse_of_areWritten (h : AreWritten items text) : parse text = .ok ⟨asked items⟩ := by
  rw [parse, h.read?]
  split
  · contradiction
  · rename_i heq
    obtain rfl := Option.some.inj heq
    rfl
  · rename_i hdot heq
    obtain rfl := Option.some.inj heq
    rw [asked, if_neg hdot]

theorem parse_eq_error_iff :
    parse text = .error (.invalidCondition text) ↔ ¬∃ items, AreWritten items text := by
  constructor
  · rintro hparse ⟨items, hitems⟩
    rw [parse_of_areWritten hitems] at hparse
    cases hparse
  · intro hnone
    have hread : read? .between text = none := by
      rw [Option.eq_none_iff_forall_ne_some]
      intro items hitems
      exact hnone ⟨items, read?_eq_some_iff.1 hitems⟩
    rw [parse, hread]

/-- A condition is read exactly if it is written by the grammar of items.  Items other than none at
all and a single dot match the start of a word exactly if the first characters satisfy them in
order, and the end if the last ones do; so the end of a word is matched as the start of the
reversed word is by the items in reversed order. -/
theorem parse_and_match_by_items (text : Text) :
    ((∃ condition, parse text = .ok condition) ↔ ∃ items, AreWritten items text) ∧
    (parse text = .error (.invalidCondition text) ↔ ¬∃ items, AreWritten items text) ∧
    ∀ items, AreWritten items text → ∃ condition backward,
      parse text = .ok condition ∧ parse (items.reverse.flatMap write) = .ok backward ∧
      ∀ word,
        (items = [] ∨ items = [.any] → condition.matchesStart word ∧ condition.matchesEnd word) ∧
        (items ≠ [] → items ≠ [.any] →
          (condition.matchesStart word ↔ AreMetAtStart items word) ∧
          (condition.matchesEnd word ↔ AreMetAtEnd items word)) ∧
        condition.matchesEnd word = backward.matchesStart word.reverse := by
  refine ⟨?_, parse_eq_error_iff, ?_⟩
  · constructor
    · rintro ⟨condition, hparse⟩
      by_contra hnone
      rw [parse_eq_error_iff.2 hnone] at hparse
      cases hparse
    · rintro ⟨items, hitems⟩
      exact ⟨_, parse_of_areWritten hitems⟩
  · intro items hitems
    have hbackward : AreWritten items.reverse (items.reverse.flatMap write) :=
      ⟨rfl, fun item hitem ↦ hitems.writable item (List.mem_reverse.1 hitem)⟩
    refine ⟨_, _, parse_of_areWritten hitems, parse_of_areWritten hbackward,
      fun word ↦ ⟨?_, ?_, ?_⟩⟩
    · rintro (rfl | rfl) <;> exact ⟨rfl, rfl⟩
    · intro _ hdot
      rw [matchesStart_iff, matchesEnd_iff, asked, if_neg hdot]
      exact ⟨Iff.rfl, Iff.rfl⟩
    · rw [asked_reverse]
      rfl

/-- Nouns in `y` behind a consonant. -/
def consonantY : List ConditionItem := [.noneOf ['a', 'e', 'i', 'o', 'u'], .exactly 'y']

theorem match_consonantY :
    AreWritten consonantY "[^aeiou]y".toList ∧
      ∃ condition, parse "[^aeiou]y".toList = .ok condition ∧
        condition.matchesEnd "apply".toList ∧ ¬condition.matchesEnd "play".toList ∧
          ¬condition.matchesEnd "y".toList := by
  have hwritten : AreWritten consonantY "[^aeiou]y".toList := ⟨rfl, by decide⟩
  obtain ⟨condition, backward, hparse, -, hmatch⟩ :=
    (parse_and_match_by_items "[^aeiou]y".toList).2.2 consonantY hwritten
  have hend (word : Text) : condition.matchesEnd word ↔ AreMetAtEnd consonantY word :=
    ((hmatch word).2.1 (by decide) (by decide)).2
  refine ⟨hwritten, condition, hparse, (hend _).2 ?_, mt (hend _).1 ?_, mt (hend _).1 ?_⟩
  all_goals decide

end Condition
end Orthography
