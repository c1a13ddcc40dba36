import Orthography.Proofs.Affix.Scan
import Orthography.Proofs.Replacement
import Orthography.Proofs.Suggestion.Edits

/-!
# Candidates of one exchange

Two sources of candidates put one text in the place of another at one place of the word: the table
of replacements and the groups of related texts.  Each of them offers every exchange that its table
allows, each once, in an order that the numbers of the tables and the place in the word tell.
-/

namespace Orthography

open Candidates

variable {word before rest after text : Text}

/-! ## The order of nested lists

What is listed for the elements of a list in turn is in the order of its keys, if the first number
of a key tells the element and the others the order within what is listed for it. -/

theorem pairwise_flatMap_key {α β : Type} {l : List α} {f : α → List β} {first : α → Nat}
    {key : β → List Nat} (others : β → List Nat)
    (hkey : ∀ a ∈ l, ∀ b ∈ f a, key b = first a :: others b)
    (hfirst : l.Pairwise fun a a' ↦ first a < first a')
    (hothers : ∀ a ∈ l, (f a).Pairwise fun b b' ↦ others b < others b') :
    (l.flatMap f).Pairwise fun b b' ↦ key b < key b' := by
  rw [List.pairwise_flatMap]
  constructor
  · intro a ha
    refine (hothers a ha).imp_of_mem ?_
    intro b b' hb hb' hlt
    rw [hkey a ha b hb, hkey a ha b' hb', List.cons_lt_cons_iff]
    exact .inr ⟨rfl, hlt⟩
  · refine hfirst.imp_of_mem ?_
    intro a a' ha ha' hlt b hb b' hb'
    rw [hkey a ha b hb, hkey a' ha' b' hb', List.cons_lt_cons_iff]
    exact .inl hlt

theorem flatMap_fst_zipIdx {α β : Type} (l : List α) (f : α → List β) :
    (l.zipIdx.flatMap fun numbered ↦ f numbered.1) = l.flatMap f := by
  conv_rhs => rw [← List.zipIdx_map_fst 0 l, List.flatMap_map]

/-! ## Places -/

theorem Candidates.pairwise_places (word : Text) :
    (places word).Pairwise fun place place' ↦ place.1.length < place'.1.length := by
  induction word with
  | nil => exact .nil
  | cons c word ih =>
      rw [places, List.pairwise_cons, List.pairwise_map]
      constructor
      · intro place hplace
        obtain ⟨place, -, rfl⟩ := List.mem_map.mp hplace
        exact Nat.succ_pos _
      · refine ih.imp ?_
        intro place place' hlt
        exact Nat.succ_lt_succ hlt

/-- A text that is not empty stands at one of the places of a word. -/
theorem Candidates.exists_mem_places_iff {part : Text} (hpart : part ≠ []) :
    (∃ place ∈ places word, before = place.1 ∧ place.2.1 :: place.2.2 = part ++ after) ↔
      word = before ++ part ++ after := by
  obtain ⟨c, part, rfl⟩ := List.exists_cons_of_ne_nil hpart
  simp only [Prod.exists, mem_places_iff]
  constructor
  · rintro ⟨_, d, rest, rfl, rfl, hrest⟩
    rw [hrest, List.append_assoc]
  · rintro rfl
    exact ⟨before, c, part ++ after, by simp, rfl, rfl⟩

/-! ## Patterns and how they are written -/

/-- What is left of a text when its sign is taken off, if it has one. -/
theorem isSome_and_getD_eq_iff {stripped : Option Text} {sign : Text → Text} {isSigned : Bool}
    (hstripped : ∀ rest, stripped = some rest ↔ text = sign rest) :
    (stripped.isSome = isSigned ∧ stripped.getD text = rest) ↔
      text = (if isSigned then sign rest else rest) ∧
        (isSigned = false → ∀ more, rest ≠ sign more) := by
  constructor
  · rintro ⟨rfl, rfl⟩
    cases stripped with
    | none =>
        refine ⟨rfl, fun _ more hsign ↦ ?_⟩
        exact Option.some_ne_none more ((hstripped more).mpr hsign).symm
    | some rest => exact ⟨(hstripped rest).mp rfl, fun h ↦ absurd h.symm Bool.false_ne_true⟩
  · rintro ⟨htext, hfree⟩
    cases isSigned with
    | true => simp [(hstripped rest).mpr htext]
    | false =>
        obtain rfl : text = rest := htext
        have hnone : stripped = none := by
          rw [Option.eq_none_iff_forall_ne_some]
          exact fun more hmore ↦ hfree rfl more ((hstripped more).mp hmore)
        simp [hnone]

theorem Text.after?_caret_iff {isSigned : Bool} :
    ((Text.after? ['^'] text).isSome = isSigned ∧ (Text.after? ['^'] text).getD text = rest) ↔
      text = (if isSigned then '^' :: rest else rest) ∧
        (isSigned = false → ∀ more, rest ≠ '^' :: more) :=
  isSome_and_getD_eq_iff fun _ ↦ Text.after?_eq_some_iff

theorem Text.before?_dollar_iff {isSigned : Bool} :
    ((Text.before? ['$'] text).isSome = isSigned ∧ (Text.before? ['$'] text).getD text = rest) ↔
      text = (if isSigned then rest ++ ['$'] else rest) ∧
        (isSigned = false → ∀ more, rest ≠ more ++ ['$']) :=
  isSome_and_getD_eq_iff fun _ ↦ Text.before?_eq_some_iff

namespace Replacement

variable {r : Replacement} {pattern result : Text}

/-- A replacement is written with a sign for each of its anchors. -/
structure IsWritten (r : Replacement) (pattern result : Text) : Prop where
  pattern_eq : pattern =
    (if r.atStart then ['^'] else []) ++ r.pattern ++ (if r.atEnd then ['$'] else [])
  result_eq : result = r.result
  ne_nil : r.pattern ≠ []
  free_start : r.atStart = false → r.pattern.head? ≠ some '^'
  free_end : r.atEnd = false → r.pattern.getLast? ≠ some '$'

theorem ofPattern?_eq_some_iff_exists :
    ofPattern? pattern result = some r ↔ ∃ rest,
      ((Text.after? ['^'] pattern).isSome = r.atStart ∧
        (Text.after? ['^'] pattern).getD pattern = rest) ∧
      ((Text.before? ['$'] rest).isSome = r.atEnd ∧
        (Text.before? ['$'] rest).getD rest = r.pattern) ∧
      r.pattern ≠ [] ∧ result = r.result := by
  obtain ⟨atStart, atEnd, own, into⟩ := r
  rw [ofPattern?]
  cases hstart : Text.after? ['^'] pattern with
  | none => cases hend : Text.before? ['$'] pattern <;> simp [hend] <;> grind
  | some rest => cases hend : Text.before? ['$'] rest <;> simp [hend] <;> grind

theorem ofPattern?_eq_some_iff :
    ofPattern? pattern result = some r ↔ r.IsWritten pattern result := by
  simp only [ofPattern?_eq_some_iff_exists, Text.after?_caret_iff, Text.before?_dollar_iff]
  constructor
  · rintro ⟨rest, ⟨rfl, hfreeStart⟩, ⟨rfl, hfreeEnd⟩, hne, rfl⟩
    refine ⟨?_, rfl, hne, fun hfalse hhead ↦ ?_, fun hfalse hlast ↦ ?_⟩
    · cases r.atStart <;> cases r.atEnd <;> simp
    · obtain ⟨more, hmore⟩ := List.head?_eq_some_iff.mp hhead
      rw [hmore] at hfreeStart
      exact hfreeStart hfalse (if r.atEnd then more ++ ['$'] else more) (by split <;> rfl)
    · obtain ⟨more, hmore⟩ := List.getLast?_eq_some_iff.mp hlast
      exact hfreeEnd hfalse more hmore
  · rintro ⟨rfl, rfl, hne, hfreeStart, hfreeEnd⟩
    refine ⟨r.pattern ++ (if r.atEnd then ['$'] else []), ⟨?_, fun hfalse more hmore ↦ ?_⟩,
      ⟨?_, fun hfalse more hmore ↦ ?_⟩, hne, rfl⟩
    · cases r.atStart <;> simp
    · -- The pattern is not empty, so a sign at the start would be a character of its own.
      obtain ⟨c, own, hown⟩ := List.exists_cons_of_ne_nil hne
      rw [hown] at hfreeStart hmore
      obtain ⟨rfl, -⟩ := List.cons.inj hmore
      exact hfreeStart hfalse rfl
    · cases r.atEnd <;> simp
    · rw [hmore] at hfreeEnd
      exact hfreeEnd hfalse List.getLast?_concat

end Replacement

/-! ## Uses of replacements -/

namespace Replacements

variable {pairs : List (Text × Text)} {numbered : List (Replacement × Nat)}

/-- The replacement is that of the line with this number, on which underscores stand for spaces. -/
def IsEntry (pairs : List (Text × Text)) (entry : Replacement × Nat) : Prop :=
  ∃ pattern result, pairs[entry.2]? = some (pattern, result) ∧
    entry.1.IsWritten (Text.replaceChar '_' ' ' pattern) (Text.replaceChar '_' ' ' result)

theorem IsEntry.pattern_ne_nil {entry : Replacement × Nat} (h : IsEntry pairs entry) :
    entry.1.pattern ≠ [] := by
  obtain ⟨pattern, result, -, hwritten⟩ := h
  exact hwritten.ne_nil

/-- A numbered entry of a table in the place of its pattern, which stands between two texts. -/
structure Use where
  entry : Replacement × Nat
  before : Text
  after : Text

namespace Use

def result (use : Use) : Text := use.before ++ use.entry.1.result ++ use.after

/-- Tells the order: by the place, and then by the number in the table. -/
def key (use : Use) : List Nat := [use.before.length, use.entry.2]

/-- An entry of the table is used where its pattern stands in the word, if its anchors allow it. -/
structure IsOf (use : Use) (pairs : List (Text × Text)) (word : Text) : Prop where
  entry : IsEntry pairs use.entry
  word_eq : word = use.before ++ use.entry.1.pattern ++ use.after
  atStart : use.entry.1.atStart → use.before = []
  atEnd : use.entry.1.atEnd → use.after = []

end Use

/-- The table that the lines of a list of spaced patterns and results fill. -/
def ofSpacedPairs (pairs : List (Text × Text)) : Replacements :=
  pairs.foldl (fun table pair ↦ table.pushSpaced pair.1 pair.2) []

def ofSpaced? (pair : Text × Text) : Option Replacement :=
  Replacement.ofPattern? (Text.replaceChar '_' ' ' pair.1) (Text.replaceChar '_' ' ' pair.2)

/-- The entries of a table with the numbers of their lines. -/
def numberedEntries (pairs : List (Text × Text)) : List (Replacement × Nat) :=
  pairs.zipIdx.filterMap fun line ↦ (ofSpaced? line.1).map fun r ↦ (r, line.2)

theorem ofSpacedPairs_eq_filterMap : ofSpacedPairs pairs = pairs.filterMap ofSpaced? := by
  induction pairs using List.reverseRecOn with
  | nil => rfl
  | append_singleton pairs pair ih =>
      rw [ofSpacedPairs, List.foldl_append, ← ofSpacedPairs, ih, List.filterMap_append]
      cases h : ofSpaced? pair <;> simp_all [ofSpaced?, pushSpaced, push]

theorem map_numberedEntries : (numberedEntries pairs).map (·.1) = ofSpacedPairs pairs := by
  rw [ofSpacedPairs_eq_filterMap, numberedEntries, List.map_filterMap]
  simp only [Option.map_map, Function.comp_def, Option.map_id']
  conv_rhs => rw [← List.zipIdx_map_fst 0 pairs, List.filterMap_map]
  rfl

theorem mem_numberedEntries_iff {entry : Replacement × Nat} :
    entry ∈ numberedEntries pairs ↔ IsEntry pairs entry := by
  obtain ⟨r, n⟩ := entry
  simp [numberedEntries, ofSpaced?, IsEntry, List.mem_zipIdx_iff_getElem?,
    Replacement.ofPattern?_eq_some_iff]

theorem pairwise_numberedEntries (pairs : List (Text × Text)) :
    (numberedEntries pairs).Pairwise fun entry entry' ↦ entry.2 < entry'.2 := by
  rw [numberedEntries, List.pairwise_filterMap]
  refine (EntryRef.pairwise_snd_zipIdx pairs).imp ?_
  intro line line' hlt entry hentry entry' hentry'
  obtain ⟨r, -, rfl⟩ := Option.map_eq_some_iff.mp hentry
  obtain ⟨r', -, rfl⟩ := Option.map_eq_some_iff.mp hentry'
  exact hlt

/-- The uses at a place. -/
def usesAt (numbered : List (Replacement × Nat)) (before rest : Text) : List Use :=
  (numbered.filter (·.1.applies before.isEmpty rest)).map fun entry ↦
    ⟨entry, before, rest.drop entry.1.pattern.length⟩

def usesIn (numbered : List (Replacement × Nat)) (word : Text) : List Use :=
  (places word).flatMap fun place ↦ usesAt numbered place.1 (place.2.1 :: place.2.2)

/-- A replacement fits at a place if its pattern divides what is left of the word there. -/
theorem applies_and_drop_iff {r : Replacement} :
    r.applies before.isEmpty rest ∧ rest.drop r.pattern.length = after ↔
      rest = r.pattern ++ after ∧ (r.atStart → before = []) ∧ (r.atEnd → after = []) := by
  rw [Replacement.applies_iff]
  constructor
  · rintro ⟨⟨⟨behind, rfl⟩, hstart, hend⟩, rfl⟩
    rw [List.drop_left]
    exact ⟨rfl, by simpa using hstart, by simpa using hend⟩
  · rintro ⟨rfl, hstart, hend⟩
    exact ⟨⟨List.prefix_append _ _, by simpa using hstart, by simpa using hend⟩, List.drop_left⟩

theorem mem_usesAt_iff {use : Use} : use ∈ usesAt numbered before rest ↔
    use.entry ∈ numbered ∧ (use.before = before ∧ rest = use.entry.1.pattern ++ use.after) ∧
      (use.entry.1.atStart → use.before = []) ∧ (use.entry.1.atEnd → use.after = []) := by
  obtain ⟨entry, start, after⟩ := use
  simp only [usesAt, List.mem_map, List.mem_filter, Use.mk.injEq]
  constructor
  · rintro ⟨entry, ⟨hentry, happlies⟩, rfl, rfl, hdrop⟩
    obtain ⟨hrest, hanchors⟩ := applies_and_drop_iff.mp ⟨happlies, hdrop⟩
    exact ⟨hentry, ⟨rfl, hrest⟩, hanchors⟩
  · rintro ⟨hentry, ⟨rfl, hrest⟩, hanchors⟩
    obtain ⟨happlies, hdrop⟩ := applies_and_drop_iff.mpr ⟨hrest, hanchors⟩
    exact ⟨entry, ⟨hentry, happlies⟩, rfl, rfl, hdrop⟩

theorem map_result_usesAt : (usesAt numbered before rest).map Use.result =
    ((numbered.map (·.1)).filter (·.applies before.isEmpty rest)).map
      (fun r ↦ before ++ r.result ++ rest.drop r.pattern.length) := by
  rw [usesAt, List.map_map, List.filter_map, List.map_map]
  rfl

theorem candidatesFrom_eq_uses : candidatesFrom (numbered.map (·.1)) before text =
    (places text).flatMap fun place ↦
      (usesAt numbered (before ++ place.1) (place.2.1 :: place.2.2)).map Use.result := by
  induction text generalizing before with
  | nil => rfl
  | cons c text ih =>
      rw [candidatesFrom, ih, places, List.flatMap_cons, List.flatMap_map, map_result_usesAt,
        List.append_nil]
      simp only [List.append_assoc, List.singleton_append]

theorem candidates_eq_uses :
    candidates (numbered.map (·.1)) word = (usesIn numbered word).map Use.result := by
  rw [candidates, candidatesFrom_eq_uses, usesIn, List.map_flatMap]
  rfl

theorem pairwise_usesIn (h : numbered.Pairwise fun entry entry' ↦ entry.2 < entry'.2)
    (word : Text) : (usesIn numbered word).Pairwise fun use use' ↦ use.key < use'.key := by
  refine pairwise_flatMap_key (fun use ↦ [use.entry.2]) ?_ (pairwise_places word) ?_
  · intro place _ use huse
    rw [Use.key, (mem_usesAt_iff.mp huse).2.1.1]
  · intro place _
    rw [usesAt, List.pairwise_map]
    refine (h.filter _).imp ?_
    intro entry entry' hlt
    exact List.cons_lt_cons_iff.mpr (.inl hlt)

theorem mem_usesIn_iff {use : Use} :
    use ∈ usesIn (numberedEntries pairs) word ↔ use.IsOf pairs word := by
  simp only [usesIn, List.mem_flatMap, mem_usesAt_iff]
  constructor
  · rintro ⟨place, hplace, hentry, hrest, hstart, hend⟩
    rw [mem_numberedEntries_iff] at hentry
    have hword := (exists_mem_places_iff hentry.pattern_ne_nil).mp ⟨place, hplace, hrest⟩
    exact ⟨hentry, hword, hstart, hend⟩
  · rintro ⟨hentry, hword, hstart, hend⟩
    obtain ⟨place, hplace, hrest⟩ := (exists_mem_places_iff hentry.pattern_ne_nil).mpr hword
    exact ⟨place, hplace, mem_numberedEntries_iff.mpr hentry, hrest, hstart, hend⟩

/-- The candidates are the results of all uses of the table in a word.  Each entry is used once at
each place, by the place in the word and then by the line of the table. -/
theorem candidates_of_uses (pairs : List (Text × Text)) (word : Text) :
    ∃ uses : List Use, candidates (ofSpacedPairs pairs) word = uses.map Use.result ∧
      uses.Pairwise (fun use use' ↦ use.key < use'.key) ∧
      ∀ use, use ∈ uses ↔ use.IsOf pairs word := by
  refine ⟨usesIn (numberedEntries pairs) word, ?_, ?_, fun use ↦ mem_usesIn_iff⟩
  · rw [← map_numberedEntries, candidates_eq_uses]
  · exact pairwise_usesIn (pairwise_numberedEntries pairs) word

example : candidates (ofSpacedPairs [("f".toList, "ph".toList), ("^alot$".toList, "a_lot".toList)])
    "alot".toList = ["a lot".toList] := by decide

end Replacements

/-! ## Exchanges of related texts -/

namespace Candidates

variable {group : Text} {list : List Text} {lists : List (List Text)} {number : Nat}

/-- A group with these members: single characters, and texts in parentheses, none of them in
others. -/
inductive HasMembers : Text → List Text → Prop
  | nil : HasMembers [] []
  | char {c : Char} {group : Text} {list : List Text} (hopen : c ≠ '(') (hclose : c ≠ ')')
      (hrest : HasMembers group list) : HasMembers (c :: group) ([c] :: list)
  | text {text group : Text} {list : List Text} (hopen : '(' ∉ text) (hclose : ')' ∉ text)
      (hrest : HasMembers group list) : HasMembers ('(' :: (text ++ ')' :: group)) (text :: list)

theorem members_some (inner : Text) (hclose : ')' ∉ text) :
    members (some inner) (text ++ ')' :: group) = (inner ++ text) :: members none group := by
  induction text generalizing inner with
  | nil => simp [members]
  | cons c text ih =>
      rw [List.mem_cons, not_or] at hclose
      rw [List.cons_append, members, if_neg (Ne.symm hclose.1), ih _ hclose.2, List.append_assoc,
        List.singleton_append]

theorem HasMembers.members_eq (h : HasMembers group list) : members none group = list := by
  induction h with
  | nil => rfl
  | char hopen hclose hrest ih => simp [members, hopen, ih]
  | text hopen hclose hrest ih => simp [members, members_some [] hclose, ih]

/-- A member of a numbered group, with its number in the group, in the place of another one that
stands between two texts. -/
structure Exchange where
  group : Nat
  before : Text
  old : Text × Nat
  new : Text × Nat
  after : Text

namespace Exchange

def result (e : Exchange) : Text := e.before ++ e.new.1 ++ e.after

/-- Tells the order: by the group, by the place, and then by the two members. -/
def key (e : Exchange) : List Nat := [e.group, e.before.length, e.old.2, e.new.2]

/-- A member of a group stands in the word, and another one comes in its place. -/
structure IsOf (e : Exchange) (lists : List (List Text)) (word : Text) : Prop where
  members : ∃ list, lists[e.group]? = some list ∧
    list[e.old.2]? = some e.old.1 ∧ list[e.new.2]? = some e.new.1
  word_eq : word = e.before ++ e.old.1 ++ e.after
  ne_nil : e.old.1 ≠ []
  ne : e.new.1 ≠ e.old.1

end Exchange

/-- The exchanges at a place, with the members of one group. -/
def exchangesAt (number : Nat) (list : List Text) (before rest : Text) : List Exchange :=
  list.zipIdx.flatMap fun old ↦
    (if old.1.isEmpty then none else Text.after? old.1 rest).toList.flatMap fun after ↦
      (list.zipIdx.filter (·.1 ≠ old.1)).map fun new ↦ ⟨number, before, old, new, after⟩

def exchangesIn (lists : List (List Text)) (word : Text) : List Exchange :=
  lists.zipIdx.flatMap fun numbered ↦
    (places word).flatMap fun place ↦
      exchangesAt numbered.2 numbered.1 place.1 (place.2.1 :: place.2.2)

theorem map_result_exchangesAt :
    (exchangesAt number list before rest).map Exchange.result = exchanged list before rest := by
  rw [exchanged, exchangesAt, List.map_flatMap, ← flatMap_fst_zipIdx list]
  refine congrArg list.zipIdx.flatMap (funext fun old ↦ ?_)
  generalize (if old.1.isEmpty then none else Text.after? old.1 rest) = behind
  cases behind with
  | none => rfl
  | some after =>
      dsimp only
      rw [Option.toList_some, List.flatMap_singleton, List.map_map]
      conv_rhs => rw [← List.zipIdx_map_fst 0 list, List.filter_map, List.map_map]
      rfl

theorem toList_related_eq (groups : List Text) (word : Text) :
    (related groups word).toList =
      (exchangesIn (groups.map (members none)) word).map Exchange.result := by
  simp only [related, atEach, LazyList.toList_flatMap, LazyList.toList_ofList, exchangesIn,
    List.map_flatMap, map_result_exchangesAt]
  rw [flatMap_fst_zipIdx (groups.map (members none)) fun list ↦
    (places word).flatMap fun place ↦ exchanged list place.1 (place.2.1 :: place.2.2),
    List.flatMap_map]

theorem mem_exchangesAt_iff {e : Exchange} : e ∈ exchangesAt number list before rest ↔
    e.group = number ∧ (list[e.old.2]? = some e.old.1 ∧ list[e.new.2]? = some e.new.1) ∧
      (e.before = before ∧ rest = e.old.1 ++ e.after) ∧ e.old.1 ≠ [] ∧ e.new.1 ≠ e.old.1 := by
  obtain ⟨group, start, old, new, after⟩ := e
  simp only [exchangesAt, List.mem_flatMap, Option.mem_toList, List.mem_map, List.mem_filter,
    Exchange.mk.injEq, List.mem_zipIdx_iff_getElem?, Option.ite_none_left_eq_some,
    Text.after?_eq_some_iff]
  constructor
  · rintro ⟨old, hold, after, ⟨hne, hrest⟩, new, ⟨hnew, hdiff⟩, rfl, rfl, rfl, rfl, rfl⟩
    exact ⟨rfl, ⟨hold, hnew⟩, ⟨rfl, hrest⟩, by simpa using hne, by simpa using hdiff⟩
  · rintro ⟨rfl, ⟨hold, hnew⟩, ⟨rfl, hrest⟩, hne, hdiff⟩
    exact ⟨old, hold, after, ⟨by simpa using hne, hrest⟩, new, ⟨hnew, by simpa using hdiff⟩, rfl,
      rfl, rfl, rfl, rfl⟩

theorem pairwise_exchangesAt (number : Nat) (list : List Text) (before rest : Text) :
    (exchangesAt number list before rest).Pairwise fun e e' ↦
      [e.old.2, e.new.2] < [e'.old.2, e'.new.2] := by
  refine pairwise_flatMap_key (fun e ↦ [e.new.2]) ?_ (EntryRef.pairwise_snd_zipIdx list) ?_
  · intro old _ e he
    obtain ⟨after, -, he⟩ := List.mem_flatMap.mp he
    obtain ⟨new, -, rfl⟩ := List.mem_map.mp he
    rfl
  · intro old _
    generalize (if old.1.isEmpty then none else Text.after? old.1 rest) = behind
    cases behind with
    | none => exact .nil
    | some after =>
        rw [Option.toList_some, List.flatMap_singleton, List.pairwise_map]
        refine ((EntryRef.pairwise_snd_zipIdx list).filter _).imp ?_
        intro new new' hlt
        exact List.cons_lt_cons_iff.mpr (.inl hlt)

theorem pairwise_exchangesIn (lists : List (List Text)) (word : Text) :
    (exchangesIn lists word).Pairwise fun e e' ↦ e.key < e'.key := by
  refine pairwise_flatMap_key (fun e ↦ [e.before.length, e.old.2, e.new.2]) ?_
    (EntryRef.pairwise_snd_zipIdx lists) ?_
  · intro numbered _ e he
    obtain ⟨place, -, he⟩ := List.mem_flatMap.mp he
    rw [Exchange.key, (mem_exchangesAt_iff.mp he).1]
  · intro numbered _
    refine pairwise_flatMap_key (fun e ↦ [e.old.2, e.new.2]) ?_ (pairwise_places word) ?_
    · intro place _ e he
      rw [(mem_exchangesAt_iff.mp he).2.2.1.1]
    · intro place _
      exact pairwise_exchangesAt _ _ _ _

theorem mem_exchangesIn_iff {e : Exchange} : e ∈ exchangesIn lists word ↔ e.IsOf lists word := by
  simp only [exchangesIn, List.mem_flatMap, mem_exchangesAt_iff, List.mem_zipIdx_iff_getElem?]
  constructor
  · rintro ⟨numbered, hlist, place, hplace, hgroup, hmembers, hrest, hne, hdiff⟩
    rw [← hgroup] at hlist
    exact ⟨⟨_, hlist, hmembers⟩, (exists_mem_places_iff hne).mp ⟨place, hplace, hrest⟩, hne, hdiff⟩
  · rintro ⟨⟨list, hlist, hmembers⟩, hword, hne, hdiff⟩
    obtain ⟨place, hplace, hrest⟩ := (exists_mem_places_iff hne).mpr hword
    exact ⟨(list, e.group), hlist, place, hplace, rfl, hmembers, hrest, hne, hdiff⟩

/-- The candidates for related texts are the results of all exchanges of a member of a group in the
word for another one.  Each exchange comes once, by the group and then by the place in the word. -/
theorem related_of_exchanges {groups : List Text} (hmembers : List.Forall₂ HasMembers groups lists)
    (word : Text) :
    ∃ exchanges : List Exchange, (related groups word).toList = exchanges.map Exchange.result ∧
      exchanges.Pairwise (fun e e' ↦ e.key < e'.key) ∧
      ∀ e, e ∈ exchanges ↔ e.IsOf lists word := by
  refine ⟨exchangesIn lists word, ?_, pairwise_exchangesIn lists word, fun e ↦ mem_exchangesIn_iff⟩
  have hlists : groups.map (members none) = lists := by
    rw [← List.forall₂_eq_eq_eq, List.forall₂_map_left_iff]
    exact hmembers.imp fun group list h ↦ h.members_eq
  rw [toList_related_eq, hlists]

/-- A letter becomes one of the same group, and so does a text of two letters. -/
theorem related_of_exchanges_ss :
    let groups : List Text := [['a', 'á', 'à'], ['s', '(', 's', 's', ')', 'ß']]
    let lists : List (List Text) := [[['a'], ['á'], ['à']], [['s'], ['s', 's'], ['ß']]]
    List.Forall₂ HasMembers groups lists ∧
      (related groups ['s', 's']).toList =
        [['s', 's', 's'], ['ß', 's'], ['s'], ['ß'], ['s', 's', 's'], ['s', 'ß']] ∧
      ∃ exchanges : List Exchange,
        (related groups ['s', 's']).toList = exchanges.map Exchange.result ∧
        exchanges.Pairwise (fun e e' ↦ e.key < e'.key) ∧
        ∀ e, e ∈ exchanges ↔ e.IsOf lists ['s', 's'] := by
  intro groups lists
  have hletters : HasMembers ['a', 'á', 'à'] [['a'], ['á'], ['à']] :=
    .char (by decide) (by decide) (.char (by decide) (by decide)
      (.char (by decide) (by decide) .nil))
  have htext : HasMembers ['(', 's', 's', ')', 'ß'] [['s', 's'], ['ß']] :=
    @HasMembers.text ['s', 's'] ['ß'] [['ß']] (by decide) (by decide)
      (.char (by decide) (by decide) .nil)
  have hmembers : List.Forall₂ HasMembers groups lists :=
    .cons hletters (.cons (.char (by decide) (by decide) htext) .nil)
  exact ⟨hmembers, by decide, related_of_exchanges hmembers ['s', 's']⟩

end Candidates

end Orthography
