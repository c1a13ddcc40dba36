import Mathlib.Data.List.Flatten
import Orthography.Proofs.Dictionary.Breaking

/-!
# The budget of a search

A break text may leave a word as long as it was, so it is not the word that makes the search for its
pieces end, but the count of attempts that the whole search shares.  Here the search is taken
without fuel, as a tree of attempts: the tree is finite, there is one for each word, and it stays
small.
-/

namespace Orthography

namespace Text

variable {breaks : List Text} {brk word : Text}

/-- A break text is tried once with one piece, or once with two, but never both ways. -/
theorem length_pieces_le :
    ((anchoredPieces? word brk).getD []).length + ((splitPieces? word brk).getD []).length ≤ 2 := by
  cases hanchored : anchoredPieces? word brk with
  | none =>
      simp only [splitPieces?]
      split
      · exact Nat.zero_le _
      · cases splitOnce? brk word <;> simp
  | some pieces =>
      simp only [anchoredPieces?] at hanchored
      split at hanchored
      · rename_i hcaret
        obtain ⟨rest, -, rfl⟩ := Option.map_eq_some_iff.1 hanchored
        simp [splitPieces?, hcaret]
      split at hanchored
      · rename_i hdollar
        obtain ⟨rest, -, rfl⟩ := Option.map_eq_some_iff.1 hanchored
        simp [splitPieces?, hdollar]
      · cases hanchored

theorem length_flatten_pieces_le :
    (breaks.filterMap (anchoredPieces? word)).flatten.length +
      (breaks.filterMap (splitPieces? word)).flatten.length ≤ 2 * breaks.length := by
  induction breaks with
  | nil => exact Nat.le_refl _
  | cons brk breaks ih =>
      have hbrk : ((anchoredPieces? word brk).getD []).length +
          ((splitPieces? word brk).getD []).length ≤ 2 := length_pieces_le
      rw [List.filterMap_cons, List.filterMap_cons, List.length_cons]
      split <;> split <;> simp_all only [Option.getD_none, Option.getD_some, List.flatten_cons,
        List.length_append, List.length_nil] <;> omega

theorem length_flatten_breakings_le :
    (breakings breaks word).flatten.length ≤ 2 * breaks.length := by
  have hkept : (breakings breaks word).flatten.length ≤
      (breaks.filterMap (anchoredPieces? word) ++
        breaks.filterMap (splitPieces? word)).flatten.length :=
    List.filter_sublist.flatten.length_le
  rw [List.flatten_append, List.length_append] at hkept
  exact Nat.le_trans hkept length_flatten_pieces_le

end Text

/-- One attempt at a word, with the counts before and after it. -/
structure Attempt where
  word : Text
  before : Nat
  accepted : Bool
  after : Nat

namespace Attempt

/-! ## Counts along a list of attempts -/

/-- Attempts in the order in which they begin, from a count to a count.  One that passes the test of
the limit is followed by those that it makes itself. -/
inductive Counted : Nat → List Attempt → Nat → Prop
  | nil {n : Nat} : Counted n [] n
  | refused {n : Nat} {word : Text} (h : maxBreakAttempts < n) :
      Counted n [⟨word, n, false, n⟩] n
  | passed {n m : Nat} {word : Text} {accepted : Bool} {calls : List Attempt}
      (h : n ≤ maxBreakAttempts) (own : Counted (n + 1) calls m) :
      Counted n (⟨word, n, accepted, m⟩ :: calls) m
  | append {n k m : Nat} {calls more : List Attempt} (first : Counted n calls k)
      (rest : Counted k more m) : Counted n (calls ++ more) m

/-- The attempts that pass the test of the limit. -/
def passes (calls : List Attempt) : Nat :=
  calls.countP fun call ↦ call.before ≤ maxBreakAttempts

namespace Counted

variable {n m : Nat} {calls : List Attempt}

theorem eq_add_passes (h : Counted n calls m) : m = n + passes calls := by
  induction h with
  | nil => rfl
  | refused h => simp [passes, Nat.not_le.2 h]
  | passed h _ ih =>
      rw [passes, List.countP_cons_of_pos (by simpa using h)]
      rw [passes] at ih
      omega
  | append _ _ ihFirst ihRest =>
      rw [passes, List.countP_append]
      rw [passes] at ihFirst ihRest
      omega

theorem le (h : Counted n calls m) : n ≤ m := by
  rw [h.eq_add_passes]
  exact Nat.le_add_right _ _

theorem le_limit (h : Counted n calls m) (hn : n ≤ maxBreakAttempts + 1) :
    m ≤ maxBreakAttempts + 1 := by
  induction h with
  | nil => exact hn
  | refused _ => exact hn
  | passed h _ ih => exact ih (Nat.succ_le_succ h)
  | append _ _ ihFirst ihRest => exact ihRest (ihFirst hn)

theorem mem_between (h : Counted n calls m) :
    ∀ call ∈ calls, n ≤ call.before ∧ call.before ≤ call.after ∧ call.after ≤ m := by
  induction h with
  | nil => simp
  | refused _ => simp
  | passed _ own ih =>
      intro call hcall
      have hle := own.le
      rcases List.mem_cons.1 hcall with rfl | hcall
      · exact ⟨Nat.le_refl _, Nat.le_of_succ_le hle, Nat.le_refl _⟩
      · have hbetween := ih call hcall
        exact ⟨by omega, hbetween.2⟩
  | append first rest ihFirst ihRest =>
      intro call hcall
      have hfirst := first.le
      have hrest := rest.le
      rcases List.mem_append.1 hcall with hcall | hcall
      · have hbetween := ihFirst call hcall
        omega
      · have hbetween := ihRest call hcall
        omega

/-- The count never falls. -/
theorem pairwise_before_le (h : Counted n calls m) :
    calls.Pairwise fun call later ↦ call.before ≤ later.before := by
  induction h with
  | nil => exact .nil
  | refused _ => exact List.pairwise_singleton _ _
  | passed _ own ih =>
      refine .cons (fun later hlater ↦ ?_) ih
      exact Nat.le_of_succ_le (own.mem_between later hlater).1
  | append first rest ihFirst ihRest =>
      refine List.pairwise_append.2 ⟨ihFirst, ihRest, fun call hcall later hlater ↦ ?_⟩
      have hcall := first.mem_between call hcall
      have hlater := rest.mem_between later hlater
      omega

theorem eq_of_limit_lt (h : Counted n calls m) :
    ∀ call ∈ calls, maxBreakAttempts < call.before →
      call.accepted = false ∧ call.after = call.before := by
  induction h with
  | nil => simp
  | refused _ => simp
  | passed h _ ih =>
      intro call hcall hlimit
      rcases List.mem_cons.1 hcall with rfl | hcall
      · exact absurd hlimit (Nat.not_lt.2 h)
      · exact ih call hcall hlimit
  | append _ _ ihFirst ihRest =>
      intro call hcall
      rcases List.mem_append.1 hcall with hcall | hcall
      · exact ihFirst call hcall
      · exact ihRest call hcall

end Counted

/-! ## Runs of the search -/

/-- What there is to try: a word, all pieces of a list, or any list of some. -/
inductive Task
  | word (word : Text)
  | all (pieces : List Text)
  | any (options : List (List Text))

/-- The attempts that a task makes by itself, if none of them ends it early. -/
def Task.width : Task → Nat
  | .word _ => 1
  | .all pieces => pieces.length
  | .any options => options.flatten.length

/-- The finished runs of the search: from a count, the attempts at a task and its result with the
count at the end. -/
inductive Runs (accepts : Text → Bool) (breaks : List Text) :
    Task → Nat → List Attempt → Bool × Nat → Prop
  | refused {word : Text} {n : Nat} (h : maxBreakAttempts < n) :
      Runs accepts breaks (.word word) n [⟨word, n, false, n⟩] (false, n)
  | accepted {word : Text} {n : Nat} (h : n ≤ maxBreakAttempts) (hword : accepts word = true) :
      Runs accepts breaks (.word word) n [⟨word, n, true, n + 1⟩] (true, n + 1)
  | broken {word : Text} {n : Nat} {calls : List Attempt} {result : Bool × Nat}
      (h : n ≤ maxBreakAttempts) (hword : accepts word = false)
      (pieces : Runs accepts breaks (.any (Text.breakings breaks word)) (n + 1) calls result) :
      Runs accepts breaks (.word word) n (⟨word, n, result.1, result.2⟩ :: calls) result
  | allNil {n : Nat} : Runs accepts breaks (.all []) n [] (true, n)
  | allStop {piece : Text} {pieces : List Text} {n m : Nat} {calls : List Attempt}
      (first : Runs accepts breaks (.word piece) n calls (false, m)) :
      Runs accepts breaks (.all (piece :: pieces)) n calls (false, m)
  | allNext {piece : Text} {pieces : List Text} {n m : Nat} {calls more : List Attempt}
      {result : Bool × Nat} (first : Runs accepts breaks (.word piece) n calls (true, m))
      (rest : Runs accepts breaks (.all pieces) m more result) :
      Runs accepts breaks (.all (piece :: pieces)) n (calls ++ more) result
  | anyNil {n : Nat} : Runs accepts breaks (.any []) n [] (false, n)
  | anyStop {pieces : List Text} {options : List (List Text)} {n m : Nat} {calls : List Attempt}
      (first : Runs accepts breaks (.all pieces) n calls (true, m)) :
      Runs accepts breaks (.any (pieces :: options)) n calls (true, m)
  | anyNext {pieces : List Text} {options : List (List Text)} {n m : Nat}
      {calls more : List Attempt} {result : Bool × Nat}
      (first : Runs accepts breaks (.all pieces) n calls (false, m))
      (rest : Runs accepts breaks (.any options) m more result) :
      Runs accepts breaks (.any (pieces :: options)) n (calls ++ more) result

namespace Runs

variable {accepts : Text → Bool} {breaks : List Text} {task : Task} {n : Nat}
  {calls : List Attempt} {result : Bool × Nat}

theorem counted (h : Runs accepts breaks task n calls result) : Counted n calls result.2 := by
  induction h with
  | refused h => exact .refused h
  | accepted h _ => exact .passed h .nil
  | broken h _ _ ih => exact .passed h ih
  | allNil | anyNil => exact .nil
  | allStop _ ih | anyStop _ ih => exact ih
  | allNext _ _ ihFirst ihRest | anyNext _ _ ihFirst ihRest => exact .append ihFirst ihRest

/-- Each attempt that passes makes at most two for each break text. -/
theorem length_le (h : Runs accepts breaks task n calls result) :
    calls.length ≤ task.width + 2 * breaks.length * passes calls := by
  have hpasses (calls more : List Attempt) : passes (calls ++ more) = passes calls + passes more :=
    List.countP_append
  induction h with
  | refused _ => exact Nat.le_add_right _ _
  | accepted _ _ => exact Nat.le_add_right _ _
  | @broken word n calls result h _ _ ih =>
      have hpass : passes (⟨word, n, result.1, result.2⟩ :: calls) = passes calls + 1 :=
        List.countP_cons_of_pos (by simpa using h)
      have hwidth : (Text.breakings breaks word).flatten.length ≤ 2 * breaks.length :=
        Text.length_flatten_breakings_le
      rw [hpass, Nat.mul_succ, List.length_cons]
      simp only [Task.width] at ih ⊢
      omega
  | allNil => exact Nat.zero_le _
  | allStop _ ih =>
      simp only [Task.width, List.length_cons] at ih ⊢
      omega
  | allNext _ _ ihFirst ihRest =>
      rw [hpasses, Nat.mul_add, List.length_append]
      simp only [Task.width, List.length_cons] at ihFirst ihRest ⊢
      omega
  | anyNil => exact Nat.zero_le _
  | anyStop _ ih =>
      simp only [Task.width, List.flatten_cons, List.length_append] at ih ⊢
      omega
  | anyNext _ _ ihFirst ihRest =>
      rw [hpasses, Nat.mul_add, List.length_append]
      simp only [Task.width, List.flatten_cons, List.length_append] at ihFirst ihRest ⊢
      omega

/-- A task has one run from each count. -/
theorem unique {calls' : List Attempt} {result' : Bool × Nat}
    (h : Runs accepts breaks task n calls result) (h' : Runs accepts breaks task n calls' result') :
    calls' = calls ∧ result' = result := by
  induction h generalizing calls' result' with
  | refused h =>
      cases h' with
      | refused => exact ⟨rfl, rfl⟩
      | accepted h' => exact absurd h (Nat.not_lt.2 h')
      | broken h' => exact absurd h (Nat.not_lt.2 h')
  | accepted h hword =>
      cases h' with
      | refused h' => exact absurd h' (Nat.not_lt.2 h)
      | accepted => exact ⟨rfl, rfl⟩
      | broken _ hword' => simp [hword] at hword'
  | broken h hword _ ih =>
      cases h' with
      | refused h' => exact absurd h' (Nat.not_lt.2 h)
      | accepted _ hword' => simp [hword] at hword'
      | broken _ _ pieces =>
          obtain ⟨rfl, rfl⟩ := ih pieces
          exact ⟨rfl, rfl⟩
  | allNil | anyNil =>
      cases h'
      exact ⟨rfl, rfl⟩
  | allStop _ ih =>
      cases h' with
      | allStop first => exact ih first
      | allNext first _ => cases (ih first).2
  | anyStop _ ih =>
      cases h' with
      | anyStop first => exact ih first
      | anyNext first _ => cases (ih first).2
  | allNext _ _ ihFirst ihRest =>
      cases h' with
      | allStop first => cases (ihFirst first).2
      | allNext first rest =>
          obtain ⟨rfl, hfirst⟩ := ihFirst first
          cases hfirst
          obtain ⟨rfl, rfl⟩ := ihRest rest
          exact ⟨rfl, rfl⟩
  | anyNext _ _ ihFirst ihRest =>
      cases h' with
      | anyStop first => cases (ihFirst first).2
      | anyNext first rest =>
          obtain ⟨rfl, hfirst⟩ := ihFirst first
          cases hfirst
          obtain ⟨rfl, rfl⟩ := ihRest rest
          exact ⟨rfl, rfl⟩

end Runs

/-! ## The counted search makes the runs -/

section Exists

variable {accepts : Text → Bool} {breaks : List Text} {f : Text → Nat → Bool × Nat}
  {pieces : List Text} {options : List (List Text)} {word : Text} {fuel n : Nat}

theorem exists_runs_all (hcount : ∀ piece m, m ≤ (f piece m).2)
    (h : ∀ piece m, n ≤ m → ∃ calls, Runs accepts breaks (.word piece) m calls (f piece m)) :
    ∃ calls, Runs accepts breaks (.all pieces) n calls (tryAll f pieces n) := by
  induction pieces generalizing n with
  | nil => exact ⟨[], .allNil⟩
  | cons piece pieces ih =>
      obtain ⟨calls, hfirst⟩ := h piece n (Nat.le_refl _)
      have hle := hcount piece n
      simp only [tryAll]
      split <;> rename_i m hm <;> rw [hm] at hfirst hle
      · obtain ⟨more, hrest⟩ := ih fun piece k hk ↦ h piece k (Nat.le_trans hle hk)
        exact ⟨calls ++ more, .allNext hfirst hrest⟩
      · exact ⟨calls, .allStop hfirst⟩

theorem exists_runs_any (hcount : ∀ piece m, m ≤ (f piece m).2)
    (h : ∀ piece m, n ≤ m → ∃ calls, Runs accepts breaks (.word piece) m calls (f piece m)) :
    ∃ calls, Runs accepts breaks (.any options) n calls (tryAny f options n) := by
  induction options generalizing n with
  | nil => exact ⟨[], .anyNil⟩
  | cons pieces options ih =>
      obtain ⟨calls, hfirst⟩ : ∃ calls, Runs accepts breaks (.all pieces) n calls
          (tryAll f pieces n) := exists_runs_all hcount h
      have hle : n ≤ (tryAll f pieces n).2 := le_tryAll hcount
      simp only [tryAny]
      split <;> rename_i m hm <;> rw [hm] at hfirst hle
      · exact ⟨calls, .anyStop hfirst⟩
      · obtain ⟨more, hrest⟩ := ih fun piece k hk ↦ h piece k (Nat.le_trans hle hk)
        exact ⟨calls ++ more, .anyNext hfirst hrest⟩

/-- Fuel that exceeds what the limit leaves ends no run. -/
theorem exists_runs (hfuel : maxBreakAttempts < fuel + n) :
    ∃ calls, Runs accepts breaks (.word word) n calls (attempt accepts breaks fuel word n) := by
  induction fuel generalizing word n with
  | zero => exact ⟨_, .refused (by omega)⟩
  | succ fuel ih =>
      simp only [attempt]
      split
      · exact ⟨_, .refused ‹_›⟩
      rename_i hlimit
      rw [Nat.not_lt] at hlimit
      split <;> rename_i hword
      · exact ⟨_, .accepted hlimit hword⟩
      · obtain ⟨calls, hcalls⟩ : ∃ calls,
            Runs accepts breaks (.any (Text.breakings breaks word)) (n + 1) calls
              (tryAny (attempt accepts breaks fuel) (Text.breakings breaks word) (n + 1)) :=
          exists_runs_any (fun _ _ ↦ le_attempt) fun piece m hm ↦ ih (by omega)
        exact ⟨_, .broken hlimit (by simpa using hword) hcalls⟩

end Exists

end Attempt

namespace Dictionary

variable {dictionary : Dictionary} {suggesting : Bool} {word : Text}

/-- The search for ways of breaking a word makes these attempts, and no others, and ends with this
result. -/
abbrev Searches (dictionary : Dictionary) (suggesting : Bool) (word : Text) (calls : List Attempt)
    (result : Bool × Nat) : Prop :=
  Attempt.Runs (dictionary.acceptsCased suggesting) dictionary.settings.breaks (.word word) 0 calls
    result

theorem exists_searches :
    ∃ calls, dictionary.Searches suggesting word calls (dictionary.attempts suggesting word 0) :=
  Attempt.exists_runs (Nat.lt_succ_self _)

/-- The search ends, whatever the break texts are: its attempts and its result are fixed, the count
stays within the limit and one, and so do the attempts that are not refused. -/
theorem searches_within_budget (dictionary : Dictionary) (suggesting : Bool) (word : Text) :
    ∃ calls,
      (∀ calls' result, dictionary.Searches suggesting word calls' result ↔
        calls' = calls ∧ result = dictionary.attempts suggesting word 0) ∧
      (dictionary.attempts suggesting word 0).2 ≤ 1001 ∧
      (∀ call ∈ calls, call.before ≤ 1001 ∧ call.after ≤ 1001) ∧ 1001 < UInt16.size ∧
      (calls.countP fun call ↦ call.before ≤ maxBreakAttempts) ≤ 1001 ∧
      calls.length ≤ 1 + 2 * dictionary.settings.breaks.length * 1001 ∧
      (calls.Pairwise fun call later ↦ call.before ≤ later.before) ∧
      ∀ call ∈ calls, maxBreakAttempts < call.before →
        call.accepted = false ∧ call.after = call.before := by
  obtain ⟨calls, hruns⟩ : ∃ calls, dictionary.Searches suggesting word calls _ := exists_searches
  have hcounted := hruns.counted
  have hlimit : (dictionary.attempts suggesting word 0).2 ≤ 1001 :=
    hcounted.le_limit (Nat.zero_le _)
  have hpasses : Attempt.passes calls ≤ 1001 := by
    have heq := hcounted.eq_add_passes
    omega
  refine ⟨calls, fun calls' result ↦ ⟨hruns.unique, ?_⟩, hlimit, fun call hcall ↦ ?_, by decide,
    hpasses, ?_, hcounted.pairwise_before_le, hcounted.eq_of_limit_lt⟩
  · rintro ⟨rfl, rfl⟩
    exact hruns
  · have hbetween := hcounted.mem_between call hcall
    omega
  · exact Nat.le_trans hruns.length_le (Nat.add_le_add_left (Nat.mul_le_mul_left _ hpasses) _)

-- A lone `^` leaves the word as it is, so the whole budget is spent on it.
example : (ofParts { breaks := [['^']] } .empty).attempts false ['a'] 0 = (false, 1001) := by
  decide +kernel

end Dictionary
end Orthography
