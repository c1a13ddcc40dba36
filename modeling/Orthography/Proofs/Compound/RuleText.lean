import Mathlib.Data.List.Basic
import Orthography.Compound.Rule
import Orthography.Proofs.Settings.Reader

/-!
# How compound rules are written

A rule is read exactly if it is written flag by flag: each flag by one character or in parentheses,
with at most one sign behind it.  What is read is the elements that are written this way, so a sign
stands nowhere but directly behind a flag.
-/

namespace Orthography

/-- What stands behind the flag of an element. -/
def RuleElement.sign : RuleElement → Text
  | once _ => []
  | optional _ => ['?']
  | multi _ => ['*']

namespace CompoundRule

variable {mode : FlagMode} {whole text read rest before after : Text} {flag : Flag} {c : Char}
  {rule : CompoundRule} {done : List RuleElement} {items : List (RuleElement × Text)}

/-! ## The grammar of rules -/

/-- The character tells how often the flag before it may come. -/
abbrev IsSign (c : Char) : Prop := c = '*' ∨ c = '?'

/-- The text of a flag in a rule. -/
inductive WritesFlag (mode : FlagMode) (flag : Flag) : Text → Prop
  | bare {c : Char} (hopen : c ≠ '(') (hsign : ¬IsSign c)
      (hflag : mode.parseSingle [c] = .ok flag) : WritesFlag mode flag [c]
  | grouped {text : Text} (hclose : ')' ∉ text) (hflag : mode.parseSingle text = .ok flag) :
      WritesFlag mode flag ('(' :: (text ++ [')']))

def writeItem (item : RuleElement × Text) : Text := item.2 ++ item.1.sign

/-- The text is these elements one after the other, each with its text of the flag. -/
structure AreWritten (mode : FlagMode) (items : List (RuleElement × Text)) (text : Text) :
    Prop where
  eq : text = items.flatMap writeItem
  flags : ∀ item ∈ items, WritesFlag mode item.1.flag item.2

theorem areWritten_nil : AreWritten mode [] [] := ⟨rfl, by simp⟩

theorem AreWritten.push (h : AreWritten mode items.reverse read)
    (hflag : WritesFlag mode flag text) :
    AreWritten mode ((.once flag, text) :: items).reverse (read ++ text) where
  eq := by simp [h.eq, writeItem, RuleElement.sign]
  flags := by
    rw [List.reverse_cons, List.forall_mem_append, List.forall_mem_singleton]
    exact ⟨h.flags, hflag⟩

theorem AreWritten.modify (element : RuleElement)
    (h : AreWritten mode ((.once element.flag, text) :: items).reverse read) :
    AreWritten mode ((element, text) :: items).reverse (read ++ element.sign) where
  eq := by simp [h.eq, writeItem, RuleElement.sign]
  flags := by
    have hflags := h.flags
    rw [List.reverse_cons, List.forall_mem_append, List.forall_mem_singleton] at hflags ⊢
    exact hflags

/-! ## Written rules are read -/

theorem readFrom_group (inner : Text) (hrest : ')' ∉ rest) :
    readFrom mode whole (some inner) done (rest ++ ')' :: text) =
      (mode.parseSingle (inner ++ rest) >>= fun flag ↦
        readFrom mode whole none (.once flag :: done) text) := by
  induction rest generalizing inner with
  | nil => simp [readFrom]
  | cons c rest ih =>
      rw [List.mem_cons, not_or] at hrest
      rw [List.cons_append, readFrom, if_neg (Ne.symm hrest.1), ih (inner ++ [c]) hrest.2,
        List.append_assoc, List.singleton_append]

theorem readFrom_open :
    readFrom mode whole none done ('(' :: text) = readFrom mode whole (some []) done text := by
  simp [readFrom]

theorem readFrom_bare (hopen : c ≠ '(') (hsign : ¬IsSign c) :
    readFrom mode whole none done (c :: text) =
      (mode.parseSingle [c] >>= fun flag ↦
        readFrom mode whole none (.once flag :: done) text) := by
  simp [readFrom, hopen, hsign]

theorem readFrom_flag (h : WritesFlag mode flag read) :
    readFrom mode whole none done (read ++ text) =
      readFrom mode whole none (.once flag :: done) text := by
  cases h with
  | bare hopen hsign hflag =>
      rw [List.singleton_append, readFrom_bare hopen hsign, hflag]
      rfl
  | grouped hclose hflag =>
      rw [List.cons_append, readFrom_open, List.append_assoc, List.singleton_append,
        readFrom_group [] hclose, List.nil_append, hflag]
      rfl

theorem readFrom_sign (element : RuleElement) :
    readFrom mode whole none (.once element.flag :: done) (element.sign ++ text) =
      readFrom mode whole none (element :: done) text := by
  cases element with
  | once flag => rfl
  | optional flag => simp [RuleElement.sign, RuleElement.flag, readFrom]
  | multi flag => simp [RuleElement.sign, RuleElement.flag, readFrom]

theorem AreWritten.readFrom_eq (h : AreWritten mode items text) (done : List RuleElement) :
    readFrom mode whole none done text = .ok (done.reverse ++ items.map (·.1)) := by
  obtain ⟨rfl, hflags⟩ := h
  induction items generalizing done with
  | nil => simp [readFrom]
  | cons item items ih =>
      rw [List.forall_mem_cons] at hflags
      rw [List.flatMap_cons, writeItem, List.append_assoc, readFrom_flag hflags.1, readFrom_sign,
        ih _ hflags.2, List.reverse_cons, List.append_assoc, List.map_cons, List.singleton_append]

/-! ## What is read is written -/

/-- A sign changes the latest element, which has none yet. -/
theorem exists_of_readFrom_sign (hsign : IsSign c)
    (h : readFrom mode whole none done (c :: text) = .ok rule) :
    ∃ element latest, [c] = element.sign ∧ done = .once element.flag :: latest ∧
      readFrom mode whole none (element :: latest) text = .ok rule := by
  have hopen : c ≠ '(' := by rintro rfl; simp [IsSign] at hsign
  cases done with
  | nil => simp [readFrom, hopen, hsign] at h
  | cons last latest =>
      cases last with
      | once flag =>
          simp only [readFrom, if_neg hopen, if_pos hsign] at h
          obtain rfl | rfl := hsign
          · exact ⟨.multi flag, latest, rfl, rfl, by simpa using h⟩
          · exact ⟨.optional flag, latest, rfl, rfl, by simpa using h⟩
      | optional flag => simp [readFrom, hopen, hsign] at h
      | multi flag => simp [readFrom, hopen, hsign] at h

/-- What is read of a group that is still open. -/
def groupText (group : Option Text) : Text := group.elim [] ('(' :: ·)

/-- The elements that are done, the latest first, write what has been read, but for a group that is
still open. -/
theorem exists_areWritten_of_readFrom {group : Option Text} (hgroup : ∀ inner ∈ group, ')' ∉ inner)
    (hitems : AreWritten mode items.reverse read)
    (h : readFrom mode whole group (items.map (·.1)) text = .ok rule) :
    ∃ all, AreWritten mode all (read ++ groupText group ++ text) ∧ rule = all.map (·.1) := by
  -- A character of an open group closes it or belongs to it.  Any other one opens a group, is a
  -- sign, or is a flag itself.
  induction text generalizing group items read with
  | nil =>
      cases group with
      | none =>
          obtain rfl := Except.ok.inj h
          exact ⟨items.reverse, by simpa [groupText] using hitems, by rw [List.map_reverse]⟩
      | some inner => cases h
  | cons c text ih =>
      cases group with
      | some inner =>
          have hinner : ')' ∉ inner := hgroup inner rfl
          by_cases hclose : c = ')'
          · subst hclose
            rw [readFrom, if_pos rfl] at h
            obtain ⟨flag, hflag, h⟩ := exists_of_bind_eq_ok h
            simpa [groupText] using ih (by simp) (hitems.push (.grouped hinner hflag)) h
          · rw [readFrom, if_neg hclose] at h
            have hnext : ∀ inner' ∈ some (inner ++ [c]), ')' ∉ inner' := by
              simpa [hinner] using Ne.symm hclose
            simpa [groupText] using ih hnext hitems h
      | none =>
          by_cases hopen : c = '('
          · subst hopen
            rw [readFrom_open] at h
            simpa [groupText] using ih (by simp) hitems h
          · by_cases hsign : IsSign c
            · obtain ⟨element, latest, hc, hdone, h⟩ := exists_of_readFrom_sign hsign h
              obtain ⟨⟨last, flagText⟩, items, rfl, rfl, rfl⟩ := List.map_eq_cons_iff.mp hdone
              have hnext := hitems.modify element
              rw [← hc] at hnext
              simpa [groupText] using ih (by simp) hnext h
            · rw [readFrom_bare hopen hsign] at h
              obtain ⟨flag, hflag, h⟩ := exists_of_bind_eq_ok h
              simpa [groupText] using ih (by simp) (hitems.push (.bare hopen hsign hflag)) h

/-- Exactly the rules that are written as elements are read, and as these elements. -/
theorem parse_eq_ok_iff :
    parse mode text = .ok rule ↔ ∃ items, AreWritten mode items text ∧ rule = items.map (·.1) := by
  constructor
  · intro h
    have hnil : AreWritten mode ([] : List (RuleElement × Text)).reverse [] := areWritten_nil
    simpa [groupText] using exists_areWritten_of_readFrom (by simp) hnil h
  · rintro ⟨items, h, rfl⟩
    exact h.readFrom_eq []

/-! ## Where signs stand -/

/-- Whether a parenthesis is open behind a character, where one is or is not open before it. -/
def insideNext (inside : Bool) (c : Char) : Bool := if inside then c ≠ ')' else c = '('

/-- Whether a parenthesis is open at the end of a text.  Inside one, only the one that closes it
counts. -/
def isInside (text : Text) : Bool := text.foldl insideNext false

/-- The text ends with a whole flag that has no sign yet. -/
def EndsWithFlag (mode : FlagMode) (text : Text) : Prop :=
  ∃ start flagText flag,
    text = start ++ flagText ∧ isInside start = false ∧ WritesFlag mode flag flagText

theorem foldl_insideNext_true (h : ')' ∉ text) : text.foldl insideNext true = true := by
  induction text with
  | nil => rfl
  | cons c text ih =>
      rw [List.mem_cons, not_or] at h
      rw [List.foldl_cons, insideNext, if_pos rfl, decide_eq_true (Ne.symm h.1), ih h.2]

theorem isInside_append (h : isInside before = false) :
    isInside (before ++ text) = isInside text := by
  rw [isInside, List.foldl_append, ← isInside, h, ← isInside]

theorem WritesFlag.isInside_eq (h : WritesFlag mode flag text) : isInside text = false := by
  cases h with
  | bare hopen hsign hflag => simp [isInside, insideNext, hopen]
  | grouped hclose hflag => simp [isInside, insideNext, foldl_insideNext_true hclose]

/-- A character of two texts in a row is one of the first or one of the second. -/
theorem append_eq_append_cons {left right : Text} (h : left ++ right = before ++ c :: after) :
    (∃ rest, left = before ++ c :: rest) ∨
      ∃ behind, before = left ++ behind ∧ right = behind ++ c :: after := by
  obtain ⟨behind, hbefore, hright⟩ | ⟨tail, hleft, htail⟩ := List.append_eq_append_iff.mp h
  · exact .inr ⟨behind, hbefore, hright⟩
  · cases tail with
    | nil => exact .inr ⟨[], by simpa using hleft.symm, htail.symm⟩
    | cons d tail =>
        obtain ⟨rfl, -⟩ := List.cons.inj htail
        exact .inl ⟨tail, hleft⟩

/-- In the text of a flag, a sign stands in parentheses only. -/
theorem WritesFlag.isInside_of_isSign (h : WritesFlag mode flag (before ++ c :: after))
    (hsign : IsSign c) : isInside before = true := by
  generalize htext : before ++ c :: after = text at h
  cases h with
  | bare hopen hnot hflag =>
      obtain ⟨rfl, rfl, rfl⟩ : before = [] ∧ c = _ ∧ after = [] := by
        simpa [List.append_eq_singleton_iff] using htext
      exact absurd hsign hnot
  | grouped hclose hflag =>
      cases before with
      | nil =>
          obtain ⟨rfl, -⟩ := List.cons.inj htext
          simp [IsSign] at hsign
      | cons d before =>
          obtain ⟨rfl, hrest⟩ := List.cons.inj htext
          obtain ⟨rest, rfl⟩ | ⟨behind, rfl, hbehind⟩ := append_eq_append_cons hrest.symm
          · rw [List.mem_append, not_or] at hclose
            exact foldl_insideNext_true hclose.1
          · obtain ⟨-, rfl, -⟩ : behind = [] ∧ c = ')' ∧ after = [] := by
              simpa [List.append_eq_singleton_iff, eq_comm] using hbehind
            simp [IsSign] at hsign

theorem isInside_writeItem {item : RuleElement × Text} (h : WritesFlag mode item.1.flag item.2) :
    isInside (writeItem item) = false := by
  rw [writeItem, isInside_append h.isInside_eq]
  cases item.1 <;> rfl

theorem AreWritten.isInside_eq (h : AreWritten mode items text) : isInside text = false := by
  obtain ⟨rfl, hflags⟩ := h
  induction items with
  | nil => rfl
  | cons item items ih =>
      rw [List.forall_mem_cons] at hflags
      rw [List.flatMap_cons, isInside_append (isInside_writeItem hflags.1), ih hflags.2]

theorem eq_nil_of_sign_eq {element : RuleElement} (h : element.sign = before ++ c :: after) :
    before = [] := by
  cases element <;> simp_all [RuleElement.sign, List.singleton_eq_append_iff]

/-- The sign of an element stands behind its flag. -/
theorem eq_flag_of_writeItem {item : RuleElement × Text}
    (hflag : WritesFlag mode item.1.flag item.2) (htext : writeItem item = before ++ c :: after)
    (hsign : IsSign c) (hinside : isInside before = false) : before = item.2 := by
  obtain ⟨rest, hrest⟩ | ⟨behind, rfl, hbehind⟩ := append_eq_append_cons htext
  · rw [hrest] at hflag
    cases hinside.symm.trans (hflag.isInside_of_isSign hsign)
  · rw [eq_nil_of_sign_eq hbehind, List.append_nil]

theorem AreWritten.endsWithFlag (h : AreWritten mode items (before ++ c :: after))
    (hsign : IsSign c) (hinside : isInside before = false) : EndsWithFlag mode before := by
  obtain ⟨htext, hflags⟩ := h
  induction items generalizing before with
  | nil => simp at htext
  | cons item items ih =>
      rw [List.forall_mem_cons] at hflags
      have hclosed := isInside_writeItem hflags.1
      obtain ⟨rest, hitem⟩ | ⟨behind, rfl, hrest⟩ := append_eq_append_cons htext.symm
      · rw [eq_flag_of_writeItem hflags.1 hitem hsign hinside]
        exact ⟨[], item.2, item.1.flag, rfl, rfl, hflags.1⟩
      · rw [isInside_append hclosed] at hinside
        obtain ⟨start, flagText, flag, rfl, hstart, hflag⟩ := ih hinside hrest.symm hflags.2
        exact ⟨writeItem item ++ start, flagText, flag, (List.append_assoc ..).symm,
          by rw [isInside_append hclosed, hstart], hflag⟩

/-! ## Rules and their texts -/

/-- A rule is read from the texts of its flags in parentheses, each with its sign.  In every text
that is read, a sign outside of parentheses stands directly behind a flag that has no other, and
every parenthesis is closed. -/
theorem read_as_written (mode : FlagMode) :
    (∀ items : List (RuleElement × Text),
      (∀ item ∈ items, ')' ∉ item.2 ∧ mode.parseSingle item.2 = .ok item.1.flag) →
      parse mode (items.flatMap fun item ↦ '(' :: (item.2 ++ ')' :: item.1.sign)) =
        .ok (items.map (·.1))) ∧
    ∀ text rule, parse mode text = .ok rule →
      isInside text = false ∧
      ∀ before c after, text = before ++ c :: after → IsSign c → isInside before = false →
        EndsWithFlag mode before := by
  constructor
  · intro items hitems
    rw [parse_eq_ok_iff]
    refine ⟨items.map fun item ↦ (item.1, '(' :: (item.2 ++ [')'])), ⟨?_, ?_⟩, ?_⟩
    · simp [List.flatMap_map, writeItem]
    · intro item hitem
      obtain ⟨given, hgiven, rfl⟩ := List.mem_map.mp hitem
      exact .grouped (hitems given hgiven).1 (hitems given hgiven).2
    · simp
  · intro text rule h
    obtain ⟨items, hwritten, -⟩ := parse_eq_ok_iff.mp h
    refine ⟨hwritten.isInside_eq, ?_⟩
    rintro before c after rfl hsign hinside
    exact hwritten.endsWithFlag hsign hinside

/-- Signs and parentheses can be flags as well: this rule has an optional `(` and any number of
`*`. -/
theorem read_as_written_signs :
    parse .char "(()?(*)*".toList = .ok [.optional 40, .multi 42] ∧
      EndsWithFlag .char "(()?(*)".toList := by
  obtain ⟨hread, hsigns⟩ := read_as_written .char
  have hrule : parse .char "(()?(*)*".toList = .ok [.optional 40, .multi 42] :=
    hread [(.optional 40, ['(']), (.multi 42, ['*'])] (by
      intro item hitem
      rw [List.mem_pair] at hitem
      obtain rfl | rfl := hitem <;> exact ⟨by decide, rfl⟩)
  exact ⟨hrule, (hsigns _ _ hrule).2 _ '*' [] rfl (by decide) (by decide)⟩

end CompoundRule
end Orthography
