import Orthography.Proofs.Settings.Keyword
import Orthography.Proofs.Settings.Lines

/-!
# The table of flag aliases

The first line of the table is its count, and each line behind it should give its flags to its own
number.  The settings have no room for a line that cannot be used: it is left out, and every line
behind it moves up by one.  So the numbers are right just if the count can be read and the lines
that cannot be used are the last ones; `keepsAliasNumbers_iff` says so.
-/

namespace Orthography

/-! ## The table as it is written -/

/-- A line of the table, with the way of writing flags where it stands. -/
structure AliasLine where
  mode : FlagMode
  /-- What is written on the line, if it can be read. -/
  written : Option Text
  deriving DecidableEq

/-- The flags that a line gives, if they are well formed. -/
def AliasLine.flags? (line : AliasLine) : Option FlagSet :=
  line.written.bind fun text ↦ (FlagSet.parse line.mode text).toOption

namespace Directive

def isAliasLine (line : Text) : Bool := (afterKeyword? "AF".toList line).isSome

/-- The value on a line of the table, if the line can be read. -/
def aliasValue? (line : Text) : Option Text :=
  match ofLine line with
  | .ok (.flagAlias text) => some text
  | _ => none

/-- How flags are written behind a line. -/
def modeAfter (mode : FlagMode) (line : Text) : FlagMode :=
  match ofLine line with
  | .ok (.flagMode name) => (Loading.flagModeOf? name).getD mode
  | _ => mode

def aliasLines : FlagMode → List Text → List AliasLine
  | _, [] => []
  | mode, line :: lines =>
      let more := aliasLines (modeAfter mode line) lines
      if isAliasLine line then ⟨mode, aliasValue? line⟩ :: more else more

variable {line : Text} {directive : Directive}

theorem isAliasLine_of_ofLine {text : Text} (h : ofLine line = .ok (.flagAlias text)) :
    isAliasLine line := by
  obtain ⟨rest, hfront⟩ := exists_ofFront_of_ofLine h
  obtain ⟨keyword, hkeyword, hline⟩ := exists_keyword_of_ofFront hfront (by simp) (by simp)
  rw [List.mem_singleton.1 hkeyword] at hline
  exact hline

theorem exists_flagAlias_of_isAliasLine (hline : isAliasLine line)
    (h : ofLine line = .ok directive) : ∃ text, directive = .flagAlias text := by
  obtain ⟨behind, hbehind⟩ := Option.isSome_iff_exists.1 hline
  obtain ⟨rest, hfront⟩ := exists_ofFront_of_ofLine h
  have hmem : ("AF".toList, reading flagAlias value) ∈ keywords := by simp [keywords]
  rw [ofFront_of_afterKeyword? hmem hbehind, reading] at hfront
  cases hvalue : value behind with
  | error fault =>
      rw [hvalue] at hfront
      cases hfront
  | ok result =>
      rw [hvalue] at hfront
      cases hfront
      exact ⟨_, rfl⟩

end Directive

/-! ## The table as it is loaded -/

namespace AliasLine

/-- The flags that are kept of a table.  The first line that can be read is taken for the count,
unless there has been one before. -/
def keptFlags (counted : Bool) (table : List AliasLine) : List FlagSet :=
  let behind := if counted then table else (table.dropWhile fun line ↦ line.written.isNone).tail
  behind.filterMap flags?

variable {counted : Bool} {line count : AliasLine} {table : List AliasLine}

theorem flags?_of_none (h : line.written = none) : line.flags? = none := by
  rw [flags?, h, Option.bind_none]

@[simp] theorem keptFlags_nil : keptFlags counted [] = [] := by
  cases counted <;> rfl

theorem keptFlags_cons_of_none (h : line.written = none) :
    keptFlags counted (line :: table) = keptFlags counted table := by
  cases counted <;> simp [keptFlags, flags?_of_none h, h]

theorem keptFlags_cons_count (h : count.written.isSome) :
    keptFlags false (count :: table) = keptFlags true table := by
  simp [keptFlags, Option.isSome_iff_ne_none.1 h]

theorem keptFlags_cons :
    keptFlags true (line :: table) = line.flags?.toList ++ keptFlags true table := by
  simp only [keptFlags, if_true]
  cases h : line.flags? <;> simp [h]

theorem length_keptFlags_cons_le : (keptFlags false (count :: table)).length ≤ table.length := by
  have htail : ((count :: table).dropWhile fun line ↦ line.written.isNone).tail.Sublist table :=
    (List.dropWhile_sublist _).tail
  exact (List.length_filterMap_le _ _).trans htail.length_le

theorem filterMap_flags?_dropWhile :
    (table.dropWhile fun line ↦ line.written.isNone).filterMap flags? = table.filterMap flags? := by
  induction table with
  | nil => rfl
  | cons line table ih =>
      cases hwritten : line.written with
      | none =>
          rw [List.dropWhile_cons_of_pos (by rw [hwritten]; rfl), ih,
            List.filterMap_cons_none (flags?_of_none hwritten)]
      | some text => rw [List.dropWhile_cons_of_neg (by simp [hwritten])]

/-- Where a line of flags is taken for the count, the numbers are wrong unless there are no flags
at all. -/
theorem keptFlags_eq_nil (hkept : table.filterMap flags? = keptFlags false table)
    (hlast : table.Pairwise fun line later ↦ later.flags?.isSome → line.flags?.isSome) :
    keptFlags false table = [] := by
  have hpairs := hlast.sublist (List.dropWhile_sublist fun line ↦ line.written.isNone)
  simp only [keptFlags, Bool.false_eq_true, if_false] at hkept ⊢
  rw [← filterMap_flags?_dropWhile] at hkept
  cases hdrop : table.dropWhile fun line ↦ line.written.isNone with
  | nil => rfl
  | cons first others =>
      rw [hdrop] at hkept hpairs
      rw [List.tail_cons] at hkept ⊢
      cases hfirst : first.flags? with
      | some flags =>
          -- The flags of the line that was taken for the count are missing.
          have hlength := congrArg List.length hkept
          rw [List.filterMap_cons_some hfirst, List.length_cons] at hlength
          omega
      | none =>
          rw [List.filterMap_eq_nil_iff]
          intro line hline
          have hnot := (List.pairwise_cons.1 hpairs).1 line hline
          rw [hfirst] at hnot
          exact Option.not_isSome_iff_eq_none.1 fun hsome ↦ Bool.false_ne_true (hnot hsome)

end AliasLine

namespace Loading

open AliasLine Directive

variable {l next : Loading} {number : Nat} {line : Text} {lines : List Text} {directive : Directive}

/-- The aliases that there will be when some more lines have been read. -/
def aliasesAfter (l : Loading) (lines : List Text) : List FlagSet :=
  l.settings.flagAliases ++
    keptFlags l.flagAliasesCounted (aliasLines l.settings.flagMode lines)

theorem aliasesAfter_cons_of_none (hvalue : aliasValue? line = none)
    (hmode : modeAfter l.settings.flagMode line = l.settings.flagMode) :
    l.aliasesAfter (line :: lines) = l.aliasesAfter lines := by
  simp only [aliasesAfter, aliasLines, hmode]
  split
  · rw [keptFlags_cons_of_none hvalue]
  · rfl

theorem aliasesAfter_of_apply (h : l.apply directive = .ok next)
    (hdirective : ∀ text, directive ≠ .flagAlias text) :
    next.aliasesAfter lines = l.aliasesAfter lines := by
  rcases apply_cases h with ⟨settings, hset, rfl⟩ | ⟨kind, name, fields, -, haffix⟩ |
    ⟨text, htext, -⟩ | ⟨text, -, -, rfl⟩
  · have hmode : settings.flagMode = l.settings.flagMode := by
      apply eq_of_set hset
      intro settings
      unfold Directive.without
      split <;> rfl
    have haliases : settings.flagAliases = l.settings.flagAliases := by
      apply eq_of_set hset
      intro settings
      unfold Directive.without
      split <;> first
        | rfl
        | exact absurd rfl (hdirective _)
    rw [aliasesAfter, hmode, haliases]
    rfl
  · obtain ⟨prefixes, suffixes, rfl | ⟨flag, rfl⟩⟩ := exists_of_affixLine haffix <;> rfl
  · exact absurd htext (hdirective text)
  · rfl

theorem aliasesAfter_of_flagAlias {text : Text} (hline : ofLine line = .ok (.flagAlias text))
    (h : l.readLine number line = .ok next) :
    next.aliasesAfter lines = l.aliasesAfter (line :: lines) := by
  have htable : aliasLines l.settings.flagMode (line :: lines) =
      ⟨l.settings.flagMode, some text⟩ :: aliasLines l.settings.flagMode lines := by
    simp [aliasLines, isAliasLine_of_ofLine hline, aliasValue?, modeAfter, hline]
  rw [aliasesAfter, aliasesAfter, htable]
  rw [readLine, hline] at h
  cases hcounted : l.flagAliasesCounted with
  | false =>
      simp only [apply, hcounted, Bool.false_eq_true, if_false] at h
      cases h
      rw [keptFlags_cons_count rfl]
  | true =>
      rw [keptFlags_cons]
      simp only [apply, hcounted, if_true, set] at h
      cases hflags : FlagSet.parse l.settings.flagMode text with
      | error problem =>
          rw [hflags] at h
          cases h
          simp [AliasLine.flags?, hflags, report, Settings.report, hcounted, Except.toOption]
      | ok flags =>
          rw [hflags] at h
          cases h
          simp [AliasLine.flags?, hflags, Except.toOption]

theorem aliasesAfter_of_flagMode {name : Text} (hline : ofLine line = .ok (.flagMode name))
    (h : l.readLine number line = .ok next) :
    next.aliasesAfter lines = l.aliasesAfter (line :: lines) := by
  have hnot : isAliasLine line = false := by
    rw [Bool.eq_false_iff]
    intro halias
    obtain ⟨text, htext⟩ := exists_flagAlias_of_isAliasLine halias hline
    cases htext
  rw [readLine, hline] at h
  dsimp only at h
  split at h
  · rename_i mode hmode
    cases h
    simp [aliasesAfter, aliasLines, hnot, modeAfter, hline, hmode]
  · cases h

/-- Reading a line settles what it adds to the aliases. -/
theorem aliasesAfter_readLine (h : l.readLine number line = .ok next) :
    next.aliasesAfter lines = l.aliasesAfter (line :: lines) := by
  cases hline : ofLine line with
  | error fault =>
      rw [readLine, hline] at h
      cases h
      rw [aliasesAfter_cons_of_none (by rw [aliasValue?, hline]) (by rw [modeAfter, hline])]
      rfl
  | ok directive =>
      cases directive with
      | flagAlias text => exact aliasesAfter_of_flagAlias hline h
      | flagMode name => exact aliasesAfter_of_flagMode hline h
      | encoding name =>
          rw [aliasesAfter_cons_of_none (by rw [aliasValue?, hline]) (by rw [modeAfter, hline])]
          rw [readLine, hline] at h
          dsimp only at h
          split at h <;> cases h
          rfl
      | _ =>
          rw [aliasesAfter_cons_of_none (by rw [aliasValue?, hline]) (by rw [modeAfter, hline])]
          rw [readLine, hline] at h
          dsimp only at h
          split at h
          · rename_i happly
            cases h
            exact aliasesAfter_of_apply happly (by simp)
          · cases h
            rfl

theorem flagAliases_of_readLines {final : Loading} (h : l.readLines number lines = .ok final) :
    final.settings.flagAliases = l.aliasesAfter lines := by
  induction lines generalizing l number with
  | nil =>
      cases h
      simp [aliasesAfter, aliasLines]
  | cons line lines ih =>
      rw [readLines_cons] at h
      obtain ⟨next, hnext, hrest⟩ := exists_of_bind_eq_ok h
      rw [ih hrest, aliasesAfter_readLine hnext]

end Loading

/-! ## Places in a list of which some members are left out -/

section Places

variable {α β : Type} {f : α → Option β} {as : List α}

theorem getElem?_filterMap_of_eq_nil (hnil : as.filterMap f = []) {n : Nat} {a : α}
    (ha : as[n]? = some a) : (as.filterMap f)[n]? = f a := by
  rw [hnil, List.filterMap_eq_nil_iff.1 hnil a (List.mem_of_getElem? ha)]
  rfl

/-- The places are kept just if the members that are left out are the last ones. -/
theorem getElem?_filterMap_iff_pairwise :
    (∀ (n : Nat) (a : α), as[n]? = some a → (as.filterMap f)[n]? = f a) ↔
      as.Pairwise fun a b ↦ (f b).isSome → (f a).isSome := by
  induction as with
  | nil => simp
  | cons a as ih =>
      rw [List.pairwise_cons, ← ih]
      cases ha : f a with
      | some b =>
          rw [List.filterMap_cons_some ha]
          constructor
          · intro h
            exact ⟨fun _ _ _ ↦ rfl, fun n a hn ↦ h (n + 1) a hn⟩
          · intro h n a hn
            cases n with
            | zero =>
                obtain rfl := Option.some.inj hn
                exact ha.symm
            | succ n => exact h.2 n a hn
      | none =>
          -- The first place must stay empty, so there is nothing behind it either.
          have hempty : as.filterMap f = [] ↔ ∀ b ∈ as, (f b).isSome → (none : Option β).isSome := by
            simp [List.filterMap_eq_nil_iff, Option.eq_none_iff_forall_ne_some]
          constructor
          · intro h
            have hzero := h 0 a rfl
            rw [List.filterMap_cons_none ha, ha, List.getElem?_eq_none_iff] at hzero
            have hnil := List.length_eq_zero_iff.1 (Nat.le_zero.1 hzero)
            exact ⟨hempty.1 hnil, fun n b hb ↦ getElem?_filterMap_of_eq_nil hnil hb⟩
          · intro h n b hb
            have hnil : (a :: as).filterMap f = [] := by
              rw [List.filterMap_cons_none ha]
              exact hempty.2 h.1
            exact getElem?_filterMap_of_eq_nil hnil hb

/-- A list with the right member in each place is that of the members that are not left out. -/
theorem filterMap_eq_of_getElem? {bs : List β} (hlength : bs.length ≤ as.length)
    (h : ∀ (n : Nat) (a : α), as[n]? = some a → bs[n]? = f a) : as.filterMap f = bs := by
  induction as generalizing bs with
  | nil => exact (List.length_eq_zero_iff.1 (Nat.le_zero.1 hlength)).symm
  | cons a as ih =>
      have hfirst : bs[0]? = f a := h 0 a rfl
      cases bs with
      | nil =>
          rw [List.filterMap_cons_none hfirst.symm]
          exact ih (Nat.zero_le _) fun n a hn ↦ h (n + 1) a hn
      | cons b bs =>
          rw [List.filterMap_cons_some hfirst.symm]
          congr 1
          exact ih (Nat.le_of_succ_le_succ hlength) fun n a hn ↦ h (n + 1) a hn

end Places

namespace Settings

open AliasLine Directive Text

variable {settings : Settings} {text : Text} {count : AliasLine} {table : List AliasLine}

def aliasTable (text : Text) : List AliasLine :=
  aliasLines .char (lines (withoutByteOrderMark text))

theorem flagAliases_of_parse (h : parse text = .ok settings) :
    settings.flagAliases = keptFlags false (aliasTable text) := by
  obtain ⟨final, hfinal, rfl⟩ := exists_of_map_eq_ok h
  exact Loading.flagAliases_of_readLines hfinal

/-- Each line of a table gives its flags to its own number, and those that cannot be used leave
their numbers without any. -/
def KeepsAliasNumbers (settings : Settings) (table : List AliasLine) : Prop :=
  ∀ (n : Nat) (line : AliasLine), table[n]? = some line →
    (settings.parseFlags (Text.ofNat (n + 1))).toOption = line.flags?

/-! ## Numbers and places -/

theorem parseFlags_ofNat {n : Nat} (haliases : settings.flagAliases ≠ [])
    (hn : n + 1 < UInt64.size) :
    (settings.parseFlags (Text.ofNat (n + 1))).toOption = settings.flagAliases[n]? := by
  have hempty : (Text.ofNat (n + 1)).isEmpty = false := by
    rw [List.isEmpty_eq_false_iff]
    exact Nat.toDigits_ne_nil
  rw [parseFlags, aliasNumber?, numberBelow?_ofNat hn, hempty,
    List.isEmpty_eq_false_iff.2 haliases]
  simp only [Bool.or_self, Bool.false_eq_true, if_false, numbered?]
  cases settings.flagAliases[n]? <;> rfl

theorem parseFlags_of_no_aliases (haliases : settings.flagAliases = []) (flags : Text) :
    settings.parseFlags flags = FlagSet.parse settings.flagMode flags := by
  rw [parseFlags, haliases]
  rfl

/-- Numbers stand for the flags of their own lines just if the count can be read and the lines that
cannot be used are the last ones.  Where no aliases have been loaded a number is read like other
flags, and it is right where these happen to be those of its line.  Numbers are machine numbers, and
no text in memory has as many lines as there are of them. -/
theorem keepsAliasNumbers_iff (hparse : parse text = .ok settings)
    (htable : aliasTable text = count :: table) (hlength : table.length < UInt64.size) :
    settings.KeepsAliasNumbers table ↔
      if settings.flagAliases = [] then
        ∀ (n : Nat) (line : AliasLine), table[n]? = some line →
          (FlagSet.parse settings.flagMode (Text.ofNat (n + 1))).toOption = line.flags?
      else
        count.written.isSome ∧
          table.Pairwise fun line later ↦ later.flags?.isSome → line.flags?.isSome := by
  have haliases := flagAliases_of_parse hparse
  rw [htable] at haliases
  split
  · rename_i hnone
    simp only [KeepsAliasNumbers, parseFlags_of_no_aliases hnone]
  rename_i hsome
  have hplaces : settings.KeepsAliasNumbers table ↔
      ∀ (n : Nat) (line : AliasLine), table[n]? = some line →
        settings.flagAliases[n]? = line.flags? := by
    refine forall_congr' fun n ↦ forall_congr' fun line ↦ imp_congr_right fun hline ↦ ?_
    have hn : n < table.length := (List.getElem?_eq_some_iff.1 hline).1
    rw [parseFlags_ofNat hsome (Nat.lt_of_le_of_lt hn hlength)]
  rw [hplaces]
  constructor
  · intro h
    have hkept : table.filterMap AliasLine.flags? = settings.flagAliases :=
      filterMap_eq_of_getElem? (haliases ▸ length_keptFlags_cons_le) h
    have hlast := getElem?_filterMap_iff_pairwise.1 (hkept ▸ h)
    refine ⟨?_, hlast⟩
    by_contra hcount
    rw [keptFlags_cons_of_none (Option.not_isSome_iff_eq_none.1 hcount)] at haliases
    exact hsome (haliases.trans (keptFlags_eq_nil (hkept.trans haliases) hlast))
  · intro h
    obtain ⟨hcount, hlast⟩ := h
    have hkept : settings.flagAliases = table.filterMap AliasLine.flags? := by
      rw [haliases, keptFlags_cons_count hcount]
      rfl
    rw [hkept]
    exact getElem?_filterMap_iff_pairwise.2 hlast

/-- The way of writing flags changes inside the table, and its last line is malformed. -/
theorem keepsAliasNumbers_before_malformed :
    let text := "AF 3\nAF ab\nFLAG num\nAF 2,7\nAF x\n".toList
    let table : List AliasLine := [⟨.char, "ab".toList⟩, ⟨.num, "2,7".toList⟩, ⟨.num, "x".toList⟩]
    table.length < UInt64.size ∧ aliasTable text = ⟨.char, "3".toList⟩ :: table ∧
      ∃ settings, parse text = .ok settings ∧ settings.flagAliases ≠ [] ∧
        settings.KeepsAliasNumbers table := by
  intro text table
  have htable : aliasTable text = ⟨.char, "3".toList⟩ :: table := by decide +kernel
  have hlength : table.length < UInt64.size := by decide
  have hlast : table.Pairwise fun line later ↦ later.flags?.isSome → line.flags?.isSome := by
    decide +kernel
  have htwo : (parse text).map (·.flagAliases.length) = .ok 2 := by decide +kernel
  obtain ⟨settings, hparse, htwo⟩ := exists_of_map_eq_ok htwo
  have hsome : settings.flagAliases ≠ [] := by
    intro hnone
    rw [hnone] at htwo
    cases htwo
  refine ⟨hlength, htable, settings, hparse, hsome, ?_⟩
  apply (keepsAliasNumbers_iff hparse htable hlength).2
  rw [if_neg hsome]
  exact ⟨rfl, hlast⟩

/-- Behind a malformed line every number stands for the flags of the line after its own. -/
theorem not_keepsAliasNumbers_behind_malformed :
    let text := "FLAG num\nAF 3\nAF 1\nAF x\nAF 3\n".toList
    ∃ settings count table, parse text = .ok settings ∧ aliasTable text = count :: table ∧
      table.map AliasLine.flags? = [some (.ofList [1]), none, some (.ofList [3])] ∧
        (settings.parseFlags "2".toList).toOption = some (.ofList [3]) ∧
          (settings.parseFlags "3".toList).toOption = none ∧
            ¬ settings.KeepsAliasNumbers table := by
  intro text
  have hread : (parse text).map (fun settings ↦ ((settings.parseFlags "2".toList).toOption,
      (settings.parseFlags "3".toList).toOption)) = .ok (some (.ofList [3]), none) := by
    decide +kernel
  obtain ⟨settings, hparse, hread⟩ := exists_of_map_eq_ok hread
  obtain ⟨htwo, hthree⟩ := Prod.mk.inj hread
  refine ⟨settings, ⟨.num, "3".toList⟩,
    [⟨.num, "1".toList⟩, ⟨.num, "x".toList⟩, ⟨.num, "3".toList⟩], hparse, by decide +kernel,
    by decide +kernel, htwo, hthree, ?_⟩
  intro hkeeps
  have hmalformed := hkeeps 1 ⟨.num, "x".toList⟩ rfl
  have hnone : AliasLine.flags? ⟨.num, "x".toList⟩ = none := by decide +kernel
  rw [hnone] at hmalformed
  exact Option.some_ne_none _ (htwo.symm.trans hmalformed)

end Settings
end Orthography
