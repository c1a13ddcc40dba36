import Orthography.Affix.Basic
import Orthography.Affix.Trie

/-!
# Affix tables

The prefix and suffix rules of a language in the order of their declaration, with an index by the
letters they add, so that only the entries that can have been attached to a word are tried.  The
index holds references, which are looked up among the rules.
-/

namespace Orthography

/-- Where an entry stands: the number of its rule, and its own number there. -/
structure EntryRef where
  rule : Nat
  entry : Nat
  deriving DecidableEq

/-- An entry with the number of its rule. -/
structure Slot where
  rule : Nat
  entry : AffixEntry
  deriving DecidableEq

/-- The places of the entries of some rules in the order of declaration, with what stands there. -/
def EntryRef.ofRules (rules : List AffixRule) : List (EntryRef × AffixEntry) :=
  rules.zipIdx.flatMap fun (rule, r) ↦ rule.entries.zipIdx.map fun (entry, e) ↦ (⟨r, e⟩, entry)

/-- The entry at a place. -/
def Slot.at? (rules : List AffixRule) (ref : EntryRef) : Option Slot :=
  (rules[ref.rule]?.bind (·.entries[ref.entry]?)).map (Slot.mk ref.rule)

structure AffixTable where
  prefixes : List AffixRule
  suffixes : List AffixRule
  /-- The places of the prefix entries under the bytes of their letters. -/
  front : Trie EntryRef
  /-- The places of the suffix entries under the bytes of their letters, read backwards. -/
  back : Trie EntryRef
  initials : List Char
  /-- Whether some prefix adds nothing, so that a prefixed word may begin with anything. -/
  anyInitial : Bool

namespace AffixTable

def ofRules (prefixes suffixes : List AffixRule) : AffixTable :=
  let front := EntryRef.ofRules prefixes
  let back := EntryRef.ofRules suffixes
  { prefixes, suffixes
    front := front.foldl (fun trie place ↦ trie.insert (Text.bytes place.2.add) place.1) .empty
    back := back.foldl (fun trie place ↦ trie.insert (Text.bytes place.2.add).reverse place.1)
      .empty
    initials := front.filterMap fun place ↦ place.2.add.head?
    anyInitial := front.any fun place ↦ place.2.add.isEmpty }

def empty : AffixTable := ofRules [] []

def isEmpty (table : AffixTable) : Bool := table.prefixes.isEmpty && table.suffixes.isEmpty

/-- The places of the prefix entries whose letters begin a word: fewer letters first, and of equal
letters in the order of declaration. -/
def prefixRefs (table : AffixTable) (word : Text) : List EntryRef :=
  table.front.along (Text.bytes word)

/-- The places of the suffix entries whose letters end a word, in the same order. -/
def suffixRefs (table : AffixTable) (word : Text) : List EntryRef :=
  table.back.along (Text.bytes word).reverse

def prefixesOf (table : AffixTable) (word : Text) : List Slot :=
  (table.prefixRefs word).filterMap (Slot.at? table.prefixes)

def suffixesOf (table : AffixTable) (word : Text) : List Slot :=
  (table.suffixRefs word).filterMap (Slot.at? table.suffixes)

/-- Tells the slots of `prefixesOf` one by one, until `found` asks to stop. -/
def visitPrefixes {m : Type → Type} [Monad m] (table : AffixTable) (word : Text)
    (found : Slot → m Bool) : m Bool :=
  table.front.visitAlong (Text.bytes word) fun ref ↦
    (Slot.at? table.prefixes ref).elim (pure false) found

/-- The same of the slots of `suffixesOf`. -/
def visitSuffixes {m : Type → Type} [Monad m] (table : AffixTable) (word : Text)
    (found : Slot → m Bool) : m Bool :=
  table.back.visitAlong (Text.bytes word).reverse fun ref ↦
    (Slot.at? table.suffixes ref).elim (pure false) found

/-- Whether a prefixed word could begin with a character. -/
def mayBegin (table : AffixTable) (c : Char) : Bool :=
  table.anyInitial || table.initials.contains c

/-- Marks the entries, which stay where they are. -/
def withMarks (roles : Roles) (table : AffixTable) : AffixTable :=
  { table with
    prefixes := table.prefixes.map (.withMarks roles)
    suffixes := table.suffixes.map (.withMarks roles) }

end AffixTable
end Orthography
