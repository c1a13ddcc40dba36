import Orthography.Derivation.Basic
import Orthography.Dictionary.Basic
import Orthography.LazyList

/-!
# Finding derivations

`Dictionary.derivations` lists the derivations of a word: from bare roots, then with suffixes,
then with a prefix.  Entries of one rule that have the same effect count once, for the first one
whose condition is satisfied.
-/

namespace Orthography

/-- Whether two entries belong to one rule and do the same to a word. -/
def Slot.sameEffect (a b : Slot) : Bool :=
  a.rule == b.rule && a.entry.strip == b.entry.strip && a.entry.add == b.entry.add &&
    a.entry.contFlags == b.entry.contFlags

/-- The slots that are not in the shadow of an earlier one: of those with the same effect none
counts after one that is committed to. -/
def Slot.unshadowed (commits : Slot → Bool) (committed : List Slot) : List Slot → List Slot
  | [] => []
  | slot :: slots =>
      if committed.any slot.sameEffect then unshadowed commits committed slots
      else
        slot :: unshadowed commits (if commits slot then slot :: committed else committed) slots

namespace AffixEntry

/-- The form that a prefix was attached to. -/
def stemBehind (entry : AffixEntry) (word : Text) : Text :=
  entry.strip ++ word.drop entry.add.length

/-- The form that a suffix was attached to. -/
def stemBefore (entry : AffixEntry) (word : Text) : Text :=
  word.take (word.length - entry.add.length) ++ entry.strip

/-- Whether a suffix goes with a prefix, if there is one: both must be from cross rules, and the
prefix must be fit for the root. -/
def goesWith (suffix : AffixEntry) (front : Option AffixEntry) (stem : Text) : Bool :=
  front.all fun p ↦ suffix.cross && p.condition.matchesStart stem

end AffixEntry

/-- Whether a root lets a suffix, and a prefix if there is one, be attached.  The flag of each may
also come from the other. -/
def Entry.carries (root : Entry) (front : Option AffixEntry) (suffix : AffixEntry) : Bool :=
  (root.hasFlag suffix.flag || front.any (·.hasContFlag suffix.flag)) &&
    front.all fun p ↦ root.hasFlag p.flag || suffix.hasContFlag p.flag

namespace Dictionary

variable (dictionary : Dictionary) (purpose : Purpose) (position : Position)

/-- Whether an affix leaves something of a word besides its own letters, as it must unless it may
replace the whole stem. -/
def leavesStem (word : Text) (entry : AffixEntry) : Bool :=
  entry.add.length < word.length || dictionary.settings.fullStrip

/-- The allowed derivations from the entries of a stem that pass a test. -/
def fromRoots (stem : Text) (carries : Entry → Bool) (derive : Entry → Derivation) :
    LazyList Derivation :=
  .ofList ((((dictionary.lexicon.lookup stem).filter carries).map derive).filter
    (·.isAllowed purpose position))

def bare (word : Text) : LazyList Derivation :=
  fromRoots dictionary purpose position word (fun _ ↦ true) fun root ↦ { root }

/-- Derivations of a form to which the suffix `outer` was attached: with an inner suffix that lets
`outer` follow. -/
def twiceSuffixed (outer : AffixEntry) (word : Text) : LazyList Derivation :=
  let fits (slot : Slot) : Bool :=
    let inner := slot.entry
    inner.hasContFlag outer.flag && dictionary.leavesStem word inner &&
      inner.condition.matchesEnd (inner.stemBefore word)
  (LazyList.ofList ((dictionary.settings.affixes.suffixesOf word).filter fits)).flatMap
    fun slot ↦
      let inner := slot.entry
      fromRoots dictionary purpose position (inner.stemBefore word) (·.hasFlag inner.flag)
        fun root ↦ { root, inner := some inner, outer := some outer }

/-- Derivations with a suffix, of a word whose prefix, if it had one, has been taken off. -/
def suffixed (front : Option AffixEntry) (word : Text) : LazyList Derivation :=
  let fits (slot : Slot) : Bool :=
    let suffix := slot.entry
    let stem := suffix.stemBefore word
    dictionary.leavesStem word suffix && suffix.condition.matchesEnd stem &&
      suffix.goesWith front stem
  let slots := (dictionary.settings.affixes.suffixesOf word).filter fits
  (LazyList.ofList (Slot.unshadowed (fun _ ↦ true) [] slots)).flatMap fun slot ↦
    let suffix := slot.entry
    let stem := suffix.stemBefore word
    (fromRoots dictionary purpose position stem (·.carries front suffix)
      fun root ↦ { root, front, inner := some suffix }).append fun _ ↦
        if front.isNone then twiceSuffixed dictionary purpose position suffix stem else .nil

/-- Derivations with a prefix.  With a suffix still attached the condition of the prefix is left
to be tried on the root. -/
def prefixed (word : Text) : LazyList Derivation :=
  let holds (slot : Slot) : Bool :=
    slot.entry.condition.matchesStart (slot.entry.stemBehind word)
  let slots := (dictionary.settings.affixes.prefixesOf word).filter
    fun slot ↦ dictionary.leavesStem word slot.entry
  (LazyList.ofList (Slot.unshadowed holds [] slots)).flatMap fun slot ↦
    let front := slot.entry
    let stem := front.stemBehind word
    (if holds slot then
      fromRoots dictionary purpose position stem (·.hasFlag front.flag)
        fun root ↦ { root, front := some front }
    else .nil).append fun _ ↦
      if front.cross then suffixed dictionary purpose position (some front) stem else .nil

def derivations (word : Text) : LazyList Derivation :=
  (bare dictionary purpose position word).append fun _ ↦
    (suffixed dictionary purpose position none word).append fun _ ↦
      prefixed dictionary purpose position word

def accepts (word : Text) : Bool := !(derivations dictionary purpose position word).isEmpty

/-- The root of the first derivation of a word that stands alone. -/
def reduce? (word : Text) : Option Entry :=
  (derivations dictionary purpose .alone word).head?.map (·.root)

end Dictionary
end Orthography
