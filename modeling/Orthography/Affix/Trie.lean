/-!
# Tries

A trie keeps values under keys of bytes.  Walking along a word meets the values of all keys that
the word starts with: those of shorter keys first, and of one key in the order of insertion.
-/

namespace Orthography

/-- The edges that leave a node of a trie: the first edge with its label, the values at the node
it leads to and that node's own edges, and then the other edges, whose labels are greater. -/
inductive Branches (α : Type) where
  | none
  | edge (label : UInt8) (here : List α) (below beside : Branches α)

namespace Branches

variable {α : Type}

/-- A value under the key `b :: key` alone, before some other edges. -/
def path (b : UInt8) : List UInt8 → α → Branches α → Branches α
  | [], a, beside => edge b [a] none beside
  | d :: key, a, beside => edge b [] (path d key a none) beside

/-- Adds a value under the key `b :: key`.  A new edge goes before the first greater one. -/
def insert : Branches α → UInt8 → List UInt8 → α → Branches α
  | none, b, key, a => path b key a none
  | edge label here below beside, b, key, a =>
      if b = label then
        match key with
        | [] => edge label (here ++ [a]) below beside
        | d :: key => edge label here (below.insert d key a) beside
      else if b < label then path b key a (edge label here below beside)
      else edge label here below (beside.insert b key a)

/-- The search for an edge ends at a greater label. -/
def along : Branches α → List UInt8 → List α
  | none, _ => []
  | edge .., [] => []
  | edge label here below beside, b :: word =>
      if b = label then here ++ below.along word
      else if b < label then []
      else beside.along (b :: word)

/-- Tells the values along a word one by one, until `found` asks to stop. -/
def visitAlong {m : Type → Type} [Monad m] (found : α → m Bool) :
    Branches α → List UInt8 → m Bool
  | none, _ => pure false
  | edge .., [] => pure false
  | edge label here below beside, b :: word =>
      if b = label then here.anyM found <||> below.visitAlong found word
      else if b < label then pure false
      else beside.visitAlong found (b :: word)

end Branches

structure Trie (α : Type) where
  here : List α
  branches : Branches α

namespace Trie

variable {α : Type}

def empty : Trie α := ⟨[], .none⟩

def insert (trie : Trie α) : List UInt8 → α → Trie α
  | [], a => { trie with here := trie.here ++ [a] }
  | b :: key, a => { trie with branches := trie.branches.insert b key a }

/-- The values of all keys that `word` starts with, shorter keys first. -/
def along (trie : Trie α) (word : List UInt8) : List α := trie.here ++ trie.branches.along word

def visitAlong {m : Type → Type} [Monad m] (trie : Trie α) (word : List UInt8)
    (found : α → m Bool) : m Bool :=
  trie.here.anyM found <||> trie.branches.visitAlong found word

end Trie
end Orthography
