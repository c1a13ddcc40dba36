import Orthography.Flag.Set

/-!
# Roles

A flag may have a special role, such as forbidding the words that carry it.  `Roles` says which
flag has which role, and `Roles.marks` reads off the roles that a set of flags gives.
-/

namespace Orthography

inductive Role where
  /-- The word must not be accepted. -/
  | forbidden
  | compoundBegin
  | compoundMiddle
  | compoundEnd
  /-- The affix may stand inside a compound. -/
  | compoundPermit
  /-- A word with this affix is no part of a compound. -/
  | compoundForbid
  | onlyInCompound
  | noSuggest
  /-- The affix is used only together with one on the other side that has this role too. -/
  | circumfix
  /-- The word is incomplete without an affix. -/
  | needAffix
  | keepCase
  /-- The word may stand anywhere in a compound. -/
  | compoundFlag
  deriving DecidableEq, Repr

namespace Role

def all : List Role :=
  [forbidden, compoundBegin, compoundMiddle, compoundEnd, compoundPermit, compoundForbid,
   onlyInCompound, noSuggest, circumfix, needAffix, keepCase, compoundFlag]

theorem mem_all (role : Role) : role ∈ all := by cases role <;> decide

/-- Each role has a bit of its own in a written set of marks. -/
def bit (role : Role) : Nat := 1 <<< all.idxOf role

end Role

/-- The roles that the flags of an entry give it. -/
abbrev Marks := List Role

def Marks.bits (marks : Marks) : Nat := marks.foldr (fun role bits ↦ role.bit ||| bits) 0

/-- The flag that has each role, if one is declared. -/
structure Roles where
  flagOf : Role → Option Flag

namespace Roles

def none : Roles := ⟨fun _ ↦ Option.none⟩

/-- Declares the flag of a role; a later declaration replaces an earlier one. -/
def declare (roles : Roles) (role : Role) (flag : Flag) : Roles :=
  ⟨fun r ↦ if r = role then some flag else roles.flagOf r⟩

def marks (roles : Roles) (flags : FlagSet) : Marks :=
  Role.all.filter fun role ↦ flags.containsOpt (roles.flagOf role)

theorem mem_marks {roles : Roles} {flags : FlagSet} {role : Role} :
    role ∈ roles.marks flags ↔ ∃ flag, roles.flagOf role = some flag ∧ flags.contains flag := by
  simp only [marks, List.mem_filter, Role.mem_all, true_and]
  cases roles.flagOf role <;> simp [FlagSet.containsOpt]

/-- Whether words may be joined by compound flags at all. -/
def compounding (roles : Roles) : Bool :=
  [Role.compoundFlag, .compoundBegin, .compoundMiddle, .compoundEnd].any
    fun role ↦ (roles.flagOf role).isSome

end Roles
end Orthography
