import SchemaQuery.Unicode.CaseFolding

/-!
# Sets of characters

A set of characters is written down by the operations that build it, and asked for its members one
at a time. `contains_*` are the laws of the operations.
-/

namespace SchemaQuery.Unicode

/-- Which characters count as the same when case is ignored. -/
inductive CaseRule where
  | ascii
  | simple
  deriving Repr, DecidableEq

/-- The code points that count as the same as the given one, which is among them. -/
def CaseRule.orbit : CaseRule → Nat → List Nat
  | .ascii, code =>
    if 0x41 ≤ code && code ≤ 0x5A then [code, code + 0x20]
    else if 0x61 ≤ code && code ≤ 0x7A then [code, code - 0x20]
    else [code]
  | .simple, code => CaseFolding.orbit code

inductive CharSet where
  | ranges (list : List CodeRange)
  | union (a b : CharSet)
  | inter (a b : CharSet)
  | diff (a b : CharSet)
  | compl (a : CharSet)
  | anyCase (rule : CaseRule) (a : CharSet)
  deriving Repr, DecidableEq

namespace CharSet

/-- The code point is that of a member. -/
def containsCode : CharSet → Nat → Bool
  | ranges list, code => list.any (·.contains code)
  | union a b, code => a.containsCode code || b.containsCode code
  | inter a b, code => a.containsCode code && b.containsCode code
  | diff a b, code => a.containsCode code && !b.containsCode code
  | compl a, code => !a.containsCode code
  | anyCase rule a, code => (rule.orbit code).any a.containsCode

/-- The character is a member. -/
def contains (a : CharSet) (c : Char) : Bool := a.containsCode c.toNat

/-- The number of blocks of consecutive code points that the set is built from. -/
def blocks : CharSet → Nat
  | ranges list => (list.map CodeRange.blocks).sum
  | union a b => a.blocks + b.blocks
  | inter a b => a.blocks + b.blocks
  | diff a b => a.blocks + b.blocks
  | compl a => a.blocks + 1
  | anyCase _ a => 2 * a.blocks

/-! ## Building sets -/

def empty : CharSet := ranges []

def between (first last : Char) : CharSet := ranges [⟨first.toNat, last.toNat, 1⟩]

def singleton (c : Char) : CharSet := between c c

/-- The characters of a table of ranges. -/
def ofTable (table : String) : CharSet := ranges (CodeRange.ofTable table)

def unions : List CharSet → CharSet
  | [] => empty
  | a :: rest => a.union (unions rest)

/-- The characters that are in one of two sets only. -/
def symmDiff (a b : CharSet) : CharSet := (a.diff b).union (b.diff a)

def any : CharSet := ofTable "0-10FFFF"

def ascii : CharSet := ofTable "0-7F"

/-! ## Laws -/

theorem contains_union (a b : CharSet) (c : Char) :
    (a.union b).contains c = (a.contains c || b.contains c) := rfl

theorem contains_inter (a b : CharSet) (c : Char) :
    (a.inter b).contains c = (a.contains c && b.contains c) := rfl

theorem contains_diff (a b : CharSet) (c : Char) :
    (a.diff b).contains c = (a.contains c && !b.contains c) := rfl

theorem contains_compl (a : CharSet) (c : Char) : a.compl.contains c = !a.contains c := rfl

theorem contains_unions (list : List CharSet) (c : Char) :
    (unions list).contains c = list.any (·.contains c) := by
  induction list with
  | nil => rfl
  | cons a rest ih => rw [unions, contains_union, ih, List.any_cons]

theorem contains_symmDiff (a b : CharSet) (c : Char) :
    (a.symmDiff b).contains c = (a.contains c != b.contains c) := by
  rw [symmDiff, contains_union, contains_diff, contains_diff]
  cases a.contains c <;> cases b.contains c <;> rfl

end CharSet

/-- A set of characters with the names that stand for it. -/
structure NamedSet where
  names : List String
  members : CharSet

/-- The members of the set with the given name. -/
def NamedSet.find? (list : List NamedSet) (name : String) : Option CharSet :=
  (list.find? (·.names.contains name)).map NamedSet.members

end SchemaQuery.Unicode
