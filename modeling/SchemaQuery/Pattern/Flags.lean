import SchemaQuery.Unicode.CharSet

/-!
# Flags of patterns

Flags change how the part of a pattern that follows them is read.
-/

namespace SchemaQuery.Pattern

open Unicode

/-- Ignore case; let anchors match at lines, dots match line ends; lines may end in carriage
returns; blanks and comments do not count; classes and case are those of ASCII. -/
structure Flags where
  ignoreCase : Bool := false
  multiLine : Bool := false
  dotAll : Bool := false
  crlf : Bool := false
  verbose : Bool := false
  isAscii : Bool := false
  deriving Repr, DecidableEq

namespace Flags

/-- The flags after the flag of the given letter is switched. The letter `U` only prefers other
matches, which does not change whether there is one. -/
def switch? (flags : Flags) (letter : Char) (value : Bool) : Option Flags :=
  match letter with
  | 'i' => some { flags with ignoreCase := value }
  | 'm' => some { flags with multiLine := value }
  | 's' => some { flags with dotAll := value }
  | 'U' => some flags
  | 'u' => some { flags with isAscii := !value }
  | 'R' => some { flags with crlf := value }
  | 'x' => some { flags with verbose := value }
  | _ => none

/-- The flags after the option of the given letter is set. -/
def set? (flags : Flags) (letter : Char) : Option Flags :=
  if ['i', 'm', 's', 'x'].contains letter then flags.switch? letter true else none

/-- A set of characters, with all that differ in case only if case is ignored. -/
def closeCase (flags : Flags) (set : CharSet) : CharSet :=
  if flags.ignoreCase then .anyCase (if flags.isAscii then .ascii else .simple) set else set

/-- A set or its complement. The complement of a set of ASCII characters is no such set. -/
def complementIf? (flags : Flags) (isNegated : Bool) (set : CharSet) : Option CharSet :=
  if !isNegated then some set
  else if flags.isAscii then none
  else some set.compl

end Flags

end SchemaQuery.Pattern
