import SchemaQuery.Pattern.Escape

/-!
# Brackets

Sets of characters in brackets: characters, ranges, classes and brackets inside brackets, joined,
and the operations `&&`, `--` and `~~`, which join less tightly and from the left. Case is closed in
what an operation takes and in what a bracket holds, before it is negated.
-/

namespace SchemaQuery.Pattern

open Unicode

/-- A set of characters that is read, with the number of levels that it nests. -/
structure Operand where
  members : CharSet
  depth : Nat

namespace Operand

def ofSet (members : CharSet) : Operand := ⟨members, 0⟩

/-- The union of operands, which is a level of its own if there are several. -/
def join : List Operand → Operand
  | [operand] => operand
  | operands =>
    ⟨CharSet.unions (operands.map Operand.members),
      if operands.isEmpty then 0 else 1 + ((operands.map Operand.depth).max?).getD 0⟩

end Operand

/-- An operation on sets of characters. -/
inductive SetOperation where
  | inter
  | diff
  | symmDiff
  deriving Repr, DecidableEq

def SetOperation.apply : SetOperation → CharSet → CharSet → CharSet
  | inter => CharSet.inter
  | diff => CharSet.diff
  | symmDiff => CharSet.symmDiff

/-- A bracket that is open: the operation that waits for its second operand, with the first one, and
what is read since, last first. -/
structure Bracket where
  isNegated : Bool
  waiting : Option (Operand × SetOperation)
  items : List Operand

namespace Bracket

def add (bracket : Bracket) (operand : Operand) : Bracket :=
  { bracket with items := operand :: bracket.items }

/-- The set that the bracket holds so far. -/
def operand (bracket : Bracket) (flags : Flags) : Operand :=
  let last := Operand.join bracket.items.reverse
  match bracket.waiting with
  | none => last
  | some (first, operation) =>
    ⟨operation.apply (flags.closeCase first.members) (flags.closeCase last.members),
      1 + max first.depth last.depth⟩

/-- The bracket after an operation sign. -/
def operate (bracket : Bracket) (flags : Flags) (operation : SetOperation) : Bracket :=
  { bracket with waiting := some (bracket.operand flags, operation), items := [] }

/-- The set of the bracket once it is closed. -/
def close? (bracket : Bracket) (flags : Flags) : Option Operand := do
  let operand := bracket.operand flags
  let members ← flags.complementIf? bracket.isNegated (flags.closeCase operand.members)
  some ⟨members, 1 + operand.depth⟩

/-! ## Items -/

/-- The bracket that opens: negated or not, with the literal `-` signs at its start, or else with a
literal `]`. -/
def start (flags : Flags) (text : List Char) : Bracket × List Char :=
  let (isNegated, text) :=
    match flags.skip text with
    | '^' :: text => (true, flags.skip text)
    | text => (false, text)
  let (hyphens, text) := flags.run (· == '-') text
  let (brackets, text) :=
    match hyphens, text with
    | [], ']' :: text => ([']'], text)
    | _, text => ([], text)
  (⟨isNegated, none, (brackets ++ hyphens).map fun c => .ofSet (.singleton c)⟩, text)

/-- The classes of ASCII characters that have a name between `[:` and `:]`. -/
def asciiClass? (name : List Char) : Option CharSet :=
  match String.ofList name with
  | "alnum" => some (CharSet.ofTable "30-39 41-5A 61-7A")
  | "alpha" => some (CharSet.ofTable "41-5A 61-7A")
  | "ascii" => some CharSet.ascii
  | "blank" => some (CharSet.ofTable "9 20")
  | "cntrl" => some (CharSet.ofTable "0-1F 7F")
  | "digit" => some (CharSet.ofTable "30-39")
  | "graph" => some (CharSet.ofTable "21-7E")
  | "lower" => some (CharSet.ofTable "61-7A")
  | "print" => some (CharSet.ofTable "20-7E")
  | "punct" => some (CharSet.ofTable "21-2F 3A-40 5B-60 7B-7E")
  | "space" => some (CharSet.ofTable "9-D 20")
  | "upper" => some (CharSet.ofTable "41-5A")
  | "word" => some asciiWord
  | "xdigit" => some (CharSet.ofTable "30-39 41-46 61-66")
  | _ => none

/-- A class of ASCII characters by its name, behind a bracket: whether it is negated, its members,
and the rest. -/
def namedClass? (text : List Char) : Option (Bool × CharSet × List Char) :=
  match text with
  | ':' :: text => do
    let (isNegated, text) :=
      match text with
      | '^' :: text => (true, text)
      | text => (false, text)
    let (name, rest) := text.span (· != ':')
    match rest with
    | ':' :: ']' :: rest => (asciiClass? name).map (isNegated, ·, rest)
    | _ => none
  | _ => none

/-- A character or an escape sequence. -/
def atom? (flags : Flags) : List Char → Option (Atom × List Char)
  | '\\' :: rest => escape? flags rest
  | c :: rest => some (.literal c, rest)
  | [] => none

/-- A character that may be in a bracket. -/
def literal? (flags : Flags) : Atom → Option Char
  | .literal c => if flags.isAscii && c.toNat ≥ 0x80 then none else some c
  | _ => none

/-- The `-` sign at the start of the text is not that of a range: the bracket ends behind it, or it
is the first half of an operation sign. -/
def isLoneHyphen (flags : Flags) (rest : List Char) : Bool :=
  let rest :=
    if flags.verbose then
      match rest.dropWhile Text.isBlank with
      | '#' :: rest => rest.dropWhile Text.isBlank
      | rest => rest
    else rest
  match rest with
  | ']' :: _ => true
  | '-' :: _ => true
  | _ => false

/-- A character, a range or a class. -/
def item? (flags : Flags) (text : List Char) : Option (CharSet × List Char) := do
  let (first, rest) ← atom? flags text
  let alone : Option CharSet :=
    match first with
    | .set members => some members
    | first => (literal? flags first).map CharSet.singleton
  match flags.skip rest with
  | [] => none
  | '-' :: behind =>
    if isLoneHyphen flags behind then alone.map (·, '-' :: behind)
    else
      let (last, rest) ← atom? flags (flags.skip behind)
      let first ← literal? flags first
      let last ← literal? flags last
      if first ≤ last then some (CharSet.between first last, rest) else none
  | rest => alone.map (·, rest)

/-! ## Reading -/

/-- Reads on in a bracket with the brackets around it, the innermost first, up to the end of the
last. Each step reads a character, so the length of the text is fuel enough. -/
def read? (flags : Flags) : (fuel : Nat) → Bracket → List Bracket → List Char →
    Option (Operand × List Char)
  | 0, _, _, _ => none
  | fuel + 1, bracket, outer, text =>
    match flags.skip text with
    | [] => none
    | ']' :: rest => do
      let operand ← bracket.close? flags
      match outer with
      | [] => some (operand, rest)
      | next :: outer => read? flags fuel (next.add operand) outer rest
    | '[' :: rest =>
      match namedClass? rest with
      | some (isNegated, members, rest) => do
        let members ← flags.complementIf? isNegated (flags.closeCase members)
        read? flags fuel (bracket.add (.ofSet members)) outer rest
      | none =>
        let (inner, rest) := start flags rest
        read? flags fuel inner (bracket :: outer) rest
    | '&' :: '&' :: rest => read? flags fuel (bracket.operate flags .inter) outer rest
    | '-' :: '-' :: rest => read? flags fuel (bracket.operate flags .diff) outer rest
    | '~' :: '~' :: rest => read? flags fuel (bracket.operate flags .symmDiff) outer rest
    | text => do
      let (members, rest) ← item? flags text
      read? flags fuel (bracket.add (.ofSet members)) outer rest

end Bracket

/-- The set of a bracket, from behind the character that opens it. -/
def bracket? (flags : Flags) (text : List Char) : Option (Operand × List Char) :=
  let (bracket, rest) := Bracket.start flags text
  Bracket.read? flags (rest.length + 1) bracket [] rest

end SchemaQuery.Pattern
