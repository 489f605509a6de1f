import SchemaQuery.Pattern.Bracket

/-!
# Reading patterns

A pattern is read from left to right with the groups that are open. Flags that are set inside a
group hold up to its end, through its other alternatives as well. A pattern that nests too deeply,
or that takes too many states once its repetitions are written out, is an error like any other.
-/

namespace SchemaQuery.Pattern

open Unicode

/-! ## Pieces -/

/-- A part of a pattern that is read, with the number of levels that it nests. The place where flags
are set is a part as well, which cannot be repeated. -/
structure Piece where
  regex : Regex
  depth : Nat
  isSetting : Bool

namespace Piece

def ofRegex (regex : Regex) : Piece := ⟨regex, 0, false⟩

def setting : Piece := ⟨.empty, 0, true⟩

/-- A part inside a construct that is a level of its own. -/
def wrap (piece : Piece) (regex : Regex) : Piece := ⟨regex, 1 + piece.depth, false⟩

/-- Parts joined by an operation, which is a level of its own if there are several. -/
def join (operation : Regex → Regex → Regex) : List Piece → Piece
  | [] => ofRegex .empty
  | [piece] => piece
  | piece :: pieces =>
    pieces.foldl (fun joined piece =>
      ⟨operation joined.regex piece.regex, max joined.depth (1 + piece.depth), false⟩)
      (piece.wrap piece.regex)

/-- Parts after one another. They nest to the right, so that reading a character takes the first
of them apart only. -/
def inSequence (pieces : List Piece) : Piece :=
  join (fun after first => .seq first after) pieces

end Piece

/-- A group that is open: the flags that hold again behind it, the alternatives that are complete
and the parts of the one that is not, each last first. -/
structure Group where
  outerFlags : Flags
  alternatives : List Piece
  pieces : List Piece

namespace Group

def start (outerFlags : Flags) : Group := ⟨outerFlags, [], []⟩

def add (group : Group) (piece : Piece) : Group := { group with pieces := piece :: group.pieces }

/-- The group after the sign that ends an alternative. -/
def endAlternative (group : Group) : Group :=
  { group with alternatives := Piece.inSequence group.pieces :: group.alternatives, pieces := [] }

/-- What the group holds once it is complete. -/
def contents (group : Group) : Piece :=
  Piece.join .alt group.endAlternative.alternatives.reverse

/-- The last part of the group is repeated. -/
def repeatLast? (group : Group) (min : Nat) (max : Option Nat) : Option Group :=
  match group.pieces with
  | [] => none
  | piece :: pieces =>
    if piece.isSetting then none
    else some { group with pieces := piece.wrap (.times piece.regex min max) :: pieces }

end Group

/-! ## Repetitions -/

/-- The rest behind a sign that prefers fewer repetitions. -/
def skipLazy : List Char → List Char
  | '?' :: rest => rest
  | rest => rest

/-- The least and the greatest number of repetitions, from behind the brace that opens. -/
def repetition? (flags : Flags) (text : List Char) : Option (Nat × Option Nat × List Char) := do
  let (min, rest) ← flags.decimal? (flags.skip text)
  let (max, rest) ←
    match rest with
    | ',' :: rest =>
      match flags.skip rest with
      | '}' :: rest => some (none, '}' :: rest)
      | rest => (flags.decimal? rest).map fun (max, rest) => (some max, rest)
    | rest => some (some min, rest)
  match rest with
  | '}' :: rest =>
    if max.all (min ≤ ·) then some (min, max, skipLazy (flags.skip rest)) else none
  | _ => none

/-! ## Groups -/

/-- The name of a group and the rest behind it. -/
def groupName? (text : List Char) : Option (List Char × List Char) :=
  match text.span (· != '>') with
  | (first :: name, _ :: rest) =>
    if (first == '_' || BinaryProperty.alphabetic.contains first) &&
        name.all fun c => ['_', '.', '[', ']'].contains c || Property.alphanumeric.contains c then
      some (first :: name, rest)
    else none
  | _ => none

/-- Flags that are set up to a `:` or `)`, and behind a `-` unset. No letter may come twice, nor may
the `-`, which must not be the last. The result tells whether the flags are for a group. -/
def settings? (flags : Flags) (seen : List Char) : List Char → Option (Flags × Bool × List Char)
  | [] => none
  | c :: rest =>
    if c = ':' || c = ')' then
      if seen.head? == some '-' then none else some (flags, c == ':', rest)
    else if seen.contains c then none
    else if c = '-' then settings? flags (c :: seen) rest
    else
      match flags.switch? c (!seen.contains '-') with
      | some flags => settings? flags (c :: seen) rest
      | none => none

/-- What a parenthesis opens. -/
inductive Opening where
  | group (flags : Flags) (name : Option (List Char))
  | setting (flags : Flags)

/-- What the text behind a parenthesis opens. Assertions about what comes before or after are
errors. -/
def opening? (flags : Flags) (text : List Char) : Option (Opening × List Char) :=
  match flags.skip text with
  | '?' :: '=' :: _ => none
  | '?' :: '!' :: _ => none
  | '?' :: '<' :: '=' :: _ => none
  | '?' :: '<' :: '!' :: _ => none
  | '?' :: 'P' :: '<' :: rest => named rest
  | '?' :: '<' :: rest => named rest
  | '?' :: ')' :: _ => none
  | '?' :: rest =>
    (settings? flags [] rest).map fun (flags, isGroup, rest) =>
      (if isGroup then .group flags none else .setting flags, rest)
  | rest => some (.group flags none, rest)
where
  named (text : List Char) : Option (Opening × List Char) :=
    (groupName? text).map fun (name, rest) => (.group flags (some name), rest)

/-! ## Single characters -/

/-- The sign that stands for any character, but for line ends only if flags say so. -/
def anyChar? (flags : Flags) : Option Regex :=
  if flags.isAscii then none
  else if flags.dotAll then some (.chars .any)
  else if flags.crlf then some (.chars (CharSet.ofTable "A D").compl)
  else some (.chars (CharSet.ofTable "A").compl)

/-- A character, or an escape sequence, outside of brackets. -/
def single? (flags : Flags) : List Char → Option (Regex × List Char)
  | '.' :: rest => (anyChar? flags).map (·, rest)
  | '^' :: rest =>
    some (.look (if flags.multiLine then .lineStart flags.crlf else .textStart), rest)
  | '$' :: rest => some (.look (if flags.multiLine then .lineEnd flags.crlf else .textEnd), rest)
  | text => (Bracket.atom? flags text).map fun (atom, rest) => (ofAtom atom, rest)
where
  ofAtom : Atom → Regex
    | .literal c => .chars (flags.closeCase (.singleton c))
    | .set members => .chars members
    | .look assertion => .look assertion

/-! ## Reading -/

/-- Reads on with the given flags, the names of groups so far and the groups that are open, the
innermost first, up to the end of the pattern. Each step reads a character, so the length of the
text is fuel enough. -/
def read? : (fuel : Nat) → Flags → (names : List (List Char)) → Group → List Group → List Char →
    Option Piece
  | 0, _, _, _, _, _ => none
  | fuel + 1, flags, names, group, outer, text =>
    match flags.skip text with
    | [] => if outer.isEmpty then some group.contents else none
    | '(' :: rest => do
      let (opening, rest) ← opening? flags rest
      match opening with
      | .setting inner => read? fuel inner names (group.add .setting) outer rest
      | .group inner none => read? fuel inner names (.start flags) (group :: outer) rest
      | .group inner (some name) =>
        if names.contains name then none
        else read? fuel inner (name :: names) (.start flags) (group :: outer) rest
    | ')' :: rest =>
      match outer with
      | [] => none
      | next :: outer =>
        let contents := group.contents
        read? fuel group.outerFlags names (next.add (contents.wrap contents.regex)) outer rest
    | '|' :: rest => read? fuel flags names group.endAlternative outer rest
    | '[' :: rest => do
      let (operand, rest) ← bracket? flags rest
      read? fuel flags names (group.add ⟨.chars operand.members, operand.depth, false⟩) outer rest
    | '?' :: rest => do
      read? fuel flags names (← group.repeatLast? 0 (some 1)) outer (skipLazy rest)
    | '*' :: rest => do
      read? fuel flags names (← group.repeatLast? 0 none) outer (skipLazy rest)
    | '+' :: rest => do
      read? fuel flags names (← group.repeatLast? 1 none) outer (skipLazy rest)
    | '{' :: rest => do
      let (min, max, rest) ← repetition? flags rest
      read? fuel flags names (← group.repeatLast? min max) outer rest
    | text => do
      let (regex, rest) ← single? flags text
      read? fuel flags names (group.add (.ofRegex regex)) outer rest

/-- The number of levels that a pattern may nest. -/
def depthLimit : Nat := 250

/-- The number of states that a pattern may take. -/
def statesLimit : Nat := 327680

/-- The expression of a pattern. -/
def compile? (flags : Flags) (pattern : String) : Option Regex :=
  let text := pattern.toList
  match read? (text.length + 1) flags [] (.start flags) [] text with
  | some piece =>
    if piece.depth ≤ depthLimit && piece.regex.states ≤ statesLimit then some piece.regex else none
  | none => none

end SchemaQuery.Pattern
