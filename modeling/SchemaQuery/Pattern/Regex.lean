import SchemaQuery.Unicode.Property

/-!
# Regular expressions

Expressions over sets of characters and assertions on the gaps between characters. A text is read
one character at a time: `matchesEmpty` says whether an expression may end in a gap, and `after`
lists the expressions that are left once the next character is read.
-/

namespace SchemaQuery.Pattern

open Unicode

/-! ## Gaps and assertions -/

/-- The place between two characters of a text, or at one of its ends. -/
structure Gap where
  previous : Option Char
  next : Option Char
  deriving Repr, DecidableEq

/-- How a gap may lie between characters of words and others. -/
inductive WordBoundary where
  | boundary
  | noBoundary
  | start
  | stop
  | startHalf
  | stopHalf
  deriving Repr, DecidableEq

/-- What is asserted of a gap. Ends of lines are line feeds, or with `crlf` also carriage returns
and the two together. Words are those of Unicode or of ASCII. -/
inductive Assertion where
  | textStart
  | textEnd
  | lineStart (crlf : Bool)
  | lineEnd (crlf : Bool)
  | words (side : WordBoundary) (isAscii : Bool)
  deriving Repr, DecidableEq

/-- The ASCII letters and digits and the underscore. -/
def asciiWord : CharSet := CharSet.ofTable "30-39 41-5A 5F 61-7A"

namespace Assertion

/-- Whether a gap with characters of words on the given sides is as wanted. -/
def boundaryHolds (previous next : Bool) : WordBoundary → Bool
  | .boundary => previous != next
  | .noBoundary => previous == next
  | .start => !previous && next
  | .stop => previous && !next
  | .startHalf => !previous
  | .stopHalf => !next

/-- The assertion holds of the gap. -/
def holds (gap : Gap) : Assertion → Bool
  | textStart => gap.previous.isNone
  | textEnd => gap.next.isNone
  | lineStart false => gap.previous.all (· == '\n')
  | lineStart true =>
    gap.previous.all fun c => c == '\n' || (c == '\r' && gap.next != some '\n')
  | lineEnd false => gap.next.all (· == '\n')
  | lineEnd true =>
    gap.next.all fun c => c == '\r' || (c == '\n' && gap.previous != some '\r')
  | words side isAscii =>
    let word := if isAscii then asciiWord else Property.word
    boundaryHolds (gap.previous.any word.contains) (gap.next.any word.contains) side

end Assertion

/-! ## Expressions -/

inductive Regex where
  | empty
  | chars (set : CharSet)
  | look (assertion : Assertion)
  | seq (first second : Regex)
  | alt (first second : Regex)
  | times (body : Regex) (min : Nat) (max : Option Nat)
  deriving Repr, DecidableEq

namespace Regex

/-- The expression matches the empty text in the gap. -/
def matchesEmpty (gap : Gap) : Regex → Bool
  | empty => true
  | chars _ => false
  | look assertion => assertion.holds gap
  | seq first second => first.matchesEmpty gap && second.matchesEmpty gap
  | alt first second => first.matchesEmpty gap || second.matchesEmpty gap
  | times body min _ => min == 0 || body.matchesEmpty gap

/-- One expression and then another one. -/
def andThen : Regex → Regex → Regex
  | empty, second => second
  | first, second => seq first second

/-- The expressions that are left to match once the next character `c` is read. A body
that matches the empty text in the gap may be passed as often as the minimum asks. -/
def after (gap : Gap) (c : Char) : Regex → List Regex
  | empty => []
  | chars set => if set.contains c then [empty] else []
  | look _ => []
  | seq first second =>
    (first.after gap c).map (·.andThen second) ++
      if first.matchesEmpty gap then second.after gap c else []
  | alt first second => first.after gap c ++ second.after gap c
  | times body min max =>
    if max == some 0 then []
    else
      let min := if body.matchesEmpty gap then 0 else min - 1
      (body.after gap c).map (·.andThen (times body min (max.map (· - 1))))

/-! ## Search -/

/-- Some match of `regex` starts in the gap after `previous` or later, or one of the expressions
that are left of earlier starts goes on to match. -/
def search (regex : Regex) (previous : Option Char) (left : List Regex) : List Char → Bool
  | [] => (regex :: left).any (·.matchesEmpty ⟨previous, none⟩)
  | c :: rest =>
    let gap : Gap := ⟨previous, some c⟩
    let left := regex :: left
    left.any (·.matchesEmpty gap) ||
      search regex (some c) (left.flatMap (·.after gap c)).eraseDups rest

/-- The expression matches some part of the text. -/
def isMatch (regex : Regex) (text : String) : Bool := search regex none [] text.toList

/-! ## Size -/

/-- The expression matches no text but the empty one. -/
def isLengthless : Regex → Bool
  | empty => true
  | chars _ => false
  | look _ => true
  | seq first second => first.isLengthless && second.isLengthless
  | alt first second => first.isLengthless && second.isLengthless
  | times body _ max => body.isLengthless || max == some 0

/-- The number of states that a set takes: two for a block of consecutive code points. Blocks of
operands may overlap, and no class of characters has many more of them than words have. -/
def setStates (set : CharSet) : Nat :=
  if set.blocks ≤ 1 then 1 else 2 * min set.blocks 800

/-- The number of states that the expression takes once repetitions are written out. -/
def states : Regex → Nat
  | empty => 1
  | chars set => setStates set
  | look _ => 1
  | seq first second => first.states + second.states
  | alt first second => first.states + second.states + 2
  | times body min max =>
    if body.isLengthless then body.states + 1
    else
      match max with
      | some max => min * body.states + (max - min) * (body.states + 1) + 1
      | none => (if min = 0 then 1 else min) * body.states + 1

end Regex

end SchemaQuery.Pattern
