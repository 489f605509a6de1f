import SchemaQuery.Text.Hex

/-!
# Ranges of code points

Tables of the Unicode Character Database are lists of code point ranges. They are kept as text, one
range after another with blanks between them: `41-5A` stands for the code points from `U+0041` to
`U+005A`, `100-12E/2` for every second one from `U+0100` to `U+012E`, and `B5` for one alone.
-/

namespace SchemaQuery.Unicode

/-- The code points `first`, `first + step`, … up to `last`. -/
structure CodeRange where
  first : Nat
  last : Nat
  step : Nat
  deriving Repr, DecidableEq

namespace CodeRange

/-- The code point is in the range. -/
def contains (range : CodeRange) (code : Nat) : Bool :=
  range.first ≤ code && code ≤ range.last && (code - range.first) % range.step == 0

/-- The number of blocks of consecutive code points in the range. -/
def blocks (range : CodeRange) : Nat :=
  if range.step ≤ 1 then 1 else (range.last - range.first) / range.step + 1

/-! ## Reading tables -/

/-- What the next digit of a table belongs to: a new range, or a number of the current one. -/
inductive Part where
  | new
  | first
  | last
  | step
  deriving Repr, DecidableEq

/-- A table read in part: the ranges that are complete, last first, and the one that is not. -/
structure Scan where
  complete : List CodeRange
  current : CodeRange
  part : Part

namespace Scan

/-- The scan after one more digit. A range whose end is not written ends where it starts. -/
def digit (scan : Scan) (value : Nat) : Scan :=
  let range := scan.current
  match scan.part with
  | .new => { scan with current := ⟨value, value, 1⟩, part := .first }
  | .first =>
    let first := 16 * range.first + value
    { scan with current := ⟨first, first, 1⟩ }
  | .last => { scan with current := { range with last := 16 * range.last + value } }
  | .step => { scan with current := { range with step := 16 * range.step + value } }

/-- The scan after the current range, if there is one. -/
def finish (scan : Scan) : Scan :=
  if scan.part = .new then scan
  else { scan with complete := scan.current :: scan.complete, part := .new }

/-- The scan after one more character. -/
def next (scan : Scan) (c : Char) : Scan :=
  if c.isWhitespace then scan.finish
  else if c = '-' then { scan with part := .last, current := { scan.current with last := 0 } }
  else if c = '/' then { scan with part := .step, current := { scan.current with step := 0 } }
  else scan.digit ((Text.hexDigit? c).getD 0)

end Scan

/-- The ranges of a table. -/
def ofTable (table : String) : List CodeRange :=
  (table.toList.foldl Scan.next ⟨[], ⟨0, 0, 1⟩, .new⟩).finish.complete.reverse

example :
    ofTable "41-5A B5 100-12E/2" =
      [⟨0x41, 0x5A, 1⟩, ⟨0xB5, 0xB5, 1⟩, ⟨0x100, 0x12E, 2⟩] := by
  decide

end CodeRange

end SchemaQuery.Unicode
