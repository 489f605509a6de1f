import SchemaQuery.Pattern.Flags
import SchemaQuery.Text.Blank
import SchemaQuery.Text.Hex

/-!
# Layout of patterns

With the flag for verbose patterns, blanks count for nothing, nor do comments, which go from `#` to
the end of the line. Without it every character counts.
-/

namespace SchemaQuery.Pattern

open Text (isBlank hexDigit?)

namespace Layout

/-- The rest behind blanks and comments, from inside a comment or not. -/
def skip : (inComment : Bool) → List Char → List Char
  | _, [] => []
  | true, c :: rest => skip (c != '\n') rest
  | false, c :: rest =>
    if isBlank c then skip false rest else if c = '#' then skip true rest else c :: rest

/-- The longest run of characters with a property, without the blanks and comments in it. -/
def run (property : Char → Bool) : (inComment : Bool) → List Char → List Char × List Char
  | _, [] => ([], [])
  | true, c :: rest => run property (c != '\n') rest
  | false, c :: rest =>
    if isBlank c then run property false rest
    else if c = '#' then run property true rest
    else if property c then
      let (found, rest) := run property false rest
      (c :: found, rest)
    else ([], c :: rest)

end Layout

/-- The rest behind what does not count. -/
def Flags.skip (flags : Flags) (text : List Char) : List Char :=
  if flags.verbose then Layout.skip false text else text

/-- The longest run of characters with a property, and the rest behind it. -/
def Flags.run (flags : Flags) (property : Char → Bool) (text : List Char) :
    List Char × List Char :=
  if flags.verbose then Layout.run property false text else text.span property

/-! ## Numbers -/

/-- The number that digits in a base stand for. -/
def digitsValue? (base : Nat) (digits : List Char) : Option Nat :=
  if digits.isEmpty then none
  else digits.foldlM (fun value c => (hexDigit? c).map (base * value + ·)) 0

/-- A decimal number below `2^32` with any blanks around it. -/
def Flags.decimal? (flags : Flags) (text : List Char) : Option (Nat × List Char) :=
  let (digits, rest) := flags.run Char.isDigit (text.dropWhile isBlank)
  match digitsValue? 10 digits with
  | some value => if value < 1 <<< 32 then some (value, rest.dropWhile isBlank) else none
  | none => none

/-- Exactly `count` hexadecimal digits. -/
def Flags.hexDigits? (flags : Flags) : (count : Nat) → List Char → Option (List Char × List Char)
  | 0, text => some ([], text)
  | count + 1, c :: rest =>
    if (hexDigit? c).isSome then do
      let (digits, rest) ← flags.hexDigits? count (flags.skip rest)
      some (c :: digits, rest)
    else none
  | _ + 1, [] => none

/-- The character with the code point that hexadecimal digits stand for. -/
def charOfHex? (digits : List Char) : Option Char :=
  match digitsValue? 16 digits with
  | some code => if code.isValidChar then some (Char.ofNat code) else none
  | none => none

end SchemaQuery.Pattern
