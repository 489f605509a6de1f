import SchemaQuery.Pattern.Layout
import SchemaQuery.Pattern.Regex

/-!
# Escape sequences

What a backslash makes of the characters that follow it, in brackets or outside of them. A letter, a
digit or a character beyond ASCII that has no meaning behind a backslash is an error.
-/

namespace SchemaQuery.Pattern

open Unicode
open Text (hexDigit?)

/-- What an escape sequence stands for. -/
inductive Atom where
  | literal (c : Char)
  | set (members : CharSet)
  | look (assertion : Assertion)

namespace Escape

/-! ## Characters -/

/-- A character by its code point. Two digits alone stand for a byte, which must be ASCII unless
patterns are Unicode. -/
def code? (flags : Flags) (width : Nat) (text : List Char) : Option (Atom × List Char) :=
  match flags.skip text with
  | '{' :: text => do
    let (digits, rest) := flags.run (fun c => (hexDigit? c).isSome) (flags.skip text)
    let c ← charOfHex? digits
    match rest with
    | '}' :: rest => some (.literal c, rest)
    | _ => none
  | text => do
    let (digits, rest) ← flags.hexDigits? width text
    let c ← charOfHex? digits
    if flags.isAscii && width == 2 && c.toNat ≥ 0x80 then none else some (.literal c, rest)

/-- The control characters that have a letter. -/
def control? (c : Char) : Option Char :=
  match c with
  | 'a' => some '\x07'
  | 'f' => some '\x0C'
  | 't' => some '\t'
  | 'n' => some '\n'
  | 'r' => some '\r'
  | 'v' => some '\x0B'
  | _ => none

/-- The ASCII characters that stand for themselves behind a backslash. -/
def standsForItself (c : Char) : Bool :=
  c.toNat < 0x80 && !c.isAlphanum && c != '<' && c != '>'

/-! ## Sets -/

/-- The characters of a class with a lower case letter. -/
def class? (flags : Flags) (c : Char) : Option CharSet :=
  match c, flags.isAscii with
  | 'd', false => some GeneralCategory.decimalNumber
  | 'd', true => some (CharSet.between '0' '9')
  | 's', false => some BinaryProperty.whiteSpace
  | 's', true => some (CharSet.ofTable "9-D 20")
  | 'w', false => some Property.word
  | 'w', true => some asciiWord
  | _, _ => none

/-- Where a part of a text is found, the parts before and behind it. -/
def splitAt? (part : List Char) : List Char → Option (List Char × List Char)
  | [] => none
  | c :: rest =>
    if part.isPrefixOf (c :: rest) then some ([], (c :: rest).drop part.length)
    else (splitAt? part rest).map fun (found, behind) => (c :: found, behind)

/-- The set that the text in the braces of a property stands for: a name, or a name and a value. -/
def namedProperty? (text : List Char) : Option CharSet :=
  match [['!', '='], [':'], ['=']].findSome? fun sign => splitAt? sign text with
  | some (name, value) => Property.findValue? (String.ofList name) (String.ofList value)
  | none => Property.find? (String.ofList text)

/-- The characters with a property, or without it. -/
def property? (flags : Flags) (isNegated : Bool) (text : List Char) :
    Option (Atom × List Char) := do
  let (members, rest) ←
    match flags.skip text with
    | '{' :: text =>
      let (name, rest) := flags.run (· != '}') (flags.skip text)
      match rest with
      | _ :: rest => (namedProperty? name).map (·, rest)
      | [] => none
    | c :: rest => if c = '\\' then none else (Property.find? (String.singleton c)).map (·, rest)
    | [] => none
  if flags.isAscii then none
  else
    let members ← flags.complementIf? isNegated (flags.closeCase members)
    some (.set members, rest)

/-! ## Assertions -/

/-- The sides of words that have a name. -/
def wordBoundary? (name : List Char) : Option WordBoundary :=
  match String.ofList name with
  | "start" => some .start
  | "end" => some .stop
  | "start-half" => some .startHalf
  | "end-half" => some .stopHalf
  | _ => none

/-- The boundary of words behind `\b`. Braces hold the name of a side, unless they start with
another character than a letter or `-`: then they belong to a repetition. -/
def boundary? (flags : Flags) (text : List Char) : Option (WordBoundary × List Char) :=
  let inName (c : Char) : Bool := c.isAlpha || c == '-'
  match text with
  | '{' :: inner =>
    match flags.skip inner with
    | [] => none
    | c :: rest =>
      if inName c then
        let (name, rest) := flags.run inName (c :: rest)
        match rest with
        | '}' :: rest => (wordBoundary? name).map (·, rest)
        | _ => none
      else some (.boundary, text)
  | _ => some (.boundary, text)

/-- The assertion of a character behind a backslash. -/
def assertion? (flags : Flags) (c : Char) (rest : List Char) : Option (Atom × List Char) :=
  let word (side : WordBoundary) : Atom := .look (.words side flags.isAscii)
  match c with
  | 'A' => some (.look .textStart, rest)
  | 'z' => some (.look .textEnd, rest)
  | 'b' => (boundary? flags rest).map fun (side, rest) => (word side, rest)
  | 'B' => some (word .noBoundary, rest)
  | '<' => some (word .start, rest)
  | '>' => some (word .stop, rest)
  | _ => none

end Escape

/-- What the text behind a backslash stands for, and the rest behind it. -/
def escape? (flags : Flags) : List Char → Option (Atom × List Char)
  | [] => none
  | c :: rest =>
    match c with
    | 'x' => Escape.code? flags 2 rest
    | 'u' => Escape.code? flags 4 rest
    | 'U' => Escape.code? flags 8 rest
    | 'p' => Escape.property? flags false rest
    | 'P' => Escape.property? flags true rest
    | _ =>
      if Escape.standsForItself c then some (.literal c, rest)
      else
        match Escape.control? c, Escape.class? flags c, Escape.class? flags c.toLower with
        | some control, _, _ => some (.literal control, rest)
        | none, some members, _ => some (.set members, rest)
        | none, none, some members =>
          (flags.complementIf? true members).map fun members => (.set members, rest)
        | none, none, none => Escape.assertion? flags c rest

end SchemaQuery.Pattern
