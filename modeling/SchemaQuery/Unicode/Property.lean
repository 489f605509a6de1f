import SchemaQuery.Unicode.BinaryProperty
import SchemaQuery.Unicode.Script

/-!
# Properties by name

The sets of characters that names of properties stand for. Names are compared loosely: case, blanks,
`_`, `-`, characters beyond ASCII and a leading `is` do not count.
-/

namespace SchemaQuery.Unicode.Property

/-- A name without what does not count. The name `isc` is not the name `c`. -/
def looseName (name : String) : String :=
  let letters := name.toList
  let isPrefixed := letters.length ≥ 2 && (letters.take 2).map Char.toLower == ['i', 's']
  let counted := (if isPrefixed then letters.drop 2 else letters).filter fun c =>
    c.toNat < 0x80 && c != ' ' && c != '_' && c != '-'
  let loose := String.ofList (counted.map Char.toLower)
  if isPrefixed && loose == "c" then "isc" else loose

/-- The scripts as sets of the characters that belong to them. -/
def scripts : List NamedSet := Script.all.map fun script => ⟨script.names, script.members⟩

/-- The scripts as sets of the characters that are used in them. -/
def scriptExtensions : List NamedSet := Script.all.map fun script => ⟨script.names, script.extended⟩

/-- The characters with the binary property, general category or script of the given name. -/
def find? (name : String) : Option CharSet :=
  let name := looseName name
  (NamedSet.find? BinaryProperty.named name).orElse fun _ =>
    (NamedSet.find? GeneralCategory.named name).orElse fun _ => NamedSet.find? scripts name

/-- The characters for which the named property has the named value. -/
def findValue? (name value : String) : Option CharSet :=
  let name := looseName name
  let value := looseName value
  if name == "gc" || name == "generalcategory" then NamedSet.find? GeneralCategory.named value
  else if name == "sc" || name == "script" then NamedSet.find? scripts value
  else if name == "scx" || name == "scriptextensions" then NamedSet.find? scriptExtensions value
  else none

/-! ## Classes of characters -/

/-- Letters, marks, decimal digits and what joins them: the characters of words. -/
def word : CharSet :=
  CharSet.unions
    [BinaryProperty.alphabetic, GeneralCategory.mark, GeneralCategory.decimalNumber,
      GeneralCategory.connectorPunctuation, BinaryProperty.joinControl]

/-- Letters and numbers. -/
def alphanumeric : CharSet := BinaryProperty.alphabetic.union GeneralCategory.number

end SchemaQuery.Unicode.Property
