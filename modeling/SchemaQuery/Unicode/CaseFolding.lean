import SchemaQuery.Unicode.CodeRange

/-!
# Simple case folding

Characters that differ in case only fold to the same character. The table lists, for each distance,
the characters that fold to the character at that distance. A character that is not listed folds to
itself, and so does each character that another one folds to.
-/

namespace SchemaQuery.Unicode.CaseFolding

/-- Characters that fold to the character at a distance. -/
structure Shift where
  distance : Int
  sources : List CodeRange

/-- The characters of a table fold to those at a distance. -/
def moved (distance : Int) (table : String) : Shift := ⟨distance, CodeRange.ofTable table⟩

/-- The characters that do not fold to themselves. -/
def shifts : List Shift :=
  [moved 32
      "41-5A C0-D6 D8-DE 391-398 39A-39B 39D-3A1 3A3-3AB 410-42F FF21-FF3A 10D50-10D65
       118A0-118BF 16E40-16E5F",
    moved 1
      "100-12E/2 132-136/2 139-147/2 14A-176/2 179-17D/2 182-184/2 187 18B 191 198 1A0-1A4/2
       1A7 1AC 1AF 1B3-1B5/2 1B8 1BC 1C5 1C8 1CB-1DB/2 1DE-1EE/2 1F2-1F4/2 1F8-21E/2 222-232/2
       23B 241 246-24E/2 370-372/2 376 3C2 3D8-3EE/2 3F7 3FA 460-480/2 48A-4BE/2 4C1-4CD/2
       4D0-52E/2 1C89 1E00-1E94/2 1EA0-1EFE/2 2183 2C60 2C67-2C6B/2 2C72 2C75 2C80-2CE2/2
       2CEB-2CED/2 2CF2 A640-A648/2 A64C-A66C/2 A680-A69A/2 A722-A72E/2 A732-A76E/2 A779-A77B/2
       A77E-A786/2 A78B A790-A792/2 A796-A7A8/2 A7B4-A7C2/2 A7C7-A7C9/2 A7CC-A7DA/2 A7F5",
    moved (-121) "178",
    moved (-268) "17F",
    moved 210 "181",
    moved 206 "186",
    moved 205 "189-18A 193",
    moved 79 "18E",
    moved 202 "18F",
    moved 203 "190",
    moved 207 "194",
    moved 211 "196 19C",
    moved 209 "197",
    moved 213 "19D",
    moved 214 "19F",
    moved 218 "1A6 1A9 1AE",
    moved 217 "1B1-1B2",
    moved 219 "1B7",
    moved 2 "1C4 1C7 1CA 1F1",
    moved (-97) "1F6",
    moved (-56) "1F7",
    moved (-130) "220 3FD-3FF",
    moved 10795 "23A",
    moved (-163) "23D",
    moved 10792 "23E",
    moved (-195) "243",
    moved 69 "244",
    moved 71 "245",
    moved 116 "37F",
    moved 38 "386",
    moved 37 "388-38A",
    moved 64 "38C 10C80-10CB2",
    moved 63 "38E-38F",
    moved (-84) "399",
    moved (-743) "39C",
    moved (-116) "3B9",
    moved (-775) "3BC",
    moved 8 "3CF",
    moved (-30) "3D0",
    moved (-25) "3D1",
    moved (-15) "3D5",
    moved (-22) "3D6",
    moved (-54) "3F0",
    moved (-48) "3F1 A7C4",
    moved (-60) "3F4",
    moved (-64) "3F5",
    moved (-7) "3F9 1FEC",
    moved 80 "400-40F",
    moved 15 "4C0",
    moved 48 "531-556 2C00-2C2F",
    moved 7264 "10A0-10C5 10C7 10CD",
    moved (-8)
      "13F8-13FD 1F08-1F0F 1F18-1F1D 1F28-1F2F 1F38-1F3F 1F48-1F4D 1F59-1F5F/2 1F68-1F6F
       1F88-1F8F 1F98-1F9F 1FA8-1FAF 1FB8-1FB9 1FD8-1FD9 1FE8-1FE9",
    moved (-6222) "1C80",
    moved (-6221) "1C81",
    moved (-6212) "1C82",
    moved (-6210) "1C83-1C84",
    moved (-6211) "1C85",
    moved (-6204) "1C86",
    moved (-6180) "1C87",
    moved (-3008) "1C90-1CBA 1CBD-1CBF",
    moved (-58) "1E9B",
    moved (-7615) "1E9E",
    moved (-74) "1FBA-1FBB",
    moved (-9) "1FBC 1FCC 1FFC",
    moved (-7289) "1FBE",
    moved (-86) "1FC8-1FCB",
    moved (-7235) "1FD3",
    moved (-100) "1FDA-1FDB",
    moved (-7219) "1FE3",
    moved (-112) "1FEA-1FEB",
    moved (-128) "1FF8-1FF9",
    moved (-126) "1FFA-1FFB",
    moved (-7517) "2126",
    moved (-8383) "212A",
    moved (-8262) "212B",
    moved 28 "2132",
    moved 16 "2160-216F",
    moved 26 "24B6-24CF",
    moved (-10743) "2C62",
    moved (-3814) "2C63",
    moved (-10727) "2C64",
    moved (-10780) "2C6D",
    moved (-10749) "2C6E",
    moved (-10783) "2C6F",
    moved (-10782) "2C70",
    moved (-10815) "2C7E-2C7F",
    moved (-35266) "A64A",
    moved (-35267) "A64B",
    moved (-35332) "A77D",
    moved (-42280) "A78D",
    moved (-42308) "A7AA A7AE",
    moved (-42319) "A7AB",
    moved (-42315) "A7AC",
    moved (-42305) "A7AD",
    moved (-42258) "A7B0",
    moved (-42282) "A7B1",
    moved (-42261) "A7B2",
    moved 928 "A7B3",
    moved (-42307) "A7C5",
    moved (-35384) "A7C6",
    moved (-42343) "A7CB",
    moved (-42561) "A7DC",
    moved (-38864) "AB70-ABBF",
    moved (-1) "FB06",
    moved 40 "10400-10427 104B0-104D3",
    moved 39 "10570-1057A 1057C-1058A 1058C-10592 10594-10595",
    moved 27 "16EA0-16EB8",
    moved 34 "1E900-1E921"]

/-- The shift that applies to a code point. -/
def shift? (code : Nat) : Option Shift :=
  shifts.find? fun shift => shift.sources.any (·.contains code)

/-- The code point that a code point folds to. -/
def fold (code : Nat) : Nat :=
  match shift? code with
  | some shift => (code + shift.distance).toNat
  | none => code

/-- The code points that fold to the same code point as the given one. -/
def orbit (code : Nat) : List Nat :=
  let target := fold code
  target :: shifts.filterMap fun shift =>
    let source := ((target : Int) - shift.distance).toNat
    if shift.sources.any (·.contains source) then some source else none

end SchemaQuery.Unicode.CaseFolding
