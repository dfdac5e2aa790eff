import Mathlib.Data.List.DropRight
import ReferenceData.Entities
import ReferenceData.Library.HexText

namespace ReferenceData

/-- `char.IsWhiteSpace` -/
def isWhiteSpace (letter : Char) : Bool :=
  let code := letter.toNat
  decide ((9 ≤ code ∧ code ≤ 13) ∨ (0x2000 ≤ code ∧ code ≤ 0x200a) ∨
    code ∈ [0x20, 0x85, 0xa0, 0x1680, 0x2028, 0x2029, 0x202f, 0x205f, 0x3000])

def trimSpace (text : List Char) : List Char :=
  (text.dropWhile isWhiteSpace).rdropWhile isWhiteSpace

def isHexMark (text : List Char) : Bool :=
  text[0]? == some '0' && (text[1]? == some 'x' || text[1]? == some 'X')

def dropSign (text : List Char) : List Char := if text[0]? = some '+' then text.drop 1 else text

def dropHexMark (text : List Char) : List Char := if isHexMark text then text.drop 2 else text

/-- `Guid.TryParseHex`: one plus sign and one `0x` may come before the digits, of which there
may be none. -/
def tryParseHex (text : List Char) : Option Nat := HexText.readOnto 0 (dropHexMark (dropSign text))

def slice (text : List Char) (start length : Nat) : List Char := (text.drop start).take length

/-- `d85b1407351d4694939203acc5870eb1` -/
def tryParseExactN (text : List Char) : Option Nat :=
  if text.length = 32 then HexText.readOnto 0 text else none

/-- `d85b1407-351d-4694-9392-03acc5870eb1`, where each group but the last eight digits may
spend some of its width on a sign and a `0x`. -/
def tryParseExactD (text : List Char) : Option Nat :=
  if text.length = 36 ∧ text[8]? = some '-' ∧ text[13]? = some '-' ∧ text[18]? = some '-' ∧
      text[23]? = some '-' then do
    let a ← tryParseHex (slice text 0 8)
    let b ← tryParseHex (slice text 9 4)
    let c ← tryParseHex (slice text 14 4)
    let de ← tryParseHex (slice text 19 4)
    let fg ← tryParseHex (slice text 24 4)
    let hijk ← HexText.readOnto 0 (slice text 28 8)
    return ((((a * 16 ^ 4 + b) * 16 ^ 4 + c) * 16 ^ 4 + de) * 16 ^ 4 + fg) * 16 ^ 8 + hijk
  else none

def tryParseEnclosed (opening closing : Char) (text : List Char) : Option Nat :=
  if text.length = 38 ∧ text[0]? = some opening ∧ text[37]? = some closing then
    tryParseExactD (slice text 1 36)
  else none

def tryParseExactB : List Char → Option Nat := tryParseEnclosed '{' '}'

def tryParseExactP : List Char → Option Nat := tryParseEnclosed '(' ')'

def takeComponent (ending : Char) (limit : Nat) (text : List Char) : Option (Nat × List Char) :=
  if isHexMark text then
    let number := (text.drop 2).takeWhile (fun letter => letter != ending)
    match (text.drop 2).dropWhile (fun letter => letter != ending) with
    | [] => none
    | _ :: rest =>
        if number.isEmpty then none
        else
          match tryParseHex number with
          | none => none
          | some value => if value < limit then some (value, rest) else none
  else none

def byteEndings : List Char := [',', ',', ',', ',', ',', ',', ',', '}']

theorem byteEndings_keep (keeps : Char → Prop) (comma : keeps ',') (closing : keeps '}') :
    ∀ ending ∈ byteEndings, keeps ending := by
  simp [byteEndings, comma, closing]

def takeBytes : List Char → Nat → List Char → Option (Nat × List Char)
  | [], value, text => some (value, text)
  | ending :: endings, value, text =>
      match takeComponent ending (2 ^ 8) text with
      | none => none
      | some (byte, rest) => takeBytes endings (value * 2 ^ 8 + byte) rest

/-- The eight bytes in their own braces, and the closing brace of the whole. -/
def takeTail (text : List Char) : Option Nat :=
  if text[0]? = some '{' then
    match takeBytes byteEndings 0 (text.drop 1) with
    | none => none
    | some (bytes, rest) => if rest = ['}'] then some bytes else none
  else none

/-- `{0xd85b1407,0x351d,0x4694,{0x93,0x92,0x03,0xac,0xc5,0x87,0x0e,0xb1}}`, with white space
anywhere and any number of digits. The two short parts are cut off at 16 bits. -/
def tryParseExactX (text : List Char) : Option Nat :=
  let solid := text.filter (fun letter => !isWhiteSpace letter)
  if solid[0]? = some '{' then do
    let a ← takeComponent ',' (2 ^ 32) (solid.drop 1)
    let b ← takeComponent ',' (2 ^ 32) a.2
    let c ← takeComponent ',' (2 ^ 32) b.2
    let bytes ← takeTail c.2
    return ((a.1 * 2 ^ 16 + b.1 % 2 ^ 16) * 2 ^ 16 + c.1 % 2 ^ 16) * 2 ^ 64 + bytes
  else none

def parseTrimmed (text : List Char) : Option Nat :=
  match text with
  | [] => none
  | first :: _ =>
      if first = '(' then tryParseExactP text
      else if first = '{' then if '-' ∈ text then tryParseExactB text else tryParseExactX text
      else if '-' ∈ text then tryParseExactD text
      else tryParseExactN text

def parseGuid (text : List Char) : Option Nat := parseTrimmed (trimSpace text)

/-- `Guid.TryParse`, on texts without null characters. -/
def guidTryParse (text : String) : Option Guid := (parseGuid text.toList).map (BitVec.ofNat 128)

inductive GuidFormat where
  | n
  | d
  | b
  | p
  | x
  deriving DecidableEq, Repr

def digitsN (value : Nat) : List Char := HexText.fixed 32 value

def digitsD (value : Nat) : List Char :=
  HexText.fixed 8 (value / 16 ^ 24) ++ '-' :: HexText.fixed 4 (value / 16 ^ 20) ++
    '-' :: HexText.fixed 4 (value / 16 ^ 16) ++ '-' :: HexText.fixed 4 (value / 16 ^ 12) ++
    '-' :: HexText.fixed 4 (value / 16 ^ 8) ++ HexText.fixed 8 value

def componentX (width value : Nat) (ending : Char) (rest : List Char) : List Char :=
  '0' :: 'x' :: HexText.fixed width value ++ ending :: rest

/-- One byte for each ending, the last of them being the last of `value`. -/
def bytesX (value : Nat) (rest : List Char) : List Char → List Char
  | [] => rest
  | ending :: endings =>
      componentX 2 (value / 16 ^ (2 * endings.length)) ending (bytesX value rest endings)

def digitsX (value : Nat) : List Char :=
  '{' :: componentX 8 (value / 16 ^ 24) ',' (componentX 4 (value / 16 ^ 20) ','
    (componentX 4 (value / 16 ^ 16) ',' ('{' :: bytesX value ['}'] byteEndings)))

def guidText (format : GuidFormat) (guid : Guid) : List Char :=
  match format with
  | .n => digitsN guid.toNat
  | .d => digitsD guid.toNat
  | .b => '{' :: digitsD guid.toNat ++ ['}']
  | .p => '(' :: digitsD guid.toNat ++ [')']
  | .x => digitsX guid.toNat

end ReferenceData
