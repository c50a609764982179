import TableMapping.Text.Character
import TableMapping.Text.Numeral

/-!
# UUIDs

Universally unique identifiers as thirty-two hexadecimal digits, most significant first, and their
hyphenated text form of groups of 8, 4, 4, 4 and 12 digits.

Four spellings of a UUID are read: the digits alone, the hyphenated form, the hyphenated form in
braces, and the hyphenated form as a URN. Digits may be of either case. Texts of other lengths are
refused at once; what is reported for a refused text comes from a scan of its own, which looks for
the first character that no spelling has, then counts the groups, then measures them.
-/

namespace TableMapping

/-- A number of 128 bits. -/
structure Uuid where
  /-- The hexadecimal digits, most significant first. -/
  digits : List (Fin 16)
  /-- Each digit holds four bits. -/
  digits_length : digits.length = 32
deriving DecidableEq, Repr

namespace Uuid

/-- The UUID with the given digits, if there are as many as it needs. -/
def ofDigits? (digits : List (Fin 16)) : Option Uuid :=
  if valid : digits.length = 32 then some ⟨digits, valid⟩ else none

@[simp]
theorem ofDigits?_digits (uuid : Uuid) : ofDigits? uuid.digits = some uuid := by
  simp [ofDigits?, uuid.digits_length]

/-- The digits without hyphens, in lower case. -/
def simpleText (uuid : Uuid) : List Char := uuid.digits.map Hexadecimal.digit

/-- The text form of a UUID: its digits in lower case, with hyphens between the groups. -/
def text (uuid : Uuid) : List Char :=
  let simple := uuid.simpleText
  simple.take 8 ++ '-' :: (simple.drop 8).take 4 ++ '-' :: (simple.drop 12).take 4 ++
    '-' :: (simple.drop 16).take 4 ++ '-' :: simple.drop 20

end Uuid

/-! ## Reading UUIDs -/

/-- The reasons why a text is not a UUID. -/
inductive UuidFault
  /-- The text has a length that no spelling has, in bytes. -/
  | length (found : Nat)
  /-- No spelling has the character, which starts at the given byte. -/
  | character (found : Char) (position : Nat)
  /-- The number of hyphen-separated groups is not five. -/
  | groupCount (found : Nat)
  /-- A group has the wrong number of digits. -/
  | groupLength (group expected found : Nat)
deriving DecidableEq, Repr

namespace UuidFault

/-- The wording of a fault. -/
def message : UuidFault → String
  | .length found => "invalid length: found " ++ toString found
  | .character found position =>
      "invalid character: found `" ++ found.toString ++ "` at " ++ toString position
  | .groupCount found => "invalid group count: expected 5, found " ++ toString found
  | .groupLength group expected found =>
      "invalid group length in group " ++ toString group ++ ": expected " ++ toString expected ++
        ", found " ++ toString found

end UuidFault

namespace Uuid

/-- What stands in front of the digits of a URN. -/
def urnScheme : List Char := "urn:uuid:".toList

/-- What follows the scheme of a URN, which may be of either case. -/
def dropUrnScheme? (text : List Char) : Option (List Char) :=
  if (text.take urnScheme.length).map Char.toLower = urnScheme then
    some (text.drop urnScheme.length)
  else
    none

/-- What stands between a pair of braces. -/
def dropBraces? : List Char → Option (List Char)
  | '\x7b' :: rest => if rest.getLast? = some '\x7d' then some rest.dropLast else none
  | _ => none

/-- Reads thirty-two digits. -/
def readSimple? (text : List Char) : Option Uuid :=
  (text.mapM Hexadecimal.value?).bind ofDigits?

/-- The positions of the hyphens in a hyphenated UUID. -/
def hyphenPositions : List Nat := [8, 13, 18, 23]

/-- Reads thirty-two digits with hyphens between the groups. -/
def readHyphenated? (text : List Char) : Option Uuid :=
  if hyphenPositions.all fun position => text[position]? = some '-' then
    readSimple? (text.take 8 ++ (text.drop 9).take 4 ++ (text.drop 14).take 4 ++
      (text.drop 19).take 4 ++ text.drop 24)
  else
    none

/-- How the text under a scan is taken to be spelled. -/
inductive Spelling
  /-- Nothing is known yet: a hyphen makes the text a hyphenated one. -/
  | undetermined
  /-- The groups are separated by hyphens. -/
  | hyphenated
deriving DecidableEq, Repr

/-- The positions of the hyphens of a text of digits and hyphens, or the first other character
with the byte at which it starts. -/
def scanHyphens (position : Nat) : List Char → Except UuidFault (List Nat)
  | [] => .ok []
  | character :: rest =>
      if character = '-' then
        (scanHyphens (position + 1) rest).map (position :: ·)
      else if (Hexadecimal.value? character).isSome then
        scanHyphens (position + 1) rest
      else
        .error (.character character position)

/-- The fault of the first hyphen that stands at a wrong position, given as the number of the
group it ends, where it should stand, and where the group starts. -/
def misplacedHyphen? (hyphens : List Nat) : Option UuidFault :=
  (List.zip hyphens [(0, 8, 0), (1, 13, 9), (2, 18, 14), (3, 23, 19)]).findSome?
    fun (hyphen, group, expected, start) =>
      if hyphen = expected then
        none
      else
        some (.groupLength group (expected - start) (hyphen - start))

/-- The part of a text that the scan for faults looks at: how it is taken to be spelled, the byte
at which it starts, and its characters. -/
def scannedPart (spelling : Spelling) (text : List Char) : Spelling × Nat × List Char :=
  match spelling, dropBraces? text, dropUrnScheme? text with
  | .hyphenated, _, _ => (.hyphenated, 0, text)
  | .undetermined, some inner, _ => (.hyphenated, 1, inner)
  | .undetermined, none, some rest => (.hyphenated, urnScheme.length, rest)
  | .undetermined, none, none => (.undetermined, 0, text)

/-- What is wrong with a text that is no UUID. -/
def fault (spelling : Spelling) (text : List Char) : UuidFault :=
  if text = [] ∨ 45 < byteLength text then
    .length (byteLength text)
  else
    let (spelling, start, part) := scannedPart spelling text
    match scanHyphens start part with
    | .error fault => fault
    | .ok hyphens =>
        if spelling = .undetermined ∧ hyphens = [] then
          .length (byteLength text)
        else if hyphens.length ≠ 4 then
          .groupCount (hyphens.length + 1)
        else
          (misplacedHyphen? (hyphens.map (· - start))).getD
            (.groupLength 4 12 (byteLength text - 24))

/-- The UUID, or what is wrong with the text that should spell it. -/
def orFault (spelling : Spelling) (text : List Char) : Option Uuid → Except UuidFault Uuid
  | some uuid => .ok uuid
  | none => .error (fault spelling text)

/-- Reads a UUID in any of its spellings. -/
def read (text : List Char) : Except UuidFault Uuid :=
  match byteLength text, dropBraces? text, dropUrnScheme? text with
  | 32, _, _ => orFault .undetermined text (readSimple? text)
  | 36, _, _ => orFault .hyphenated text (readHyphenated? text)
  | 38, some inner, _ => orFault .hyphenated inner (readHyphenated? inner)
  | 45, _, some rest => orFault .hyphenated rest (readHyphenated? rest)
  | _, _, _ => .error (fault .undetermined text)

end Uuid

end TableMapping
