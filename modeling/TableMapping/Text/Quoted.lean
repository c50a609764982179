import TableMapping.Text.Character

/-!
# Quoted texts

A text between two marks, with every mark inside it written twice, and the form in which a text is
shown to a programmer: between double quotes, with a backslash before a quote or a backslash, short
escapes for the common controls, and the code point of any other character that does not show on its
own.
-/

namespace TableMapping

namespace Quoted

/-- The text with every mark written twice. -/
def doubled (mark : Char) : List Char → List Char
  | [] => []
  | next :: rest =>
      if next = mark then mark :: mark :: doubled mark rest else next :: doubled mark rest

/-- The text between two marks, with every mark inside it written twice. -/
def enclose (mark : Char) (text : List Char) : List Char :=
  mark :: (doubled mark text ++ [mark])

end Quoted

namespace Escaped

/-- The form in which one character of a text is shown. -/
def character (shown : Char) : List Char :=
  if shown = '"' then ['\\', '"']
  else if shown = '\\' then ['\\', '\\']
  else if shown = '\n' then ['\\', 'n']
  else if shown = '\t' then ['\\', 't']
  else if shown = '\r' then ['\\', 'r']
  else if shown = '\x00' then ['\\', '0']
  else if isHidden shown then
    ['\\', 'u', '\x7b'] ++ Nat.toDigits 16 shown.toNat ++ ['\x7d']
  else
    [shown]

/-- The form in which a text is shown. -/
def text (shown : String) : String :=
  String.ofList ('"' :: shown.toList.flatMap character ++ ['"'])

end Escaped

end TableMapping
