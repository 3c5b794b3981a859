import EtcdBackup.Unicode.Printable

/-!
# Quoted text in messages

A text is quoted by putting quotes around it and escaping the quote, the backslash, the common
control characters, and every character that does not show by itself, which is given by its code
point in hexadecimal. A single character is quoted alike between apostrophes.
-/

set_option autoImplicit false
set_option relaxedAutoImplicit false

namespace EtcdBackup.Text

/-- A code point in hexadecimal between braces. -/
def escapedCode (n : Nat) : List Char :=
  ['\\', 'u', '\x7b'] ++ Nat.toDigits 16 n ++ ['\x7d']

/-- A character inside quotes of the kind `mark`. -/
def quotedChar (mark c : Char) : List Char :=
  if c = '\\' ∨ c = mark then ['\\', c]
  else if c = '\t' then ['\\', 't']
  else if c = '\n' then ['\\', 'n']
  else if c = '\r' then ['\\', 'r']
  else if c.toNat = 0 then ['\\', '0']
  else if Unicode.isPrintable c then [c]
  else escapedCode c.toNat

/-- A text between quotes. -/
def debug (s : String) : String :=
  "\"" ++ String.ofList (s.toList.flatMap (quotedChar '"')) ++ "\""

/-- The apostrophe. -/
def apostrophe : Char := Char.ofNat 39

/-- A character between apostrophes. -/
def debugChar (c : Char) : String :=
  String.ofList (apostrophe :: quotedChar apostrophe c ++ [apostrophe])

end EtcdBackup.Text
