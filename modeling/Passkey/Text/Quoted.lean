import Passkey.Unicode.Printable

/-!
# Quoted text

Text for logs and diagnostics: in quotes, and with escapes for the quote, the backslash, and every
character that cannot be shown on its own.
-/

namespace Passkey.Text

/-- A character by its number in hexadecimal. -/
def numericEscape (c : Char) : List Char :=
  ['\\', 'u', '\x7b'] ++ Nat.toDigits 16 c.toNat ++ ['\x7d']

/-- A character as it is written between quotes. -/
def quotedChar (c : Char) : List Char :=
  if c = '"' ∨ c = '\\' then ['\\', c]
  else if c = '\x00' then ['\\', '0']
  else if c = '\t' then ['\\', 't']
  else if c = '\n' then ['\\', 'n']
  else if c = '\x0d' then ['\\', 'r']
  else if Unicode.isShowable c then [c]
  else numericEscape c

/-- A text in quotes. -/
def quoted (text : String) : String :=
  String.ofList ('"' :: text.toList.flatMap quotedChar ++ ['"'])

end Passkey.Text
