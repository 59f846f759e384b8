import SurfaceBridge.Unicode.Printable

set_option autoImplicit false

/-! # Texts quoted for diagnostics

A diagnostic shows a text between double quotes on one line. Characters that cannot be shown,
or that would change how their neighbours are shown, appear as their code points.
-/

namespace SurfaceBridge

namespace Text

/-- A code point between braces, in the least number of hexadecimal digits. -/
def codePointEscape (c : Char) : List Char :=
  ['\\', 'u', '{'] ++ Nat.toDigits 16 c.toNat ++ ['}']

/-- One character as a diagnostic shows it. -/
def debugChar (c : Char) : List Char :=
  if c.toNat = 0 then ['\\', '0']
  else if c = '\t' then ['\\', 't']
  else if c = '\r' then ['\\', 'r']
  else if c = '\n' then ['\\', 'n']
  else if c = '\\' then ['\\', '\\']
  else if c = '"' then ['\\', '"']
  else if 0x20 ≤ c.toNat ∧ c.toNat < 0x7F then [c]
  else if Unicode.graphemeExtend.contains c.toNat then codePointEscape c
  else if Unicode.isPrintable c.toNat then [c]
  else codePointEscape c

/-- A text between double quotes as a diagnostic shows it. -/
def debugQuote (s : String) : String :=
  String.ofList ('"' :: (s.toList.flatMap debugChar ++ ['"']))

end Text

end SurfaceBridge
