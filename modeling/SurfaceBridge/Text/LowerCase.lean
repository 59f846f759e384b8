import SurfaceBridge.Unicode.LowerCase
import SurfaceBridge.Unicode.Property

set_option autoImplicit false

/-! # Texts in lower case

Each character is replaced by its lower case. A capital sigma at the end of a word becomes the
final sigma: there is a cased letter before it and none after it, when characters that do not
count for case are passed over.
-/

namespace SurfaceBridge

namespace Text

/-- Whether the first character that counts for case is a cased letter. -/
def startsCased : List Char → Bool
  | [] => false
  | c :: cs =>
    if ((Unicode.property? "ci").getD #[]).contains c.toNat then startsCased cs
    else ((Unicode.property? "cased").getD #[]).contains c.toNat

/-- The rest of a text in lower case; `before` is what comes before it, the last character
first. -/
def lowerFrom (before : List Char) : List Char → List Char
  | [] => []
  | c :: cs =>
    let lower :=
      if c.toNat = 0x3A3 ∧ startsCased before ∧ !startsCased cs then [Char.ofNat 0x3C2]
      else Unicode.lowerChar c
    lower ++ lowerFrom (c :: before) cs

/-- A text in lower case. -/
def lowerCase (s : String) : String := String.ofList (lowerFrom [] s.toList)

end Text

end SurfaceBridge
