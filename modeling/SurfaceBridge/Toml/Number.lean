import SurfaceBridge.Toml.Basic

set_option autoImplicit false

/-! # Numbers and dates of configuration files

An integer has 64 bits with a sign. It is decimal, or behind `0x`, `0o` and `0b` in another base.
A number with a fraction or an exponent is a double, the one nearest to it. Single underscores
may stand between digits, and a decimal number has no needless zeros in front.

A date and the time of a day may stand together or alone; what they are is not kept.
-/

namespace SurfaceBridge

namespace Toml

/-- The digits at the front of a text, without the single underscores between them. -/
def takeDigits (isDigit : Char → Bool) : List Char → List Char × List Char
  | c :: '_' :: d :: rest =>
    if isDigit c then
      if isDigit d then
        let (digits, rest) := takeDigits isDigit (d :: rest)
        (c :: digits, rest)
      else ([c], '_' :: d :: rest)
    else ([], c :: '_' :: d :: rest)
  | c :: rest =>
    if isDigit c then
      let (digits, rest) := takeDigits isDigit rest
      (c :: digits, rest)
    else ([], c :: rest)
  | [] => ([], [])

/-- The value of a digit in a base up to 16, if it is one. -/
def digitIn? (base : Nat) (c : Char) : Option Nat :=
  let value :=
    if c.isDigit then some (c.toNat - 48)
    else if 'a' ≤ c ∧ c ≤ 'f' then some (c.toNat - 87)
    else if 'A' ≤ c ∧ c ≤ 'F' then some (c.toNat - 55)
    else none
  value.filter (· < base)

/-- The number that digits write in a base. -/
def digitsValue (base : Nat) (digits : List Char) : Nat :=
  digits.foldl (fun (n : Nat) (c : Char) => base * n + (digitIn? base c).getD 0) 0

/-- An integer that fits 64 bits with a sign. -/
def integerValue (n : Int) : Option Value :=
  if -9223372036854775808 ≤ n ∧ n ≤ 9223372036854775807 then some (.integer n) else none

/-- Reads an integer in another base behind its mark. -/
def readBased (base : Nat) (s : List Char) : Option (Value × List Char) :=
  let (digits, rest) := takeDigits (fun c => (digitIn? base c).isSome) s
  if digits.isEmpty then none
  else (integerValue (digitsValue base digits)).map fun v => (v, rest)

/-- The double nearest to digits times a power of ten. The value is too large if the first digit
stands beyond the place 310, and it is zero if it stands below the place -330. -/
def nearest (digits : Nat) (exponent : Int) : Float :=
  let place := exponent + (Nat.toDigits 10 digits).length
  if digits = 0 ∨ place < -330 then 0
  else if 310 < place then 1 / 0
  else Float.ofScientific digits (exponent < 0) exponent.natAbs

/-- Whether a character is a decimal digit. -/
def isDecimal (c : Char) : Bool := c.isDigit

/-- Reads the whole part of a decimal number. -/
def readWhole : List Char → Option (List Char × List Char)
  | '0' :: rest => some (['0'], rest)
  | s =>
    let (digits, rest) := takeDigits isDecimal s
    if digits.isEmpty then none else some (digits, rest)

/-- The fraction at the front of a text: no digits without a point, and none at all if no digit
is behind the point. -/
def readFraction : List Char → Option (List Char × List Char)
  | '.' :: s =>
    let (digits, rest) := takeDigits isDecimal s
    if digits.isEmpty then none else some (digits, rest)
  | s => some ([], s)

/-- The exponent at the front of a text, if there is one. -/
def readExponent (s : List Char) : Option (Option Int × List Char) :=
  match s with
  | mark :: behind =>
    if mark = 'e' ∨ mark = 'E' then
      let (isNegative, behind) := match behind with
        | '-' :: r => (true, r)
        | '+' :: r => (false, r)
        | r => (false, r)
      let (digits, rest) := takeDigits isDecimal behind
      let n : Int := digitsValue 10 digits
      if digits.isEmpty then none else some (some (if isNegative then -n else n), rest)
    else some (none, s)
  | [] => some (none, s)

/-- Reads a decimal number behind its sign. A number that is too large is refused, unless it is
negative. -/
def readDecimal (isNegative : Bool) (s : List Char) : Option (Value × List Char) :=
  match readWhole s with
  | none => none
  | some (whole, rest) =>
    match readFraction rest with
    | none => none
    | some (fraction, rest) =>
      match readExponent rest with
      | none => none
      | some (exponent, rest) =>
        if fraction.isEmpty ∧ exponent.isNone then
          let n : Int := digitsValue 10 whole
          (integerValue (if isNegative then -n else n)).map fun v => (v, rest)
        else
          let x := nearest (digitsValue 10 (whole ++ fraction))
            (exponent.getD 0 - fraction.length)
          if x.isInf && !isNegative then none
          else some (.real (if isNegative then -x else x), rest)

/-- Reads a number that is infinite or none at all, behind its sign. -/
def readSpecial (isNegative : Bool) : List Char → Option (Value × List Char)
  | 'i' :: 'n' :: 'f' :: rest => some (.real (if isNegative then -1 / 0 else 1 / 0), rest)
  | 'n' :: 'a' :: 'n' :: rest => some (.real (0 / 0), rest)
  | _ => none

/-- Reads a number. -/
def readNumber : List Char → Option (Value × List Char)
  | '0' :: 'x' :: rest => readBased 16 rest
  | '0' :: 'o' :: rest => readBased 8 rest
  | '0' :: 'b' :: rest => readBased 2 rest
  | '-' :: rest => readSpecial true rest <|> readDecimal true rest
  | '+' :: rest => readSpecial false rest <|> readDecimal false rest
  | s => readSpecial false s <|> readDecimal false s

/-- The number in the first `count` characters of a text, which have to be digits. -/
def readFixed (count : Nat) (s : List Char) : Option (Nat × List Char) :=
  let digits := s.take count
  if digits.length = count ∧ digits.all Char.isDigit then
    some (digitsValue 10 digits, s.drop count)
  else none

/-- How many days a month has. -/
def daysIn (year month : Nat) : Nat :=
  if month = 2 then
    if year % 4 = 0 ∧ (year % 100 ≠ 0 ∨ year % 400 = 0) then 29 else 28
  else if [4, 6, 9, 11].contains month then 30
  else 31

/-- What is behind the date at the front of a text. -/
def skipDate (s : List Char) : Option (List Char) := do
  let (year, s) ← readFixed 4 s
  let s ← match s with
    | '-' :: s => some s
    | _ => none
  let (month, s) ← readFixed 2 s
  let s ← match s with
    | '-' :: s => some s
    | _ => none
  let (day, s) ← readFixed 2 s
  if 1 ≤ month ∧ month ≤ 12 ∧ 1 ≤ day ∧ day ≤ daysIn year month then some s else none

/-- What is behind the hours and minutes at the front of a text. -/
def skipMinutes (s : List Char) : Option (List Char) := do
  let (hour, s) ← readFixed 2 s
  let s ← match s with
    | ':' :: s => some s
    | _ => none
  let (minute, s) ← readFixed 2 s
  if hour ≤ 23 ∧ minute ≤ 59 then some s else none

/-- What is behind the time at the front of a text. A minute may have 61 seconds. -/
def skipTime (s : List Char) : Option (List Char) := do
  let s ← skipMinutes s
  let s ← match s with
    | ':' :: s => some s
    | _ => none
  let (second, s) ← readFixed 2 s
  if 60 < second then none
  else
    match s with
    | '.' :: c :: rest => some (if c.isDigit then rest.dropWhile Char.isDigit else s)
    | _ => some s

/-- What is behind the offset at the front of a text, if there is one. -/
def skipOffset : List Char → List Char
  | 'Z' :: rest => rest
  | 'z' :: rest => rest
  | '+' :: rest => (skipMinutes rest).getD ('+' :: rest)
  | '-' :: rest => (skipMinutes rest).getD ('-' :: rest)
  | s => s

/-- Reads a date, a time, or both. A text that begins like a date is nothing else. -/
def readDate? (s : List Char) : Option (Option (List Char)) :=
  let begins (count : Nat) (mark : Char) : Bool :=
    (s.take count).all Char.isDigit && s[count]? = some mark
  if begins 4 '-' then
    some ((skipDate s).map fun rest =>
      match rest with
      | mark :: behind =>
        if mark = 'T' ∨ mark = 't' ∨ mark = ' ' then
          match skipTime behind with
          | some rest => skipOffset rest
          | none => mark :: behind
        else mark :: behind
      | [] => [])
  else if begins 2 ':' then some (skipTime s)
  else none

end Toml

end SurfaceBridge
