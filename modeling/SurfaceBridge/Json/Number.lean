import SurfaceBridge.Json.Error

set_option autoImplicit false

/-! # Reading numbers

A number without a fraction or an exponent that fits 64 bits is an integer; `-0` is not, since
it keeps its sign only as a double. Every other number is a double.

A double is put together from at most 64 bits of significant digits and a power of ten. Digits
beyond those are dropped, and the power is multiplied in at once, or in steps of `1e308` when it
is smaller than the smallest double. Each of these steps rounds, so the result is not always the
double nearest to the digits.
-/

namespace SurfaceBridge

namespace Json

/-- The outcome of reading something from the front of a text: it and the text that follows. -/
abbrev Reading (α : Type) := Except ReadError (α × List Char)

/-- Reading stops with a fault behind the characters read. -/
def stop {α : Type} (fault : Fault) (rest : List Char) : Except ReadError α :=
  .error ⟨.fault fault, rest.length, false⟩

/-- Reading stops with a fault at the next character. -/
def stopAt {α : Type} (fault : Fault) (rest : List Char) : Except ReadError α :=
  .error ⟨.fault fault, rest.length, true⟩

/-- Reading stops with a value of the wrong shape. -/
def refuse {α : Type} (mismatch : Mismatch) (rest : List Char) : Except ReadError α :=
  .error ⟨.mismatch mismatch, rest.length, false⟩

/-- The value of a decimal digit. -/
def digit (c : Char) : Nat := c.toNat - 48

/-- Reads digits onto a number while it stays below `2 ^ 64`. The result has the number, the
count of digits read, and the text that follows. -/
def readDigits : List Char → Nat → Nat → Nat × Nat × List Char
  | [], value, count => (value, count, [])
  | c :: cs, value, count =>
    if c.isDigit && 10 * value + digit c < integerLimit then
      readDigits cs (10 * value + digit c) (count + 1)
    else (value, count, c :: cs)

/-- The digits that follow, and the text after them. -/
def skipDigits (s : List Char) : Nat × List Char :=
  ((s.takeWhile Char.isDigit).length, s.dropWhile Char.isDigit)

/-- The double nearest to a power of ten. -/
def powerOfTen (n : Nat) : Float := Float.ofScientific 1 false n

/-- Divides by powers of ten, `1e308` at a time. -/
def scaleDown (x : Float) : Nat → Nat → Float
  | 0, places => x / powerOfTen places
  | fuel + 1, places =>
    if places ≤ 308 then x / powerOfTen places
    else if x == 0.0 then x
    else scaleDown (x / powerOfTen 308) fuel (places - 308)

/-- The double for significant digits and a power of ten; nothing if it is too large. -/
def assemble (significand : Nat) (exponent : Int) : Option Float :=
  let x := (UInt64.ofNat significand).toFloat
  if 0 ≤ exponent then
    if exponent ≤ 308 then
      let y := x * powerOfTen exponent.toNat
      if y.isInf then none else some y
    else if x == 0.0 then some x
    else none
  else
    let places := exponent.natAbs
    some (scaleDown x (places / 308) places)

/-- A double with its sign, or the fault of a number that is too large. -/
def finishReal (positive : Bool) (significand : Nat) (exponent : Int) (rest : List Char) :
    Reading Number :=
  match assemble significand exponent with
  | some x => .ok (.real (if positive then x else -x), rest)
  | none => stop .numberOutOfRange rest

/-- The greatest exponent that is read. -/
def exponentLimit : Nat := 2147483647

/-- Reads the digits of an exponent onto a number. Nothing is returned as the number if it grows
beyond `exponentLimit`; the text after the digit at which that happened is returned then. -/
def readExponentDigits : List Char → Nat → Option Nat × List Char
  | [], value => (some value, [])
  | c :: cs, value =>
    if c.isDigit then
      if 10 * value + digit c ≤ exponentLimit then readExponentDigits cs (10 * value + digit c)
      else (none, cs)
    else (some value, c :: cs)

/-- An exponent in the range of 32-bit words. -/
def clampExponent (e : Int) : Int := max (-2147483648) (min e 2147483647)

/-- Reads an exponent behind its letter. -/
def readExponent (positive : Bool) (significand : Nat) (start : Int) (s : List Char) :
    Reading Number :=
  let (up, s) := match s with
    | '+' :: cs => (true, cs)
    | '-' :: cs => (false, cs)
    | cs => (true, cs)
  match s with
  | [] => stop .endInValue []
  | c :: cs =>
    if c.isDigit then
      match readExponentDigits cs (digit c) with
      | (some e, rest) =>
        let exponent := if up then start + (e : Int) else start - (e : Int)
        finishReal positive significand (clampExponent exponent) rest
      | (none, rest) =>
        if significand ≠ 0 && up then stop .numberOutOfRange rest
        else .ok (.real (if positive then 0.0 else -0.0), (skipDigits rest).2)
    else stop .invalidNumber cs

/-- Reads what can follow the digits of a double: an exponent or nothing. -/
def readTail (positive : Bool) (significand : Nat) (exponent : Int) (s : List Char) :
    Reading Number :=
  match s with
  | 'e' :: cs => readExponent positive significand exponent cs
  | 'E' :: cs => readExponent positive significand exponent cs
  | s => finishReal positive significand exponent s

/-- Reads a fraction behind its point. -/
def readFraction (positive : Bool) (significand : Nat) (start : Int) (s : List Char) :
    Reading Number :=
  let (value, count, rest) := readDigits s significand 0
  match rest with
  | c :: _ =>
    if c.isDigit then
      let (_, rest) := skipDigits rest
      readTail positive value (start - count) rest
    else if count = 0 then stopAt .invalidNumber rest
    else readTail positive value (start - count) rest
  | [] => if count = 0 then stopAt .endInValue [] else readTail positive value (start - count) []

/-- Reads what can follow the digits before the point. -/
def readAfterWhole (positive : Bool) (significand : Nat) (s : List Char) : Reading Number :=
  match s with
  | '.' :: cs => readFraction positive significand 0 cs
  | 'e' :: cs => readExponent positive significand 0 cs
  | 'E' :: cs => readExponent positive significand 0 cs
  | s =>
    if positive then .ok (.integer significand, s)
    else if significand = 0 ∨ 9223372036854775808 < significand then
      .ok (.real (-(UInt64.ofNat significand).toFloat), s)
    else .ok (.integer (-(significand : Int)), s)

/-- Reads a number behind its sign. -/
def readUnsigned (positive : Bool) (s : List Char) : Reading Number :=
  match s with
  | [] => stop .endInValue []
  | '0' :: cs =>
    match cs with
    | c :: _ => if c.isDigit then stopAt .invalidNumber cs else readAfterWhole positive 0 cs
    | [] => readAfterWhole positive 0 []
  | c :: cs =>
    if c.isDigit then
      let (value, _, rest) := readDigits cs (digit c) 0
      match rest with
      | d :: _ =>
        if d.isDigit then
          let (dropped, rest) := skipDigits rest
          match rest with
          | '.' :: more => readFraction positive value dropped more
          | rest => readTail positive value dropped rest
        else readAfterWhole positive value rest
      | [] => readAfterWhole positive value []
    else stop .invalidNumber cs

/-- Reads a number. -/
def readNumber (s : List Char) : Reading Number :=
  match s with
  | '-' :: cs => readUnsigned false cs
  | cs => readUnsigned true cs

/-- Reads past an exponent behind its letter without looking at its size. -/
def skipExponent (s : List Char) : Except ReadError (List Char) :=
  let s := match s with
    | '+' :: cs => cs
    | '-' :: cs => cs
    | cs => cs
  match s with
  | [] => stop .endInValue []
  | c :: cs => if c.isDigit then .ok (cs.dropWhile Char.isDigit) else stop .invalidNumber cs

/-- Reads past what can follow the digits of a number. -/
def skipTail (s : List Char) : Except ReadError (List Char) :=
  match s with
  | 'e' :: cs => skipExponent cs
  | 'E' :: cs => skipExponent cs
  | s => .ok s

/-- Reads past what can follow the digits before the point. -/
def skipAfterWhole (s : List Char) : Except ReadError (List Char) :=
  match s with
  | '.' :: [] => stopAt .endInValue []
  | '.' :: c :: cs =>
    if c.isDigit then skipTail (cs.dropWhile Char.isDigit) else stopAt .invalidNumber (c :: cs)
  | s => skipTail s

/-- Reads past a number behind its sign without asking whether it fits a double. -/
def skipUnsigned (s : List Char) : Except ReadError (List Char) :=
  match s with
  | [] => stop .endInValue []
  | '0' :: cs =>
    match cs with
    | c :: _ => if c.isDigit then stopAt .invalidNumber cs else skipAfterWhole cs
    | [] => .ok []
  | c :: cs =>
    if c.isDigit then skipAfterWhole (cs.dropWhile Char.isDigit) else stop .invalidNumber cs

end Json

end SurfaceBridge
