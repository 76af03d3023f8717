import CrashWave.JavaScript.Double
import CrashWave.JavaScript.Number
import Mathlib.Data.List.DropRight
import Mathlib.Data.List.Infix

/-! String tests, splits and conversions of JavaScript, on lists of characters. -/

namespace JavaScript

/-- `new RegExp(pattern, "i").test(text)` for a pattern of lower-case ASCII letters and
blanks: without the `u` flag only the ASCII letters of the text are case-folded onto them.
-/
def testIgnoreCase (pattern text : String) : Bool :=
  decide (pattern.toList <:+: text.toList.map Char.toLower)

/-- `text.includes(part)`. -/
def includes (text part : String) : Bool := decide (part.toList <:+: text.toList)

/-- `text.length`: characters beyond the basic plane count twice. -/
def utf16Length (text : String) : Nat :=
  (text.toList.map fun c => if c.toNat < 0x10000 then 1 else 2).sum

-----------------------------------------------------------------------------------------
-- Character classes, and the splits that use them
-----------------------------------------------------------------------------------------

/-- The line terminators, which `.` does not match. -/
def isLineTerminator (c : Char) : Bool :=
  decide (c.toNat ∈ [0x0A, 0x0D, 0x2028, 0x2029])

/-- `\s`, which is also what `trim` removes. -/
def isSpace (c : Char) : Bool :=
  isLineTerminator c
  || decide (c.toNat ∈ [0x09, 0x0B, 0x0C, 0x20, 0xA0, 0x1680, 0x202F, 0x205F, 0x3000, 0xFEFF])
  || decide (0x2000 ≤ c.toNat ∧ c.toNat ≤ 0x200A)

/-- `\w`. -/
def isWord (c : Char) : Bool := c.isAlphanum || c = '_'

/-- `text.trim()`. -/
def trimChars (chars : List Char) : List Char :=
  (chars.dropWhile isSpace).rdropWhile isSpace

/-- `text.trim()`. -/
def trim (text : String) : String := String.ofList (trimChars text.toList)

/-- `text.split(/\s+/)` for a trimmed text, and no parts for an empty one. -/
def splitSpaces (chars : List Char) : List String :=
  ((chars.splitOnP isSpace).filter fun part => !part.isEmpty).map String.ofList

/-- `text.split('.')`. -/
def splitDots (text : String) : List String := (text.toList.splitOn '.').map String.ofList

/-- `parts.join(' ')`. -/
def joinSpaces (parts : List String) : String := String.intercalate " " parts

/-- A text is determined by its parts between dots. -/
theorem splitDots_injective : Function.Injective splitDots := by
  intro left right same
  have parts : left.toList.splitOn '.' = right.toList.splitOn '.' :=
    List.map_injective_iff.mpr (fun _ _ equal => String.ofList_injective equal) same
  have joined (text : String) : ['.'].intercalate (text.toList.splitOn '.') = text.toList :=
    List.intercalate_splitOn '.'
  have chars : left.toList = right.toList := by
    rw [← joined left, parts, joined right]
  exact String.toList_injective chars

-----------------------------------------------------------------------------------------
-- Case conversion
-----------------------------------------------------------------------------------------

/-- The lower case of a character: the ASCII letters and the two others whose image begins
with one. Every other image holds no ASCII letter, so the character stands for it where
the result is only compared with ASCII texts.
-/
def lowerChar (c : Char) : List Char :=
  match c.toNat with
  | 0x212A => ['k']
  | 0x0130 => ['i', Char.ofNat 0x0307]
  | _ => [c.toLower]

/-- `text.toLowerCase()`, up to letters that are compared with no ASCII text. -/
def toLowerCase (text : String) : String := String.ofList (text.toList.flatMap lowerChar)

/-- The upper case of a character: the ASCII letters and the others whose image is made of
them. Every other image holds a character outside ASCII, so the character stands for it
where the result is only compared with ASCII texts.
-/
def upperChar (c : Char) : List Char :=
  match c.toNat with
  | 0x00DF => ['S', 'S']
  | 0x0131 => ['I']
  | 0x017F => ['S']
  | 0xFB00 => ['F', 'F']
  | 0xFB01 => ['F', 'I']
  | 0xFB02 => ['F', 'L']
  | 0xFB03 => ['F', 'F', 'I']
  | 0xFB04 => ['F', 'F', 'L']
  | 0xFB05 => ['S', 'T']
  | 0xFB06 => ['S', 'T']
  | _ => [c.toUpper]

/-- `text.toUpperCase()`, up to letters that are compared with no ASCII text. -/
def toUpperCase (text : String) : String := String.ofList (text.toList.flatMap upperChar)

-----------------------------------------------------------------------------------------
-- Numbers from texts
-----------------------------------------------------------------------------------------

/-- The value of a digit in a radix. -/
def digitValue (radix : Nat) (c : Char) : Option Nat :=
  let value :=
    if c.isDigit then some (c.toNat - '0'.toNat)
    else if c.isAlpha then some (c.toLower.toNat - 'a'.toNat + 10)
    else none
  value.filter fun digit => digit < radix

/-- The digits at the head of a text, appended to `value`: the new value, how many there
are, and the rest.
-/
def readDigits (radix value : Nat) : List Char → Nat × Nat × List Char
  | [] => (value, 0, [])
  | c :: rest =>
      match digitValue radix c with
      | none => (value, 0, c :: rest)
      | some digit =>
          let (result, count, others) := readDigits radix (value * radix + digit) rest
          (result, count + 1, others)

/-- A whole text of digits as a number. -/
def readWhole (radix : Nat) (chars : List Char) : Number :=
  match readDigits radix 0 chars with
  | (value, count, []) => if count = 0 then .nan else .finite value
  | _ => .nan

/-- An exponent part, if the text is one or is empty. -/
def readExponent : List Char → Option Int
  | [] => some 0
  | marker :: rest =>
      if marker.toLower ≠ 'e' then none
      else
        let (negative, digits) : Bool × List Char :=
          match rest with
          | '-' :: digits => (true, digits)
          | '+' :: digits => (false, digits)
          | digits => (false, digits)
        match readDigits 10 0 digits with
        | (value, count, []) =>
            if count = 0 then none else some (if negative then -(value : Int) else value)
        | _ => none

/-- A decimal value as a double, which stands for itself up to fifteen digits: too large ones are
infinite, and those that round to zero are zero.
-/
def Number.ofDecimal (value : ℚ) : Number :=
  if 2 ^ 1024 - 2 ^ 970 ≤ value then .infinity false
  else if value * 2 ^ 1075 ≤ 1 then .finite 0
  else .finite (shortest (double value))

/-- An unsigned decimal literal, or `Infinity`. -/
def readDecimal (chars : List Char) : Number :=
  if chars = "Infinity".toList then .infinity false
  else
    let (whole, wholeCount, afterWhole) := readDigits 10 0 chars
    let (mantissa, fractionCount, afterFraction) : Nat × Nat × List Char :=
      match afterWhole with
      | '.' :: fraction => readDigits 10 whole fraction
      | other => (whole, 0, other)
    match readExponent afterFraction with
    | none => .nan
    | some exponent =>
        if wholeCount + fractionCount = 0 then .nan
        else .ofDecimal ((mantissa : ℚ) * (10 : ℚ) ^ (exponent - fractionCount))

/-- `Number(text)`. -/
def toNumber (text : String) : Number :=
  match trimChars text.toList with
  | [] => 0
  | '0' :: 'x' :: digits | '0' :: 'X' :: digits => readWhole 16 digits
  | '0' :: 'o' :: digits | '0' :: 'O' :: digits => readWhole 8 digits
  | '0' :: 'b' :: digits | '0' :: 'B' :: digits => readWhole 2 digits
  | '-' :: decimal => (readDecimal decimal).neg
  | '+' :: decimal => readDecimal decimal
  | decimal => readDecimal decimal

/-- The exponent at the head of a text, or zero. -/
def leadingExponent : List Char → Int
  | [] => 0
  | marker :: rest =>
      if marker.toLower ≠ 'e' then 0
      else
        let (negative, digits) : Bool × List Char :=
          match rest with
          | '-' :: digits => (true, digits)
          | '+' :: digits => (false, digits)
          | digits => (false, digits)
        let value := (readDigits 10 0 digits).1
        if negative then -(value : Int) else value

/-- The unsigned decimal literal at the head of a text, or `Infinity`; NaN where there is none. -/
def leadingDecimal (chars : List Char) : Number :=
  if "Infinity".toList <+: chars then .infinity false
  else
    let (whole, wholeCount, afterWhole) := readDigits 10 0 chars
    let (mantissa, fractionCount, afterFraction) : Nat × Nat × List Char :=
      match afterWhole with
      | '.' :: fraction => readDigits 10 whole fraction
      | other => (whole, 0, other)
    if wholeCount + fractionCount = 0 then .nan
    else
      .ofDecimal ((mantissa : ℚ) * (10 : ℚ) ^ (leadingExponent afterFraction - fractionCount))

/-- `parseFloat(text)`: the number at the head of the text. -/
def parseFloat (text : String) : Number :=
  match text.toList.dropWhile isSpace with
  | '-' :: decimal => (leadingDecimal decimal).neg
  | '+' :: decimal => leadingDecimal decimal
  | decimal => leadingDecimal decimal

end JavaScript
