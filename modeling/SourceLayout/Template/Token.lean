import SourceLayout.Text.CharacterName
import SourceLayout.Text.Codes
import SourceLayout.Text.Decimal
import SourceLayout.Text.Identifier

/-! The tokens inside a template tag: words, numbers, quoted texts and single symbols.  A quoted
text is kept as code points, since its escapes can write halves of pairs.  Where no token can be
read, a last one tells why. -/

namespace SourceLayout.Template

/-- A token of a tag; or, in place of a token, a decimal number of too many digits, a number with a
fraction or an exponent, or a place where nothing can be read. -/
inductive Token where
  | word (s : String)
  | number (n : Nat)
  | text (codes : List Nat)
  | symbol (c : Char)
  | overlong (digits : Nat)
  | fraction
  | broken
deriving DecidableEq, Repr, Inhabited

/-- Nothing is read after the token. -/
def Token.isLast : Token → Bool
  | overlong _ | fraction | broken => true
  | word _ | number _ | text _ | symbol _ => false

/-! ### Numbers -/

/-- The value of a digit in a base up to sixteen. -/
def digitValue? (base : Nat) (c : Char) : Option Nat :=
  let value :=
    if '0' ≤ c ∧ c ≤ '9' then c.toNat - '0'.toNat
    else if 'a' ≤ c ∧ c ≤ 'f' then c.toNat - 'a'.toNat + 10
    else if 'A' ≤ c ∧ c ≤ 'F' then c.toNat - 'A'.toNat + 10
    else base
  if value < base then some value else none

/-- The value of a hexadecimal digit, where decimal digits of all scripts count. -/
def wideHexValue? (c : Char) : Option Nat := (Text.decimalValue? c).or (digitValue? 16 c)

/-- The number that digits at the head of a text add to `value`, and the number of characters read,
`length` of them before. An underscore may stand in front of a digit. -/
def readDigits (digit? : Char → Option Nat) (base : Nat) :
    (value length : Nat) → List Char → Nat × Nat
  | value, length, '_' :: c :: rest =>
    match digit? c with
    | some d => readDigits digit? base (value * base + d) (length + 2) rest
    | none => (value, length)
  | value, length, c :: rest =>
    match digit? c with
    | some d => readDigits digit? base (value * base + d) (length + 1) rest
    | none => (value, length)
  | value, length, [] => (value, length)

/-- The number that digits write after a zero and the letter of a base, and the number of characters
read; nothing without such a letter or a digit after it. -/
def readBased? : List Char → Option (Nat × Nat)
  | letter :: digits =>
    let read? (digit? : Char → Option Nat) (base : Nat) : Option (Nat × Nat) :=
      let (value, length) := readDigits digit? base 0 2 digits
      if length = 2 then none else some (value, length)
    if letter = 'b' || letter = 'B' then read? (digitValue? 2) 2
    else if letter = 'o' || letter = 'O' then read? (digitValue? 8) 8
    else if letter = 'x' || letter = 'X' then read? wideHexValue? 16
    else none
  | [] => none

/-- The token of a decimal number, written by the characters, and how many they are. Underscores are
no digits. -/
def Token.ofDecimal (n : Nat) (cs : List Char) : Token × Nat :=
  let digits := cs.countP (· ≠ '_')
  (if digits ≤ Text.digitLimit then .number n else .overlong digits, cs.length)

/-- The token of the number at the head of a text, and the number of characters that write it:
digits of a base after `0b`, `0o` or `0x`, zeros only, or decimal digits of which the first is from
one to nine. -/
def readNumber? : List Char → Option (Token × Nat)
  | '0' :: rest =>
    match readBased? rest with
    | some (n, length) => some (.number n, length)
    | none =>
      let (n, length) := readDigits (digitValue? 1) 1 0 1 rest
      some (Token.ofDecimal n ('0' :: rest.take (length - 1)))
  | c :: rest => (digitValue? 10 c).map fun d =>
    let (n, length) := readDigits Text.decimalValue? 10 d 1 rest
    Token.ofDecimal n (c :: rest.take (length - 1))
  | [] => none

/-- Digits at the head of a text go on with a fraction or an exponent. -/
def isFractional (cs : List Char) : Bool :=
  let (_, length) := readDigits Text.decimalValue? 10 0 0 cs
  0 < length && goesOn (cs.drop length)
where
  /-- A digit is at the head of a text. -/
  isDigit : List Char → Bool
    | c :: _ => (Text.decimalValue? c).isSome
    | [] => false
  /-- A fraction or an exponent is at the head of a text. -/
  goesOn : List Char → Bool
    | '.' :: rest => isDigit rest
    | 'e' :: '+' :: rest | 'e' :: '-' :: rest | 'E' :: '+' :: rest | 'E' :: '-' :: rest =>
      isDigit rest
    | 'e' :: rest | 'E' :: rest => isDigit rest
    | _ => false

/-! ### Quoted texts -/

/-- The number as a code point, if it is one. -/
def codePoint? (n : Nat) : Option Nat := if n < 0x110000 then some n else none

/-- The number that exactly `count` hexadecimal digits write, and what follows them. -/
def readHex : (count : Nat) → (value : Nat) → List Char → Option (Nat × List Char)
  | 0, value, rest => some (value, rest)
  | _ + 1, _, [] => none
  | count + 1, value, c :: rest =>
    (digitValue? 16 c).bind fun d => readHex count (value * 16 + d) rest

/-- The number that up to `count` octal digits write, and what follows them. -/
def readOctal : (count : Nat) → (value : Nat) → List Char → Nat × List Char
  | 0, value, rest => (value, rest)
  | _ + 1, value, [] => (value, [])
  | count + 1, value, c :: rest =>
    match digitValue? 8 c with
    | some d => readOctal count (value * 8 + d) rest
    | none => (value, c :: rest)

/-- The character that a letter stands for after a backslash. -/
def escapedChar? : Char → Option Char
  | '\\' => some '\\'
  | '\'' => some '\''
  | '"' => some '"'
  | 'a' => some '\x07'
  | 'b' => some '\x08'
  | 't' => some '\t'
  | 'n' => some '\n'
  | 'v' => some '\x0b'
  | 'f' => some '\x0c'
  | 'r' => some '\r'
  | _ => none

/-- The character whose name stands in braces at the head of a text, and what follows them. -/
def readCharacter? : List Char → Option (Char × List Char)
  | '{' :: rest => do
    let name := rest.takeWhile (· ≠ '}')
    guard (!name.isEmpty && name.length < rest.length)
    return (← Text.characterNamed? (String.ofList name), rest.drop (name.length + 1))
  | _ => none

/-- The code points that escapes write, in at most `steps` steps.  A backslash before a line break
writes nothing, and one that begins no escape stands for itself. -/
def unescape : (steps : Nat) → List Char → Option (List Nat)
  | 0, _ => some []
  | _ + 1, [] => some []
  | steps + 1, '\\' :: c :: rest =>
    let coded (count : Nat) : Option (List Nat) := do
      let (n, rest) ← readHex count 0 rest
      return (← codePoint? n) :: (← unescape steps rest)
    if c = '\n' then unescape steps rest
    else if c = 'x' then coded 2
    else if c = 'u' then coded 4
    else if c = 'U' then coded 8
    else if c = 'N' then do
      let (named, rest) ← readCharacter? rest
      return named.toNat :: (← unescape steps rest)
    else if (digitValue? 8 c).isSome then do
      let (n, rest) := readOctal 3 0 (c :: rest)
      return (← codePoint? n) :: (← unescape steps rest)
    else
      match escapedChar? c with
      | some d => (unescape steps rest).map (d.toNat :: ·)
      | none => (unescape steps rest).map fun cs => '\\'.toNat :: c.toNat :: cs
  | steps + 1, c :: rest => (unescape steps rest).map (c.toNat :: ·)

/-- A character as escapes beyond ASCII write it. -/
def asciiForm (c : Char) : List Char :=
  if c.toNat < 128 then [c] else Text.codePointEscape c.toNat

/-- The token of the characters between two quotes. -/
def Token.ofQuoted? (cs : List Char) : Option Token :=
  let ascii := cs.flatMap asciiForm
  (unescape ascii.length ascii).map .text

/-- The characters up to the next quote of a kind that no backslash escapes, if there is one. -/
def untilQuote? (quote : Char) : List Char → Option (List Char)
  | '\\' :: c :: rest => (untilQuote? quote rest).map fun cs => '\\' :: c :: cs
  | c :: rest => if c = quote then some [] else (untilQuote? quote rest).map (c :: ·)
  | [] => none

/-! ### The token at the head of a text -/

/-- The character is a symbol that may stand in a tag. -/
def isSymbol (c : Char) : Bool := "+-/*%~[](){}=!<>.:|,;".toList.contains c

/-- The token at the head of a text that does not begin with a blank, and the number of its
characters, if there is one. Right after a point there are no numbers with a fraction or an exponent,
and the digits stand for themselves. -/
def Token.read? (afterPoint : Bool) : List Char → Option (Token × Nat)
  | [] => none
  | c :: rest =>
    if c = '\'' || c = '"' then do
      let cs ← untilQuote? c rest
      return (← Token.ofQuoted? cs, cs.length + 2)
    else if (digitValue? 10 c).isSome then
      if !afterPoint && isFractional (c :: rest) then some (.fraction, 1)
      else readNumber? (c :: rest)
    else if Text.isIdentifierStart c then
      let word := (c :: rest).takeWhile Text.isIdentifierPart
      some (.word (String.ofList word), word.length)
    else if isSymbol c then some (.symbol c, 1)
    else none

end SourceLayout.Template
