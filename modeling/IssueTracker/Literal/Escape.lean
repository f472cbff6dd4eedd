import IssueTracker.Text.Digits

/-!
# Escapes in strings

In a string, a backslash and the character after it stand for another character: `\x` with two
hexadecimal digits, `\u` with four and `\U` with eight for the code point that they write, and `\N`
with a name in braces for the character of that name.  Every name counts as known that is written in
the letters of such names.
-/

namespace IssueTracker.Literal

/-- What is wrong with the escape of a code point. -/
inductive EscapeProblem
  /-- The letter needs so many hexadecimal digits. -/
  | truncated (letter : Char) (digits : Nat)
  | illegal
  | malformedName
  | unknownName
deriving Repr, DecidableEq

/-- The explanation of a problem. -/
def EscapeProblem.reason : EscapeProblem → String
  | truncated letter digits =>
    "truncated \\" ++ letter.toString ++ String.ofList (List.replicate digits 'X') ++ " escape"
  | illegal => "illegal Unicode character"
  | malformedName => "malformed \\N character escape"
  | unknownName => "unknown Unicode character name"

/-- What is wrong with a string. -/
inductive StringFault
  /-- A string of bytes with a character beyond ASCII. -/
  | notAscii
  /-- An escape of a code point that cannot be read, and the positions it stands at.  A character
      beyond ASCII takes ten positions. -/
  | escape (problem : EscapeProblem) (first last : Nat)
  /-- An escape of a byte that cannot be read, and its position. -/
  | byteEscape (position : Nat)
deriving Repr, DecidableEq

/-- What is reported of a string that cannot be read. -/
def StringFault.message : StringFault → String
  | notAscii => "bytes can only contain ASCII literal characters"
  | escape problem first last =>
    "(unicode error) 'unicodeescape' codec can't decode bytes in position " ++ toString first ++
      "-" ++ toString last ++ ": " ++ problem.reason
  | byteEscape position => "(value error) invalid \\x escape at position " ++ toString position

/-- A hexadecimal digit. -/
def isHexadecimal (c : Char) : Bool := (Text.hexValue? c).isSome

/-- The number that hexadecimal digits write. -/
def hexadecimalValue (digits : List Char) : Nat :=
  digits.foldl (fun value c => 16 * value + (Text.hexValue? c).getD 0) 0

/-- The number of hexadecimal digits that the letter of an escape needs. -/
def escapeDigits? (letter : Char) : Option Nat :=
  if letter = 'x' then some 2 else if letter = 'u' then some 4
  else if letter = 'U' then some 8 else none

/-- How many positions a character takes. -/
def positionsOf (c : Char) : Nat := if c.toNat < 0x80 then 1 else 10

/-- How many positions a backslash takes before a character. -/
def backslashPositions (next : Char) : Nat := if next.toNat < 0x80 then 1 else 6

/-- How many positions characters take. -/
def positionsOfAll : List Char → Nat
  | [] => 0
  | '\\' :: c :: rest => backslashPositions c + positionsOf c + positionsOfAll rest
  | c :: rest => positionsOf c + positionsOfAll rest

/-- A character that names of characters are written in. -/
def isNameLetter (c : Char) : Bool := c.isAlphanum || c == ' ' || c == '-'

/-- The problem of an escape after its backslash, and the number of positions that it goes on for
    after the letter. -/
def escapeProblem? (letter : Char) (rest : List Char) : Option (EscapeProblem × Nat) :=
  match escapeDigits? letter with
  | some needed =>
    let digits := (rest.take needed).takeWhile isHexadecimal
    if digits.length < needed then some (.truncated letter needed, digits.length)
    else if 0x10FFFF < hexadecimalValue digits then some (.illegal, needed)
    else none
  | none =>
    if letter ≠ 'N' then none
    else match rest with
      | '{' :: name =>
        let inside := name.takeWhile (· != '}')
        let positions := positionsOfAll inside
        if inside.length = name.length then some (.malformedName, 1 + positions)
        else if inside.isEmpty then some (.malformedName, 1)
        else if !inside.all isNameLetter then some (.unknownName, 2 + positions)
        else none
      | _ => some (.malformedName, 0)

/-- The first escape of a code point in a string, from a position on, that cannot be read. -/
def codePointFault? (position : Nat) : List Char → Option StringFault
  | [] => none
  | ['\\'] => none
  | '\\' :: letter :: rest =>
    match escapeProblem? letter rest with
    | some (problem, length) => some (.escape problem position (position + 1 + length))
    | none =>
      codePointFault? (position + backslashPositions letter + positionsOf letter) rest
  | c :: rest => codePointFault? (position + positionsOf c) rest

/-- The first escape of a byte in a string, from a position on, that cannot be read. -/
def byteFault? (position : Nat) : List Char → Option StringFault
  | [] => none
  | ['\\'] => none
  | '\\' :: letter :: rest =>
    if letter = 'x' && !((rest.take 2).length == 2 && (rest.take 2).all isHexadecimal) then
      some (.byteEscape position)
    else byteFault? (position + 2) rest
  | _ :: rest => byteFault? (position + 1) rest

/-- A quote of strings. -/
def isQuote (c : Char) : Bool := c == '\'' || c == '"'

/-- A string with its quotes and the letters before it, taken apart. -/
structure StringParts where
  letters : List Char
  content : List Char
deriving Repr, DecidableEq

namespace StringParts

/-- The parts of a string. -/
def ofText (text : List Char) : StringParts :=
  let letters := (text.takeWhile (!isQuote ·)).map Char.toLower
  let quoted := text.drop letters.length
  let width := match quoted with
    | a :: b :: c :: _ => if a = b ∧ b = c then 3 else 1
    | _ => 1
  { letters, content := (quoted.drop width).take (quoted.length - 2 * width) }

/-- Whether a string is one of bytes. -/
def isBytes (s : StringParts) : Bool := s.letters.contains 'b'

/-- Whether backslashes stand for themselves. -/
def isRaw (s : StringParts) : Bool := s.letters.contains 'r'

/-- Whether a string has fields. -/
def isPattern (s : StringParts) : Bool := s.letters.contains 'f'

/-- What is wrong with a string, apart from its fields if it has some. -/
def fault? (s : StringParts) : Option StringFault :=
  if s.isBytes then
    if s.content.any (0x80 ≤ ·.toNat) then some .notAscii
    else if s.isRaw then none else byteFault? 0 s.content
  else if s.isRaw || s.isPattern then none
  else codePointFault? 0 s.content

end StringParts

end IssueTracker.Literal
