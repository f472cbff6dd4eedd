import IssueTracker.Text.Quoted

/-!
# Tokens

The pieces that a literal is written in: names, numbers, strings and marks.  A fault in them is
reported before anything about the form of the whole.
-/

namespace IssueTracker.Literal

/-- What a token is, with its text. -/
inductive Lexeme
  | name (text : String)
  | number (text : List Char)
  | string (text : List Char)
  /-- An operator, a bracket, or another character. -/
  | mark (text : String)
  | lineEnd
  /-- Blanks at the start of a line that is not the first. -/
  | indentation
  | finish
deriving Repr, DecidableEq

/-- A token. -/
structure Token where
  lexeme : Lexeme
  /-- The line that it begins on, counted from one. -/
  line : Nat
  /-- How many brackets are open after it. -/
  level : Nat
deriving Repr, DecidableEq

/-- A way to write numbers. -/
inductive Numbering
  | decimal
  | hexadecimal
  | octal
  | binary
  | imaginary
deriving Repr, DecidableEq

/-- The name of a way to write numbers. -/
def Numbering.name : Numbering → String
  | decimal => "decimal"
  | hexadecimal => "hexadecimal"
  | octal => "octal"
  | binary => "binary"
  | imaginary => "imaginary"

/-- Why a text has no further token. -/
inductive TokenFault
  /-- A closing bracket where none is open. -/
  | unmatched (bracket : Char)
  /-- A closing bracket of another kind than the open one, with the line of that if it is
      another. -/
  | mismatched (closing opening : Char) (line : Option Nat)
  | deepBrackets
  /-- A string that does not end, and the line where that is seen. -/
  | unterminated (triple : Bool) (line : Nat)
  | invalidNumber (numbering : Numbering)
  | invalidDigit (digit : Char) (numbering : Numbering)
  | leadingZeros
  | invalidCharacter (c : Char)
deriving Repr, DecidableEq

/-- The number of a code point, in four digits or more. -/
def codePoint (c : Char) : String :=
  let width := if c.toNat < 0x10000 then 4 else if c.toNat < 0x100000 then 5 else 6
  "U+" ++ String.ofList ((Text.hexDigits width c.toNat).map Char.toUpper)

/-- What is reported of a text that has no further token. -/
def TokenFault.message : TokenFault → String
  | unmatched bracket => "unmatched '" ++ bracket.toString ++ "'"
  | mismatched closing opening line =>
    "closing parenthesis '" ++ closing.toString ++ "' does not match opening parenthesis '" ++
      opening.toString ++ "'" ++ (line.map fun n => " on line " ++ toString n).getD ""
  | deepBrackets => "too many nested parentheses"
  | unterminated triple line =>
    "unterminated " ++ (if triple then "triple-quoted " else "") ++
      "string literal (detected at line " ++ toString line ++ ")"
  | invalidNumber numbering => "invalid " ++ numbering.name ++ " literal"
  | invalidDigit digit numbering =>
    "invalid digit '" ++ digit.toString ++ "' in " ++ numbering.name ++ " literal"
  | leadingZeros =>
    "leading zeros in decimal integer literals are not permitted; use an 0o prefix for " ++
      "octal integers"
  | invalidCharacter c =>
    if Text.isPrintable c then
      "invalid character '" ++ c.toString ++ "' (" ++ codePoint c ++ ")"
    else "invalid non-printable character " ++ codePoint c

/-- The closing bracket to an opening one. -/
def closingOf? (c : Char) : Option Char :=
  if c = '(' then some ')' else if c = '[' then some ']' else if c = '{' then some '}' else none

/-- A closing bracket. -/
def isClosing (c : Char) : Bool := c == ')' || c == ']' || c == '}'

/-- The most brackets that may be open. -/
def deepestLevel : Nat := 200

/-- Why tokens end too early. -/
inductive EndFault
  /-- A bracket is still open. -/
  | neverClosed (bracket : Char)
  | unexpectedEnd
  /-- A backslash that does not end its line. -/
  | afterBackslash
deriving Repr, DecidableEq

/-- What is reported of tokens that end too early. -/
def EndFault.message : EndFault → String
  | neverClosed bracket => "'" ++ bracket.toString ++ "' was never closed"
  | unexpectedEnd => "unexpected EOF while parsing"
  | afterBackslash => "unexpected character after line continuation character"

end IssueTracker.Literal
