import IssueTracker.Literal.Token

/-!
# Where numbers end

A number is written in decimal digits, perhaps with a point, an exponent and the mark of an
imaginary number, or after `0x`, `0o` or `0b` in digits to another base.  Single underscores may
stand between digits.  The functions here answer what follows.
-/

namespace IssueTracker.Literal

/-- A character of names within ASCII, which may not follow a number at once. -/
def isLatinNameChar (c : Char) : Bool := c.isAlphanum || c == '_'

/-- A character of names.  All beyond ASCII count. -/
def isNameChar (c : Char) : Bool := isLatinNameChar c || 0x80 ≤ c.toNat

/-- A decimal digit. -/
def isDigit (c : Char) : Bool := '0' ≤ c && c ≤ '9'

/-- A digit of numbers that are written in a way. -/
def Numbering.isDigit : Numbering → Char → Bool
  | hexadecimal, c => (Text.hexValue? c).isSome
  | octal, c => '0' ≤ c && c ≤ '7'
  | binary, c => c == '0' || c == '1'
  | _, c => Literal.isDigit c

/-- What follows digits; a digit has to come first if one is `needed`. -/
def afterDigits (numbering : Numbering) (needed : Bool) : List Char →
    Except TokenFault (List Char)
  | [] => if needed then .error (.invalidNumber numbering) else .ok []
  | c :: rest =>
    if numbering.isDigit c then afterDigits numbering false rest
    else if isDigit c then .error (.invalidDigit c numbering)
    else if needed then .error (.invalidNumber numbering)
    else if c = '_' then afterDigits numbering true rest
    else .ok (c :: rest)

/-- Whether a word follows that may stand behind a number without a blank. -/
def mayFollowNumber (rest : List Char) : Bool :=
  match rest with
  | 'i' :: c :: _ => c == 'f' || c == 'n' || c == 's'
  | _ => ["and", "else", "for", "not", "or"].contains (String.ofList (rest.takeWhile isNameChar))

/-- What follows a number that ends here. -/
def numberEnd (numbering : Numbering) (rest : List Char) : Except TokenFault (List Char) :=
  if rest.head?.any isLatinNameChar && !mayFollowNumber rest then .error (.invalidNumber numbering)
  else .ok rest

/-- What follows a number that may be imaginary. -/
def afterImaginary (rest : List Char) : Except TokenFault (List Char) :=
  match rest with
  | 'j' :: after | 'J' :: after => numberEnd .imaginary after
  | _ => numberEnd .decimal rest

/-- What follows a number that may have an exponent. -/
def afterExponent (rest : List Char) : Except TokenFault (List Char) :=
  match rest with
  | e :: sign :: after =>
    if e ≠ 'e' ∧ e ≠ 'E' then afterImaginary rest
    else if sign = '+' ∨ sign = '-' then afterDigits .decimal true after >>= afterImaginary
    else if isDigit sign then afterDigits .decimal false after >>= afterImaginary
    else numberEnd .decimal rest
  | _ => afterImaginary rest

/-- What follows a number that may have a point here. -/
def afterWhole (rest : List Char) : Except TokenFault (List Char) :=
  match rest with
  | '.' :: after =>
    if after.head?.any isDigit then afterDigits .decimal false after >>= afterExponent
    else afterExponent after
  | _ => afterExponent rest

/-- The way of writing numbers that a letter behind a zero chooses. -/
def numberingOf? (c : Char) : Option Numbering :=
  if c = 'x' ∨ c = 'X' then some .hexadecimal
  else if c = 'o' ∨ c = 'O' then some .octal
  else if c = 'b' ∨ c = 'B' then some .binary
  else none

/-- What follows a number behind its first digit, a zero.  More digits than zeros have to be part of
    a fraction, of a number with an exponent, or of an imaginary one. -/
def afterZero (rest : List Char) : Except TokenFault (List Char) := do
  let after ← afterDigits .decimal false rest
  let digits := rest.take (rest.length - after.length)
  if digits.any (fun c => c != '0' && c != '_') &&
      !after.head?.any (fun c => ['.', 'e', 'E', 'j', 'J'].contains c) then
    .error .leadingZeros
  else afterWhole after

/-- What follows the number that a text starts with. -/
def afterNumber (cs : List Char) : Except TokenFault (List Char) :=
  match cs with
  | '0' :: c :: rest =>
    match numberingOf? c with
    | some numbering => do
      let digits := if rest.head? = some '_' then rest.tail else rest
      numberEnd numbering (← afterDigits numbering true digits)
    | none => afterZero (c :: rest)
  | _ => afterDigits .decimal false cs >>= afterWhole

end IssueTracker.Literal
