import IssueTracker.Json.Basic

/-!
# Reading JSON

The reader also accepts `NaN`, `Infinity` and `-Infinity`.  A text that is no JSON is rejected at
the first place where it cannot go on.  Arrays and objects are read only so far inside one another.
-/

namespace IssueTracker.Json

/-- Why a text cannot go on as JSON. -/
inductive Problem
  | byteOrderMark
  | expectedValue
  | expectedName
  | expectedColon
  | expectedComma
  | unterminatedString
  | controlCharacter
  | invalidEscape
  | invalidUnicodeEscape
  | extraData
deriving Repr, DecidableEq

/-- The explanation of a problem. -/
def Problem.reason : Problem → String
  | byteOrderMark => "Unexpected UTF-8 BOM (decode using utf-8-sig)"
  | expectedValue => "Expecting value"
  | expectedName => "Expecting property name enclosed in double quotes"
  | expectedColon => "Expecting ':' delimiter"
  | expectedComma => "Expecting ',' delimiter"
  | unterminatedString => "Unterminated string starting at"
  | controlCharacter => "Invalid control character at"
  | invalidEscape => "Invalid \\escape"
  | invalidUnicodeEscape => "Invalid \\uXXXX escape"
  | extraData => "Extra data"

/-- A value with others inside. -/
inductive Container
  | array
  | object
deriving Repr, DecidableEq

/-- What there is no room for inside so many calls. -/
inductive Overflow
  /-- Reading a container. -/
  | container (container : Container)
  | call
  /-- What is called. -/
  | body
deriving Repr, DecidableEq

/-- Where a reading stopped: the problem, and what was left of the text there. -/
inductive Stop
  | problem (problem : Problem) (rest : List Char)
  /-- A whole number of more digits than a numeral may have. -/
  | longNumber (numeral : Text.LongNumeral)
  /-- Too far inside containers. -/
  | tooDeep (overflow : Overflow)
deriving Repr, DecidableEq

/-- How many containers are read inside one another.  The reader and the calls that it is inside share
    what there is for calls inside one another, so this is known only where a text is read; but the
    answers of the program can always be read back. -/
class Nesting where
  limit : Nat
  enough : 4 ≤ limit

/-- What a thousand calls inside one another leave to a reader that is called first of all. -/
instance : Nesting := ⟨993, by decide⟩

/-- A value and the text after it, or where the reading stopped. -/
abbrev Step (α : Type) := Except Stop (α × List Char)

/-- A separator between tokens. -/
def isSpace (c : Char) : Bool := c == ' ' || c == '\t' || c == '\n' || c == '\r'

/-- A text without the separators at its start. -/
def skipSpace (cs : List Char) : List Char := cs.dropWhile isSpace

/-- The number of four hexadecimal digits that are not at the end of the text. -/
def hexUnit? : List Char → Option (Nat × List Char)
  | a :: b :: c :: d :: next :: rest => do
    let a ← Text.hexValue? a
    let b ← Text.hexValue? b
    let c ← Text.hexValue? c
    let d ← Text.hexValue? d
    some (((a * 16 + b) * 16 + c) * 16 + d, next :: rest)
  | _ => none

/-- The character that a letter stands for after a backslash. -/
def escaped? : Char → Option Char
  | '"' => some '"'
  | '\\' => some '\\'
  | '/' => some '/'
  | 'b' => some '\x08'
  | 'f' => some '\x0c'
  | 'n' => some '\n'
  | 'r' => some '\r'
  | 't' => some '\t'
  | _ => none

/-- The first unit of a character beyond the first plane. -/
def isHighUnit (n : Nat) : Bool := 0xD800 ≤ n && n ≤ 0xDBFF

/-- The second unit of a character beyond the first plane. -/
def isLowUnit (n : Nat) : Bool := 0xDC00 ≤ n && n ≤ 0xDFFF

/-- The part of a text that a `\u` escape writes whose digits begin the text; `rest` is the text from
    the `u`.  Two escapes that write the halves of a pair write one character. -/
def unicodeEscape (digits : List Char) (rest : List Char) : Step CodePoint :=
  match hexUnit? digits with
  | none => .error (.problem .invalidUnicodeEscape rest)
  | some (high, after) =>
    match isHighUnit high, after with
    | true, '\\' :: 'u' :: more =>
      if more.length < 5 then .ok (.ofNat high, after)
      else match hexUnit? more with
        | none => .error (.problem .invalidUnicodeEscape ('u' :: more))
        | some (low, later) =>
          if isLowUnit low then
            .ok (.ofNat (0x10000 + (high - 0xD800) * 1024 + (low - 0xDC00)), later)
          else .ok (.ofNat high, after)
    | _, _ => .ok (.ofNat high, after)

/-- Reads the rest of a string, after the parts in `acc`, last first.  `start` is the text from the
    opening quote. -/
def readString (start : List Char) : Nat → List CodePoint → List Char → Step AnyText
  | 0, _, _ => .error (.problem .unterminatedString start)
  | _ + 1, _, [] => .error (.problem .unterminatedString start)
  | fuel + 1, acc, c :: rest =>
    if c = '"' then .ok (.ofPoints acc.reverse, rest)
    else if c = '\\' then
      match rest with
      | [] => .error (.problem .unterminatedString start)
      | 'u' :: digits =>
        match unicodeEscape digits rest with
        | .error stop => .error stop
        | .ok (point, rest) => readString start fuel (point :: acc) rest
      | letter :: rest' =>
        match escaped? letter with
        | none => .error (.problem .invalidEscape (c :: rest))
        | some c => readString start fuel (.char c :: acc) rest'
    else if c.toNat < 0x20 then .error (.problem .controlCharacter (c :: rest))
    else readString start fuel (.char c :: acc) rest

/-- Reads a string whose opening quote begins the text. -/
def stringFrom (cs : List Char) : Step AnyText := readString cs cs.length [] cs.tail

/-- An ASCII digit. -/
def isDigit (c : Char) : Bool := '0' ≤ c && c ≤ '9'

/-- The digits of the whole part of a number, and the rest.  A zero stands alone. -/
def wholePart? : List Char → Option (List Char × List Char)
  | [] => none
  | '0' :: rest => some (['0'], rest)
  | c :: rest =>
    if isDigit c then some (c :: rest.takeWhile isDigit, rest.dropWhile isDigit) else none

/-- The digits of a fraction, and the rest; there is none without a digit after the point. -/
def fractionPart : List Char → List Char × List Char
  | '.' :: c :: rest =>
    if isDigit c then (c :: rest.takeWhile isDigit, rest.dropWhile isDigit)
    else ([], '.' :: c :: rest)
  | cs => ([], cs)

/-- The exponent of a number, and the rest; there is none without a digit after the mark. -/
def exponentPart (cs : List Char) : Option Int × List Char :=
  match cs with
  | mark :: rest =>
    if mark = 'e' ∨ mark = 'E' then
      let (sign, digits) : Int × List Char := match rest with
        | '-' :: more => (-1, more)
        | '+' :: more => (1, more)
        | more => (1, more)
      if digits.head?.any isDigit then
        (some (sign * Text.digitsValue (digits.takeWhile isDigit)), digits.dropWhile isDigit)
      else (none, cs)
    else (none, cs)
  | [] => (none, cs)

/-- Reads a number. -/
def readNumber (cs : List Char) : Step Json :=
  let negative := cs.head? = some '-'
  match wholePart? (if negative then cs.tail else cs) with
  | none => .error (.problem .expectedValue cs)
  | some (whole, rest) =>
    let (fraction, rest) := fractionPart rest
    let (exponent, rest) := exponentPart rest
    if fraction.isEmpty ∧ exponent.isNone then
      match Text.readNumeral whole with
      | .error numeral => .error (.longNumber numeral)
      | .ok n => .ok (.integer (if negative then -n else n), rest)
    else
      .ok (.float (.ofDecimal negative (Text.digitsValue (whole ++ fraction))
        (exponent.getD 0 - fraction.length)), rest)

/-- The words that stand for values. -/
def words : List (String × Json) :=
  [("null", .null), ("true", .bool true), ("false", .bool false), ("NaN", .float .nan),
   ("Infinity", .float (.infinity false)), ("-Infinity", .float (.infinity true))]

/-- The value of the word that begins a text, and the rest. -/
def word? (cs : List Char) : Option (Json × List Char) :=
  (words.find? (·.1.toList.isPrefixOf cs)).map fun (word, value) => (value, cs.drop word.length)

/-- What becomes of a stop in a container with room for so many more.  To report a problem takes three
    calls inside one another.  That a value is missing is reported when the containers are left. -/
def Stop.inside (room : Nat) : Stop → Stop
  | problem .expectedValue rest => problem .expectedValue rest
  | problem p rest =>
    match room with
    | 0 => tooDeep .call
    | 1 => tooDeep .body
    | 2 => tooDeep .call
    | _ => problem p rest
  | stop => stop

/-- What is read in a container, if there is room to enter one. -/
def enter (container : Container) (room : Nat) (inside : Nat → Step Json) : Step Json :=
  match room with
  | 0 => .error (.tooDeep (.container container))
  | room + 1 => (inside room).mapError (Stop.inside room)

mutual

/-- Reads a value; `room` is how many containers may still be entered. -/
def readValue : Nat → Nat → List Char → Step Json
  | 0, _, cs => .error (.problem .expectedValue cs)
  | fuel + 1, room, cs =>
    match cs with
    | '"' :: _ => (stringFrom cs).map fun (s, rest) => (.string s, rest)
    | '{' :: rest => enter .object room fun room =>
      match skipSpace rest with
      | '}' :: rest => .ok (.object [], rest)
      | rest =>
        (readMembers fuel room rest).map fun (members, rest) => (.object (lastValues members), rest)
    | '[' :: rest => enter .array room fun room =>
      match skipSpace rest with
      | ']' :: rest => .ok (.array [], rest)
      | rest => (readElements fuel room rest).map fun (elements, rest) => (.array elements, rest)
    | cs =>
      match word? cs with
      | some (value, rest) => .ok (value, rest)
      | none => readNumber cs

/-- Reads the elements of an array from one on, and its closing bracket. -/
def readElements : Nat → Nat → List Char → Step (List Json)
  | 0, _, cs => .error (.problem .expectedValue cs)
  | fuel + 1, room, cs =>
    match readValue fuel room cs with
    | .error stop => .error stop
    | .ok (element, rest) =>
      match skipSpace rest with
      | ']' :: rest => .ok ([element], rest)
      | ',' :: rest =>
        (readElements fuel room (skipSpace rest)).map fun (elements, rest) =>
          (element :: elements, rest)
      | rest => .error (.problem .expectedComma rest)

/-- Reads the members of an object from one on, and its closing brace. -/
def readMembers : Nat → Nat → List Char → Step (List (AnyText × Json))
  | 0, _, cs => .error (.problem .expectedName cs)
  | fuel + 1, room, cs =>
    match cs with
    | '"' :: _ =>
      match stringFrom cs with
      | .error stop => .error stop
      | .ok (name, rest) =>
        match skipSpace rest with
        | ':' :: rest =>
          match readValue fuel room (skipSpace rest) with
          | .error stop => .error stop
          | .ok (value, rest) =>
            match skipSpace rest with
            | '}' :: rest => .ok ([(name, value)], rest)
            | ',' :: rest =>
              (readMembers fuel room (skipSpace rest)).map fun (members, rest) =>
                ((name, value) :: members, rest)
            | rest => .error (.problem .expectedComma rest)
        | rest => .error (.problem .expectedColon rest)
    | cs => .error (.problem .expectedName cs)

end

/-- A place in a text: the number of characters before it, the line and the column. -/
structure Place where
  offset : Nat
  line : Nat
  column : Nat
deriving Repr, DecidableEq

/-- The place at which the rest of a text begins. -/
def Place.ofRest (text rest : List Char) : Place :=
  let before := text.take (text.length - rest.length)
  { offset := before.length
    line := before.count '\n' + 1
    column := (before.reverse.takeWhile (· != '\n')).length + 1 }

/-- Why a text is not read. -/
inductive ReadError
  | syntaxError (problem : Problem) (place : Place)
  | longNumber (numeral : Text.LongNumeral)
  | tooDeep (overflow : Overflow)
deriving Repr, DecidableEq

/-- What is reported of a text that is no JSON. -/
def syntaxMessage (problem : Problem) (place : Place) : String :=
  problem.reason ++
    s!": line {place.line} column {place.column} (char {place.offset})"

/-- What is reported of a text whose containers are too far inside one another. -/
def depthMessage (overflow : Overflow) : String :=
  "maximum recursion depth exceeded" ++
    match overflow with
    | .container .array => " while decoding a JSON array from a unicode string"
    | .container .object => " while decoding a JSON object from a unicode string"
    | .call => " while calling a Python object"
    | .body => ""

/-- The value that a whole text writes. -/
def read [Nesting] (text : List Char) : Except ReadError Json :=
  let located : Stop → ReadError
    | .problem problem rest => .syntaxError problem (Place.ofRest text rest)
    | .longNumber numeral => .longNumber numeral
    | .tooDeep overflow => .tooDeep overflow
  if text.head? = some '\uFEFF' then .error (located (.problem .byteOrderMark text))
  else match readValue (2 * text.length + 1) Nesting.limit (skipSpace text) with
    | .error stop => .error (located stop)
    | .ok (value, rest) =>
      match skipSpace rest with
      | [] => .ok value
      | rest => .error (located (.problem .extraData rest))

end IssueTracker.Json
