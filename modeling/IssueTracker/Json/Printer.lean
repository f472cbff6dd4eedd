import IssueTracker.Json.Basic

/-!
# Writing JSON

A value is written on one line without spaces, or over several, where members and elements stand on
lines of their own, indented by two spaces for each level.  Only the quote, the backslash, the
control characters below the space and halves of surrogate pairs are escaped.  A file is written
piece by piece, where halves are not escaped, so that writing ends at the first of them.
-/

namespace IssueTracker.Json

/-- A character between the quotes of a string. -/
def escapeChar (c : Char) : List Char :=
  if c = '"' then ['\\', '"']
  else if c = '\\' then ['\\', '\\']
  else if c = '\n' then ['\\', 'n']
  else if c = '\r' then ['\\', 'r']
  else if c = '\t' then ['\\', 't']
  else if c = '\x08' then ['\\', 'b']
  else if c = '\x0c' then ['\\', 'f']
  else if c.toNat < 0x20 then '\\' :: 'u' :: Text.hexDigits 4 c.toNat
  else [c]

/-- A part of a text between the quotes of a string. -/
def escapePoint : CodePoint → List Char
  | .char c => escapeChar c
  | .half h => h.escape

/-- A text with its quotes. -/
def quoted (t : AnyText) : List Char := '"' :: t.points.flatMap escapePoint ++ ['"']

/-- The spelling of numbers that are not finite. -/
def specialNames : SpecialNames := ⟨"Infinity", "NaN"⟩

/-- The line end before an item at a level. -/
def newLine (level : Nat) : List Char := '\n' :: List.replicate (2 * level) ' '

mutual

/-- The text of a value at a level. -/
def chars (level : Nat) : Json → List Char
  | null => "null".toList
  | bool value => (if value then "true" else "false").toList
  | integer value => (toString value).toList
  | float value => (floatText specialNames value).toList
  | string value => quoted value
  | array [] => ['[', ']']
  | array (element :: elements) =>
    '[' :: newLine (level + 1) ++ element.chars (level + 1) ++ moreElements (level + 1) elements ++
      newLine level ++ [']']
  | object [] => ['{', '}']
  | object ((name, value) :: members) =>
    '{' :: newLine (level + 1) ++ quoted name ++ ':' :: ' ' :: value.chars (level + 1) ++
      moreMembers (level + 1) members ++ newLine level ++ ['}']

/-- The elements after the first. -/
def moreElements (level : Nat) : List Json → List Char
  | [] => []
  | element :: elements =>
    ',' :: newLine level ++ element.chars level ++ moreElements level elements

/-- The members after the first. -/
def moreMembers (level : Nat) : List (AnyText × Json) → List Char
  | [] => []
  | (name, value) :: members =>
    ',' :: newLine level ++ quoted name ++ ':' :: ' ' :: value.chars level ++
      moreMembers level members

end

/-! ## In pieces -/

/-- A part of a text between the quotes of a string in which halves are kept. -/
def keepPoint : CodePoint → List CodePoint
  | .char c => (escapeChar c).map .char
  | .half h => [.half h]

/-- A text with its quotes in which halves are kept. -/
def quotedText (t : AnyText) : AnyText :=
  .ofPoints (.char '"' :: t.points.flatMap keepPoint ++ [.char '"'])

/-- The pieces of an element behind what separates it from the one before.  A text makes one piece
    with that. -/
def separated (separator : List Char) (element : Json) (pieces : List AnyText) : List AnyText :=
  match element, pieces with
  | string _, [piece] => [piece.behind separator]
  | _, pieces => .ofChars separator :: pieces

mutual

/-- The pieces that a value is written in at a level. -/
def pieces (level : Nat) : Json → List AnyText
  | string value => [quotedText value]
  | array (element :: elements) =>
    separated ('[' :: newLine (level + 1)) element (element.pieces (level + 1)) ++
      elementPieces (level + 1) elements ++ [.ofChars (newLine level), .ofChars [']']]
  | object ((name, value) :: members) =>
    .ofChars ['{'] :: .ofChars (newLine (level + 1)) :: quotedText name :: .ofChars [':', ' '] ::
      value.pieces (level + 1) ++ memberPieces (level + 1) members ++
      [.ofChars (newLine level), .ofChars ['}']]
  | value => [.ofChars (value.chars level)]

/-- The pieces of the elements after the first. -/
def elementPieces (level : Nat) : List Json → List AnyText
  | [] => []
  | element :: elements =>
    separated (',' :: newLine level) element (element.pieces level) ++ elementPieces level elements

/-- The pieces of the members after the first. -/
def memberPieces (level : Nat) : List (AnyText × Json) → List AnyText
  | [] => []
  | (name, value) :: members =>
    .ofChars (',' :: newLine level) :: quotedText name :: .ofChars [':', ' '] ::
      value.pieces level ++ memberPieces level members

end

/-- The text of a value in which halves are kept. -/
def text (value : Json) : AnyText := AnyText.join (value.pieces 0)

/-! ## On one line -/

mutual

/-- The text of a value on one line. -/
def lineChars : Json → List Char
  | array elements => '[' :: lineElements elements ++ [']']
  | object members => '{' :: lineMembers members ++ ['}']
  | value => value.chars 0

/-- The elements of an array on one line. -/
def lineElements : List Json → List Char
  | [] => []
  | [element] => element.lineChars
  | element :: elements => element.lineChars ++ ',' :: lineElements elements

/-- The members of an object on one line. -/
def lineMembers : List (AnyText × Json) → List Char
  | [] => []
  | [(name, value)] => quoted name ++ ':' :: value.lineChars
  | (name, value) :: members => quoted name ++ ':' :: value.lineChars ++ ',' :: lineMembers members

end

/-- The text of a value on one line. -/
def line (value : Json) : String := String.ofList value.lineChars

end IssueTracker.Json
