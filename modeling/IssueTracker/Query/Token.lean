import IssueTracker.Text.Blank
import IssueTracker.Query.Basic

/-!
# The tokens of a query

Blanks separate tokens, except between two double quotes.  A quote that no other quote follows is
itself a separator.  What a token stands for shows in the token alone.
-/

namespace IssueTracker

/-- A token, as it was typed. -/
abbrev Token := List Char

/-- The finished word before the tokens that follow; its characters are collected last first. -/
def consWord (word : List Char) (tokens : List Token) : List Token :=
  if word.isEmpty then tokens else word.reverse :: tokens

/-- The tokens of a text of which a word, last character first, has been read, up to a place inside
    or outside of quotes. -/
def tokensFrom (quoted : Bool) (word : List Char) : List Char → List Token
  | [] => consWord word []
  | c :: rest =>
    if c = '"' then
      if quoted then tokensFrom false (c :: word) rest
      else if rest.contains '"' then tokensFrom true (c :: word) rest
      else consWord word (tokensFrom false [] rest)
    else if !quoted && Text.isBlank c then consWord word (tokensFrom false [] rest)
    else tokensFrom quoted (c :: word) rest

/-- The tokens of a query. -/
def tokenize (raw : List Char) : List Token := tokensFrom false [] raw

/-- A text without its double quotes. -/
def unquote (cs : List Char) : List Char := cs.filter (· != '"')

/-- What a token stands for. -/
inductive Lexeme
  | not
  | connective (connective : Connective)
  | filter (field : FilterField) (value : List Char)
  | date (field : DateField) (value : List Char)
  | sort (value : List Char)
  | limit (value : List Char)
  /-- A name before a colon that is no field. -/
  | unknown (name : List Char)
  | text (value : List Char)
deriving DecidableEq

/-- A letter of a field name. -/
def isNameChar (c : Char) : Bool := c.isAlpha || c == '_'

/-- The name and the value of a token of the form `name:value`. -/
def splitField? (token : Token) : Option (List Char × List Char) :=
  match token.takeWhile isNameChar, token.dropWhile isNameChar with
  | [], _ => none
  | name, ':' :: value => some (name, value)
  | _, _ => none

/-- The meaning of a `name:value` token, its value without quotes.  Names are read in any case, and
    `label` stands for `labels`. -/
def fieldLexeme (name value : List Char) : Lexeme :=
  let key := String.ofList (name.map Char.toLower)
  let key := if key = "label" then "labels" else key
  if key = "sort" then .sort (unquote value)
  else if key = "limit" then .limit (unquote value)
  else match FilterField.all.find? (·.name == key) with
    | some field => .filter field (unquote value)
    | none => match DateField.all.find? (·.name == key) with
      | some field => .date field (unquote value)
      | none => .unknown name

/-- What a token stands for.  A token that starts with a quote is text. -/
def Lexeme.ofToken (token : Token) : Lexeme :=
  let word := token.map Char.toUpper
  if word = "NOT".toList then .not
  else if word = "AND".toList then .connective .and
  else if word = "OR".toList then .connective .or
  else if token.head? == some '"' then .text (Text.trim (unquote token))
  else match splitField? token with
    | some (name, value) => fieldLexeme name value
    | none => .text (Text.trim (unquote token))

end IssueTracker
