import IssueTracker.Literal.Escape
import IssueTracker.Literal.Token

/-!
# Fields in strings

A string may have fields in braces: an expression, perhaps with an equals sign after it, a
conversion behind an exclamation mark, and a format behind a colon, which may have fields itself.
Braces that stand for themselves are doubled, but not in a format.
-/

namespace IssueTracker.Literal

/-- What is wrong with a field. -/
inductive FieldFault
  | lonelyBrace
  | deepFields
  | backslash
  | comment
  | deepBrackets
  | unmatched (bracket : Char)
  | mismatched (closing opening : Char)
  | unterminated
  | unclosed
  | empty
  /-- Nothing stands before the mark that ends an expression. -/
  | nothingBefore (mark : Char)
  | conversion
  | escape (fault : StringFault)
  /-- What is reported of the expression. -/
  | expression (message : String)
deriving Repr, DecidableEq

/-- What is reported of a field. -/
def FieldFault.message : FieldFault → String
  | lonelyBrace => "f-string: single '\x7d' is not allowed"
  | deepFields => "f-string: expressions nested too deeply"
  | backslash => "f-string expression part cannot include a backslash"
  | comment => "f-string expression part cannot include '#'"
  | deepBrackets => "f-string: too many nested parenthesis"
  | unmatched bracket => "f-string: unmatched '" ++ bracket.toString ++ "'"
  | mismatched closing opening =>
    "f-string: closing parenthesis '" ++ closing.toString ++
      "' does not match opening parenthesis '" ++ opening.toString ++ "'"
  | unterminated => "f-string: unterminated string"
  | unclosed => "f-string: expecting '\x7d'"
  | empty => "f-string: empty expression not allowed"
  | nothingBefore mark => "f-string: expression required before '" ++ mark.toString ++ "'"
  | conversion => "f-string: invalid conversion character: expected 's', 'r', or 'a'"
  | escape fault => fault.message
  | expression message => message

/-- Text up to a field, and what follows it. -/
structure FieldText where
  text : List Char
  rest : List Char
  /-- Whether the text ends with a doubled brace. -/
  doubled : Bool := false
deriving Repr, DecidableEq

/-- The text with a character in front. -/
def FieldText.withChar (c : Char) (t : FieldText) : FieldText := { t with text := c :: t.text }

/-- What the text up to a field is read after. -/
inductive TextMode
  | plain
  | backslash
  /-- A backslash and the letter of named characters. -/
  | letter
  /-- A part of the name of a character. -/
  | name
deriving Repr, DecidableEq

/-- The text up to the next field, or in a format up to its end. -/
def fieldText (raw inFormat : Bool) : TextMode → List Char → Except FieldFault FieldText
  | _, [] => .ok { text := [], rest := [] }
  | mode, c :: rest =>
    let go (mode : TextMode) : Except FieldFault FieldText :=
      (fieldText raw inFormat mode rest).map (·.withChar c)
    let isBrace := c == '{' || c == '}'
    if mode = .letter then go (if c = '{' then .name else .plain)
    else if mode = .name then go (if c = '}' then .plain else .name)
    else if mode = .backslash && !isBrace then go (if c = 'N' then .letter else .plain)
    else if !isBrace then go (if c = '\\' && !raw then .backslash else .plain)
    else if inFormat then .ok { text := [], rest := c :: rest }
    else if rest.head? = some c then .ok { text := [c], rest := rest.tail, doubled := true }
    else if c = '}' then .error .lonelyBrace
    else .ok { text := [], rest := c :: rest }

/-! ## Expressions -/

/-- A string within the expression of a field. -/
structure InnerString where
  quote : Char
  triple : Bool
deriving Repr, DecidableEq

/-- A place in the expression of a field. -/
structure FieldPlace where
  /-- The open string, if there is one. -/
  string : Option InnerString := none
  /-- The open brackets, the innermost first. -/
  opened : List Char := []
deriving Repr, DecidableEq

/-- The place after a character that is no part of a string. -/
def FieldPlace.afterBracket (place : FieldPlace) (c : Char) : Except FieldFault FieldPlace :=
  if (closingOf? c).isSome then
    if place.opened.length < deepestLevel then .ok { place with opened := c :: place.opened }
    else .error .deepBrackets
  else if isClosing c then
    match place.opened with
    | [] => .error (.unmatched c)
    | opening :: outer =>
      if closingOf? opening = some c then .ok { place with opened := outer }
      else .error (.mismatched c opening)
  else .ok place

/-- The characters that end the expression of a field. -/
def expressionEnds : List Char := ['!', ':', '}', '=']

/-- Whether two characters are a comparison, which ends no expression. -/
def isComparison (c next : Char) : Bool := next == '=' && ['!', '=', '<', '>'].contains c

/-- How many characters come next in the expression of a field and the place after them, or none
    where it ends. -/
def fieldStep? (place : FieldPlace) : List Char → Except FieldFault (Option (Nat × FieldPlace))
  | [] =>
    match place.string, place.opened with
    | some _, _ => .error .unterminated
    | none, opening :: _ => .error (.unmatched opening)
    | none, [] => .error .unclosed
  | c :: rest =>
    let tripled := rest.take 2 == [c, c]
    if c = '\\' then .error .backslash
    else match place.string with
      | some string =>
        if c ≠ string.quote || (string.triple && !tripled) then .ok (some (1, place))
        else .ok (some (if string.triple then 3 else 1, { place with string := none }))
      | none =>
        if isQuote c then
          .ok (some (if tripled then 3 else 1, { place with string := some ⟨c, tripled⟩ }))
        else if c = '#' then .error .comment
        else if place.opened.isEmpty && rest.head?.any (isComparison c) then .ok (some (2, place))
        else if place.opened.isEmpty && expressionEnds.contains c then .ok none
        else (place.afterBracket c).map fun place => some (1, place)

/-- The expression of a field and what follows it, if it has no more characters than the first
    argument says. -/
def fieldExpression : Nat → FieldPlace → List Char → Except FieldFault (List Char × List Char)
  | 0, _, _ => .error .unclosed
  | most + 1, place, cs => do
    match ← fieldStep? place cs with
    | none => return ([], cs)
    | some (count, place) =>
      let (text, rest) ← fieldExpression most place (cs.drop count)
      return (cs.take count ++ text, rest)

/-- A blank that an expression may consist of without being one. -/
def isFieldBlank (c : Char) : Bool := c == ' ' || c == '\t' || c == '\n' || c == '\x0c'

/-- A blank behind the equals sign of a field. -/
def isBlankAfterEquals (c : Char) : Bool := isFieldBlank c || c == '\r' || c == '\x0b'

/-- Checks the expression of a field, which a mark follows. -/
def checkExpression (fault? : List Char → Option String) (text : List Char) (mark : Option Char) :
    Except FieldFault Unit :=
  if text.all isFieldBlank then
    match mark with
    | some '}' | none => .error .empty
    | some mark => .error (.nothingBefore mark)
  else match fault? ('(' :: text ++ [')']) with
    | some message => .error (.expression message)
    | none => .ok ()

/-- What follows the equals sign and the conversion of a field. -/
def afterConversion (cs : List Char) : Except FieldFault (List Char) :=
  let cs := match cs with
    | '=' :: rest => rest.dropWhile isBlankAfterEquals
    | _ => cs
  match cs with
  | [] => .error .unclosed
  | '!' :: rest =>
    match rest with
    | [] => .error .unclosed
    | c :: rest => if ['s', 'r', 'a'].contains c then .ok rest else .error .conversion
  | _ => .ok cs

/-- What follows the fields of a string or, at a level above zero, of a format. -/
def afterFields (fault? : List Char → Option String) (raw : Bool) :
    Nat → Nat → List Char → Except FieldFault (List Char)
  | 0, _, cs => .ok cs
  | most + 1, level, cs => do
    let before ← fieldText raw (0 < level) .plain cs
    match if raw then none else codePointFault? 0 before.text with
    | some fault => .error (.escape fault)
    | none =>
      match before.doubled, before.rest with
      | true, rest => afterFields fault? raw most level rest
      | false, '{' :: inside =>
        if 2 ≤ level then .error .deepFields
        else do
          let (text, rest) ← fieldExpression (inside.length + 1) {} inside
          checkExpression fault? text rest.head?
          let rest ← match ← afterConversion rest with
            | ':' :: [] => .error .unclosed
            | ':' :: format => afterFields fault? raw most (level + 1) format
            | rest => .ok rest
          match rest with
          | '}' :: rest => afterFields fault? raw most level rest
          | _ => .error .unclosed
      | false, rest => return rest

/-- What is wrong with the fields of a string, in which the expressions are checked by `fault?`. -/
def fieldsFault? (fault? : List Char → Option String) (s : StringParts) : Option FieldFault :=
  match afterFields fault? s.isRaw (s.content.length + 1) 0 s.content with
  | .ok _ => none
  | .error fault => some fault

/-- What is wrong with strings one after another. -/
inductive StringsFault
  /-- With one of them by itself. -/
  | string (fault : StringFault)
  | field (fault : FieldFault)
  /-- Strings of bytes beside strings of characters. -/
  | mixed
deriving Repr, DecidableEq

/-- What is reported of strings that cannot be read. -/
def StringsFault.message : StringsFault → String
  | string fault => fault.message
  | field fault => fault.message
  | mixed => "cannot mix bytes and nonbytes literals"

/-- What is wrong with strings after others, which are of bytes or not if there are any. -/
def stringsFaultFrom? (fault? : List Char → Option String) (bytes : Option Bool) :
    List (List Char) → Option StringsFault
  | [] => none
  | text :: rest =>
    let s := StringParts.ofText text
    match s.fault? with
    | some fault => some (.string fault)
    | none =>
      if bytes.any (· != s.isBytes) then some .mixed
      else match if s.isPattern then fieldsFault? fault? s else none with
        | some fault => some (.field fault)
        | none => stringsFaultFrom? fault? (some s.isBytes) rest

/-- What is wrong with strings one after another, the expressions in which are checked by
    `fault?`. -/
def stringsFault? (fault? : List Char → Option String) (texts : List (List Char)) :
    Option StringsFault :=
  stringsFaultFrom? fault? none texts

end IssueTracker.Literal
