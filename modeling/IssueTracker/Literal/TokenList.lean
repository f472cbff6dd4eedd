import IssueTracker.Literal.Escape
import IssueTracker.Literal.Number
import IssueTracker.Text.Utf8
import IssueTracker.Text.Word

/-!
# The tokens of a text

Blanks and comments separate tokens.  The end of a line is a token unless a bracket is open or the
line is empty.
-/

namespace IssueTracker.Literal

/-- How the tokens of a text end. -/
inductive Ending
  | complete
  /-- With a fault that comes before all faults of form. -/
  | fault (fault : TokenFault)
  /-- With a fault that counts for who reads as far. -/
  | early (fault : EndFault)
deriving Repr, DecidableEq

/-- The tokens of a text. -/
structure TokenList where
  tokens : List Token := []
  ending : Ending
  /-- The innermost bracket that is open at the end, and its line. -/
  opened : Option (Char × Nat)
  /-- Whether the end of the text is seen along with the last token. -/
  showsEnd : Bool := false
deriving Repr, DecidableEq

/-- Whether it takes the character after a token to know that it ends. -/
def Lexeme.isOpenEnded : Lexeme → Bool
  | string _ | mark "..." => false
  | _ => true

/-- The tokens after one more in front. -/
def TokenList.withToken (token : Token) (ts : TokenList) : TokenList :=
  { ts with tokens := token :: ts.tokens }

/-- What follows a string of which `found` closing quotes in a row were read last. -/
def afterString (quote : Char) (triple : Bool) (line found : Nat) :
    List Char → Except TokenFault (List Char)
  | [] => .error (.unterminated triple line)
  | ['\\'] => .error (.unterminated triple line)
  | '\\' :: c :: rest => afterString quote triple (if c = '\n' then line + 1 else line) 0 rest
  | c :: rest =>
    if c = quote then
      if !triple || found = 2 then .ok rest else afterString quote triple line (found + 1) rest
    else if c ≠ '\n' then afterString quote triple line 0 rest
    else if triple then afterString quote triple (line + 1) 0 rest
    else .error (.unterminated triple line)

/-- What follows the string that a text starts with, which is on a line. -/
def afterQuoted (line : Nat) : List Char → Except TokenFault (List Char)
  | [] => .ok []
  | quote :: rest =>
    match rest with
    | a :: b :: inside =>
      if a = quote ∧ b = quote then afterString quote true line 0 inside
      else afterString quote false line 0 rest
    | _ => afterString quote false line 0 rest

/-- The letters that may stand before a string. -/
def stringLetters : List String := ["b", "u", "r", "f", "br", "rb", "fr", "rf"]

/-- The marks of more than one character, the longer ones first. -/
def longMarks : List String :=
  ["...", "**=", "//=", "<<=", ">>=", "!=", "%=", "&=", "**", "*=", "+=", "-=", "->", "//", "/=",
   ":=", "<<", "<=", "<>", "==", ">=", ">>", "@=", "^=", "|="]

/-- The mark that a text starts with. -/
def markOf (cs : List Char) : String :=
  (longMarks.find? fun mark => mark.toList.isPrefixOf cs).getD (String.ofList (cs.take 1))

/-- A place between tokens. -/
structure TokenPlace where
  line : Nat := 1
  /-- The brackets that are open and their lines, the innermost first. -/
  opened : List (Char × Nat) := []
  /-- Whether no token of the line was read yet. -/
  fresh : Bool := true
  /-- Whether the line was indented before a backslash. -/
  indented : Bool := false
deriving Repr, DecidableEq

/-- The open brackets after a mark. -/
def TokenPlace.afterMark (place : TokenPlace) (mark : String) :
    Except TokenFault (List (Char × Nat)) :=
  match mark.toList with
  | [c] =>
    if (closingOf? c).isSome then
      if place.opened.length < deepestLevel then .ok ((c, place.line) :: place.opened)
      else .error .deepBrackets
    else if isClosing c then
      match place.opened with
      | [] => .error (.unmatched c)
      | (opening, line) :: outer =>
        if closingOf? opening = some c then .ok outer
        else .error (.mismatched c opening (if line = place.line then none else some line))
    else if Text.isPrintable c then .ok place.opened
    else .error (.invalidCharacter c)
  | _ => .ok place.opened

/-- The token that a text starts with, what follows it, and the brackets that are open then. -/
def tokenAt (place : TokenPlace) (cs : List Char) :
    Except TokenFault (Lexeme × List Char × List (Char × Nat)) := do
  let word := cs.takeWhile isNameChar
  let afterWord := cs.drop word.length
  let consumed (rest : List Char) : List Char := cs.take (cs.length - rest.length)
  let isNumber := match cs with
    | '.' :: c :: _ => isDigit c
    | c :: _ => isDigit c
    | [] => false
  if isNumber then
    let rest ← afterNumber cs
    return (.number (consumed rest), rest, place.opened)
  else if afterWord.head?.any isQuote &&
      (word.isEmpty || stringLetters.contains (String.ofList (word.map Char.toLower))) then
    let rest ← afterQuoted place.line afterWord
    return (.string (consumed rest), rest, place.opened)
  else if word.isEmpty then
    let mark := markOf cs
    return (.mark mark, cs.drop mark.length, ← place.afterMark mark)
  else match Text.outsideIdentifier? word with
    | some c => .error (.invalidCharacter c)
    | none => return (.name (String.ofList word), afterWord, place.opened)

/-- A blank between tokens. -/
def isSpace (c : Char) : Bool := c == ' ' || c == '\t' || c == '\x0c'

/-- Whether a line starts with blanks, of which those before a form feed do not count. -/
def isIndented (cs : List Char) : Bool := (cs.takeWhile isSpace).getLast?.any (· != '\x0c')

/-- The tokens of a text at a place, at most as many as the first argument says. -/
def tokensFrom : Nat → TokenPlace → List Char → TokenList
  | 0, place, _ => { ending := .complete, opened := place.opened.head? }
  | most + 1, place, cs =>
    let stop (ending : Ending) : TokenList := { ending, opened := place.opened.head? }
    let token (lexeme : Lexeme) (opened : List (Char × Nat)) : Token :=
      ⟨lexeme, place.line, opened.length⟩
    match cs.dropWhile isSpace with
    | [] =>
      match place.opened with
      | [] => (stop .complete).withToken (token .finish [])
      | (bracket, _) :: _ => stop (.early (.neverClosed bracket))
    | '#' :: comment => tokensFrom most place (comment.dropWhile (· != '\n'))
    | '\n' :: rest =>
      let next := tokensFrom most { line := place.line + 1, opened := place.opened } rest
      if place.fresh || !place.opened.isEmpty then next
      else next.withToken (token .lineEnd [])
    | ['\\', '\n'] =>
      match place.opened with
      | [] => stop (.early .unexpectedEnd)
      | (bracket, _) :: _ => stop (.early (.neverClosed bracket))
    | '\\' :: '\n' :: rest =>
      let indented := place.indented || isIndented cs
      tokensFrom most { place with line := place.line + 1, indented } rest
    | '\\' :: _ => stop (.early .afterBackslash)
    | text =>
      let found := match tokenAt place text with
        | .error fault => stop (.fault fault)
        | .ok (lexeme, rest, opened) =>
          let lines := ((text.take (text.length - rest.length)).filter (· == '\n')).length
          let next := tokensFrom most { line := place.line + lines, opened, fresh := false } rest
          let showsEnd := next.showsEnd || (rest.isEmpty && lexeme.isOpenEnded)
          { next with showsEnd }.withToken (token lexeme opened)
      if place.fresh && place.opened.isEmpty && (place.indented || isIndented cs) then
        found.withToken (token .indentation [])
      else found

/-- The tokens of a text. -/
def tokensOf (cs : List Char) : TokenList :=
  let text := Text.unifyLineEnds cs
  tokensFrom (text.length + 1) {} text

end IssueTracker.Literal
