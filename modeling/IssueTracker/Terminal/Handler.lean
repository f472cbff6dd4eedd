import IssueTracker.Literal.Value
import IssueTracker.Text.Blank
import IssueTracker.Text.Quoted
import IssueTracker.Text.Word

/-!
# Handlers

A tag whose name starts with `@` names a handler for what happens to its text, such as
`[@click=open(1)]`.  What follows the equals sign is a literal, or the name of a function with a
tuple for its arguments.
-/

namespace IssueTracker.Terminal

/-- A character of the name of a handler's function. -/
def isHandlerNameChar (c : Char) : Bool := Text.isWordChar c || c == '.'

/-- The literal in what follows the equals sign: the arguments in brackets behind a name, no
    arguments behind a name alone, and all of any other text. -/
def handlerLiteral (parameters : List Char) : List Char :=
  let text := Text.trim parameters
  let arguments := text.dropWhile isHandlerNameChar
  if arguments.isEmpty then ['(', ')']
  else if arguments.head? = some '(' ∧ arguments.getLast? = some ')' ∧ '\n' ∉ arguments then
    arguments
  else text

/-- Parameters of a handler that cannot be read. -/
structure HandlerFault where
  parameters : List Char
  fault : Literal.LiteralFault
deriving Repr, DecidableEq

/-- What is reported of parameters that cannot be read. -/
def HandlerFault.message (e : HandlerFault) : String :=
  let shown (cs : List Char) : String := String.ofList (Text.literalChars cs)
  let place :=
    if e.fault.isOfForm then shown (handlerLiteral e.parameters) ++ " in " ++ shown e.parameters
    else shown e.parameters
  "error parsing " ++ place ++ "; " ++ e.fault.message

/-- Checks what follows the equals sign of a handler; nothing need follow it. -/
def checkHandler (parameters : List Char) : Except HandlerFault Unit :=
  if parameters.isEmpty then .ok ()
  else
    match Literal.valueOf (handlerLiteral parameters) with
    | .ok _ => .ok ()
    | .error fault => .error { parameters, fault }

end IssueTracker.Terminal
