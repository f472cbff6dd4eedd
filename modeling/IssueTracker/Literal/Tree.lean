import IssueTracker.Literal.Token

/-!
# Expression trees

What an expression is made of.  Brackets around an expression and marks between its parts leave no
trace.
-/

namespace IssueTracker.Literal

/-- A kind of expression, or of a part of one. -/
inductive Kind
  /-- Strings one after another, which are one. -/
  | strings
  /-- Strings with fields for values. -/
  | pattern
  | tuple
  | set
  | dictionary
  /-- A key and a value of a dictionary. -/
  | entry
  /-- A dictionary whose entries are taken over. -/
  | unpacked
  | generator
  | setComprehension
  | dictionaryComprehension
  /-- What is looked up or called, with what is done to it. -/
  | primary
  | attribute
  | call
  | starred
  | function
  | conditional
  /-- An operation on values. -/
  | operation
  /-- A sum or difference, with its signs. -/
  | sum
  /-- A sign and what it is before. -/
  | signed
  | comparison
  | awaited
  | yielded
  | assignment
  /-- A named argument of a call. -/
  | keyword
  /-- Named arguments that are taken over from a dictionary. -/
  | keywords
deriving Repr, DecidableEq

/-- An expression, or a part of one. -/
inductive Tree
  | leaf (token : Token)
  | node (kind : Kind) (parts : List Tree)
deriving Repr

namespace Tree

/-- What a constant or a name is called in messages. -/
def leafDescription : Lexeme → String
  | .name text =>
    if text = "True" ∨ text = "False" ∨ text = "None" then text else "name"
  | .mark "..." => "ellipsis"
  | _ => "literal"

/-- What an expression is called in messages. -/
def description : Tree → String
  | leaf token => leafDescription token.lexeme
  | node kind parts =>
    match kind with
    | .strings => "literal"
    | .pattern => "f-string expression"
    | .tuple => "tuple"
    | .set => "set display"
    | .dictionary => "dict literal"
    | .generator => "generator expression"
    | .setComprehension => "set comprehension"
    | .dictionaryComprehension => "dict comprehension"
    | .primary =>
      match parts.getLast? with
      | some (node .attribute _) => "attribute"
      | _ => "function call"
    | .starred => "starred"
    | .function => "lambda"
    | .conditional => "conditional expression"
    | .comparison => "comparison"
    | .awaited => "await expression"
    | .yielded => "yield expression"
    | .assignment => "named expression"
    | _ => "expression"

/-- The name that an expression consists of. -/
def name? : Tree → Option String
  | leaf ⟨.name text, _, _⟩ => some text
  | _ => none

end Tree

end IssueTracker.Literal
