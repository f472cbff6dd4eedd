import IssueTracker.Literal.Form

/-!
# Refusals

The messages with which forms are refused.
-/

namespace IssueTracker.Literal.Refusal

/-- A fixed message. -/
def saying (message : String) : Refusal := fun _ _ => some message

/-- A message that tells what the first part is. -/
def about (before after : String) : Refusal := fun parts _ =>
  parts.head?.map fun part => before ++ part.description ++ after

/-- The names of statements that are functions now. -/
def formerStatements : List String := ["print", "exec"]

/-- Whether an expression is the name of such a statement. -/
def isFormerStatement (part : Tree) : Bool := part.name?.any formerStatements.contains

/-- Two expressions one after another, within brackets. -/
def missingComma : Refusal := fun parts level =>
  if parts.head?.any isFormerStatement || level = 0 then none
  else some "invalid syntax. Perhaps you forgot a comma?"

/-- A statement that is a function now. -/
def missingBrackets : Refusal := fun parts _ =>
  (parts.head?.bind Tree.name?).bind fun name =>
    if formerStatements.contains name then
      some ("Missing parentheses in call to '" ++ name ++ "'. Did you mean " ++ name ++ "(...)?")
    else none

/-- An equals sign where a comparison may be meant. -/
def meantComparison : Refusal :=
  saying "invalid syntax. Maybe you meant '==' or ':=' instead of '='?"

/-- A generator beside other arguments. -/
def bareGenerator : String := "Generator expression must be parenthesized"

/-- Whether a part is a named argument of a call. -/
def isKeyword : Tree → Bool
  | .node .keyword _ | .node .keywords _ => true
  | _ => false

/-- A generator after arguments, if more than one of them has no name. -/
def generatorAfter : Refusal := fun parts _ =>
  match parts with
  | .node .call arguments :: _ =>
    if (arguments.filter (!isKeyword ·)).length ≤ 1 then none else some bareGenerator
  | _ => none

/-- Whether named arguments are taken over from a dictionary. -/
def takesOver : Tree → Bool
  | .node .keywords _ => true
  | _ => false

/-- Arguments without a name after such with one. -/
def positionalAfter : Refusal := fun parts _ =>
  match parts with
  | .node .call arguments :: _ =>
    some ("positional argument follows keyword argument" ++
      (if arguments.any takesOver then " unpacking" else ""))
  | _ => none

/-- What of an expression nothing can be assigned to, looking `most` expressions deep. -/
def unassignable? : Nat → Tree → Option Tree
  | 0, _ => none
  | most + 1, part =>
    match part with
    | .node .tuple parts => parts.findSome? (unassignable? most)
    | .node .starred parts => (parts.head?).bind (unassignable? most)
    | .node .comparison (first :: .leaf ⟨.name "in", _, _⟩ :: _) => unassignable? most first
    | .node .comparison _ => none
    | .node .primary _ => if part.description = "attribute" then none else some part
    | .leaf _ => if part.description = "name" then none else some part
    | part => some part

/-- A target of assignments that is none. -/
def wrongTarget : Refusal := fun parts _ =>
  (parts.head?.bind (unassignable? 1000)).map fun part => "cannot assign to " ++ part.description

end IssueTracker.Literal.Refusal
