import IssueTracker.Literal.Grammar

/-!
# Values of literals

A literal is an expression that stands for a value without any computing: a number with a sign or
none, a string, `True`, `False`, `None`, `...`, a complex number written as a sum, or a tuple, a set
or a dictionary of literals.  Members of sets and keys of dictionaries may not be changeable, nor
may they be tuples that hold something changeable.
-/

namespace IssueTracker.Literal

/-- A collection that can be changed. -/
inductive Changeable
  | set
  | dictionary
deriving Repr, DecidableEq

/-- The name of a collection. -/
def Changeable.name : Changeable → String
  | set => "set"
  | dictionary => "dict"

/-- A number, as far as sums need to know it. -/
inductive Magnitude
  | whole (n : Nat)
  | fractional
  | imaginary
deriving Repr, DecidableEq

/-- A value, as far as the collections and sums around it need to know it. -/
inductive Value
  | number (magnitude : Magnitude)
  /-- A string or another constant, or a tuple of such. -/
  | fixed
  /-- A changeable collection, or a tuple that holds it first. -/
  | changeable (collection : Changeable)
deriving Repr, DecidableEq

/-- Why an expression has no value as a literal. -/
inductive ValueFault
  | noLiteral
  /-- The entries of a dictionary are taken over from another. -/
  | unpacked
  /-- A member of a set or a key of a dictionary is changeable. -/
  | unhashable (collection : Changeable)
  /-- A whole number is too large to be the real part of a complex one. -/
  | tooLarge
deriving Repr, DecidableEq

/-- What is reported of an expression that has no value as a literal. -/
def ValueFault.message : ValueFault → String
  | noLiteral => "malformed node or string"
  | unpacked => "malformed node or string: None"
  | unhashable collection => "unhashable type: '" ++ collection.name ++ "'"
  | tooLarge => "int too large to convert to float"

/-- The number that digits to a base write. -/
def digitsValueIn (base : Nat) (digits : List Char) : Nat :=
  digits.foldl (fun value c => base * value + (Text.hexValue? c).getD 0) 0

/-- The base of a way to write numbers. -/
def Numbering.base : Numbering → Nat
  | hexadecimal => 16
  | octal => 8
  | binary => 2
  | _ => 10

/-- The number that a text writes. -/
def magnitudeOf (text : List Char) : Magnitude :=
  let digits := text.filter (· != '_')
  match digits with
  | '0' :: c :: rest =>
    match numberingOf? c with
    | some numbering => .whole (digitsValueIn numbering.base rest)
    | none => decimal digits
  | _ => decimal digits
where
  /-- The number that a text without underscores writes in decimal digits. -/
  decimal (digits : List Char) : Magnitude :=
    if digits.all isDigit then .whole (digitsValueIn 10 digits)
    else if digits.getLast?.any (fun c => c == 'j' || c == 'J') then .imaginary
    else .fractional

/-- The first whole number that has no floating-point number near it. -/
def firstTooLarge : Nat := Nat.pow 2 1024 - Nat.pow 2 970

/-- The value of a literal of one token. -/
def leafValue : Lexeme → Except ValueFault Value
  | .number text => .ok (.number (magnitudeOf text))
  | .name text => if ["True", "False", "None"].contains text then .ok .fixed else .error .noLiteral
  | .mark "..." => .ok .fixed
  | _ => .error .noLiteral

namespace Tree

/-- The number that an expression of one token is. -/
def number? : Tree → Option Magnitude
  | leaf ⟨.number text, _, _⟩ => some (magnitudeOf text)
  | _ => none

/-- The number that an expression is, perhaps with one sign. -/
def signedNumber? : Tree → Option Magnitude
  | node .signed [_, operand] => operand.number?
  | tree => tree.number?

/-- The value of the sum or difference of two expressions: a real and an imaginary number. -/
def sumValue (left right : Tree) : Except ValueFault Value :=
  match left.signedNumber?, right.number? with
  | some (.whole n), some .imaginary =>
    if firstTooLarge ≤ n then .error .tooLarge else .ok (.number .imaginary)
  | some .fractional, some .imaginary => .ok (.number .imaginary)
  | _, _ => .error .noLiteral

end Tree

/-- Refuses a value that may not be a member of a set or a key. -/
def Value.checkKey : Value → Except ValueFault Unit
  | changeable collection => .error (.unhashable collection)
  | _ => .ok ()

/-- The value of a tuple of values. -/
def Value.ofParts (parts : List Value) : Value :=
  (parts.find? fun part => part matches changeable _).getD fixed

mutual

/-- The value of an expression. -/
def Tree.value : Tree → Except ValueFault Value
  | .leaf token => leafValue token.lexeme
  | .node kind parts =>
    match kind, parts with
    | .strings, _ => .ok .fixed
    | .tuple, parts => (Tree.values parts).map Value.ofParts
    | .set, parts => (Tree.checkMembers parts).map fun _ => .changeable .set
    | .dictionary, parts => (Tree.checkEntries parts).map fun _ => .changeable .dictionary
    | .signed, parts =>
      match (Tree.node .signed parts).signedNumber? with
      | some magnitude => .ok (.number magnitude)
      | none => .error .noLiteral
    | .sum, [left, _, right] => left.sumValue right
    | .primary, [.leaf ⟨.name "set", _, _⟩, .node .call []] => .ok (.changeable .set)
    | _, _ => .error .noLiteral

/-- The values of expressions. -/
def Tree.values : List Tree → Except ValueFault (List Value)
  | [] => .ok []
  | part :: rest => do
    let value ← part.value
    return value :: (← Tree.values rest)

/-- Checks the members of a set one after another. -/
def Tree.checkMembers : List Tree → Except ValueFault Unit
  | [] => .ok ()
  | part :: rest => do
    (← part.value).checkKey
    Tree.checkMembers rest

/-- Checks the entries of a dictionary one after another. -/
def Tree.checkEntries : List Tree → Except ValueFault Unit
  | [] => .ok ()
  | .node .entry [key, value] :: rest => do
    let key ← key.value
    let _ ← value.value
    key.checkKey
    Tree.checkEntries rest
  | .node .unpacked _ :: _ => .error .unpacked
  | _ => .error .noLiteral

end

/-- Why a text is no literal. -/
inductive LiteralFault
  | nul
  | form (fault : FormFault)
  | value (fault : ValueFault)
deriving Repr, DecidableEq

/-- What is reported of a text that is no literal. -/
def LiteralFault.message : LiteralFault → String
  | nul => "source code string cannot contain null bytes"
  | form fault => fault.message
  | value fault => fault.message

/-- Whether a text is not even an expression. -/
def LiteralFault.isOfForm : LiteralFault → Bool
  | value _ => false
  | _ => true

/-- The value of the literal that a text is. -/
def valueOf (text : List Char) : Except LiteralFault Value := do
  let text := text.dropWhile fun c => c == ' ' || c == '\t'
  if text.contains '\x00' then .error .nul
  else
    let tree ← (expressionOf text).mapError .form
    tree.value.mapError .value

end IssueTracker.Literal
