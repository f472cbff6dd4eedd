import IssueTracker.Literal.Field
import IssueTracker.Literal.TokenList
import IssueTracker.Literal.Tree

/-!
# Forms

A form says how tokens may follow one another.  Of two alternatives the first that matches is taken.
Some forms are refused with a message; most of these are looked for only when a text is known to
have no form, to say why.  What was found for a form at a place is remembered, so that it is not
looked for again.
-/

namespace IssueTracker.Literal

/-- The message with which a form is refused, from the parts that match it and the number of
    brackets that are open after it.  Without a message nothing else is tried in its place. -/
abbrev Refusal := List Tree → Nat → Option String

/-- A form of tokens, with rules of their own named by `ρ`. -/
inductive Form (ρ : Type)
  /-- No token at all. -/
  | nothing
  /-- A mark that leaves no trace. -/
  | mark (text : String)
  /-- A mark that is a part of the tree. -/
  | sign (text : String)
  /-- A reserved word that leaves no trace. -/
  | word (text : String)
  /-- A reserved word that is a constant. -/
  | constant (text : String)
  | name
  /-- A name that is a reserved word in some places. -/
  | softWord
  | number
  /-- A string, of which more may follow. -/
  | string
  /-- Strings one after another. -/
  | strings
  | lineEnd
  | finish
  | rule (rule : ρ)
  | both (first second : Form ρ)
  | either (first second : Form ρ)
  /-- A form any number of times. -/
  | many (form : Form ρ)
  /-- A form that would match, though nothing is taken. -/
  | ahead (form : Form ρ)
  /-- A form that would not match. -/
  | notAhead (form : Form ρ)
  /-- A form that has to match if the alternative is taken. -/
  | surely (form : Form ρ)
  /-- A form that is looked for only to say what is wrong. -/
  | diagnosis (form : Form ρ)
  /-- A form in which nothing is looked for only to say what is wrong. -/
  | plainly (form : Form ρ)
  /-- A form whose parts are one. -/
  | node (kind : Kind) (form : Form ρ)
  /-- A form whose parts are one if they are several. -/
  | joined (kind : Kind) (form : Form ρ)
  | refused (refusal : Refusal) (form : Form ρ)

namespace Form

variable {ρ : Type}

/-- Forms one after another. -/
def all (forms : List (Form ρ)) : Form ρ :=
  match forms with
  | [] => nothing
  | [form] => form
  | form :: rest => both form (all rest)

/-- The first of several forms that matches; of none, what matches nowhere. -/
def any (forms : List (Form ρ)) : Form ρ :=
  match forms with
  | [] => notAhead nothing
  | [form] => form
  | form :: rest => either form (any rest)

/-- A form, or nothing. -/
def optional (form : Form ρ) : Form ρ := either form nothing

/-- A form once or more often. -/
def several (form : Form ρ) : Form ρ := both form (many form)

/-- A form once or more often, with a mark between. -/
def separated (mark : String) (form : Form ρ) : Form ρ :=
  both form (many (both (.mark mark) form))

end Form

/-- What is wrong with the form of a text. -/
inductive FormFault
  | token (fault : TokenFault)
  | early (fault : EndFault)
  | strings (fault : StringsFault)
  | longNumber (numeral : Text.LongNumeral)
  | refused (message : String)
  | indented
  | other
deriving Repr, DecidableEq

/-- What is reported of a text that has no form. -/
def FormFault.message : FormFault → String
  | token fault => fault.message
  | early fault => fault.message
  | strings fault => fault.message
  | longNumber numeral =>
    numeral.message ++
      " - Consider hexadecimal for huge integer literals to avoid decimal conversion limits."
  | refused message => message
  | indented => "unexpected indent"
  | other => "invalid syntax"

/-- What became of looking for a form. -/
inductive Outcome
  /-- It matches up to a place. -/
  | matched (next : Nat) (parts : List Tree)
  | failed
  /-- It does not match, and the rule that it is part of has no other alternative. -/
  | given
deriving Repr

/-- What is remembered while forms are looked for. -/
structure Memory (ρ : Type) where
  /-- How many tokens were looked at. -/
  seen : Nat := 0
  /-- What was found for rules, by place. -/
  found : Array (List (ρ × Outcome))

/-- Looking for a form. -/
abbrev Search (ρ α : Type) : Type := ExceptT FormFault (StateM (Memory ρ)) α

/-- A grammar: the forms of its rules, and which of them are remembered. -/
structure Grammar (ρ : Type) where
  form : ρ → Form ρ
  isRemembered : ρ → Bool

namespace Grammar

variable {ρ : Type} [BEq ρ]

/-- The words that no name is. -/
def reservedWords : List String :=
  ["False", "None", "True", "and", "as", "assert", "async", "await", "break", "class", "continue",
   "def", "del", "elif", "else", "except", "finally", "for", "from", "global", "if", "import", "in",
   "is", "lambda", "nonlocal", "not", "or", "pass", "raise", "return", "try", "while", "with",
   "yield"]

/-- The names that are reserved words in some places. -/
def softWords : List String := ["_", "case", "match"]

/-- The token at a place. -/
def tokenAt (ts : TokenList) (tokens : Array Token) (place : Nat) : Search ρ Token := do
  match tokens[place]? with
  | some token =>
    modify fun m => { m with seen := max m.seen (place + 1) }
    return token
  | none =>
    match ts.ending with
    | .fault fault => throw (.token fault)
    | .early fault => throw (.early fault)
    | .complete => throw .other

/-- The number of digits of a whole decimal number, if a text is one. -/
def wholeDigits? (text : List Char) : Option Nat :=
  let digits := text.filter (· != '_')
  if digits.all isDigit then some digits.length else none

/-- What a token matches of a form that takes one token at most. -/
def oneToken? (form : Form ρ) (token : Token) : Option (List Tree) :=
  let taken (holds : Bool) (parts : List Tree) : Option (List Tree) :=
    if holds then some parts else none
  match form, token.lexeme with
  | .mark text, .mark mark => taken (mark = text) []
  | .sign text, .mark mark => taken (mark = text) [.leaf token]
  | .word text, .name name => taken (name = text) []
  | .constant text, .name name => taken (name = text) [.leaf token]
  | .name, .name name => taken (!reservedWords.contains name) [.leaf token]
  | .softWord, .name name => taken (softWords.contains name) [.leaf token]
  | .number, .number _ | .string, .string _ => some [.leaf token]
  | .lineEnd, .lineEnd | .finish, .finish => some []
  | _, _ => none

/-- The texts of the strings at a place, as many as there are. -/
def stringsAt (ts : TokenList) (tokens : Array Token) : Nat → Nat → Search ρ (List (List Char))
  | 0, _ => return []
  | most + 1, place => do
    match (← tokenAt ts tokens place).lexeme with
    | .string text => return text :: (← stringsAt ts tokens most (place + 1))
    | _ => return []

/-- What strings one after another are: one string, or one with fields if one of them may have
    some. -/
def stringsKind (texts : List (List Char)) : Kind :=
  if texts.any fun text => (StringParts.ofText text).isPattern then .pattern else .strings

/-- Looks for a form at a place, `most` forms deep.  The fields of strings are checked by
    `fault?`. -/
def find (g : Grammar ρ) (fault? : List Char → Option String) (ts : TokenList)
    (tokens : Array Token) :
    Nat → Bool → Nat → Form ρ → Search ρ Outcome
  | 0, _, _, _ => return .failed
  | most + 1, diagnosing, place, form => do
    let look (place : Nat) (form : Form ρ) : Search ρ Outcome :=
      g.find fault? ts tokens most diagnosing place form
    match form with
    | .nothing => return .matched place []
    | .both first second =>
      match ← look place first with
      | .matched next parts =>
        match ← look next second with
        | .matched next more => return .matched next (parts ++ more)
        | other => return other
      | other => return other
    | .either first second =>
      match ← look place first with
      | .failed => look place second
      | other => return other
    | .many form =>
      match ← look place form with
      | .matched next parts =>
        if next = place then return .matched next parts
        else match ← look next (.many form) with
          | .matched next more => return .matched next (parts ++ more)
          | _ => return .matched next parts
      | _ => return .matched place []
    | .ahead form =>
      match ← look place form with
      | .matched .. => return .matched place []
      | _ => return .failed
    | .notAhead form =>
      match ← look place form with
      | .matched .. => return .failed
      | _ => return .matched place []
    | .surely form =>
      match ← look place form with
      | .failed => return .given
      | other => return other
    | .diagnosis form => if diagnosing then look place form else return .failed
    | .plainly form => g.find fault? ts tokens most false place form
    | .node kind form =>
      match ← look place form with
      | .matched next parts => return .matched next [.node kind parts]
      | other => return other
    | .joined kind form =>
      match ← look place form with
      | .matched next [part] => return .matched next [part]
      | .matched next parts => return .matched next [.node kind parts]
      | other => return other
    | .refused refusal form =>
      match ← look place form with
      | .matched next parts =>
        let level := (tokens[next - 1]?.map Token.level).getD 0
        match refusal parts level with
        | some message => throw (.refused message)
        | none => return .given
      | other => return other
    | .rule rule =>
      let memory ← get
      let known := if g.isRemembered rule
        then (memory.found[place]?.getD []).lookup rule else none
      match known with
      | some outcome => return outcome
      | none =>
        let outcome ← look place (g.form rule)
        let outcome := match outcome with
          | .given => .failed
          | other => other
        if g.isRemembered rule then
          modify fun m => { m with found := m.found.modify place ((rule, outcome) :: ·) }
        return outcome
    | .strings =>
      match ← stringsAt ts tokens most place with
      | [] => return .failed
      | texts =>
        match stringsFault? fault? texts with
        | some fault => throw (.strings fault)
        | none =>
          let parts := (tokens.toList.drop place).take texts.length
          return .matched (place + texts.length) [.node (stringsKind texts) (parts.map .leaf)]
    | _ =>
      let token ← tokenAt ts tokens place
      match oneToken? form token, token.lexeme with
      | none, _ => return .failed
      | some parts, .number text =>
        match wholeDigits? text with
        | some digits =>
          if Text.numeralLimit < digits then throw (.longNumber ⟨digits⟩)
          else return .matched (place + 1) parts
        | none => return .matched (place + 1) parts
      | some parts, _ => return .matched (place + 1) parts

/-- What becomes of a rule for all tokens, and how many of them were looked at. -/
def whole (g : Grammar ρ) (fault? : List Char → Option String) (ts : TokenList)
    (diagnosing : Bool) (start : ρ) : Except FormFault Outcome × Nat :=
  let tokens := ts.tokens.toArray
  let depth := 1000 * (tokens.size + 2)
  let memory : Memory ρ := { found := (Array.range (tokens.size + 1)).map fun _ => [] }
  let (outcome, memory) :=
    (g.find fault? ts tokens depth diagnosing 0 (.rule start)).run.run memory
  (outcome, memory.seen)

/-- What is wrong with tokens of which no more than some were looked at.  A fault in a token comes
    first, then a bracket that is never closed if what is wrong stands on a later line. -/
def faultOf (ts : TokenList) (seen : Nat) (found : Option FormFault) : FormFault :=
  match ts.ending, found, ts.opened with
  | .fault fault, _, _ => .token fault
  | _, some (.early fault), _ => .early fault
  | _, _, none => found.getD .other
  | _, _, some (bracket, opening) =>
    let line := (ts.tokens[seen - 1]?.map Token.line).getD 0
    let atEnd := ts.showsEnd && seen == ts.tokens.length
    if opening < line && !(found.isSome && atEnd) then .early (.neverClosed bracket)
    else found.getD .other

/-- The expression that tokens write, or what is wrong with them. -/
def read (g : Grammar ρ) (fault? : List Char → Option String) (ts : TokenList) (start : ρ) :
    Except FormFault Tree :=
  match g.whole fault? ts false start with
  | (.ok (.matched _ [tree]), _) => .ok tree
  | (.error fault, seen) => .error (faultOf ts seen (some fault))
  | (.ok _, seen) =>
    match g.whole fault? ts true start with
    | (.error fault, more) => .error (faultOf ts (max seen more) (some fault))
    | (.ok _, more) =>
      if ts.tokens[seen - 1]?.map Token.lexeme = some .indentation then .error .indented
      else .error (faultOf ts (max seen more) none)

end Grammar

end IssueTracker.Literal
