import IssueTracker.Terminal.ColourData
import IssueTracker.Text.Case
import IssueTracker.Text.Numeral

/-!
# Style definitions

A style is defined in words: attributes, each of them perhaps after `not`, a colour, a colour of the
background after `on`, and a target after `link`.  Of what is said twice the last word holds.  Two
definitions of one style have the same name, in which the attributes stand in a fixed order before
all else.
-/

namespace IssueTracker.Terminal

/-- The attributes of text, in the order in which a style names them. -/
def attributes : List String :=
  ["bold", "dim", "italic", "underline", "blink", "blink2", "reverse", "conceal", "strike",
   "underline2", "frame", "encircle", "overline"]

/-- The short names of attributes. -/
def shortAttributes : List (String × String) :=
  [("d", "dim"), ("b", "bold"), ("i", "italic"), ("u", "underline"), ("r", "reverse"),
   ("c", "conceal"), ("s", "strike"), ("uu", "underline2"), ("o", "overline")]

/-- The attribute that a word stands for. -/
def attributeOf? (word : String) : Option String :=
  let full := (shortAttributes.lookup word).getD word
  if attributes.contains full then some full else none

/-! ## Colours -/

/-- A digit of a number to base 16, in lower case. -/
def isHexDigit (c : Char) : Bool := ('0' ≤ c && c ≤ '9') || ('a' ≤ c && c ≤ 'f')

/-- What is wrong with a share of red, green or blue. -/
inductive ShareFault
  | empty
  | long (numeral : Text.LongNumeral)
deriving Repr, DecidableEq

/-- What is reported of a share that cannot be read. -/
def ShareFault.message : ShareFault → String
  | empty => "invalid literal for int() with base 10: ''"
  | long numeral => numeral.message

/-- Why words define no style. -/
inductive StyleFault
  | noStyle
  | share (fault : ShareFault)
deriving Repr, DecidableEq

/-- The greatest number that a colour has in its definition. -/
def greatestShare : Nat := 255

/-- The share of a colour that digits write. -/
def readShare (digits : List Char) : Except ShareFault Nat :=
  if digits.isEmpty then .error .empty else (Text.readNumeral digits).mapError .long

/-- Checks the shares of red, green and blue, written in digits of any script. -/
def checkShares (shares : List Char) : Except StyleFault Unit :=
  let parts := Text.pieces (· == ',') shares
  if parts.length ≠ 3 ∨ !parts.all (·.all Text.isDecimal) then .error .noStyle
  else do
    let values ← (parts.mapM readShare).mapError .share
    if values.all (· ≤ greatestShare) then .ok () else .error .noStyle

/-- Whether digits are the number of a colour. -/
def isColourNumber (digits : List Char) : Bool :=
  !digits.isEmpty && digits.length ≤ 3 && digits.all (fun c => '0' ≤ c && c ≤ '9') &&
    Text.digitsValue digits ≤ greatestShare

/-- What stands between the brackets after a name, if a text is of that form. -/
def bracketed? (name : List Char) (cs : List Char) : Option (List Char) :=
  let inside := cs.drop (name.length + 1)
  if (name ++ ['(']).isPrefixOf cs && inside.getLast? == some ')' then some inside.dropLast
  else none

/-- Checks that a word in lower case is a colour: a name, six hexadecimal digits, a number, or the
    shares of red, green and blue. -/
def checkColour (word : String) : Except StyleFault Unit :=
  let accept (holds : Bool) : Except StyleFault Unit := if holds then .ok () else .error .noStyle
  if word == "default" || colourNames.contains word then .ok ()
  else match word.toList with
    | '#' :: digits => accept (digits.length == 6 && digits.all isHexDigit)
    | cs =>
      match bracketed? "color".toList cs, bracketed? "rgb".toList cs with
      | some number, _ => accept (isColourNumber number)
      | none, some shares => checkShares shares
      | none, none => .error .noStyle

/-! ## Definitions -/

/-- What a style sets. -/
structure StyleDefinition where
  /-- The attributes that are switched, and whether they are on. -/
  attributes : List (String × Bool) := []
  colour : Option String := none
  background : Option String := none
  link : Option String := none
deriving Repr, DecidableEq

namespace StyleDefinition

/-- The style with one attribute switched. -/
def switch (d : StyleDefinition) (name : String) (on : Bool) : StyleDefinition :=
  { d with attributes := (name, on) :: d.attributes }

/-- The style after words. -/
def ofWords (d : StyleDefinition) : List String → Except StyleFault StyleDefinition
  | [] => .ok d
  | word :: rest =>
    let lower := Text.lower word
    if lower = "on" ∨ lower = "not" ∨ lower = "link" then
      match rest with
      | [] => .error .noStyle
      | object :: rest =>
        if lower = "on" then do
          let colour := Text.lower object
          checkColour colour
          { d with background := some colour }.ofWords rest
        else if lower = "not" then
          match attributeOf? object with
          | some name => (d.switch name false).ofWords rest
          | none => .error .noStyle
        else { d with link := some object }.ofWords rest
    else match attributeOf? lower with
      | some name => (d.switch name true).ofWords rest
      | none => do
        checkColour lower
        { d with colour := some lower }.ofWords rest

/-- The name of a style. -/
def name (d : StyleDefinition) : String :=
  let switched := Terminal.attributes.filterMap fun name =>
    (d.attributes.lookup name).map fun on => if on then name else "not " ++ name
  let parts := switched ++ d.colour.toList ++ (d.background.map ("on " ++ ·)).toList ++
    (d.link.map ("link " ++ ·)).toList
  if parts.isEmpty then "none" else " ".intercalate parts

end StyleDefinition

/-- The words of a text. -/
def words (cs : List Char) : List String :=
  ((Text.pieces Text.isBlank cs).filter (!·.isEmpty)).map String.ofList

/-- The style that a text defines, if it defines one. -/
def styleOf? (definition : List Char) : Except ShareFault (Option StyleDefinition) :=
  match StyleDefinition.ofWords {} (words definition) with
  | .ok d => .ok (some d)
  | .error .noStyle => .ok none
  | .error (.share fault) => .error fault

/-- The name by which the tag of a style is closed: that of the style, or the text itself in lower
    case, without the blanks around it, when it defines none. -/
def styleName (tag : List Char) : Except ShareFault String := do
  match ← styleOf? tag with
  | some d => return d.name
  | none => return String.ofList (Text.lowerChars (Text.trim tag))

end IssueTracker.Terminal
