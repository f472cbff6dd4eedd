import IssueTracker.Text.Blank
import IssueTracker.Text.Quoted

/-!
# Texts with halves of surrogate pairs

Nearly all texts consist of characters.  An escape in a settings file can also write one half of a
surrogate pair alone, for which no encoding has bytes.  A text with such halves is kept, compared
and handed on like any other, but it can be neither written nor printed.
-/

namespace IssueTracker

/-- One half of a surrogate pair. -/
structure Half where
  /-- The number of the code point. -/
  code : Nat
  isHalf : 0xD800 ≤ code ∧ code ≤ 0xDFFF
deriving Repr, DecidableEq

/-- A half as an escape. -/
def Half.escape (h : Half) : List Char := '\\' :: 'u' :: Text.hexDigits 4 h.code

/-- A part of a text: a character, or a half that stands alone. -/
inductive CodePoint
  | char (c : Char)
  | half (h : Half)
deriving Repr, DecidableEq

namespace CodePoint

/-- The code point with a number. -/
def ofNat (n : Nat) : CodePoint :=
  if isHalf : 0xD800 ≤ n ∧ n ≤ 0xDFFF then half ⟨n, isHalf⟩ else char (Char.ofNat n)

/-- The character, if it is one. -/
def char? : CodePoint → Option Char
  | char c => some c
  | half _ => none

/-- Whether it separates words. -/
def isBlank (p : CodePoint) : Bool := p.char?.any Text.isBlank

/-- What stands for it in a literal between the given quotes. -/
def literal (quote : Char) : CodePoint → List Char
  | char c => Text.literalChar quote c
  | half h => h.escape

/-- What is shown of it where halves are escaped. -/
def escaped : CodePoint → List Char
  | char c => [c]
  | half h => h.escape

end CodePoint

/-- Why a text cannot be encoded: where halves follow one another, how many, and the first. -/
structure EncodeFault where
  position : Nat
  length : Nat
  first : Half
deriving Repr, DecidableEq

/-- What is reported of a text that cannot be encoded. -/
def EncodeFault.message (f : EncodeFault) : String :=
  "'utf-8' codec can't encode " ++
    (if f.length = 1 then
      "character '" ++ String.ofList f.first.escape ++ s!"' in position {f.position}"
    else s!"characters in position {f.position}-{f.position + f.length - 1}") ++
    ": surrogates not allowed"

/-- A text of any code points. -/
inductive AnyText
  /-- Characters only. -/
  | plain (text : String)
  /-- The characters before the first half, the half, and what follows it. -/
  | broken (before : List Char) (half : Half) (after : List CodePoint)
deriving Repr, DecidableEq

namespace AnyText

instance : Coe String AnyText := ⟨plain⟩

/-- The parts of a text. -/
def points : AnyText → List CodePoint
  | plain text => text.toList.map .char
  | broken before half after => before.map .char ++ .half half :: after

/-- The text of some characters. -/
def ofChars (cs : List Char) : AnyText := plain (String.ofList cs)

/-- The text of some characters, the last one first, and the parts behind them. -/
def ofPointsBehind (before : List Char) : List CodePoint → AnyText
  | [] => ofChars before.reverse
  | .char c :: rest => ofPointsBehind (c :: before) rest
  | .half h :: rest => broken before.reverse h rest

/-- The text of some parts. -/
def ofPoints (points : List CodePoint) : AnyText := ofPointsBehind [] points

/-- A text behind characters. -/
def behind (cs : List Char) : AnyText → AnyText
  | plain text => ofChars (cs ++ text.toList)
  | broken before half after => broken (cs ++ before) half after

/-- One text and another one behind it. -/
def append : AnyText → AnyText → AnyText
  | plain text, later => later.behind text.toList
  | broken before half after, later => broken before half (after ++ later.points)

instance : Append AnyText := ⟨append⟩

/-- The string that a text is, if it consists of characters. -/
def plain? : AnyText → Option String
  | plain text => some text
  | broken .. => none

/-- The string that a text is, or the text itself if it is none. -/
def asString : AnyText → Except AnyText String
  | plain text => .ok text
  | text => .error text

/-- Why a text cannot be encoded, if it cannot. -/
def fault? : AnyText → Option EncodeFault
  | plain _ => none
  | broken before half after =>
    some {
      position := before.length
      length := (after.takeWhile (·.char?.isNone)).length + 1
      first := half }

/-- Texts behind one another. -/
def join (texts : List AnyText) : AnyText := ofPoints (texts.flatMap points)

/-- A text without the blanks at both ends. -/
def strip : AnyText → AnyText
  | plain text => plain (Text.strip text)
  | broken before half after =>
    broken (Text.trimStart before) half (after.reverse.dropWhile CodePoint.isBlank).reverse

/-- A text as a literal. -/
def literal (t : AnyText) : String :=
  let quote := Text.quoteFor (t.points.filterMap CodePoint.char?)
  String.ofList (quote :: t.points.flatMap (CodePoint.literal quote) ++ [quote])

/-- A text in which halves are escaped. -/
def escaped (t : AnyText) : String := String.ofList (t.points.flatMap CodePoint.escaped)

end AnyText

/-- What becomes of a text that is written piece by piece. -/
structure Written where
  /-- The characters that are written. -/
  chars : List Char
  /-- Why no more are written, if there are more. -/
  fault : Option EncodeFault := none
deriving Repr, DecidableEq

/-- Pieces are written up to the first that cannot be encoded. -/
def Written.ofPieces : List AnyText → Written
  | [] => { chars := [] }
  | piece :: pieces =>
    match piece.plain? with
    | some text =>
      let later := ofPieces pieces
      { later with chars := text.toList ++ later.chars }
    | none => { chars := [], fault := piece.fault? }

end IssueTracker
