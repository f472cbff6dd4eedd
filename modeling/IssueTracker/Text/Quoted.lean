import IssueTracker.Text.Digits
import IssueTracker.Text.PrintableData
import IssueTracker.Text.CaseData

/-!
# Quoted literals

The one-line form in which messages show a text: between quotes, with escapes for the quote, the
backslash and the characters that have no printed form.
-/

namespace IssueTracker.Text

/-- A character with a printed form. -/
def isPrintable (c : Char) : Bool := !inRanges unprintableRanges c.toNat

/-- The quote of a literal: an apostrophe, unless the text holds one and no double quote. -/
def quoteFor (cs : List Char) : Char :=
  if cs.contains '\'' && !cs.contains '"' then '"' else '\''

/-- One character of a literal between the given quotes. -/
def literalChar (quote c : Char) : List Char :=
  if c = quote ∨ c = '\\' then ['\\', c]
  else if c = '\n' then ['\\', 'n']
  else if c = '\r' then ['\\', 'r']
  else if c = '\t' then ['\\', 't']
  else if isPrintable c then [c]
  else if c.toNat < 0x100 then '\\' :: 'x' :: hexDigits 2 c.toNat
  else if c.toNat < 0x10000 then '\\' :: 'u' :: hexDigits 4 c.toNat
  else '\\' :: 'U' :: hexDigits 8 c.toNat

/-- A text as a literal. -/
def literalChars (cs : List Char) : List Char :=
  let quote := quoteFor cs
  quote :: cs.flatMap (literalChar quote) ++ [quote]

/-- A string as a literal. -/
def literal (s : String) : String := String.ofList (literalChars s.toList)

end IssueTracker.Text
