import IssueTracker.Terminal.Width
import IssueTracker.Text.Blank

/-!
# Lines

Text laid out in lines of a number of columns.  A line is broken before a word that does not fit; a
word that fits on no line is folded or cut off.
-/

namespace IssueTracker.Terminal

/-- What happens to text that does not fit. -/
inductive Overflow
  /-- It goes on in the next line. -/
  | fold
  /-- An ellipsis stands for it. -/
  | ellipsis
deriving Repr, DecidableEq

/-- Where text stands in a line. -/
inductive Alignment
  /-- At the left, without spaces behind it. -/
  | natural
  | left
  | centre
  | right
deriving Repr, DecidableEq

/-! ## Breaking -/

/-- The words of a text that starts with one, each with the blanks behind it. -/
def wordsWithBlanks : List Char → List (List Char)
  | [] => []
  | c :: rest =>
    match wordsWithBlanks rest with
    | [] => [[c]]
    | word :: others =>
      let isLast := match rest with
        | next :: _ => Text.isBlank c && !Text.isBlank next
        | [] => false
      if isLast then [c] :: word :: others else (c :: word) :: others

/-- The words of a line.  The blanks before the first one belong to it. -/
def lineWords (cs : List Char) : List (List Char) :=
  let blanks := cs.takeWhile Text.isBlank
  match wordsWithBlanks (cs.dropWhile Text.isBlank) with
  | [] => [blanks]
  | first :: others => (blanks ++ first) :: others

/-- Clusters in pieces that fit into lines of a number of columns, on the first of which `used`
    columns are taken.  A piece that takes no column is none. -/
def chopClusters (columns : Nat) (used : Nat) (piece : List Char) :
    List Cluster → List (List Char)
  | [] => if used = 0 then [] else [piece]
  | cluster :: rest =>
    if used + cluster.columns ≤ columns then
      chopClusters columns (used + cluster.columns) (piece ++ cluster.chars) rest
    else piece :: chopClusters columns cluster.columns cluster.chars rest

/-- A word in pieces that fit into lines of a number of columns. -/
def chop (columns : Nat) (word : List Char) : List (List Char) :=
  chopClusters columns 0 [] (clusters word)

/-- Lines under way: the finished ones, and the open one with the columns that count for it. -/
structure Layout where
  finished : List (List Char) := []
  line : List Char := []
  used : Nat := 0
deriving Repr, DecidableEq

namespace Layout

/-- Ends the open line, unless nothing is on it. -/
def ended (l : Layout) : Layout :=
  if l.line.isEmpty then l else { finished := l.finished ++ [l.line] }

/-- Puts pieces on lines of their own, the last one on the open line. -/
def addPieces (l : Layout) : List (List Char) → Layout
  | [] => l
  | piece :: pieces => { l.ended with line := piece, used := width piece }.addPieces pieces

/-- Puts a word on the open line, or on the next if it does not fit. -/
def add (columns : Nat) (overflow : Overflow) (l : Layout) (word : List Char) : Layout :=
  let needed := width (Text.trimEnd word)
  let stay : Layout := { l with line := l.line ++ word, used := l.used + width word }
  if l.used + needed ≤ columns then stay
  else if columns < needed then
    match overflow with
    | .fold => l.addPieces (chop columns word)
    | .ellipsis => { l.ended with line := word, used := width word }
  else { l.ended with line := word, used := width word }

end Layout

/-- A line broken into lines of a number of columns. -/
def breakLine (columns : Nat) (overflow : Overflow) (cs : List Char) : List (List Char) :=
  let l := (lineWords cs).foldl (Layout.add columns overflow) {}
  l.finished ++ [l.line]

/-! ## Fitting -/

/-- A line that takes at most a number of columns. -/
def fit (columns : Nat) (overflow : Overflow) (cs : List Char) : List Char :=
  if width cs ≤ columns then cs
  else match overflow with
    | .fold => crop columns cs
    | .ellipsis => abbreviate columns cs

/-- A line without the blanks at its end that are beyond a number of characters. -/
def withoutExcess (columns : Nat) (cs : List Char) : List Char :=
  let blanks := (cs.reverse.takeWhile Text.isBlank).length
  cs.take (cs.length - min blanks (cs.length - columns))

/-- How text is laid out. -/
structure Arrangement where
  columns : Nat
  overflow : Overflow := .fold
  alignment : Alignment := .natural
  /-- Whether a line that does not fit is broken before it is cut. -/
  breaks : Bool := true
deriving Repr, DecidableEq

namespace Arrangement

/-- A broken line in its place. -/
def align (a : Arrangement) (cs : List Char) : List Char :=
  let bare := fit a.columns a.overflow (Text.trimEnd cs)
  match a.alignment with
  | .natural => fit a.columns a.overflow cs
  | .left => fill a.columns (fit a.columns a.overflow cs)
  | .centre => Terminal.centre a.columns bare
  | .right => alignRight a.columns bare

/-- A line laid out in lines. -/
def lines (a : Arrangement) (line : List Char) : List (List Char) :=
  let line := withoutTabs line
  let pieces := if a.breaks then
      (breakLine a.columns a.overflow line).map (withoutExcess a.columns)
    else [line]
  pieces.map a.align

/-- A text laid out in lines. -/
def layOut (a : Arrangement) (text : List Char) : List (List Char) :=
  (Text.pieces (· == '\n') text).flatMap a.lines

end Arrangement

end IssueTracker.Terminal
