import IssueTracker.Terminal.WidthData
import IssueTracker.Text.Blank
import IssueTracker.Text.CaseData

/-!
# Columns of text

How many columns of a terminal a text takes, and cutting and filling it to a number of columns.  A
joiner puts the character behind it into the picture before it, and a selector turns the character
before it into a picture.
-/

namespace IssueTracker.Terminal

/-- The columns that a character takes on its own. -/
def charWidth (c : Char) : Nat :=
  if c.toNat < 0x300 then
    if (0x20 ≤ c.toNat ∧ c.toNat < 0x7F) ∨ 0xA0 ≤ c.toNat then 1 else 0
  else if Text.inRanges zeroWidthRanges c.toNat then 0
  else if Text.inRanges wideRanges c.toNat then 2
  else 1

/-- The character that joins the one behind it to the one before it. -/
def joiner : Char := '\u200D'

/-- The character that asks for the picture of the one before it. -/
def pictureSelector : Char := '\uFE0F'

/-- The columns that the picture of a character takes more than the character. -/
def pictureGain (c : Char) : Nat := if Text.inRanges pictureRanges c.toNat then 1 else 0

/-! ## Measuring -/

/-- A text that is being measured. -/
structure Measure where
  columns : Nat := 0
  /-- The last character that takes a column, until a selector was applied to it. -/
  last : Option Char := none
  /-- Whether the next character is joined to what was before. -/
  joined : Bool := false
deriving Repr, DecidableEq

namespace Measure

/-- What is measured after one more character. -/
def add (m : Measure) (c : Char) : Measure :=
  if m.joined then { m with joined := false }
  else if c = joiner then { m with joined := true }
  else if c = pictureSelector then
    { m with columns := m.columns + (m.last.map pictureGain).getD 0, last := none }
  else if charWidth c = 0 then m
  else { m with columns := m.columns + charWidth c, last := some c }

end Measure

/-- The columns that a text takes. -/
def width (cs : List Char) : Nat := (cs.foldl Measure.add {}).columns

/-! ## Clusters -/

/-- Characters that are not taken apart, and the columns that they take. -/
structure Cluster where
  chars : List Char
  columns : Nat
deriving Repr, DecidableEq

/-- A text that is being cut into clusters. -/
structure Cutting where
  /-- The clusters before the last one. -/
  done : List Cluster := []
  /-- The last cluster, if there is any. -/
  open? : Option Cluster := none
  /-- The last character that takes a column, until its picture was asked for. -/
  last : Option Char := none
  /-- Whether the next character is joined to the last cluster. -/
  joined : Bool := false
deriving Repr, DecidableEq

namespace Cutting

/-- The clusters of what was cut so far. -/
def clusters (k : Cutting) : List Cluster := k.done ++ k.open?.toList

/-- A character in the last cluster, which then takes some columns more. -/
def extend (k : Cutting) (c : Char) (more : Nat) : Cutting :=
  let cluster := k.open?.getD ⟨[], 0⟩
  { k with open? := some ⟨cluster.chars ++ [c], cluster.columns + more⟩ }

/-- What is cut after one more character. -/
def add (k : Cutting) (c : Char) : Cutting :=
  if k.joined then { k.extend c 0 with joined := false }
  else if c = joiner then { k.extend c 0 with joined := k.open?.isSome }
  else if c = pictureSelector then
    let gain := (k.last.map pictureGain).getD 0
    { k.extend c gain with last := if gain = 0 then k.last else none }
  else if charWidth c = 0 then k.extend c 0
  else { done := k.clusters, open? := some ⟨[c], charWidth c⟩, last := some c }

end Cutting

/-- The clusters of a text: what takes a column begins one, what takes none goes on with it. -/
def clusters (cs : List Char) : List Cluster := (cs.foldl Cutting.add {}).clusters

/-! ## Filling and cutting -/

/-- Spaces. -/
def spaces (count : Nat) : List Char := List.replicate count ' '

/-- A text filled with spaces to at least `columns` columns. -/
def fill (columns : Nat) (cs : List Char) : List Char := cs ++ spaces (columns - width cs)

/-- The clusters that fit into `columns` columns.  Half of a wide one at the end becomes a space. -/
def cropClusters (columns : Nat) : List Cluster → List Char
  | [] => []
  | cluster :: rest =>
    if columns = 0 then []
    else if cluster.columns ≤ columns then
      cluster.chars ++ cropClusters (columns - cluster.columns) rest
    else [' ']

/-- The start of a text that takes `columns` columns. -/
def crop (columns : Nat) (cs : List Char) : List Char := cropClusters columns (clusters cs)

/-- A text that takes at most `columns` columns; where it is cut an ellipsis stands. -/
def abbreviate (columns : Nat) (cs : List Char) : List Char :=
  if width cs ≤ columns then cs else crop (columns - 1) cs ++ ['…']

/-- A text between spaces, the greater half of them behind it. -/
def centre (columns : Nat) (cs : List Char) : List Char :=
  fill columns (spaces ((columns - width cs) / 2) ++ cs)

/-- A text behind spaces. -/
def alignRight (columns : Nat) (cs : List Char) : List Char := spaces (columns - width cs) ++ cs

/-! ## Tabs -/

/-- The distance of the tab stops. -/
def tabStop : Nat := 8

/-- The parts of a line after `column` columns, in which a tab between two parts is replaced by one
    space and more up to the next stop. -/
def joinAtStops (column : Nat) : List (List Char) → List Char
  | [] => []
  | [part] => part
  | part :: parts =>
    let part := part ++ [' ']
    let reached := column + width part
    let more := (tabStop - reached % tabStop) % tabStop
    part ++ spaces more ++ joinAtStops (reached + more) parts

/-- A line whose tabs are replaced by spaces. -/
def withoutTabs (line : List Char) : List Char := joinAtStops 0 (Text.pieces (· == '\t') line)

end IssueTracker.Terminal
