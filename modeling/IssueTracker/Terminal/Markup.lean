import IssueTracker.Terminal.Emoji
import IssueTracker.Terminal.Handler
import IssueTracker.Terminal.StyleName

/-!
# Markup

Text for the terminal may hold style tags, such as `[bold]`, and closing tags, such as `[/bold]` or
`[/]`.  A terminal without styles shows none of them, but they have to match.  A tag behind an odd
number of backslashes is text; `escape` puts the backslashes there.
-/

namespace IssueTracker.Terminal

/-- Why a markup text cannot be shown. -/
inductive MarkupError
  /-- A closing tag without a name where no tag is open. -/
  | nothingOpen (position : Nat)
  /-- A closing tag, without its brackets, where no tag of its name is open. -/
  | notOpen (tag : String) (position : Nat)
  /-- A colour in a style that cannot be read. -/
  | unreadableShare (fault : ShareFault)
  /-- A closed handler whose parameters cannot be read. -/
  | unreadableHandler (fault : HandlerFault)
deriving Repr, DecidableEq

/-- What is reported of a markup text that cannot be shown. -/
def MarkupError.message : MarkupError → String
  | nothingOpen position => s!"closing tag '[/]' at position {position} has nothing to close"
  | notOpen tag position =>
    s!"closing tag '[{tag}]' at position {position} doesn't match any open tag"
  | unreadableShare fault => fault.message
  | unreadableHandler fault => fault.message

/-! ## Tags -/

/-- A character that a tag may start with. -/
def startsTag (c : Char) : Bool := ('a' ≤ c && c ≤ 'z') || c == '#' || c == '/' || c == '@'

/-- The text up to a closing bracket, and what follows it; an opening bracket ends the search. -/
def upToBracket : List Char → Option (List Char × List Char)
  | [] => none
  | c :: rest =>
    if c = ']' then some ([], rest)
    else if c = '[' then none
    else (upToBracket rest).map fun (tag, after) => (c :: tag, after)

/-- The tag that a text starts with after its opening bracket, and what follows it. -/
def tag? : List Char → Option (List Char × List Char)
  | [] => none
  | c :: rest =>
    if startsTag c then (upToBracket rest).map fun (tag, after) => (c :: tag, after) else none

/-- A place where markup text has a tag. -/
structure TagPlace where
  /-- The text before the tag and its backslashes. -/
  before : List Char
  backslashes : Nat
  tag : List Char
  /-- The text after the tag. -/
  after : List Char
deriving Repr, DecidableEq

/-- The tag that a text starts with, behind any number of backslashes. -/
def tagHere? (cs : List Char) : Option TagPlace :=
  match cs.dropWhile (· == '\\') with
  | '[' :: inside =>
    (tag? inside).map fun (tag, after) =>
      { before := [], backslashes := (cs.takeWhile (· == '\\')).length, tag, after }
  | _ => none

/-- The first tag of a text. -/
def firstTag? : List Char → Option TagPlace
  | [] => none
  | c :: rest =>
    match tagHere? (c :: rest) with
    | some place => some place
    | none => (firstTag? rest).map fun place => { place with before := c :: place.before }

theorem length_after_upToBracket {cs tag after : List Char}
    (h : upToBracket cs = some (tag, after)) : after.length < cs.length := by
  fun_induction upToBracket cs generalizing tag after with
  | case1 => simp at h
  | case2 => simp_all
  | case3 => simp at h
  | case4 c rest _ _ ih =>
    obtain ⟨⟨inner, left⟩, found, same⟩ := Option.map_eq_some_iff.mp h
    have shorter := ih found
    simp only [Prod.mk.injEq] at same
    simp only [List.length_cons, ← same.2]
    omega

theorem length_after_tag {cs tag after : List Char} (h : tag? cs = some (tag, after)) :
    after.length < cs.length := by
  cases cs with
  | nil => simp [tag?] at h
  | cons c rest =>
    simp only [tag?] at h
    split at h
    · obtain ⟨⟨inner, left⟩, found, same⟩ := Option.map_eq_some_iff.mp h
      have shorter := length_after_upToBracket found
      simp only [Prod.mk.injEq] at same
      simp only [List.length_cons, ← same.2]
      omega
    · simp at h

theorem length_after_tagHere {cs : List Char} {place : TagPlace} (h : tagHere? cs = some place) :
    place.after.length < cs.length := by
  simp only [tagHere?] at h
  split at h
  · rename_i inside opened
    obtain ⟨⟨tag, after⟩, found, rfl⟩ := Option.map_eq_some_iff.mp h
    have shorter := length_after_tag found
    have dropped := (List.dropWhile_sublist (fun c => c == '\\') (l := cs)).length_le
    rw [opened, List.length_cons] at dropped
    simp only
    omega
  · simp at h

/-- The text after the first tag is shorter than the whole. -/
theorem length_after_firstTag {cs : List Char} {place : TagPlace}
    (h : firstTag? cs = some place) : place.after.length < cs.length := by
  fun_induction firstTag? cs generalizing place with
  | case1 => simp at h
  | case2 c rest _ here => exact length_after_tagHere (by simp_all)
  | case3 c rest _ ih =>
    obtain ⟨inner, found, rfl⟩ := Option.map_eq_some_iff.mp h
    have shorter := ih found
    simp only [List.length_cons]
    omega

/-! ## Escaping -/

/-- Text with backslashes before its tags, so that they are shown. -/
def escapeTags (cs : List Char) : List Char :=
  match _found : firstTag? cs with
  | none => cs
  | some place =>
    place.before ++ List.replicate (2 * place.backslashes + 1) '\\' ++ '[' :: place.tag ++
      ']' :: escapeTags place.after
termination_by cs.length
decreasing_by exact length_after_firstTag _found

/-- Whether a text ends with a backslash and no other before it. -/
def endsWithLoneBackslash (cs : List Char) : Bool :=
  match cs.reverse with
  | '\\' :: '\\' :: _ => false
  | '\\' :: _ => true
  | _ => false

/-- Text in markup that is shown as it is.  A single backslash at the end is doubled, lest it
    escape a tag behind it. -/
def escape (cs : List Char) : List Char :=
  let escaped := escapeTags cs
  if endsWithLoneBackslash escaped then escaped ++ ['\\'] else escaped

/-- A string in markup that is shown as it is. -/
def escaped (s : String) : String := String.ofList (escape s.toList)

/-! ## Showing -/

/-- The characters that are never shown: bell, backspace, vertical tab, form feed and carriage
    return. -/
def isStripped (c : Char) : Bool := [7, 8, 11, 12, 13].contains c.toNat

/-- Text without the backslashes before its opening brackets. -/
def withoutBracketEscapes : List Char → List Char
  | '\\' :: '[' :: rest => '[' :: withoutBracketEscapes rest
  | c :: rest => c :: withoutBracketEscapes rest
  | [] => []

/-- A piece of text between tags, as it is shown. -/
def shownPiece (cs : List Char) : List Char :=
  (withEmoji (withoutBracketEscapes cs)).filter (!isStripped ·)

/-- A part of markup text. -/
inductive MarkupPart
  /-- Text between tags, as it is shown. -/
  | text (shown : List Char)
  /-- A tag without its brackets, and where it stands. -/
  | tag (content : List Char) (position : Nat)
deriving Repr, DecidableEq

/-- The text that a part shows. -/
def MarkupPart.shown : MarkupPart → List Char
  | text cs => cs
  | tag .. => []

/-- The parts of markup text that begins at a position. -/
def markupParts (position : Nat) (cs : List Char) : List MarkupPart :=
  match _found : firstTag? cs with
  | none => [.text (shownPiece cs)]
  | some place =>
    let start := position + place.before.length
    let before := shownPiece place.before ++ List.replicate (place.backslashes / 2) '\\'
    let rest := markupParts (start + place.backslashes + place.tag.length + 2) place.after
    if place.backslashes % 2 = 1 then
      .text (before ++ shownPiece ('[' :: place.tag ++ [']'])) :: rest
    else .text before :: .tag place.tag (start + place.backslashes) :: rest
termination_by cs.length
decreasing_by exact length_after_firstTag _found

/-! ## Styles -/

/-- A tag that is open. -/
structure OpenTag where
  /-- The length of the text shown before it. -/
  start : Nat
  /-- The name of its style. -/
  name : String
  /-- What follows the name after an equals sign. -/
  parameters : Option (List Char)
deriving Repr, DecidableEq

/-- The definition of the style that a tag gives to text. -/
def OpenTag.definition (t : OpenTag) : List Char :=
  t.name.toList ++ (t.parameters.map (' ' :: ·)).getD []

/-- Whether a tag names a handler. -/
def OpenTag.isHandler (t : OpenTag) : Bool := t.name.toList.head? == some '@'

/-- A part of the shown text that has a style. -/
structure Span where
  start : Nat
  stop : Nat
  definition : List Char
deriving Repr, DecidableEq

/-- What the tags of a text have done up to a place. -/
structure Styling where
  /-- The length of the text shown so far. -/
  length : Nat := 0
  /-- The open tags, the innermost first. -/
  opened : List OpenTag := []
  /-- The parts that closed tags have styled, the last one first. -/
  closed : List Span := []
deriving Repr, DecidableEq

namespace Styling

/-- The part that an open tag styles if it is closed now. -/
def span (s : Styling) (tag : OpenTag) : Span :=
  { start := tag.start, stop := s.length, definition := tag.definition }

/-- The styled parts when the text ends here, that of the outermost open tag first. -/
def spans (s : Styling) : List Span := s.opened.reverse.map s.span ++ s.closed

/-- Closes an open tag, which is no longer among those that are open.  A handler gives its text no
    style. -/
def close (s : Styling) (tag : OpenTag) (opened : List OpenTag) : Except MarkupError Styling :=
  if tag.isHandler then do
    (checkHandler (tag.parameters.getD [])).mapError .unreadableHandler
    return { s with opened }
  else .ok { s with opened, closed := s.span tag :: s.closed }

/-- Closes the innermost tag, or the innermost of a name. -/
def closeNamed (s : Styling) (name : List Char) (tag : List Char) (position : Nat) :
    Except MarkupError Styling :=
  if (Text.trim name).isEmpty then
    match s.opened with
    | [] => .error (.nothingOpen position)
    | innermost :: outer => s.close innermost outer
  else do
    let style ← (styleName name).mapError .unreadableShare
    match s.opened.find? (·.name == style) with
    | some found => s.close found (s.opened.eraseP (·.name == style))
    | none => .error (.notOpen (String.ofList tag) position)

/-- The styling after one more part. -/
def after (s : Styling) : MarkupPart → Except MarkupError Styling
  | .text shown => .ok { s with length := s.length + shown.length }
  | .tag content position =>
    match content.takeWhile (· != '=') with
    | '/' :: closing => s.closeNamed closing content position
    | name => do
      let name ← (styleName name).mapError .unreadableShare
      let parameters :=
        if content.contains '=' then some ((content.dropWhile (· != '=')).drop 1) else none
      return { s with opened := { start := s.length, name, parameters } :: s.opened }

end Styling

/-- Whether a style is looked at when a text is shown.  One that covers no character is not when the
    text has tabs or several lines, and no line holds its line end. -/
def Span.isLookedAt (text : List Char) (s : Span) : Bool :=
  let covered := (text.drop s.start).take (s.stop - s.start)
  if text.contains '\n' then covered.any (· != '\n')
  else !text.contains '\t' || !covered.isEmpty

/-- What is wrong with the style that begins first among those that cannot be read. -/
def shareFault? (text : List Char) (spans : List Span) : Option ShareFault :=
  let faults := (spans.filter (·.isLookedAt text)).filterMap fun s =>
    match styleOf? s.definition with
    | .ok _ => none
    | .error fault => some (s.start, fault)
  let earlier (a : Option (Nat × ShareFault)) (b : Nat × ShareFault) : Option (Nat × ShareFault) :=
    match a with
    | none => some b
    | some a => if b.1 < a.1 then some b else some a
  (faults.foldl earlier none).map Prod.snd

/-- The text that a terminal without styles shows for markup. -/
def shown (markup : String) : Except MarkupError (List Char) := do
  let parts := markupParts 0 markup.toList
  let styling ← parts.foldlM Styling.after {}
  let text := parts.flatMap MarkupPart.shown
  match shareFault? text styling.spans with
  | some fault => .error (.unreadableShare fault)
  | none => return text

end IssueTracker.Terminal
