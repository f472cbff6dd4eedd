import IssueTracker.Terminal.EmojiData
import IssueTracker.Text.Blank
import IssueTracker.Text.Case

/-!
# Emoji codes

A name between colons stands for an emoji: `:bug:` for 🐛.  `-text` or `-emoji` at the end of the
name asks for that presentation.  A code whose name is not known stays as it is, and its colons
belong to no other code.
-/

namespace IssueTracker.Terminal

/-- The emoji with a name in any case. -/
def emoji? (name : List Char) : Option (List Char) :=
  match Text.lowerChars name with
  | [] => none
  | initial :: others =>
    ((emojiStarting initial).lookup (String.ofList (initial :: others))).map String.toList

/-- How an emoji is asked to be shown. -/
inductive Presentation
  | plain
  | textual
  | pictorial
deriving Repr, DecidableEq

namespace Presentation

/-- How a presentation is asked for after the name. -/
def ending : Presentation → List Char
  | plain => [':']
  | textual => "-text:".toList
  | pictorial => "-emoji:".toList

/-- The character that selects a presentation. -/
def selector : Presentation → List Char
  | plain => []
  | textual => ['\uFE0E']
  | pictorial => ['\uFE0F']

end Presentation

/-- An emoji code without its first colon. -/
structure EmojiCode where
  name : List Char
  presentation : Presentation
deriving Repr, DecidableEq

/-- The text of an emoji code, with its colons. -/
def EmojiCode.source (code : EmojiCode) : List Char := ':' :: code.name ++ code.presentation.ending

/-- The text that an emoji code stands for. -/
def EmojiCode.shown (code : EmojiCode) : List Char :=
  match emoji? code.name with
  | some emoji => emoji ++ code.presentation.selector
  | none => code.source

/-- The code that a text starts with after its colon, and the text after it.  A code holds no
    blank, and its name is as short as can be. -/
def emojiCode? : List Char → Option (EmojiCode × List Char)
  | [] => none
  | ':' :: rest => some (⟨[], .plain⟩, rest)
  | '-' :: 't' :: 'e' :: 'x' :: 't' :: ':' :: rest => some (⟨[], .textual⟩, rest)
  | '-' :: 'e' :: 'm' :: 'o' :: 'j' :: 'i' :: ':' :: rest => some (⟨[], .pictorial⟩, rest)
  | c :: rest =>
    if Text.isBlank c then none
    else (emojiCode? rest).map fun (code, after) => ({ code with name := c :: code.name }, after)

/-- What follows a code is shorter than the text that starts with it. -/
theorem length_after_emojiCode {cs after : List Char} {code : EmojiCode}
    (h : emojiCode? cs = some (code, after)) : after.length < cs.length := by
  fun_induction emojiCode? cs generalizing code after with
  | case1 => simp at h
  | case2 => simp_all
  | case3 => simp_all; omega
  | case4 => simp_all; omega
  | case5 => simp at h
  | case6 c rest _ _ _ _ ih =>
    obtain ⟨⟨inner, left⟩, found, same⟩ := Option.map_eq_some_iff.mp h
    have shorter := ih found
    simp only [Prod.mk.injEq] at same
    simp only [List.length_cons, ← same.2]
    omega

/-- A text with its emoji codes replaced, from left to right. -/
def withEmoji : List Char → List Char
  | [] => []
  | c :: rest =>
    if c = ':' then
      match _found : emojiCode? rest with
      | some (code, after) => code.shown ++ withEmoji after
      | none => c :: withEmoji rest
    else c :: withEmoji rest
termination_by cs => cs.length
decreasing_by
  · have := length_after_emojiCode _found
    simp only [List.length_cons]
    omega
  all_goals simp

end IssueTracker.Terminal
