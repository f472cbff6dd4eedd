import IssueTracker.Proofs.Query.Values
import IssueTracker.Proofs.Terminal.Markup
import IssueTracker.Terminal.Line

/-!
# Plain text on a line

A text without tags, emoji codes and control characters is shown as it is (`IsPlain`), also among words: an
emoji code does not go on behind a space, and a tag has to be closed (`IsPlain.append_space`).  A short
text takes one line (`Arrangement.layOut_short`).
-/

namespace IssueTracker.Terminal

/-! ## Texts before a blank -/

section
variable {cs rest : List Char} {b : Char}

/-- A word that stands at the start of a text is wholly before its first blank. -/
private theorem of_append_blank {more : List Char} (word : List Char) (noBlank : b ∉ word)
    (split : cs ++ b :: rest = word ++ more) : ∃ behind, cs = word ++ behind := by
  rcases List.append_eq_append_iff.mp split with ⟨inner, whole, other⟩ | ⟨behind, whole, _⟩
  · cases inner with
    | nil => exact ⟨[], by simpa using whole.symm⟩
    | cons c inner =>
      rw [whole, ← (List.cons.inj other).1] at noBlank
      simp at noBlank
  · exact ⟨behind, whole⟩

private theorem notMem_of_isBlank {word : List Char} (blank : Text.isBlank b) (filled : word.any Text.isBlank = false) :
    b ∉ word := by
  intro member
  exact List.any_eq_false.mp filled b member blank

/-- A blank begins no end of an emoji code. -/
private theorem emojiCode?_blank (blank : Text.isBlank b) : emojiCode? (b :: rest) = none := by
  have apart (c : Char) (filled : Text.isBlank c = false) : b ≠ c := by
    rintro rfl
    rw [blank] at filled
    cases filled
  rw [emojiCode?.eq_5 _ _ (apart ':' rfl) (fun _ is => absurd is (apart '-' rfl))
    (fun _ is => absurd is (apart '-' rfl)), if_pos blank]

/-- A character that begins no end of an emoji code is passed over, also with a blank behind it. -/
private theorem emojiCode?_cons_append_blank (blank : Text.isBlank b) {c : Char} (noColon : c = ':' → False)
    (noText : ∀ more, c = '-' → cs = "text:".toList ++ more → False)
    (noEmoji : ∀ more, c = '-' → cs = "emoji:".toList ++ more → False) :
    emojiCode? (c :: cs ++ b :: rest) =
      if Text.isBlank c then none
      else (emojiCode? (cs ++ b :: rest)).map fun (code, after) =>
        ({ code with name := c :: code.name }, after) := by
  refine emojiCode?.eq_5 _ _ noColon (fun more is split => ?_) fun more is split => ?_
  · obtain ⟨behind, whole⟩ := of_append_blank "text:".toList (notMem_of_isBlank blank (by decide)) split
    exact noText behind is whole
  · obtain ⟨behind, whole⟩ := of_append_blank "emoji:".toList (notMem_of_isBlank blank (by decide)) split
    exact noEmoji behind is whole

/-- An emoji code ends before a blank. -/
theorem emojiCode?_append_blank (blank : Text.isBlank b) (cs rest : List Char) :
    emojiCode? (cs ++ b :: rest) = (emojiCode? cs).map fun (code, after) => (code, after ++ b :: rest) := by
  fun_induction emojiCode? cs with
  | case1 => exact emojiCode?_blank blank
  | case2 | case3 | case4 => rfl
  | case5 c cs noColon noText noEmoji isBlank =>
    rw [emojiCode?_cons_append_blank blank noColon noText noEmoji, if_pos isBlank]
    rfl
  | case6 c cs noColon noText noEmoji notBlank ih =>
    rw [emojiCode?_cons_append_blank blank noColon noText noEmoji, if_neg notBlank, ih, Option.map_map,
      Option.map_map]
    rfl

theorem withEmoji_of_found {code : EmojiCode} {after : List Char} (found : emojiCode? cs = some (code, after)) :
    withEmoji (':' :: cs) = code.shown ++ withEmoji after := by
  rw [withEmoji, if_pos rfl]
  split
  · rename_i found'
    cases found.symm.trans found'
    rfl
  · rename_i none
    cases found.symm.trans none

theorem withEmoji_of_none (noCode : emojiCode? cs = none) : withEmoji (':' :: cs) = ':' :: withEmoji cs := by
  rw [withEmoji, if_pos rfl]
  split
  · rename_i found
    cases noCode.symm.trans found
  · rfl

theorem withEmoji_append_blank (blank : Text.isBlank b) (cs rest : List Char) :
    withEmoji (cs ++ b :: rest) = withEmoji cs ++ b :: withEmoji rest := by
  fun_induction withEmoji cs with
  | case1 =>
    have notColon : b ≠ ':' := by
      rintro rfl
      cases blank
    rw [List.nil_append, withEmoji, if_neg notColon]
    rfl
  | case2 cs code after found ih =>
    have behind : emojiCode? (cs ++ b :: rest) = some (code, after ++ b :: rest) := by
      rw [emojiCode?_append_blank blank, found]
      rfl
    rw [List.cons_append, withEmoji_of_found behind, ih, List.append_assoc]
  | case3 cs noCode ih =>
    have behind : emojiCode? (cs ++ b :: rest) = none := by
      rw [emojiCode?_append_blank blank, noCode]
      rfl
    rw [List.cons_append, withEmoji_of_none behind, ih, List.cons_append]
  | case4 c cs noColon ih => rw [List.cons_append, withEmoji, if_neg noColon, ih, List.cons_append]

theorem withoutBracketEscapes_append_blank (blank : Text.isBlank b) (cs rest : List Char) :
    withoutBracketEscapes (cs ++ b :: rest) =
      withoutBracketEscapes cs ++ b :: withoutBracketEscapes rest := by
  fun_induction withoutBracketEscapes cs with
  | case1 cs ih => rw [List.cons_append, List.cons_append, withoutBracketEscapes, ih, List.cons_append]
  | case2 c cs noEscape ih =>
    have noEscape' (more : List Char) (is : c = '\\') (split : cs ++ b :: rest = ['['] ++ more) : False := by
      obtain ⟨behind, whole⟩ := of_append_blank ['['] (notMem_of_isBlank blank (by decide)) split
      exact noEscape behind is whole
    rw [List.cons_append, withoutBracketEscapes.eq_2 _ _ noEscape', ih, List.cons_append]
  | case3 =>
    have notBackslash : b ≠ '\\' := by
      rintro rfl
      cases blank
    rw [List.nil_append, withoutBracketEscapes.eq_2 _ _ (fun _ is => absurd is notBackslash)]
    rfl

/-- What is shown before a blank does not depend on what is behind it. -/
theorem shownPiece_append_blank (blank : Text.isBlank b) (printed : isStripped b = false) (cs rest : List Char) :
    shownPiece (cs ++ b :: rest) = shownPiece cs ++ b :: shownPiece rest := by
  rw [shownPiece, withoutBracketEscapes_append_blank blank, withEmoji_append_blank blank, List.filter_append,
    List.filter_cons_of_pos (by simp [printed])]
  rfl

theorem shownPiece_append_space (cs rest : List Char) :
    shownPiece (cs ++ ' ' :: rest) = shownPiece cs ++ ' ' :: shownPiece rest :=
  shownPiece_append_blank rfl rfl cs rest

end

/-! ## Plain text -/

/-- A text that is shown as it is: no tag stands in it, no emoji code, and no character that is not
    shown. -/
structure IsPlain (cs : List Char) : Prop where
  noTag : TagFree cs
  shown : shownPiece cs = cs

section
variable {cs rest : List Char}

theorem withEmoji_eq_self (noColon : ':' ∉ cs.dropLast) : withEmoji cs = cs := by
  induction cs with
  | nil => rw [withEmoji]
  | cons c cs ih =>
    cases cs with
    | nil =>
      by_cases colon : c = ':'
      · rw [colon, withEmoji_of_none rfl, withEmoji]
      · rw [withEmoji, if_neg colon, withEmoji]
    | cons d cs =>
      rw [List.dropLast_cons_cons, List.mem_cons, not_or] at noColon
      rw [withEmoji, if_neg (Ne.symm noColon.1), ih noColon.2]

theorem withoutBracketEscapes_eq_self (noOpening : '[' ∉ cs) : withoutBracketEscapes cs = cs := by
  fun_induction withoutBracketEscapes cs with
  | case1 => simp at noOpening
  | case2 c cs _ ih => rw [ih fun member => noOpening (List.mem_cons_of_mem _ member)]
  | case3 => rfl

/-- A colon at the end begins no emoji code. -/
theorem isPlain_of_notMem (noOpening : '[' ∉ cs) (noColon : ':' ∉ cs.dropLast)
    (printed : cs.any isStripped = false) : IsPlain cs where
  noTag := by simpa using TagFree.nil.append noOpening
  shown := by
    rw [shownPiece, withoutBracketEscapes_eq_self noOpening, withEmoji_eq_self noColon]
    refine List.filter_eq_self.mpr fun c member => ?_
    simpa using List.any_eq_false.mp printed c member

/-- Plain texts with a space between them are plain, unless a tag begins in one and ends in the other. -/
theorem IsPlain.append_space (left : IsPlain cs) (right : IsPlain rest) (apart : '[' ∉ cs ∨ ']' ∉ rest) :
    IsPlain (cs ++ ' ' :: rest) where
  noTag := by
    rcases apart with noOpening | noClosing
    · have spaced : TagFree ([' '] ++ rest) := right.noTag.append (by simp)
      exact spaced.append noOpening
    · exact left.noTag.append_right (by simpa using noClosing)
  shown := by rw [shownPiece_append_space, left.shown, right.shown]

/-- An error label is shown, and behind it a plain text as it is. -/
theorem shown_error_isPlain {message : String} (plain : IsPlain message.toList) :
    shown ("[bold red]Error:[/] " ++ message) = .ok ("Error: " ++ message).toList := by
  have whole : shownText (' ' :: message.toList) = ' ' :: message.toList := by
    have free : TagFree ([' '] ++ message.toList) := plain.noTag.append (by simp)
    have space := shownPiece_append_space [] message.toList
    have nothing : shownPiece [] = [] := (isPlain_of_notMem (by simp) (by simp) (by simp)).shown
    rw [nothing, plain.shown, List.nil_append] at space
    rw [shownText, ← List.singleton_append, markupParts_of_tagFree free]
    simp [MarkupPart.shown, space]
  rw [shown_error_of_escaped (.free plain.noTag), whole]
  simp

end

/-! ## Widths -/

theorem charWidth_le (c : Char) : charWidth c ≤ 2 := by
  rw [charWidth]
  split_ifs <;> decide

theorem columns_add_le (m : Measure) (c : Char) : (m.add c).columns ≤ m.columns + 2 := by
  have one := charWidth_le c
  have gain : (m.last.map pictureGain).getD 0 ≤ 1 := by
    cases m.last with
    | none => decide
    | some d =>
      rw [Option.map_some, Option.getD_some, pictureGain]
      split <;> decide
  rw [Measure.add]
  split_ifs
  · exact Nat.le_add_right _ _
  · exact Nat.le_add_right _ _
  · exact Nat.add_le_add_left (Nat.le_trans gain (by decide)) _
  · exact Nat.le_add_right _ _
  · exact Nat.add_le_add_left one _

theorem width_le (cs : List Char) : width cs ≤ 2 * cs.length := by
  have each (m : Measure) : (cs.foldl Measure.add m).columns ≤ m.columns + 2 * cs.length := by
    induction cs generalizing m with
    | nil => exact Nat.le_refl _
    | cons c cs ih =>
      have first := columns_add_le m c
      have rest := ih (m.add c)
      rw [List.foldl_cons, List.length_cons]
      omega
  exact Nat.le_trans (each {}) (Nat.le_of_eq (Nat.zero_add _))

/-! ## One line -/

section
variable {cs : List Char} {columns : Nat} {overflow : Overflow}

theorem flatten_wordsWithBlanks (cs : List Char) : (wordsWithBlanks cs).flatten = cs := by
  induction cs with
  | nil => rfl
  | cons c cs ih =>
    unfold wordsWithBlanks
    split
    · rename_i none
      rw [none] at ih
      rw [← ih]
      rfl
    · rename_i word others split
      rw [split] at ih
      rw [← ih]
      dsimp only
      split
      · split <;> simp
      · simp

theorem flatten_lineWords (cs : List Char) : (lineWords cs).flatten = cs := by
  have words := flatten_wordsWithBlanks (cs.dropWhile Text.isBlank)
  rw [lineWords]
  split
  · rename_i none
    rw [none, List.flatten_nil] at words
    have whole := List.takeWhile_append_dropWhile (p := Text.isBlank) (l := cs)
    rw [← words, List.append_nil] at whole
    simpa using whole
  · rename_i first others split
    rw [split, List.flatten_cons] at words
    rw [List.flatten_cons, List.append_assoc, words, List.takeWhile_append_dropWhile]

/-- Words that are short together stay on the open line. -/
theorem foldl_add_short (overflow : Overflow) {words : List (List Char)} {l : Layout}
    (short : l.used + 2 * words.flatten.length ≤ columns) :
    ∃ used, words.foldl (Layout.add columns overflow) l = { l with line := l.line ++ words.flatten, used } := by
  induction words generalizing l with
  | nil => exact ⟨l.used, by simp⟩
  | cons word words ih =>
    rw [List.flatten_cons, List.length_append] at short
    have needed : width (Text.trimEnd word) ≤ 2 * word.length := by
      refine Nat.le_trans (width_le _) (Nat.mul_le_mul_left 2 ?_)
      rw [Text.trimEnd, List.length_reverse]
      exact Nat.le_trans (List.dropWhile_sublist _).length_le (Nat.le_of_eq List.length_reverse)
    have wide := width_le word
    have stays : Layout.add columns overflow l word =
        { l with line := l.line ++ word, used := l.used + width word } := by
      unfold Layout.add
      exact if_pos (by omega)
    obtain ⟨used, rest⟩ := ih (l := { l with line := l.line ++ word, used := l.used + width word })
      (by dsimp only; omega)
    exact ⟨used, by rw [List.foldl_cons, stays, rest, List.flatten_cons, List.append_assoc]⟩

theorem breakLine_short (short : 2 * cs.length ≤ columns) : breakLine columns overflow cs = [cs] := by
  have fits : ({} : Layout).used + 2 * (lineWords cs).flatten.length ≤ columns := by
    rw [flatten_lineWords]
    simpa using short
  obtain ⟨used, whole⟩ := foldl_add_short overflow fits
  rw [breakLine, whole, flatten_lineWords]
  rfl

theorem withoutExcess_short (short : cs.length ≤ columns) : withoutExcess columns cs = cs := by
  rw [withoutExcess]
  simp [Nat.sub_eq_zero_of_le short]

/-- A text of at most half as many characters as there are columns takes one line. -/
theorem Arrangement.layOut_short (short : 2 * cs.length ≤ columns) (noLineEnd : '\n' ∉ cs) (noTab : '\t' ∉ cs) :
    ({ columns } : Arrangement).layOut cs = [cs] := by
  have single (c : Char) (absent : c ∉ cs) : Text.pieces (· == c) cs = [cs] :=
    pieces_eq_singleton fun d member => by
      rw [beq_eq_false_iff_ne]
      rintro rfl
      exact absent member
  have fits : fit columns .fold cs = cs := if_pos (Nat.le_trans (width_le cs) short)
  simp only [Arrangement.layOut, single '\n' noLineEnd, List.flatMap_cons, List.flatMap_nil, List.append_nil,
    Arrangement.lines, withoutTabs, single '\t' noTab, joinAtStops, if_true, breakLine_short short,
    List.map_cons, List.map_nil, withoutExcess_short (show cs.length ≤ columns by omega)]
  simp only [Arrangement.align, fits]

end

end IssueTracker.Terminal
