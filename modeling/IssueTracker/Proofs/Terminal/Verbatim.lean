import IssueTracker.Proofs.Terminal.Line

/-!
# Text that is shown verbatim

Escaping a text keeps its tags from being read, but not its emoji codes, and a bracket that opens no tag loses
the backslash before it.  A text without known emoji codes, without such brackets and without a single
backslash at its end (`IsKept`) is shown as it was before it was escaped (`shownText_escape`).
-/

namespace IssueTracker.Terminal

/-- A text in which no emoji code of a known name stands. -/
def NoKnownEmoji (cs : List Char) : Prop :=
  ∀ before code after, cs = before ++ (EmojiCode.source code ++ after) → emoji? code.name = none

/-- A text that markup shows as it is when its tags are escaped. -/
structure IsKept (cs : List Char) : Prop where
  noEmoji : NoKnownEmoji cs
  /-- Brackets behind a backslash open tags. -/
  opens : ∀ before after, cs = before ++ '\\' :: '[' :: after → (tag? after).isSome
  ending : endsWithLoneBackslash cs = false

section
variable {cs tag after before : List Char} {code : EmojiCode}

/-! ## Emoji codes -/

theorem NoKnownEmoji.of_infix (noEmoji : NoKnownEmoji cs) (inside : before <:+: cs) : NoKnownEmoji before := by
  obtain ⟨start, behind, rfl⟩ := inside
  rintro inner code rest rfl
  apply noEmoji (start ++ inner) code (rest ++ behind)
  simp

/-- A code that is found stands behind the colon. -/
theorem of_emojiCode? (found : emojiCode? cs = some (code, after)) : ':' :: cs = code.source ++ after := by
  fun_induction emojiCode? cs generalizing code after with
  | case1 => cases found
  | case2 rest => cases found; rfl
  | case3 rest => cases found; rfl
  | case4 rest => cases found; rfl
  | case5 => cases found
  | case6 c rest noColon noText noEmoji notBlank ih =>
    obtain ⟨⟨inner, left⟩, inside, same⟩ := Option.map_eq_some_iff.mp found
    cases same
    have behind := (List.cons.inj (ih inside)).2
    simp [EmojiCode.source, behind]

/-- A text without known emoji codes stays as it is. -/
theorem withEmoji_of_noKnownEmoji (noEmoji : NoKnownEmoji cs) : withEmoji cs = cs := by
  fun_induction withEmoji cs with
  | case1 => rfl
  | case2 rest code after found ih =>
    have stands := of_emojiCode? found
    have asIs : code.shown = code.source := by
      rw [EmojiCode.shown, noEmoji [] code after stands]
    have later : NoKnownEmoji after := by
      apply noEmoji.of_infix
      rw [stands]
      exact (List.suffix_append code.source after).isInfix
    rw [asIs, ih later, ← stands]
  | case3 rest noCode ih => rw [ih (noEmoji.of_infix (List.suffix_cons ':' rest).isInfix)]
  | case4 c rest notColon ih => rw [ih (noEmoji.of_infix (List.suffix_cons c rest).isInfix)]

/-- A text with at most one colon has no emoji codes. -/
theorem noKnownEmoji_of_count (few : cs.count ':' ≤ 1) : NoKnownEmoji cs := by
  rintro before code after rfl
  have ending : 1 ≤ code.presentation.ending.count ':' := by cases code.presentation <;> decide
  simp only [EmojiCode.source, List.count_append, List.cons_append, List.count_cons_self] at few
  omega

/-! ## Pieces -/

/-- A text in which brackets behind a backslash open tags, and no tag stands, has no such brackets. -/
theorem TagFree.unescaped (free : TagFree cs)
    (opens : ∀ before after, cs = before ++ '\\' :: '[' :: after → (tag? after).isSome) (before after : List Char) :
    cs ≠ before ++ '\\' :: '[' :: after := by
  intro split
  obtain ⟨⟨tag, rest⟩, found⟩ := Option.isSome_iff_exists.mp (opens before after split)
  obtain ⟨isTag, rfl⟩ := of_tag? found
  exact free (before ++ ['\\']) tag rest isTag (by simp [split])

/-- What opens a tag before another one is closed before that. -/
theorem opens_of_append {k : Nat}
    (opens : ∀ start rest, before ++ escapedTag k tag after = start ++ '\\' :: '[' :: rest → (tag? rest).isSome)
    (start rest : List Char) (split : before = start ++ '\\' :: '[' :: rest) : (tag? rest).isSome := by
  have found := opens start (rest ++ escapedTag k tag after) (by simp [split])
  obtain ⟨⟨inner, behind⟩, found⟩ := Option.isSome_iff_exists.mp found
  obtain ⟨isInner, whole⟩ := of_tag? found
  obtain ⟨w, rfl⟩ := exists_eq_of_append_escapedTag isInner.opening_notMem whole
  rw [tag?_append isInner]
  rfl

theorem withoutBracketEscapes_of_unescaped (unescaped : ∀ before after, cs ≠ before ++ '\\' :: '[' :: after) :
    withoutBracketEscapes cs = cs := by
  fun_induction withoutBracketEscapes cs with
  | case1 rest => exact absurd rfl (unescaped [] rest)
  | case2 c rest _ ih =>
    rw [ih]
    rintro before after rfl
    exact unescaped (c :: before) after rfl
  | case3 => rfl

/-- A piece of a text is shown as it is, when no bracket in it stands behind a backslash. -/
theorem shownPiece_of_unescaped (noEmoji : NoKnownEmoji cs)
    (unescaped : ∀ before after, cs ≠ before ++ '\\' :: '[' :: after) (printed : ∀ c ∈ cs, isStripped c = false) :
    shownPiece cs = cs := by
  rw [shownPiece, withoutBracketEscapes_of_unescaped unescaped, withEmoji_of_noKnownEmoji noEmoji]
  apply List.filter_eq_self.mpr
  intro c member
  simp [printed c member]

/-- In a tag with its brackets none of these is behind a backslash. -/
theorem IsTag.unescaped (isTag : IsTag tag) (before after : List Char) :
    '[' :: tag ++ [']'] ≠ before ++ '\\' :: '[' :: after := by
  intro split
  cases before with
  | nil => cases split
  | cons c before =>
    have inner : tag ++ [']'] = before ++ '\\' :: '[' :: after := (List.cons.inj split).2
    have inside : '[' ∈ tag ++ [']'] := by simp [inner]
    rcases List.mem_append.mp inside with inTag | closing
    · exact isTag.opening_notMem inTag
    · cases List.mem_singleton.mp closing

/-! ## Texts -/

/-- A text whose tags are escaped is shown as it was, but for emoji codes and for brackets behind backslashes
    that open no tag. -/
theorem shownText_escapeTags (noEmoji : NoKnownEmoji cs)
    (opens : ∀ before after, cs = before ++ '\\' :: '[' :: after → (tag? after).isSome)
    (printed : ∀ c ∈ cs, isStripped c = false) : shownText (escapeTags cs) = cs := by
  induction cs using induction_on_tags with
  | free cs free =>
    rw [escapeTags_of_tagFree free, shownText, markupParts_of_tagFree free]
    simp [MarkupPart.shown, shownPiece_of_unescaped noEmoji (free.unescaped opens) printed]
  | tag before k tag after isTag free last ih =>
    have whole : before ++ escapedTag k tag after =
        (before ++ List.replicate k '\\') ++ ('[' :: tag ++ [']']) ++ after := by
      simp [escapedTag]
    have first : shownPiece before = before := by
      apply shownPiece_of_unescaped (noEmoji.of_infix (List.prefix_append _ _).isInfix)
      · exact free.unescaped (opens_of_append opens)
      · exact fun c member => printed c (List.mem_append_left _ member)
    have middle : shownPiece ('[' :: tag ++ [']']) = '[' :: tag ++ [']'] := by
      rw [whole] at noEmoji printed
      apply shownPiece_of_unescaped (noEmoji.of_infix ⟨_, _, rfl⟩) isTag.unescaped
      intro c member
      exact printed c (List.mem_append_left _ (List.mem_append_right _ member))
    have rest : shownText (escapeTags after) = after := by
      rw [whole] at noEmoji printed opens
      apply ih (noEmoji.of_infix (List.suffix_append _ _).isInfix)
      · intro start behind split
        apply opens _ behind
        rw [split, ← List.append_assoc]
      · exact fun c member => printed c (List.mem_append_right _ member)
    -- Of the backslashes that escape the tag half are shown.
    have odd : (2 * k + 1) % 2 = 1 := by omega
    have half : (2 * k + 1) / 2 = k := by omega
    rw [escapeTags_append isTag free last, shownText, markupParts_append isTag free last, if_pos odd,
      List.flatMap_append, flatMap_shown_markupParts, rest, half, first, middle, whole]
    simp [MarkupPart.shown]

theorem endsWithLoneBackslash_append (before after : List Char) :
    endsWithLoneBackslash (before ++ ']' :: after) = endsWithLoneBackslash after := by
  have reversed : (before ++ ']' :: after).reverse = after.reverse ++ ']' :: before.reverse := by simp
  rw [endsWithLoneBackslash, endsWithLoneBackslash, reversed]
  rcases after.reverse with _ | ⟨c, _ | ⟨d, others⟩⟩
  · rfl
  · by_cases last : c = '\\'
    · subst last
      rfl
    · simp [last]
  · by_cases last : c = '\\'
    · subst last
      by_cases second : d = '\\'
      · subst second
        rfl
      · simp [second]
    · simp [last]

/-- Escaping tags leaves the end of a text as it is. -/
theorem endsWithLoneBackslash_escapeTags (cs : List Char) :
    endsWithLoneBackslash (escapeTags cs) = endsWithLoneBackslash cs := by
  induction cs using induction_on_tags with
  | free cs free => rw [escapeTags_of_tagFree free]
  | tag before k tag after isTag free last ih =>
    have moved (j : Nat) (rest : List Char) : before ++ escapedTag j tag rest =
        (before ++ List.replicate j '\\' ++ '[' :: tag) ++ ']' :: rest := by
      simp [escapedTag]
    rw [escapeTags_append isTag free last, moved, moved, endsWithLoneBackslash_append,
      endsWithLoneBackslash_append, ih]

theorem endsWithLoneBackslash_of_notMem (noBackslash : '\\' ∉ cs) : endsWithLoneBackslash cs = false := by
  have absent : '\\' ∉ cs.reverse := by rwa [List.mem_reverse]
  rw [endsWithLoneBackslash]
  split
  · rename_i whole
    simp [whole] at absent
  · rename_i whole
    simp [whole] at absent
  · rfl

/-- A text that is kept is shown as it was before it was escaped. -/
theorem shownText_escape (kept : IsKept cs) (printed : ∀ c ∈ cs, isStripped c = false) :
    shownText (escape cs) = cs := by
  rw [escape, endsWithLoneBackslash_escapeTags, kept.ending]
  exact shownText_escapeTags kept.noEmoji kept.opens printed

/-- A text without opening brackets and backslashes is not changed by escaping. -/
theorem escape_eq_self (noOpening : '[' ∉ cs) (noBackslash : '\\' ∉ cs) : escape cs = cs := by
  have free : TagFree cs := by simpa using TagFree.nil.append noOpening
  rw [escape, endsWithLoneBackslash_escapeTags, endsWithLoneBackslash_of_notMem noBackslash,
    escapeTags_of_tagFree free]
  rfl

/-- A text without backslashes and with at most one colon is kept. -/
theorem isKept_of_notMem (few : cs.count ':' ≤ 1) (noBackslash : '\\' ∉ cs) : IsKept cs where
  noEmoji := noKnownEmoji_of_count few
  opens before after split := by simp [split] at noBackslash
  ending := endsWithLoneBackslash_of_notMem noBackslash

/-- A line end behind a text is shown behind it. -/
theorem shownText_append_lineEnd (cs : List Char) : shownText (cs ++ ['\n']) = shownText cs ++ ['\n'] := by
  have nothing : shownPiece [] = [] := by simp [shownPiece, withoutBracketEscapes, withEmoji]
  induction cs using induction_on_tags with
  | free cs free =>
    rw [shownText, shownText, markupParts_of_tagFree free, markupParts_of_tagFree (free.append_right (by decide))]
    simp [MarkupPart.shown, shownPiece_append_blank (b := '\n') rfl rfl, nothing]
  | tag before k tag after isTag free last ih =>
    rw [List.append_assoc, escapedTag_append, shownText, shownText, markupParts_append isTag free last,
      markupParts_append isTag free last, List.flatMap_append, List.flatMap_append, flatMap_shown_markupParts,
      flatMap_shown_markupParts, ih, ← List.append_assoc]

/-- Words that are shown as they are, and a space, are shown so before any text. -/
theorem isShownAsIs_of_shownPiece (noOpening : '[' ∉ cs) (asIs : shownPiece cs = cs) :
    IsShownAsIs (cs ++ [' ']) where
  noOpening := by simp [noOpening]
  last := by simp
  shown rest := by
    rw [List.append_assoc, List.singleton_append, shownPiece_append_space, asIs]
    simp

/-- Behind such words an escaped text is shown, and a line end behind it. -/
theorem shown_escaped {markup : String} (asIs : IsShownAsIs before)
    (is : markup.toList = before ++ (escape cs ++ ['\n'])) :
    shown markup = .ok (before ++ (shownText (escape cs) ++ ['\n'])) := by
  have allEscaped : Escaped markup.toList := by
    rw [is]
    exact ((escaped_escape cs).append_right (by decide)).append asIs.noOpening asIs.last
  rw [shown_of_escaped allEscaped, is, shownText_append asIs, shownText_append_lineEnd]

end

end IssueTracker.Terminal
