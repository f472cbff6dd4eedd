import Mathlib.Data.List.Basic
import IssueTracker.Proofs.Outcome
import IssueTracker.Terminal.Markup

/-!
# Escaped text in markup

The first tag of a text is one behind all its backslashes, with no tag before it (`of_firstTag?`,
`firstTag?_append`): neither the number of the backslashes nor what follows counts.  Escaping makes
that number odd for every tag, so escaped text opens and closes nothing, also behind words without
brackets (`Escaped.append`), and is shown behind an error label whatever it says (`shown_error`).
-/

namespace IssueTracker.Terminal

/-! ## Where tags stand -/

/-- A tag without its brackets: it starts with a character that tags start with, and no bracket
    follows. -/
def IsTag (tag : List Char) : Prop :=
  ∃ first others, tag = first :: others ∧ startsTag first ∧ ']' ∉ others ∧ '[' ∉ others

/-- A text in which no tag stands, behind backslashes or not. -/
def TagFree (cs : List Char) : Prop :=
  ∀ before tag after, IsTag tag → cs ≠ before ++ '[' :: (tag ++ ']' :: after)

section
variable {cs tag after before : List Char} {c : Char} {k : Nat} {place : TagPlace}

theorem IsTag.opening_notMem (isTag : IsTag tag) : '[' ∉ tag := by
  obtain ⟨first, others, rfl, starts, _, noOpening⟩ := isTag
  have other : '[' ≠ first := by
    rintro rfl
    revert starts
    decide
  simp [other, noOpening]

theorem TagFree.nil : TagFree [] := by
  intro before tag after _ split
  simp at split

theorem TagFree.of_cons (free : TagFree (c :: cs)) : TagFree cs := by
  rintro before tag after isTag rfl
  exact free (c :: before) tag after isTag rfl

theorem upToBracket_append (noClosing : ']' ∉ tag) (noOpening : '[' ∉ tag) :
    upToBracket (tag ++ ']' :: after) = some (tag, after) := by
  induction tag with
  | nil => rfl
  | cons c tag ih =>
    simp only [List.mem_cons, not_or] at noClosing noOpening
    simp [upToBracket, Ne.symm noClosing.1, Ne.symm noOpening.1, ih noClosing.2 noOpening.2]

theorem of_upToBracket (found : upToBracket cs = some (tag, after)) :
    ']' ∉ tag ∧ '[' ∉ tag ∧ cs = tag ++ ']' :: after := by
  induction cs generalizing tag with
  | nil => cases found
  | cons c cs ih =>
    rw [upToBracket] at found
    by_cases closes : c = ']'
    · rw [if_pos closes] at found
      cases found
      simp [closes]
    · rw [if_neg closes] at found
      by_cases opens : c = '['
      · rw [if_pos opens] at found
        cases found
      · rw [if_neg opens] at found
        obtain ⟨⟨inner, rest⟩, inside, same⟩ := Option.map_eq_some_iff.mp found
        cases same
        obtain ⟨noClosing, noOpening, rfl⟩ := ih inside
        simp [noClosing, noOpening, Ne.symm closes, Ne.symm opens]

theorem tag?_append (isTag : IsTag tag) : tag? (tag ++ ']' :: after) = some (tag, after) := by
  obtain ⟨first, others, rfl, starts, noClosing, noOpening⟩ := isTag
  simp [tag?, starts, upToBracket_append noClosing noOpening]

theorem of_tag? (found : tag? cs = some (tag, after)) :
    IsTag tag ∧ cs = tag ++ ']' :: after := by
  cases cs with
  | nil => cases found
  | cons c cs =>
    rw [tag?] at found
    split at found
    · rename_i starts
      obtain ⟨⟨others, rest⟩, inside, same⟩ := Option.map_eq_some_iff.mp found
      cases same
      obtain ⟨noClosing, noOpening, rfl⟩ := of_upToBracket inside
      exact ⟨⟨c, others, rfl, starts, noClosing, noOpening⟩, rfl⟩
    · cases found

/-- A tag and the backslashes before it. -/
def escapedTag (k : Nat) (tag after : List Char) : List Char :=
  List.replicate k '\\' ++ '[' :: (tag ++ ']' :: after)

theorem tagHere?_escapedTag (isTag : IsTag tag) :
    tagHere? (escapedTag k tag after) = some ⟨[], k, tag, after⟩ := by
  have dropped : (escapedTag k tag after).dropWhile (· == '\\') = '[' :: (tag ++ ']' :: after) := by
    rw [escapedTag, List.dropWhile_append_of_pos (by simp), List.dropWhile_cons_of_neg (by decide)]
  have taken : (escapedTag k tag after).takeWhile (· == '\\') = List.replicate k '\\' := by
    rw [escapedTag, List.takeWhile_append_of_pos (by simp), List.takeWhile_cons_of_neg (by decide),
      List.append_nil]
  simp [tagHere?, dropped, taken, tag?_append isTag]

theorem of_tagHere? (found : tagHere? cs = some place) : place.before = [] ∧ IsTag place.tag ∧
    cs = escapedTag place.backslashes place.tag place.after := by
  rw [tagHere?] at found
  split at found
  · rename_i inside dropped
    obtain ⟨⟨tag, after⟩, here, rfl⟩ := Option.map_eq_some_iff.mp found
    obtain ⟨isTag, rfl⟩ := of_tag? here
    have backslashes : cs.takeWhile (· == '\\') =
        List.replicate (cs.takeWhile (· == '\\')).length '\\' := by
      refine List.eq_replicate_of_mem fun c member => ?_
      simpa using List.all_eq_true.mp List.all_takeWhile c member
    refine ⟨rfl, isTag, ?_⟩
    rw [escapedTag, ← backslashes, ← dropped, List.takeWhile_append_dropWhile]
  · cases found

theorem firstTag?_of_tagHere? (found : tagHere? cs = some place) : firstTag? cs = some place := by
  cases cs with
  | nil => cases found
  | cons c cs => rw [firstTag?, found]

/-- A bracket that closes a tag stands before the next tag. -/
theorem exists_eq_of_append_escapedTag {t a : List Char} (noOpening : '[' ∉ t)
    (same : before ++ escapedTag k tag after = t ++ ']' :: a) : ∃ w, before = t ++ ']' :: w := by
  induction t generalizing before k with
  | nil =>
    cases before with
    | nil => cases k <;> cases same
    | cons b before =>
      cases same
      exact ⟨before, rfl⟩
  | cons x t ih =>
    simp only [List.mem_cons, not_or] at noOpening
    cases before with
    | nil =>
      cases k with
      | zero => exact absurd (List.cons.inj same).1 noOpening.1
      | succ k =>
        have inside : [] ++ escapedTag k tag after = t ++ ']' :: a := (List.cons.inj same).2
        obtain ⟨w, split⟩ := ih noOpening.2 inside
        simp at split
    | cons b before =>
      obtain ⟨rfl, rest⟩ := List.cons.inj same
      obtain ⟨w, rfl⟩ := ih noOpening.2 rest
      exact ⟨w, rfl⟩

/-- A tag with no other before it is found, behind any number of backslashes. -/
theorem firstTag?_append (isTag : IsTag tag) (free : TagFree before)
    (last : before.getLast? ≠ some '\\') :
    firstTag? (before ++ escapedTag k tag after) = some ⟨before, k, tag, after⟩ := by
  induction before with
  | nil => exact firstTag?_of_tagHere? (tagHere?_escapedTag isTag)
  | cons c before ih =>
    have rest := ih free.of_cons fun same => last (by simp [List.getLast?_cons, same])
    have notHere : tagHere? (c :: (before ++ escapedTag k tag after)) = none := by
      by_contra found
      obtain ⟨⟨_, j, t, a⟩, found⟩ := Option.ne_none_iff_exists'.mp found
      obtain ⟨_, isTag', split⟩ := of_tagHere? found
      cases j with
      | zero =>
        obtain ⟨rfl, same⟩ := List.cons.inj split
        obtain ⟨w, rfl⟩ := exists_eq_of_append_escapedTag isTag'.opening_notMem same
        exact free [] t w isTag' rfl
      | succ j =>
        -- A backslash more would belong to a tag that the rest starts with.
        obtain ⟨rfl, same⟩ := List.cons.inj split
        have here : firstTag? (escapedTag j t a) = _ :=
          firstTag?_of_tagHere? (tagHere?_escapedTag isTag')
        have same : before ++ escapedTag k tag after = escapedTag j t a := same
        rw [same, here] at rest
        cases rest
        exact last rfl
    rw [List.cons_append, firstTag?, notHere, rest]
    rfl

theorem of_firstTag? (found : firstTag? cs = some place) :
    cs = place.before ++ escapedTag place.backslashes place.tag place.after ∧ IsTag place.tag ∧
      TagFree place.before ∧ place.before.getLast? ≠ some '\\' := by
  induction cs generalizing place with
  | nil => cases found
  | cons c cs ih =>
    rw [firstTag?] at found
    cases here : tagHere? (c :: cs) with
    | some p =>
      rw [here] at found
      cases found
      obtain ⟨start, isTag, split⟩ := of_tagHere? here
      rw [start]
      exact ⟨split, isTag, .nil, by simp⟩
    | none =>
      rw [here] at found
      obtain ⟨⟨before, k, tag, after⟩, later, rfl⟩ := Option.map_eq_some_iff.mp found
      obtain ⟨rfl, isTag, free, last⟩ := ih later
      have notHere (j : Nat) {t a : List Char} (isTag' : IsTag t)
          (same : c :: (before ++ escapedTag k tag after) = escapedTag j t a) : False := by
        rw [same, tagHere?_escapedTag isTag'] at here
        cases here
      refine ⟨rfl, isTag, ?_, ?_⟩
      · intro b t a isTag' split
        cases b with
        | nil =>
          obtain ⟨rfl, rfl⟩ := List.cons.inj split
          have same : '[' :: (t ++ ']' :: a ++ escapedTag k tag after) =
              escapedTag 0 t (a ++ escapedTag k tag after) := by simp [escapedTag]
          exact notHere 0 isTag' same
        | cons b bs => exact free bs t a isTag' (List.cons.inj split).2
      · intro same
        cases before with
        | nil =>
          cases same
          exact notHere (k + 1) isTag rfl
        | cons b bs =>
          rw [List.getLast?_cons_cons] at same
          exact last same

theorem firstTag?_eq_none_iff : firstTag? cs = none ↔ TagFree cs := by
  constructor
  · rintro none before tag after isTag rfl
    induction before with
    | nil =>
      have here : firstTag? (escapedTag 0 tag after) = _ :=
        firstTag?_of_tagHere? (tagHere?_escapedTag isTag)
      cases here.symm.trans none
    | cons c before ih =>
      rw [List.cons_append, firstTag?] at none
      split at none
      · cases none
      · exact ih (Option.map_eq_none_iff.mp none)
  · intro free
    by_contra found
    obtain ⟨place, found⟩ := Option.ne_none_iff_exists'.mp found
    obtain ⟨split, isTag, _⟩ := of_firstTag? found
    refine free (place.before ++ List.replicate place.backslashes '\\') place.tag place.after isTag ?_
    rw [split, escapedTag, List.append_assoc]

end

/-- A text has no tags, or a first one and a text behind it. -/
@[elab_as_elim]
theorem induction_on_tags {P : List Char → Prop} (cs : List Char) (free : ∀ cs, TagFree cs → P cs)
    (tag : ∀ before k tag after, IsTag tag → TagFree before → before.getLast? ≠ some '\\' → P after →
      P (before ++ escapedTag k tag after)) : P cs := by
  induction cs using escapeTags.induct with
  | case1 cs none => exact free cs (firstTag?_eq_none_iff.mp none)
  | case2 cs place found ih =>
    obtain ⟨split, isTag, noTag, last⟩ := of_firstTag? found
    rw [split]
    exact tag place.before place.backslashes place.tag place.after isTag noTag last ih

/-! ## Parts -/

/-- A part of markup that is text. -/
def MarkupPart.IsText : MarkupPart → Prop
  | text _ => True
  | tag .. => False

/-- The text that markup shows, whatever its tags mean. -/
def shownText (cs : List Char) : List Char := (markupParts 0 cs).flatMap MarkupPart.shown

section
variable {cs tag after before words : List Char} {k position : Nat}

theorem markupParts_of_tagFree (free : TagFree cs) :
    markupParts position cs = [.text (shownPiece cs)] := by
  rw [markupParts]
  split
  · rfl
  · rename_i found
    rw [firstTag?_eq_none_iff.mpr free] at found
    cases found

theorem markupParts_append (isTag : IsTag tag) (free : TagFree before)
    (last : before.getLast? ≠ some '\\') :
    markupParts position (before ++ escapedTag k tag after) =
      (if k % 2 = 1 then
        [.text (shownPiece before ++ List.replicate (k / 2) '\\' ++ shownPiece ('[' :: tag ++ [']']))]
      else
        [.text (shownPiece before ++ List.replicate (k / 2) '\\'),
          .tag tag (position + before.length + k)]) ++
      markupParts (position + before.length + k + tag.length + 2) after := by
  have first : firstTag? (before ++ escapedTag k tag after) = _ := firstTag?_append isTag free last
  rw [markupParts]
  split
  · rename_i none
    cases first.symm.trans none
  · rename_i place found
    cases first.symm.trans found
    dsimp only
    split <;> rfl

/-- Where markup begins does not count for what it shows. -/
theorem flatMap_shown_markupParts :
    (markupParts position cs).flatMap MarkupPart.shown = shownText cs := by
  unfold shownText
  generalize 0 = other
  -- Both begin at the same first tag; the induction is on what stands behind it.
  induction cs using induction_on_tags generalizing position other with
  | free cs free => rw [markupParts_of_tagFree free, markupParts_of_tagFree free]
  | tag before k tag after isTag free last ih =>
    rw [markupParts_append isTag free last, markupParts_append isTag free last, List.flatMap_append,
      List.flatMap_append, ih]
    split_ifs <;> rfl

end

/-! ## Escaping -/

/-- Text in which every tag is escaped. -/
inductive Escaped : List Char → Prop
  | free {cs : List Char} (free : TagFree cs) : Escaped cs
  | tag {before tag after : List Char} {k : Nat} (isTag : IsTag tag) (free : TagFree before)
      (last : before.getLast? ≠ some '\\') (odd : k % 2 = 1) (rest : Escaped after) :
      Escaped (before ++ escapedTag k tag after)

section
variable {cs words : List Char}

theorem TagFree.append (noOpening : '[' ∉ words) (free : TagFree cs) : TagFree (words ++ cs) := by
  induction words with
  | nil => exact free
  | cons w words ih =>
    simp only [List.mem_cons, not_or] at noOpening
    intro before tag after isTag split
    cases before with
    | nil => exact noOpening.1 (List.cons.inj split).1.symm
    | cons b before => exact ih noOpening.2 before tag after isTag (List.cons.inj split).2

/-- A text without closing brackets closes no tag of the text before it. -/
theorem TagFree.append_right (free : TagFree cs) (noClosing : ']' ∉ words) : TagFree (cs ++ words) := by
  intro before tag after isTag split
  have moved : before ++ '[' :: (tag ++ ']' :: after) = before ++ '[' :: tag ++ [']'] ++ after := by simp
  rcases List.append_eq_append_iff.mp (split.trans moved) with ⟨inner, whole, other⟩ | ⟨behind, whole, _⟩
  · rcases List.eq_nil_or_concat inner with rfl | ⟨inner, c, rfl⟩
    · exact free before tag [] isTag (by simpa using whole.symm)
    · -- The bracket that closes the tag would be in the text behind.
      have closing : c = ']' := by
        have last := congrArg List.getLast? whole
        rw [List.getLast?_concat, List.concat_eq_append, ← List.append_assoc, List.getLast?_concat] at last
        exact (Option.some.inj last).symm
      exact noClosing (by simp [other, closing])
  · exact free before tag behind isTag (by simpa using whole)

theorem escapedTag_append {tag after : List Char} {k : Nat} :
    escapedTag k tag after ++ words = escapedTag k tag (after ++ words) := by
  simp [escapedTag]

/-- A text without closing brackets behind escaped text leaves it escaped. -/
theorem Escaped.append_right (escaped : Escaped cs) (noClosing : ']' ∉ words) : Escaped (cs ++ words) := by
  induction escaped with
  | free free => exact .free (free.append_right noClosing)
  | tag isTag free last odd rest ih =>
    rw [List.append_assoc, escapedTag_append]
    exact .tag isTag free last odd ih

theorem getLast?_append_ne {before : List Char} (last : words.getLast? ≠ some '\\')
    (last' : before.getLast? ≠ some '\\') : (words ++ before).getLast? ≠ some '\\' := by
  rw [List.getLast?_append]
  intro same
  rcases Option.or_eq_some_iff.mp same with inner | ⟨_, outer⟩
  · exact last' inner
  · exact last outer

/-- Words without brackets before escaped text open no tag. -/
theorem Escaped.append (escaped : Escaped cs) (noOpening : '[' ∉ words)
    (last : words.getLast? ≠ some '\\') : Escaped (words ++ cs) := by
  cases escaped with
  | free free => exact .free (free.append noOpening)
  | @tag before tag after k isTag free last' odd rest =>
    rw [← List.append_assoc]
    exact .tag isTag (free.append noOpening) (getLast?_append_ne last last') odd rest

theorem escapeTags_of_tagFree (free : TagFree cs) : escapeTags cs = cs := by
  rw [escapeTags]
  split
  · rfl
  · rename_i found
    cases (firstTag?_eq_none_iff.mpr free).symm.trans found

theorem escapeTags_append {before tag after : List Char} {k : Nat} (isTag : IsTag tag) (free : TagFree before)
    (last : before.getLast? ≠ some '\\') : escapeTags (before ++ escapedTag k tag after) =
      before ++ escapedTag (2 * k + 1) tag (escapeTags after) := by
  have first : firstTag? (before ++ escapedTag k tag after) = _ := firstTag?_append isTag free last
  rw [escapeTags]
  split
  · rename_i none
    cases first.symm.trans none
  · rename_i place found
    cases first.symm.trans found
    simp [escapedTag]

theorem escaped_escapeTags (cs : List Char) : Escaped (escapeTags cs) := by
  induction cs using induction_on_tags with
  | free cs free =>
    rw [escapeTags_of_tagFree free]
    exact .free free
  | tag before k tag after isTag free last ih =>
    rw [escapeTags_append isTag free last]
    exact .tag isTag free last (by omega) ih

theorem escaped_escape (cs : List Char) : Escaped (escape cs) := by
  unfold escape
  extract_lets escaped
  split
  · exact (escaped_escapeTags cs).append_right (by decide)
  · exact escaped_escapeTags cs

theorem Escaped.isText (escaped : Escaped cs) {position : Nat} :
    ∀ part ∈ markupParts position cs, part.IsText := by
  induction escaped generalizing position with
  | free free => simp [markupParts_of_tagFree free, MarkupPart.IsText]
  | tag isTag free last odd rest ih =>
    rw [markupParts_append isTag free last, if_pos odd]
    intro part member
    rcases List.mem_append.mp member with first | later
    · rw [List.mem_singleton.mp first]
      trivial
    · exact ih part later

end

/-! ## Showing -/

/-- Words that are shown as they are before any text. -/
structure IsShownAsIs (words : List Char) : Prop where
  noOpening : '[' ∉ words
  last : words.getLast? ≠ some '\\'
  shown : ∀ cs, shownPiece (words ++ cs) = words ++ shownPiece cs

/-- A colon before a space begins no emoji code. -/
theorem withEmoji_colon_space (cs : List Char) :
    withEmoji (':' :: ' ' :: cs) = ':' :: ' ' :: withEmoji cs := by
  have none : emojiCode? (' ' :: cs) = none := rfl
  rw [withEmoji, if_pos rfl]
  split
  · rename_i found
    cases none.symm.trans found
  · rw [withEmoji, if_neg (by decide)]

theorem shownText_append {words cs : List Char} (asIs : IsShownAsIs words) :
    shownText (words ++ cs) = words ++ shownText cs := by
  unfold shownText
  cases first : firstTag? cs with
  | none =>
    have free := firstTag?_eq_none_iff.mp first
    rw [markupParts_of_tagFree free, markupParts_of_tagFree (free.append asIs.noOpening)]
    simp [MarkupPart.shown, asIs.shown]
  | some place =>
    obtain ⟨split, isTag, free, last⟩ := of_firstTag? first
    rw [split, ← List.append_assoc, markupParts_append isTag free last,
      markupParts_append isTag (free.append asIs.noOpening) (getLast?_append_ne asIs.last last),
      List.flatMap_append, List.flatMap_append, flatMap_shown_markupParts, flatMap_shown_markupParts]
    split_ifs <;> simp [MarkupPart.shown, asIs.shown]

theorem foldlM_after_texts {parts : List MarkupPart} (texts : ∀ part ∈ parts, part.IsText)
    (s : Styling) : ∃ n, parts.foldlM Styling.after s = .ok { s with length := n } := by
  induction parts generalizing s with
  | nil => exact ⟨s.length, rfl⟩
  | cons part parts ih =>
    cases part with
    | text shown =>
      obtain ⟨n, rest⟩ := ih (fun p member => texts p (List.mem_cons_of_mem _ member))
        { s with length := s.length + shown.length }
      exact ⟨n, by rw [List.foldlM_cons]; exact rest⟩
    | tag content position => exact absurd (texts _ List.mem_cons_self) id

theorem shareFault?_eq_none {text : List Char} {spans : List Span}
    (each : ∀ s ∈ spans, ∃ d, styleOf? s.definition = .ok d) : shareFault? text spans = none := by
  unfold shareFault?
  extract_lets faults earlier
  have none : faults = [] := by
    refine List.filterMap_eq_nil_iff.mpr fun s member => ?_
    obtain ⟨d, style⟩ := each s (List.mem_filter.mp member).1
    rw [style]
  rw [none]
  rfl

/-- A text in which every tag is escaped is shown, in no style. -/
theorem shown_of_escaped {markup : String} (escaped : Escaped markup.toList) :
    shown markup = .ok (shownText markup.toList) := by
  have isText : ∀ part ∈ markupParts 0 markup.toList, part.IsText := escaped.isText
  obtain ⟨n, styled⟩ := foldlM_after_texts isText {}
  have noFault (text : List Char) : shareFault? text ({ length := n } : Styling).spans = none :=
    shareFault?_eq_none (by simp [Styling.spans])
  rw [shown, styled]
  simp only [bind, Except.bind, noFault]
  rfl

theorem styleName_boldRed : styleName "bold red".toList = .ok "bold red" :=
  toOption_eq_some.mp (by decide +kernel)

/-- The tags of an error label are opened and closed again. -/
theorem foldlM_after_label : [MarkupPart.text [], .tag "bold red".toList 0, .text "Error:".toList,
    .tag ['/'] 16].foldlM Styling.after {} =
      .ok { length := 6, opened := [], closed := [⟨0, 6, "bold red".toList⟩] } := by
  have start : Styling.after {} (.text []) = .ok {} := rfl
  have opening : Styling.after {} (.tag "bold red".toList 0) =
      .ok { opened := [⟨0, "bold red", none⟩] } := by
    have plain : "bold red".toList.takeWhile (· != '=') = "bold red".toList := by decide
    unfold Styling.after
    dsimp only
    rw [plain]
    split
    · rename_i same
      cases same
    · rename_i same
      rw [styleName_boldRed]
      rfl
  have word : Styling.after { opened := [⟨0, "bold red", none⟩] } (.text "Error:".toList) =
      .ok { length := 6, opened := [⟨0, "bold red", none⟩] } := rfl
  have closing : Styling.after { length := 6, opened := [⟨0, "bold red", none⟩] } (.tag ['/'] 16) =
      .ok { length := 6, opened := [], closed := [⟨0, 6, "bold red".toList⟩] } := rfl
  simp only [List.foldlM_cons, List.foldlM_nil, start, opening, word, closing, bind, Except.bind]
  rfl

theorem markupParts_label (cs : List Char) :
    markupParts 0 ("[bold red]Error:[/]".toList ++ cs) =
      [.text [], .tag "bold red".toList 0, .text "Error:".toList, .tag ['/'] 16] ++
        markupParts 19 cs := by
  have bold : IsTag "bold red".toList := ⟨'b', "old red".toList, rfl, by decide, by decide, by decide⟩
  have closing : IsTag ['/'] := ⟨'/', [], rfl, by decide, by decide, by decide⟩
  have label : TagFree "Error:".toList := firstTag?_eq_none_iff.mp rfl
  have nothing : shownPiece [] = [] := by simp [shownPiece, withoutBracketEscapes, withEmoji]
  have word : shownPiece "Error:".toList = "Error:".toList := by
    simp [shownPiece, withoutBracketEscapes, withEmoji, emojiCode?, isStripped]
  have tags : "[bold red]Error:[/]".toList ++ cs =
      [] ++ escapedTag 0 "bold red".toList ("Error:".toList ++ escapedTag 0 ['/'] cs) := rfl
  rw [tags, markupParts_append bold .nil (by simp), markupParts_append closing label (by decide),
    nothing, word]
  rfl

/-- An error label is shown, and behind it a text in which every tag is escaped. -/
theorem shown_error_of_escaped {message : String} (escaped : Escaped message.toList) :
    shown ("[bold red]Error:[/] " ++ message) =
      .ok ("Error:".toList ++ shownText (' ' :: message.toList)) := by
  have split : ("[bold red]Error:[/] " ++ message).toList =
      "[bold red]Error:[/]".toList ++ ' ' :: message.toList := by
    simp
  have texts : ∀ part ∈ markupParts 19 ([' '] ++ message.toList), part.IsText :=
    (escaped.append (by simp) (by simp)).isText
  obtain ⟨n, styled⟩ := foldlM_after_texts texts
    { length := 6, opened := [], closed := [⟨0, 6, "bold red".toList⟩] }
  obtain ⟨d, style, _⟩ := bind_eq_ok.mp styleName_boldRed
  have noFault (text : List Char) : shareFault? text
      ({ length := n, opened := [], closed := [⟨0, 6, "bold red".toList⟩] } : Styling).spans =
        none := by
    refine shareFault?_eq_none fun s member => ⟨d, ?_⟩
    rw [List.mem_singleton.mp member, style]
  rw [List.singleton_append] at styled
  rw [shown, split, markupParts_label, List.foldlM_append, foldlM_after_label]
  simp only [bind, Except.bind, styled, noFault, List.flatMap_append, flatMap_shown_markupParts]
  simp [MarkupPart.shown, pure, Except.pure]

/-- An error label is shown, and behind it words that are shown as they are and the text that is
    escaped. -/
theorem shown_error {about message : String} (asIs : IsShownAsIs (' ' :: about.toList)) :
    shown ("[bold red]Error:[/] " ++ (about ++ escaped message)) =
      .ok ("Error: ".toList ++ about.toList ++ shownText (escape message.toList)) := by
  have noOpening : '[' ∉ about.toList := fun member => asIs.noOpening (List.mem_cons_of_mem _ member)
  have last : about.toList.getLast? ≠ some '\\' := by
    intro ends
    refine asIs.last ?_
    rw [List.getLast?_cons, ends]
    rfl
  have whole : (about ++ escaped message).toList = about.toList ++ escape message.toList := by
    simp [escaped]
  have text : shownText (' ' :: about.toList ++ escape message.toList) =
      ' ' :: about.toList ++ shownText (escape message.toList) := shownText_append asIs
  rw [List.cons_append] at text
  rw [shown_error_of_escaped (whole ▸ (escaped_escape message.toList).append noOpening last), whole, text]
  simp

/-- A space is shown as it is. -/
theorem isShownAsIs_space : IsShownAsIs [' '] where
  noOpening := by decide
  last := by decide
  shown cs := by simp [shownPiece, withoutBracketEscapes, withEmoji, isStripped]

/-- An error label is shown, and behind it a text without opening brackets. -/
theorem shown_error_plain {message : String} (plain : '[' ∉ message.toList) :
    shown ("[bold red]Error:[/] " ++ message) = .ok ("Error: ".toList ++ shownText message.toList) := by
  have free : TagFree message.toList := by
    have whole := TagFree.nil.append plain
    rwa [List.append_nil] at whole
  have space : shownText ([' '] ++ message.toList) = [' '] ++ shownText message.toList :=
    shownText_append isShownAsIs_space
  rw [List.singleton_append] at space
  rw [shown_error_of_escaped (.free free), space]
  rfl

end IssueTracker.Terminal
