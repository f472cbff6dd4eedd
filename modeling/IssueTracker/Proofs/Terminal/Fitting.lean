import IssueTracker.Proofs.Terminal.Line
import IssueTracker.Proofs.Text.Trim
import IssueTracker.Terminal.Table
import IssueTracker.Text.Quoted

/-!
# Text that fits on a line

A printable text that takes no more columns than there are stays on one line (`Arrangement.lines_of_fits`): the
columns of its words do not add up to more than its own (`width_add_le`).
-/

namespace IssueTracker.Terminal

/-- A text of characters with a printed form. -/
def IsPrintable (cs : List Char) : Prop := ∀ c ∈ cs, Text.isPrintable c

/-- A text of the ASCII characters with a printed form. -/
def IsPrintableAscii (cs : List Char) : Prop := ∀ c ∈ cs, 0x20 ≤ c.toNat ∧ c.toNat < 0x7F

instance (cs : List Char) : Decidable (IsPrintable cs) := List.decidableBAll _ cs

instance (cs : List Char) : Decidable (IsPrintableAscii cs) := List.decidableBAll _ cs

section
variable {cs before after : List Char} {m m' : Measure} {c : Char} {columns : Nat} {overflow : Overflow}

/-! ## Printable texts -/

theorem IsPrintable.notMem (printable : IsPrintable cs) (unprintable : Text.isPrintable c = false) : c ∉ cs := by
  intro member
  rw [printable c member] at unprintable
  cases unprintable

theorem IsPrintable.append (first : IsPrintable before) (second : IsPrintable after) :
    IsPrintable (before ++ after) := by
  intro c member
  rcases List.mem_append.mp member with left | right
  · exact first c left
  · exact second c right

/-- None of some characters without a printed form is in a printable text. -/
theorem IsPrintable.contains_eq_false (printable : IsPrintable cs) {codes : List Nat}
    (unprintable : ∀ code ∈ codes, Text.inRanges Text.unprintableRanges code) :
    ∀ c ∈ cs, codes.contains c.toNat = false := by
  intro c member
  by_contra found
  have isPrintable := printable c member
  have isCode : c.toNat ∈ codes := by simpa using found
  rw [Text.isPrintable, unprintable c.toNat isCode] at isPrintable
  cases isPrintable

theorem IsPrintable.isStripped_eq_false (printable : IsPrintable cs) : ∀ c ∈ cs, isStripped c = false :=
  printable.contains_eq_false (by decide)

theorem IsPrintable.endsLine_eq_false (printable : IsPrintable cs) : ∀ c ∈ cs, endsLine c = false :=
  printable.contains_eq_false (by decide +kernel)

theorem IsPrintableAscii.isPrintable (ascii : IsPrintableAscii cs) : IsPrintable cs := by
  have apart : ∀ range ∈ Text.unprintableRanges, range.2 < 0x20 ∨ 0x7F ≤ range.1 := by decide +kernel
  intro c member
  obtain ⟨least, most⟩ := ascii c member
  have outside : Text.inRanges Text.unprintableRanges c.toNat = false := by
    apply List.any_eq_false.mpr
    intro range isRange
    have := apart range isRange
    simp only [Bool.and_eq_true, decide_eq_true_eq]
    omega
  rw [Text.isPrintable, outside]
  rfl

/-! ## Columns -/

/-- A printable ASCII character takes one column. -/
theorem Measure.add_ascii {m : Measure} (notJoined : m.joined = false) (least : 0x20 ≤ c.toNat)
    (most : c.toNat < 0x7F) : m.add c = { m with columns := m.columns + 1, last := some c } := by
  have one : charWidth c = 1 := by
    rw [charWidth, if_pos (by omega), if_pos (Or.inl ⟨least, most⟩)]
  have apart (d : Char) (beyond : 0x7F ≤ d.toNat) : c ≠ d := by
    rintro rfl
    omega
  rw [Measure.add, notJoined, if_neg (by decide), if_neg (apart joiner (by decide)),
    if_neg (apart pictureSelector (by decide)), one, if_neg (by decide)]

theorem IsPrintableAscii.width_eq (ascii : IsPrintableAscii cs) : width cs = cs.length := by
  have each (m : Measure) (notJoined : m.joined = false) :
      (cs.foldl Measure.add m).columns = m.columns + cs.length := by
    induction cs generalizing m with
    | nil => rfl
    | cons c cs ih =>
      obtain ⟨least, most⟩ := ascii c List.mem_cons_self
      have rest := ih (fun d member => ascii d (List.mem_cons_of_mem _ member)) (m.add c)
      rw [Measure.add_ascii notJoined least most] at rest
      rw [List.foldl_cons, Measure.add_ascii notJoined least most, rest notJoined, List.length_cons]
      dsimp only
      omega
  exact (each {} rfl).trans (Nat.zero_add _)

theorem Measure.columns_le_add (m : Measure) (c : Char) : m.columns ≤ (m.add c).columns := by
  rw [add]
  split_ifs
  all_goals first | exact Nat.le_refl _ | exact Nat.le_add_right _ _

theorem columns_le_foldl (cs : List Char) (m : Measure) : m.columns ≤ (cs.foldl Measure.add m).columns := by
  induction cs generalizing m with
  | nil => exact Nat.le_refl _
  | cons c cs ih => exact Nat.le_trans (m.columns_le_add c) (ih (m.add c))

theorem width_le_append (before after : List Char) : width before ≤ width (before ++ after) := by
  rw [width, width, List.foldl_append]
  exact columns_le_foldl after _

/-- One measure follows another: nothing is joined in either, and it knows of no other character before. -/
structure Measure.Follows (m m' : Measure) : Prop where
  notJoined : m.joined = false
  notJoined' : m'.joined = false
  last : m.last = none ∨ m.last = m'.last

/-- A character adds no more columns to a measure than to one that it follows. -/
theorem Measure.Follows.add (follows : m.Follows m') (notJoiner : c ≠ joiner) :
    (m.add c).Follows (m'.add c) ∧ (m.add c).columns + m'.columns ≤ (m'.add c).columns + m.columns := by
  have gain : (m.last.map pictureGain).getD 0 ≤ (m'.last.map pictureGain).getD 0 := by
    rcases follows.last with unknown | same
    · rw [unknown]
      exact Nat.zero_le _
    · exact Nat.le_of_eq (by rw [same])
  have step (k : Measure) (notJoined : k.joined = false) : k.add c =
      if c = pictureSelector then
        { k with columns := k.columns + (k.last.map pictureGain).getD 0, last := none }
      else if charWidth c = 0 then k
      else { k with columns := k.columns + charWidth c, last := some c } := by
    rw [Measure.add, notJoined, if_neg (by decide), if_neg notJoiner]
  rw [step m follows.notJoined, step m' follows.notJoined']
  by_cases selector : c = pictureSelector
  · rw [if_pos selector, if_pos selector]
    exact ⟨⟨follows.notJoined, follows.notJoined', Or.inl rfl⟩, by dsimp only; omega⟩
  · rw [if_neg selector, if_neg selector]
    by_cases noColumn : charWidth c = 0
    · rw [if_pos noColumn, if_pos noColumn]
      exact ⟨follows, Nat.le_of_eq (Nat.add_comm _ _)⟩
    · rw [if_neg noColumn, if_neg noColumn]
      exact ⟨⟨follows.notJoined, follows.notJoined', Or.inr rfl⟩, by dsimp only; omega⟩

theorem Measure.Follows.foldl (follows : m.Follows m') (noJoiner : joiner ∉ cs) :
    (cs.foldl Measure.add m).Follows (cs.foldl Measure.add m') ∧
      (cs.foldl Measure.add m).columns + m'.columns ≤ (cs.foldl Measure.add m').columns + m.columns := by
  induction cs generalizing m m' with
  | nil => exact ⟨follows, Nat.le_of_eq (Nat.add_comm _ _)⟩
  | cons c cs ih =>
    simp only [List.mem_cons, not_or] at noJoiner
    obtain ⟨next, first⟩ := follows.add (Ne.symm noJoiner.1)
    obtain ⟨finally', rest⟩ := ih next noJoiner.2
    refine ⟨finally', ?_⟩
    rw [List.foldl_cons, List.foldl_cons]
    omega

/-- Two texts without joiners take no more columns than both together. -/
theorem width_add_le (noJoiner : joiner ∉ before) (noJoiner' : joiner ∉ after) :
    width before + width after ≤ width (before ++ after) := by
  have start : ({} : Measure).Follows {} := ⟨rfl, rfl, Or.inl rfl⟩
  obtain ⟨reached, _⟩ := start.foldl noJoiner
  have behind : ({} : Measure).Follows (before.foldl Measure.add {}) := ⟨rfl, reached.notJoined', Or.inl rfl⟩
  obtain ⟨_, most⟩ := behind.foldl noJoiner'
  rw [width, width, width, List.foldl_append]
  exact Nat.le_trans (Nat.le_of_eq (Nat.add_comm _ _)) most

theorem width_trimEnd_le (cs : List Char) : width (Text.trimEnd cs) ≤ width cs := by
  have whole : Text.trimEnd cs ++ (cs.reverse.takeWhile Text.isBlank).reverse = cs := by
    rw [Text.trimEnd, ← List.reverse_append, List.takeWhile_append_dropWhile, List.reverse_reverse]
  calc width (Text.trimEnd cs) ≤ width (Text.trimEnd cs ++ (cs.reverse.takeWhile Text.isBlank).reverse) :=
        width_le_append _ _
    _ = width cs := by rw [whole]

/-! ## One line -/

/-- Words that take no more columns together than there are stay on the open line. -/
theorem foldl_add_fits (overflow : Overflow) {words : List (List Char)} {l : Layout}
    (noJoiner : joiner ∉ words.flatten) (fits : l.used + width words.flatten ≤ columns) :
    ∃ used, words.foldl (Layout.add columns overflow) l = { l with line := l.line ++ words.flatten, used } := by
  induction words generalizing l with
  | nil => exact ⟨l.used, by simp⟩
  | cons word words ih =>
    rw [List.flatten_cons] at fits noJoiner
    simp only [List.mem_append, not_or] at noJoiner
    have both := width_add_le noJoiner.1 noJoiner.2
    have needed := width_trimEnd_le word
    have stays : Layout.add columns overflow l word =
        { l with line := l.line ++ word, used := l.used + width word } := by
      unfold Layout.add
      exact if_pos (by omega)
    obtain ⟨used, rest⟩ := ih (l := { l with line := l.line ++ word, used := l.used + width word }) noJoiner.2
      (by dsimp only; omega)
    exact ⟨used, by rw [List.foldl_cons, stays, rest, List.flatten_cons, List.append_assoc]⟩

theorem breakLine_of_fits (noJoiner : joiner ∉ cs) (fits : width cs ≤ columns) :
    breakLine columns overflow cs = [cs] := by
  have noJoiner' : joiner ∉ (lineWords cs).flatten := by rwa [flatten_lineWords]
  have fits' : ({} : Layout).used + width (lineWords cs).flatten ≤ columns := by
    rw [flatten_lineWords]
    simpa using fits
  obtain ⟨used, line⟩ := foldl_add_fits overflow noJoiner' fits'
  rw [breakLine, line, flatten_lineWords]
  rfl

/-- A line that ends with no blank has none to lose. -/
theorem withoutExcess_of_trimmed (filled : ∀ c, cs.getLast? = some c → Text.isBlank c = false) :
    withoutExcess columns cs = cs := by
  have none : cs.reverse.takeWhile Text.isBlank = [] := by
    cases reversed : cs.reverse with
    | nil => rfl
    | cons c others =>
      have last : cs.getLast? = some c := by rw [← List.head?_reverse, reversed, List.head?_cons]
      rw [List.takeWhile_cons_of_neg (by simp [filled c last])]
  rw [withoutExcess]
  simp [none]

theorem withoutTabs_of_notMem (noTab : '\t' ∉ cs) : withoutTabs cs = cs := by
  have single : Text.pieces (· == '\t') cs = [cs] := pieces_eq_singleton fun c member => by
    rw [beq_eq_false_iff_ne]
    rintro rfl
    exact noTab member
  rw [withoutTabs, single, joinAtStops]

/-- A text that fits takes one line; blanks at its end stay on a screen of as many columns as it has
    characters. -/
theorem Arrangement.lines_of_fits {a : Arrangement} (noJoiner : joiner ∉ cs) (noTab : '\t' ∉ cs)
    (fits : width cs ≤ a.columns)
    (ending : cs.length ≤ a.columns ∨ ∀ c, cs.getLast? = some c → Text.isBlank c = false) :
    a.lines cs = [a.align cs] := by
  have kept : withoutExcess a.columns cs = cs := ending.elim withoutExcess_short withoutExcess_of_trimmed
  rw [lines]
  simp only [withoutTabs_of_notMem noTab, breakLine_of_fits noJoiner fits]
  split <;> simp [kept]

theorem pieces_append_lineEnd (noLineEnd : '\n' ∉ before) (after : List Char) :
    Text.pieces (· == '\n') (before ++ '\n' :: after) = before :: Text.pieces (· == '\n') after := by
  induction before with
  | nil => rfl
  | cons c before ih =>
    simp only [List.mem_cons, not_or] at noLineEnd
    rw [List.cons_append, Text.pieces, if_neg (by simpa using Ne.symm noLineEnd.1), ih noLineEnd.2]

/-- A line and what is behind its end are laid out apart. -/
theorem Arrangement.layOut_append_lineEnd (a : Arrangement) (noLineEnd : '\n' ∉ before) (after : List Char) :
    a.layOut (before ++ '\n' :: after) = a.lines before ++ a.layOut after := by
  rw [layOut, pieces_append_lineEnd noLineEnd, List.flatMap_cons, layOut]

end

end IssueTracker.Terminal
