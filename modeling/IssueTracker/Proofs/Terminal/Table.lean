import IssueTracker.Proofs.Terminal.Fitting

/-!
# Rows of tables

A column is as wide as the widest of its texts, so a printable text takes one line of its cell, with spaces behind
it (`Table.cells_of_fits`).  A row of such cells is one line of the table, in which they stand between the
dividers (`Table.mem_lines`).
-/

namespace IssueTracker.Terminal

/-- A text that takes one line where there are enough columns: it is printable and ends with no blank. -/
structure IsOneLine (cs : List Char) : Prop where
  printable : IsPrintable cs
  ending : ∀ c, cs.getLast? = some c → Text.isBlank c = false

section
variable {cs : List Char} {columns : Nat}

theorem le_foldl_max {n start : Nat} {ns : List Nat} (member : n ≤ start ∨ n ∈ ns) : n ≤ ns.foldl max start := by
  induction ns generalizing start with
  | nil => exact member.resolve_right (by simp)
  | cons m ns ih =>
    rw [List.foldl_cons]
    rcases member with less | member
    · exact ih (Or.inl (Nat.le_trans less (Nat.le_max_left start m)))
    · rcases List.mem_cons.mp member with rfl | later
      · exact ih (Or.inl (Nat.le_max_right start n))
      · exact ih (Or.inr later)

theorem foldl_max_eq {start : Nat} {ns : List Nat} (each : ∀ n ∈ ns, n ≤ start) : ns.foldl max start = start := by
  induction ns with
  | nil => rfl
  | cons m ns ih =>
    rw [List.foldl_cons, Nat.max_eq_left (each m List.mem_cons_self)]
    exact ih fun n member => each n (List.mem_cons_of_mem _ member)

/-! ## Cells -/

theorem IsOneLine.textWidth_eq (oneLine : IsOneLine cs) : textWidth cs = width cs := by
  rw [textWidth, pieces_eq_singleton oneLine.printable.endsLine_eq_false]
  simp

/-- In a cell that is wide enough a text stands at the left. -/
theorem IsOneLine.layOut_eq (oneLine : IsOneLine cs) {a : Arrangement} (left : a.alignment = .left)
    (fits : width cs ≤ a.columns) : a.layOut cs = [fill a.columns cs] := by
  have noJoiner := oneLine.printable.notMem (c := joiner) (by decide +kernel)
  have noTab := oneLine.printable.notMem (c := '\t') (by decide +kernel)
  have single : Text.pieces (· == '\n') cs = [cs] := pieces_eq_singleton fun c member => by
    rw [beq_eq_false_iff_ne]
    rintro rfl
    exact oneLine.printable.notMem (by decide +kernel) member
  rw [Arrangement.layOut, single, List.flatMap_singleton,
    Arrangement.lines_of_fits noJoiner noTab fits (Or.inr oneLine.ending), Arrangement.align, left]
  simp only [fit, if_pos fits]

/-- Filling a text twice is putting spaces behind it. -/
theorem fill_fill (columns : Nat) (cs : List Char) : fill columns (fill columns cs) =
    cs ++ spaces ((columns - width cs) + (columns - width (fill columns cs))) := by
  conv_lhs => rw [fill]
  rw [fill, spaces, spaces, spaces, List.append_assoc, List.replicate_append_replicate]

end

namespace Table
variable {α : Type} {t : Table α} {column : Column α} {c : Cells} {x : α} {i : Nat} {text : List Char}

/-- How many rows stand before those of the items. -/
def headerRows (t : Table α) : Nat := if t.hasHeader then 1 else 0

/-- The cell about an item holds its text, which takes one line of the column. -/
theorem cells_of_fits (shows : t.cells column = .ok c) (there : t.items[i]? = some x)
    (cell : shown (column.cell x) = .ok text) (left : column.alignment = .left) (oneLine : IsOneLine text) :
    c.cells[t.headerRows + i]? = some [fill c.width text] := by
  obtain ⟨texts, each, built⟩ := bind_eq_ok.mp shows
  have about : ((if t.hasHeader then [column.header] else []) ++ t.items.map column.cell)[t.headerRows + i]? =
      some (column.cell x) := by
    rw [headerRows]
    split <;> simp [there, Nat.add_comm 1 i]
  obtain ⟨text', isText, same⟩ := exists_getElem?_of_mapM each about
  rw [cell] at same
  cases same
  cases built
  have widest : width text ≤ (texts.map textWidth).foldl max 0 := by
    rw [← oneLine.textWidth_eq]
    exact le_foldl_max (Or.inr (List.mem_map_of_mem (List.mem_of_getElem? isText)))
  rw [List.getElem?_map, isText, Option.map_some]
  exact congrArg some (oneLine.layOut_eq left widest)

/-! ## Rows -/

/-- A row in which each cell takes one line is one line. -/
theorem row_of_lines (edge divider : Char) (parts : List (Nat × List Char)) :
    row edge divider (parts.map Prod.fst) (parts.map fun part => [fill part.1 part.2]) =
      [between edge divider edge (parts.map fun part => ' ' :: fill part.1 (fill part.1 part.2) ++ [' '])] := by
  have height : ((parts.map fun part => [fill part.1 part.2]).map List.length).foldl max 1 = 1 := by
    apply foldl_max_eq
    intro n member
    simp only [List.map_map, List.mem_map, Function.comp_apply, List.length_singleton] at member
    obtain ⟨_, _, rfl⟩ := member
    exact Nat.le_refl 1
  rw [row, height]
  simp [List.range_succ, List.zip_map', List.map_map, Function.comp_def]

/-- Cells about an item that take one line each hold their texts, filled to the width of their column. -/
theorem exists_parts (there : t.items[i]? = some x) {columns : List (Column α)} {cells : List Cells}
    {texts : List (List Char)} (all : List.Forall₂ (fun column c => t.cells column = .ok c) columns cells)
    (each : List.Forall₂ (fun column text =>
      shown (column.cell x) = .ok text ∧ column.alignment = .left ∧ IsOneLine text) columns texts) :
    ∃ parts : List (Nat × List Char), parts.map Prod.snd = texts ∧ cells.map Cells.width = parts.map Prod.fst ∧
      (cells.map fun c => (c.cells[t.headerRows + i]?).getD []) = parts.map fun part => [fill part.1 part.2] := by
  induction all generalizing texts with
  | nil =>
    cases each
    exact ⟨[], rfl, rfl, rfl⟩
  | @cons column c columns cells shows _ ih =>
    cases each with
    | @cons _ text _ texts first rest =>
      obtain ⟨cell, left, oneLine⟩ := first
      obtain ⟨parts, rfl, widths, filled⟩ := ih rest
      refine ⟨(c.width, text) :: parts, rfl, ?_, ?_⟩
      · rw [List.map_cons, List.map_cons, widths]
      · rw [List.map_cons, List.map_cons, filled, cells_of_fits shows there cell left oneLine]
        rfl

/-- The lines of the row of an item are lines of the table. -/
theorem mem_lines_of_row {lines : List (List Char)} {cells : List Cells} {line : List Char}
    (shows : t.lines = .ok lines) (all : t.columns.mapM t.cells = .ok cells) (inside : i < t.items.length)
    (inRow : line ∈ row '│' '│' (cells.map Cells.width)
      (cells.map fun c => (c.cells[t.headerRows + i]?).getD [])) : line ∈ lines := by
  obtain ⟨cells', all', built⟩ := bind_eq_ok.mp shows
  cases all.symm.trans all'
  have inRows : line ∈ (List.range t.items.length).flatMap fun i => row '│' '│' (cells.map Cells.width)
      (cells.map fun c => (c.cells[t.headerRows + i]?).getD []) :=
    List.mem_flatMap.mpr ⟨i, List.mem_range.mpr inside, inRow⟩
  extract_lets widths cellsAt header first rows body at built
  have inBody : line ∈ body := List.mem_append_left _ (List.mem_append_right _ inRows)
  split at built
  · have whole : body = lines := Except.ok.inj built
    exact whole ▸ inBody
  · obtain ⟨title, _, built⟩ := bind_eq_ok.mp built
    rw [← Except.ok.inj built]
    exact List.mem_append_right _ inBody

/-- A table whose title, headers and cells can be shown has lines. -/
theorem exists_lines (titled : ∀ title ∈ t.title, ∃ text, shown title = .ok text)
    (headed : ∀ column ∈ t.columns, ∃ text, shown column.header = .ok text)
    (filled : ∀ column ∈ t.columns, ∀ x ∈ t.items, ∃ text, shown (column.cell x) = .ok text) :
    ∃ lines, t.lines = .ok lines := by
  have each : ∀ column ∈ t.columns, ∃ c, t.cells column = .ok c ∧ True := by
    intro column member
    have shows : ∀ markup ∈ (if t.hasHeader then [column.header] else []) ++ t.items.map column.cell,
        ∃ text, shown markup = .ok text ∧ True := by
      intro markup isMarkup
      rcases List.mem_append.mp isMarkup with isHeader | isCell
      · have is : markup = column.header := by
          split at isHeader
          · exact List.mem_singleton.mp isHeader
          · cases isHeader
        rw [is]
        exact (headed column member).imp fun _ shows => ⟨shows, trivial⟩
      · obtain ⟨x, isItem, rfl⟩ := List.mem_map.mp isCell
        exact (filled column member x isItem).imp fun _ shows => ⟨shows, trivial⟩
    obtain ⟨texts, all, _⟩ := exists_mapM_eq_ok shows
    exact ⟨_, bind_eq_ok.mpr ⟨texts, all, rfl⟩, trivial⟩
  obtain ⟨cells, all, _⟩ := exists_mapM_eq_ok each
  cases title : t.title with
  | none => exact ⟨_, bind_eq_ok.mpr ⟨cells, all, by rw [title]; rfl⟩⟩
  | some markup =>
    obtain ⟨text, shows⟩ := titled markup title
    exact ⟨_, bind_eq_ok.mpr ⟨cells, all, by rw [title]; exact bind_eq_ok.mpr ⟨text, shows, rfl⟩⟩⟩

/-- The table has a line for an item whose cells take one line each: their texts stand between dividers, with
    spaces behind them. -/
theorem mem_lines {lines : List (List Char)} (shows : t.lines = .ok lines) (there : t.items[i]? = some x)
    {texts : List (List Char)} (each : List.Forall₂ (fun column text =>
      shown (column.cell x) = .ok text ∧ column.alignment = .left ∧ IsOneLine text) t.columns texts) :
    ∃ parts : List (List Char × Nat), parts.map Prod.fst = texts ∧
      between '│' '│' '│' (parts.map fun part => ' ' :: (part.1 ++ spaces part.2) ++ [' ']) ∈ lines := by
  obtain ⟨cells, all, _⟩ := bind_eq_ok.mp shows
  obtain ⟨parts, rfl, widths, filled⟩ := exists_parts there (mapM_eq_ok.mp all) each
  have isRow := row_of_lines '│' '│' parts
  rw [← widths, ← filled] at isRow
  refine ⟨parts.map fun part =>
    (part.2, (part.1 - width part.2) + (part.1 - width (fill part.1 part.2))), ?_, ?_⟩
  · rw [List.map_map]
    rfl
  · apply mem_lines_of_row shows all (List.getElem?_eq_some_iff.mp there).1
    rw [isRow, List.map_map, List.mem_singleton]
    simp only [Function.comp_def, fill_fill]

end Table

end IssueTracker.Terminal
