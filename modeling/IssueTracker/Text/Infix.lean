/-!
# Searching in a text
-/

namespace IssueTracker.Text

/-- Whether a text holds another one as a contiguous part. -/
def holds (part : List Char) : List Char → Bool
  | [] => part.isEmpty
  | c :: rest => part.isPrefixOf (c :: rest) || holds part rest

theorem holds_iff {part text : List Char} : holds part text = true ↔ part <:+: text := by
  induction text with
  | nil => simp [holds]
  | cons c rest ih => simp [holds, ih, List.infix_cons_iff, List.isPrefixOf_iff_prefix]

end IssueTracker.Text
