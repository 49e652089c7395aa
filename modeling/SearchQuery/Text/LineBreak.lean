import SearchQuery.Text.Blank

/-!
# Lines

The characters that end a line, and the lines of a text. A carriage return and the line feed
after it end one line. The text after the last line break is a line unless it is empty.
-/

namespace SearchQuery
namespace Text

/-- Characters at which a text is broken into lines. -/
def isLineBreak (c : Char) : Bool :=
  let n := c.toNat
  (0xa ≤ n && n ≤ 0xd) || (0x1c ≤ n && n ≤ 0x1e) || n == 0x85 || n == 0x2028 || n == 0x2029

theorem isBlank_of_isLineBreak {c : Char} (h : isLineBreak c = true) : isBlank c = true := by
  simp only [isLineBreak, isBlank, Bool.or_eq_true, Bool.and_eq_true, decide_eq_true_eq,
    beq_iff_eq] at h ⊢
  omega

/-- The lines of a text that continues a line whose characters, last first, are given. -/
def linesFrom (current : Text) : Text → List Text
  | [] => if current.isEmpty then [] else [current.reverse]
  | '\r' :: '\n' :: rest => current.reverse :: linesFrom [] rest
  | c :: rest =>
    if isLineBreak c then current.reverse :: linesFrom [] rest
    else linesFrom (c :: current) rest

/-- The lines of a text, without their line breaks. -/
def lines (s : Text) : List Text := linesFrom [] s

theorem linesFrom_append (current line rest : Text) (h : ∀ c ∈ line, isLineBreak c = false) :
    linesFrom current (line ++ '\n' :: rest) = (current.reverse ++ line) :: linesFrom [] rest := by
  induction line generalizing current with
  | nil =>
    have : isLineBreak '\n' = true := by decide
    simp [linesFrom, this]
  | cons c line ih =>
    have hc : isLineBreak c = false := h c (by simp)
    have hr : c ≠ '\r' := by
      rintro rfl
      exact absurd hc (by decide)
    rw [List.cons_append, linesFrom]
    · simp only [hc, Bool.false_eq_true, if_false]
      rw [ih _ fun d hd => h d (by simp [hd])]
      simp
    · intro _ heq
      exact absurd heq hr

/-- Lines without line breaks are found again. -/
theorem lines_unlines (parts : List Text) (h : ∀ line ∈ parts, ∀ c ∈ line, isLineBreak c = false) :
    lines (unlines parts) = parts := by
  induction parts with
  | nil => rfl
  | cons line rest ih =>
    rw [unlines_cons, lines, linesFrom_append _ _ _ (h line (by simp))]
    simp only [List.reverse_nil, List.nil_append, List.cons.injEq, true_and]
    exact ih fun l hl => h l (by simp [hl])

/-- Carriage returns, alone or before a line feed, become line feeds. -/
def unifyLineFeeds : Text → Text
  | [] => []
  | '\r' :: '\n' :: rest => '\n' :: unifyLineFeeds rest
  | c :: rest => (if c = '\r' then '\n' else c) :: unifyLineFeeds rest

end Text
end SearchQuery
