/-
  StarEscrow.Lib.Lines

  Texts as lines, over any alphabet with a line feed `nl` and a carriage
  return `cr`.

  `rows` are the pieces between the line feeds with something in them.  They
  see neither a final line feed nor blank lines, and where no row ends in a
  carriage return they are the non-blank `lines` (`filter_lines`).  So a text
  that is taken apart into lines, edited and put together again is best
  compared with the first one by its rows.
-/

import Mathlib.Data.List.Basic

namespace Lines

variable {α : Type} [DecidableEq α] {nl cr : α} {xs ys : List α}

/-- A line without the carriage return before its line feed. -/
def stripReturn (cr : α) (line : List α) : List α :=
  if line.getLast? = some cr then line.dropLast else line

/-- The lines of a text.  A line feed ends a line, together with a carriage return right before it;
    a last line that none ends counts if there is something in it, and is taken as it is. -/
def lines (nl cr : α) (xs : List α) : List (List α) :=
  (xs.splitOn nl).dropLast.map (stripReturn cr) ++
    (xs.splitOn nl).getLast?.toList.filter (· ≠ [])

/-- The text with a line feed at its end. -/
def terminate (nl : α) (xs : List α) : List α :=
  if xs.getLast? = some nl then xs else xs ++ [nl]

/-- The pieces between the line feeds that are not empty. -/
def rows (nl : α) (xs : List α) : List (List α) := (xs.splitOn nl).filter (· ≠ [])

theorem getLast?_terminate (nl : α) (xs : List α) : (terminate nl xs).getLast? = some nl := by
  rw [terminate]
  split
  · assumption
  · exact List.getLast?_concat

/-! ## Pieces and rows -/

/-- A piece has no line feed, and nothing that is not in the text. -/
theorem of_mem_splitOn {p : List α} (h : p ∈ xs.splitOn nl) : nl ∉ p ∧ p ⊆ xs := by
  induction xs generalizing p with
  | nil =>
      obtain rfl : p = [] := by simpa [List.splitOn_nil] using h
      exact ⟨List.not_mem_nil, List.nil_subset _⟩
  | cons x xs ih =>
      rw [List.splitOn_cons_eq_if_modifyHead] at h
      by_cases h_x : x = nl
      · rw [if_pos (beq_iff_eq.mpr h_x)] at h
        obtain rfl | h_p := List.mem_cons.mp h
        · exact ⟨List.not_mem_nil, List.nil_subset _⟩
        · exact ⟨(ih h_p).1, List.subset_cons_of_subset x (ih h_p).2⟩
      · rw [if_neg (by simpa using h_x)] at h
        -- the first piece of `xs` gets `x` in front, the others stay
        obtain ⟨first, rest, h_pieces⟩ := List.exists_cons_of_ne_nil (List.splitOn_ne_nil nl xs)
        rw [h_pieces] at h ih
        obtain rfl | h_p := List.mem_cons.mp h
        · obtain ⟨h_nl, h_first⟩ := ih List.mem_cons_self
          refine ⟨fun h_mem => ?_, List.cons_subset_cons x h_first⟩
          obtain h_eq | h_mem := List.mem_cons.mp h_mem
          · exact h_x h_eq.symm
          · exact h_nl h_mem
        · obtain ⟨h_nl, h_sub⟩ := ih (List.mem_cons_of_mem first h_p)
          exact ⟨h_nl, List.subset_cons_of_subset x h_sub⟩

theorem of_mem_rows {p : List α} (h : p ∈ rows nl xs) : nl ∉ p ∧ p ⊆ xs :=
  of_mem_splitOn (List.mem_of_mem_filter h)

/-- What is not a line feed stands in a row. -/
theorem exists_row {c : α} (h : c ∈ xs) (h_c : c ≠ nl) : ∃ p ∈ rows nl xs, c ∈ p := by
  obtain ⟨p, h_p, h_mem⟩ : ∃ p ∈ xs.splitOn nl, c ∈ p := by
    induction xs with
    | nil => cases h
    | cons x xs ih =>
        rw [List.splitOn_cons_eq_if_modifyHead]
        by_cases h_x : x = nl
        · rw [if_pos (beq_iff_eq.mpr h_x)]
          have h_rest : c ∈ xs := (List.mem_cons.mp h).resolve_left fun h_eq => h_c (h_eq.trans h_x)
          obtain ⟨p, h_p, h_mem⟩ := ih h_rest
          exact ⟨p, List.mem_cons_of_mem _ h_p, h_mem⟩
        · rw [if_neg (by simpa using h_x)]
          obtain ⟨first, rest, h_pieces⟩ := List.exists_cons_of_ne_nil (List.splitOn_ne_nil nl xs)
          rw [h_pieces] at ih ⊢
          -- `x` itself is in the first piece
          rcases List.mem_cons.mp h with rfl | h_rest
          · exact ⟨c :: first, List.mem_cons_self, List.mem_cons_self⟩
          · obtain ⟨p, h_p, h_mem⟩ := ih h_rest
            rcases List.mem_cons.mp h_p with rfl | h_p
            · exact ⟨x :: p, List.mem_cons_self, List.mem_cons_of_mem _ h_mem⟩
            · exact ⟨p, List.mem_cons_of_mem _ h_p, h_mem⟩
  exact ⟨p, List.mem_filter.mpr ⟨h_p, by simpa using List.ne_nil_of_mem h_mem⟩, h_mem⟩

theorem rows_append_cons (nl : α) (xs ys : List α) :
    rows nl (xs ++ nl :: ys) = rows nl xs ++ rows nl ys := by
  rw [rows, List.splitOn_append_cons_self, List.filter_append]
  rfl

theorem rows_singleton (h_nl : nl ∉ xs) (h : xs ≠ []) : rows nl xs = [xs] := by
  rw [rows, List.splitOn_eq_singleton h_nl]
  simp [h]

theorem rows_terminate (nl : α) (xs : List α) : rows nl (terminate nl xs) = rows nl xs := by
  rw [terminate]
  split
  · rfl
  · rw [rows_append_cons]
    simp [rows, List.splitOn_nil]

/-- Joining lines gives back those with something in them. -/
theorem rows_intercalate {ls : List (List α)} (h : ∀ l ∈ ls, nl ∉ l) :
    rows nl ([nl].intercalate ls) = ls.filter (· ≠ []) := by
  by_cases h_ls : ls = []
  · subst h_ls
    simp [rows, List.splitOn_nil]
  · rw [rows, List.splitOn_intercalate nl h h_ls]

/-! ## Lines and rows -/

theorem stripReturn_of_ne {line : List α} (h : line.getLast? ≠ some cr) :
    stripReturn cr line = line := if_neg h

/-- A line has no line feed. -/
theorem not_mem_of_mem_lines {l : List α} (h : l ∈ lines nl cr xs) : nl ∉ l := by
  obtain h_ended | h_last := List.mem_append.mp h
  · obtain ⟨p, h_p, rfl⟩ := List.mem_map.mp h_ended
    have h_nl : nl ∉ p := (of_mem_splitOn (List.dropLast_subset _ h_p)).1
    rw [stripReturn]
    split
    · exact fun h_mem => h_nl (List.dropLast_subset _ h_mem)
    · exact h_nl
  · have h_piece : l ∈ (xs.splitOn nl).getLast? := by
      simpa using List.mem_of_mem_filter h_last
    exact (of_mem_splitOn (List.mem_of_getLast? h_piece)).1

/-- Where no row ends in a carriage return, the rows are the lines that are not blank. -/
theorem filter_lines (h : ∀ p ∈ rows nl xs, p.getLast? ≠ some cr) :
    (lines nl cr xs).filter (· ≠ []) = rows nl xs := by
  have h_strip : ∀ p ∈ (xs.splitOn nl).dropLast, stripReturn cr p = p := by
    intro p h_p
    apply stripReturn_of_ne
    by_cases h_nil : p = []
    · simp [h_nil]
    · exact h p (List.mem_filter.mpr ⟨List.dropLast_subset _ h_p, by simpa using h_nil⟩)
  have h_pieces : xs.splitOn nl =
      (xs.splitOn nl).dropLast ++ (xs.splitOn nl).getLast?.toList := by
    rw [List.getLast?_eq_some_getLast (List.splitOn_ne_nil nl xs)]
    exact (List.dropLast_append_getLast _).symm
  -- blank pieces do not count, so neither does whether the last one was dropped
  rw [lines, List.map_congr_left h_strip, List.map_id', List.filter_append, List.filter_filter]
  simp only [Bool.and_self]
  rw [← List.filter_append, ← h_pieces]
  rfl

/-- A line that is not blank is a row, and the other way round. -/
theorem mem_lines_iff {p : List α} (h : ∀ p ∈ rows nl xs, p.getLast? ≠ some cr) (h_p : p ≠ []) :
    p ∈ lines nl cr xs ↔ p ∈ rows nl xs := by
  rw [← filter_lines h, List.mem_filter]
  simp [h_p]

/-- Changing only elements outside `q`, and into such, leaves those in `q`. -/
theorem filter_map_of_fixes {β : Type} {q : β → Bool} {f : β → β} {ls : List β}
    (h_fixed : ∀ l, q l = true → f l = l) (h_out : ∀ l, q l = false → q (f l) = false) :
    (ls.map f).filter q = ls.filter q := by
  induction ls with
  | nil => rfl
  | cons l ls ih =>
      rw [List.map_cons]
      cases h_l : q l with
      | true =>
          rw [h_fixed l h_l, List.filter_cons_of_pos h_l, List.filter_cons_of_pos h_l, ih]
      | false =>
          rw [List.filter_cons_of_neg (by simp [h_out l h_l]),
            List.filter_cons_of_neg (by simp [h_l]), ih]

end Lines
