/-
  StarEscrow.Cli.EnvFile

  How the command-line client writes the contract id to the `.env` file.

  A text is the list of its characters.  `upsert_env_var` takes the file apart
  into lines when it finds the key and appends to the raw text when it does
  not; either way the rows of the result are those of the file, with the rows
  of the key replaced or one put behind them.
-/

import StarEscrow.Lib.Lines

namespace StarEscrow.Cli

open Lines (rows terminate)

/-- `str::lines`. -/
def lines (text : List Char) : List (List Char) := Lines.lines '\n' '\r' text

/-- `format!("{key}=")`. -/
def linePrefix (key : List Char) : List Char := key ++ ['=']

/-- `format!("{key}={value}")`. -/
def newLine (key value : List Char) : List Char := key ++ '=' :: value

/-- What the closure returns for a line. -/
def updateLine (key value line : List Char) : List Char :=
  if (linePrefix key).isPrefixOf line then newLine key value else line

/-- What `upsert_env_var` writes to a file with the given content, or to one that does not exist
    yet. -/
def upsertEnvVar (file : Option (List Char)) (key value : List Char) : List Char :=
  let existing := file.getD []
  -- the closure sets `found` at every line it replaces
  let found := (lines existing).any (linePrefix key).isPrefixOf
  let updated := ['\n'].intercalate ((lines existing).map (updateLine key value))
  let content := if found then updated else existing ++ '\n' :: newLine key value
  terminate '\n' content

/-- The line starts with the key and an equals sign. -/
def Sets (key line : List Char) : Prop := linePrefix key <+: line

instance (key line : List Char) : Decidable (Sets key line) :=
  inferInstanceAs (Decidable (linePrefix key <+: line))

/-! ## Single lines -/

theorem Sets.ne_nil {key line : List Char} (h : Sets key line) : line ≠ [] := by
  rintro rfl
  have h_length : (linePrefix key).length ≤ 0 := h.length_le
  rw [linePrefix, List.length_append] at h_length
  exact absurd h_length (by simp)

theorem sets_newLine (key value : List Char) : Sets key (newLine key value) :=
  ⟨value, by simp [linePrefix, newLine]⟩

/-- The new line is a line: nothing in it ends one. -/
theorem newLine_not_mem {key value : List Char} (h_key : '\n' ∉ key) (h_value : '\n' ∉ value) :
    '\n' ∉ newLine key value := by
  simp [newLine, h_key, h_value]

/-- The new line does not end in a carriage return, even if there is one in the key. -/
theorem newLine_getLast {key value : List Char} (h_value : '\r' ∉ value) :
    (newLine key value).getLast? ≠ some '\r' := by
  intro h_last
  rw [newLine, List.getLast?_append_of_ne_nil _ (List.cons_ne_nil _ _)] at h_last
  obtain h_eq | h_mem := List.mem_cons.mp (List.mem_of_getLast? h_last)
  · exact absurd h_eq (by decide)
  · exact h_value h_mem

theorem updateLine_of_sets {key value line : List Char} (h : Sets key line) :
    updateLine key value line = newLine key value :=
  if_pos (List.isPrefixOf_iff_prefix.mpr h)

theorem updateLine_of_not_sets {key value line : List Char} (h : ¬ Sets key line) :
    updateLine key value line = line :=
  if_neg fun h_prefix => h (List.isPrefixOf_iff_prefix.mp h_prefix)

theorem updateLine_ne_nil_iff {key value line : List Char} :
    updateLine key value line ≠ [] ↔ line ≠ [] := by
  by_cases h : Sets key line
  · rw [updateLine_of_sets h]
    exact iff_of_true (sets_newLine key value).ne_nil h.ne_nil
  · rw [updateLine_of_not_sets h]

/-! ## The rows of the file -/

section
variable {file : Option (List Char)} {key value : List Char}

/-- Without carriage returns in the text, its rows are its lines with something in them. -/
theorem filter_lines_eq_rows {text : List Char} (h_text : '\r' ∉ text) :
    (lines text).filter (· ≠ []) = rows '\n' text := by
  apply Lines.filter_lines
  intro p h_p h_last
  exact h_text ((Lines.of_mem_rows h_p).2 (List.mem_of_getLast? h_last))

theorem rows_updated {text : List Char} (h_text : '\r' ∉ text) (h_key : '\n' ∉ key)
    (h_value : '\n' ∉ value) :
    rows '\n' (['\n'].intercalate ((lines text).map (updateLine key value))) =
      (rows '\n' text).map (updateLine key value) := by
  have h_lines : ∀ l ∈ (lines text).map (updateLine key value), '\n' ∉ l := by
    intro l h_l
    obtain ⟨line, h_line, rfl⟩ := List.mem_map.mp h_l
    -- the new line has no line feed, and the other lines come from the text
    by_cases h_sets : Sets key line
    · rw [updateLine_of_sets h_sets]
      exact newLine_not_mem h_key h_value
    · rw [updateLine_of_not_sets h_sets]
      exact Lines.not_mem_of_mem_lines h_line
  rw [Lines.rows_intercalate h_lines, List.filter_map, ← filter_lines_eq_rows h_text]
  congr 1
  apply List.filter_congr
  intro line _
  simp only [Function.comp_apply, updateLine_ne_nil_iff]

/-- The rows of the key are replaced, and if there is none a new one is put last. -/
theorem rows_upsertEnvVar (h_file : '\r' ∉ file.getD []) (h_key : '\n' ∉ key)
    (h_value : '\n' ∉ value) :
    rows '\n' (upsertEnvVar file key value) =
      if ∃ row ∈ rows '\n' (file.getD []), Sets key row
      then (rows '\n' (file.getD [])).map (updateLine key value)
      else rows '\n' (file.getD []) ++ [newLine key value] := by
  have h_found : (lines (file.getD [])).any (linePrefix key).isPrefixOf = true ↔
      ∃ row ∈ rows '\n' (file.getD []), Sets key row := by
    rw [List.any_eq_true]
    refine exists_congr fun line => ?_
    rw [List.isPrefixOf_iff_prefix]
    refine and_congr_left fun h_sets => ?_
    rw [← filter_lines_eq_rows h_file, List.mem_filter]
    simp [Sets.ne_nil h_sets]
  -- the final line feed is no row, so only the two ways to build the content are left
  rw [upsertEnvVar, Lines.rows_terminate]
  by_cases h_any : ∃ row ∈ rows '\n' (file.getD []), Sets key row
  · rw [if_pos h_any, if_pos (h_found.mpr h_any)]
    exact rows_updated h_file h_key h_value
  · rw [if_neg h_any, if_neg fun h => h_any (h_found.mp h), Lines.rows_append_cons,
      Lines.rows_singleton (newLine_not_mem h_key h_value) (sets_newLine key value).ne_nil]

/-- A row that is written is the new line or a row of the file that is not the key's. -/
theorem of_mem_rows_upsertEnvVar {row : List Char} (h_file : '\r' ∉ file.getD [])
    (h_key : '\n' ∉ key) (h_value : '\n' ∉ value)
    (h : row ∈ rows '\n' (upsertEnvVar file key value)) :
    row = newLine key value ∨ row ∈ rows '\n' (file.getD []) ∧ ¬ Sets key row := by
  rw [rows_upsertEnvVar h_file h_key h_value] at h
  split at h
  · obtain ⟨old, h_old, rfl⟩ := List.mem_map.mp h
    by_cases h_sets : Sets key old
    · exact .inl (updateLine_of_sets h_sets)
    · rw [updateLine_of_not_sets h_sets]
      exact .inr ⟨h_old, h_sets⟩
  · rename_i h_none
    obtain h_old | h_new := List.mem_append.mp h
    · exact .inr ⟨h_old, fun h_sets => h_none ⟨row, h_old, h_sets⟩⟩
    · exact .inl (List.mem_singleton.mp h_new)

theorem newLine_mem_rows (h_file : '\r' ∉ file.getD []) (h_key : '\n' ∉ key)
    (h_value : '\n' ∉ value) :
    newLine key value ∈ rows '\n' (upsertEnvVar file key value) := by
  rw [rows_upsertEnvVar h_file h_key h_value]
  split
  · rename_i h_any
    obtain ⟨row, h_row, h_sets⟩ := h_any
    exact List.mem_map.mpr ⟨row, h_row, updateLine_of_sets h_sets⟩
  · exact List.mem_append_right _ (List.mem_singleton_self _)

/-- The other keys' lines, in two steps. -/
theorem filter_others (key : List Char) (ls : List (List Char)) :
    ls.filter (fun line => line ≠ [] ∧ ¬ Sets key line) =
      (ls.filter (· ≠ [])).filter (¬ Sets key ·) := by
  rw [List.filter_filter]
  apply List.filter_congr
  intro line _
  simp [Bool.and_comm]

theorem other_rows_upsertEnvVar (h_file : '\r' ∉ file.getD []) (h_key : '\n' ∉ key)
    (h_value : '\n' ∉ value) :
    (rows '\n' (upsertEnvVar file key value)).filter (¬ Sets key ·) =
      (rows '\n' (file.getD [])).filter (¬ Sets key ·) := by
  rw [rows_upsertEnvVar h_file h_key h_value]
  split
  · apply Lines.filter_map_of_fixes
    · intro line h_line
      exact updateLine_of_not_sets (by simpa using h_line)
    · intro line h_line
      rw [updateLine_of_sets (by simpa using h_line)]
      simp [sets_newLine]
  · rw [List.filter_append]
    simp [sets_newLine]

end

/-- **Writing a variable keeps everything else.**  Let the file, if there is one, have no carriage
    return, the key no line feed, and the value neither.  What is written ends in a line feed; it
    has a line that starts with the key and `=`, and every such line is the new one; and its lines
    with something in them that do not start so are those of the file, in the same order. -/
theorem upsert_keeps_rest (file : Option (List Char)) (key value : List Char)
    (h_file : '\r' ∉ file.getD []) (h_key : '\n' ∉ key) (h_value : '\n' ∉ value)
    (h_return : '\r' ∉ value) :
    (upsertEnvVar file key value).getLast? = some '\n' ∧
    (∃ line ∈ lines (upsertEnvVar file key value), Sets key line) ∧
    (∀ line ∈ lines (upsertEnvVar file key value), Sets key line → line = newLine key value) ∧
    (lines (upsertEnvVar file key value)).filter (fun line => line ≠ [] ∧ ¬ Sets key line) =
      (lines (file.getD [])).filter (fun line => line ≠ [] ∧ ¬ Sets key line) := by
  -- the only carriage returns written are inside the key
  have h_ends : ∀ p ∈ rows '\n' (upsertEnvVar file key value), p.getLast? ≠ some '\r' := by
    intro p h_p
    obtain rfl | ⟨h_old, -⟩ := of_mem_rows_upsertEnvVar h_file h_key h_value h_p
    · exact newLine_getLast h_return
    · exact fun h_last => h_file ((Lines.of_mem_rows h_old).2 (List.mem_of_getLast? h_last))
  have h_lines (line : List Char) (h : Sets key line) :
      line ∈ lines (upsertEnvVar file key value) ↔
        line ∈ rows '\n' (upsertEnvVar file key value) := Lines.mem_lines_iff h_ends h.ne_nil
  refine ⟨Lines.getLast?_terminate _ _, ?_, fun line h_line h_sets => ?_, ?_⟩
  · have h_new := sets_newLine key value
    exact ⟨_, (h_lines _ h_new).mpr (newLine_mem_rows h_file h_key h_value), h_new⟩
  · have h_row := (h_lines line h_sets).mp h_line
    obtain h_eq | ⟨-, h_not⟩ := of_mem_rows_upsertEnvVar h_file h_key h_value h_row
    · exact h_eq
    · exact absurd h_sets h_not
  · have h_rows : (lines (upsertEnvVar file key value)).filter (· ≠ []) =
        rows '\n' (upsertEnvVar file key value) := Lines.filter_lines h_ends
    rw [filter_others, filter_others, h_rows, filter_lines_eq_rows h_file]
    exact other_rows_upsertEnvVar h_file h_key h_value

/-- A file without a final line feed, with the key twice, another that ends in it, and another that
    starts with it. -/
theorem upsert_keeps_rest_keyTwice :
    let r := upsertEnvVar (some "ID=1\nMY_ID=2\n\nID=3\nIDS=4".toList) "ID".toList "C".toList
    r.getLast? = some '\n' ∧
    (∃ line ∈ lines r, Sets "ID".toList line) ∧
    (∀ line ∈ lines r, Sets "ID".toList line → line = newLine "ID".toList "C".toList) ∧
    (lines r).filter (fun line => line ≠ [] ∧ ¬ Sets "ID".toList line) =
      (lines "ID=1\nMY_ID=2\n\nID=3\nIDS=4".toList).filter
        (fun line => line ≠ [] ∧ ¬ Sets "ID".toList line) :=
  upsert_keeps_rest (some "ID=1\nMY_ID=2\n\nID=3\nIDS=4".toList) "ID".toList "C".toList
    (by decide) (by decide) (by decide) (by decide)

example : upsertEnvVar (some "ID=1\nMY_ID=2\n\nID=3\nIDS=4".toList) "ID".toList "C".toList =
    "ID=C\nMY_ID=2\n\nID=C\nIDS=4\n".toList := by decide

example : upsertEnvVar none "ID".toList "C".toList = "\nID=C\n".toList := by decide

end StarEscrow.Cli
