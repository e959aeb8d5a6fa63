/-
  StarEscrow.Cli.EnvStore

  The `.env` file as a store of variables.

  `values` reads a variable the way the client writes it: one value a line that
  starts with the key and `=`.  A file may set a key several times.  Writing a
  variable replaces all of its values and leaves those of every other key
  alone, so after any number of writes each key has what `assigned` says
  (`writes_are_assignments`).
-/

import StarEscrow.Cli.EnvFile
import Mathlib.Data.List.Induction

namespace StarEscrow.Cli

open Lines (rows terminate)

/-- A key and a value that stand on one line and can be told apart. -/
structure Assignment where
  key : List Char
  value : List Char
  key_plain : '=' ∉ key ∧ '\n' ∉ key ∧ '\r' ∉ key
  value_plain : '\n' ∉ value ∧ '\r' ∉ value

/-- The values of a key, in the order of the lines. -/
def values (key text : List Char) : List (List Char) :=
  ((lines text).filter (Sets key ·)).map (·.drop (linePrefix key).length)

/-- The file after an assignment was written. -/
def write (file : Option (List Char)) (a : Assignment) : Option (List Char) :=
  some (upsertEnvVar file a.key a.value)

/-- The file after all assignments were written, in order. -/
def writeAll (file : Option (List Char)) (as : List Assignment) : Option (List Char) :=
  as.foldl write file

/-- What a key has after all assignments, if it had `old` before: the last value it was given, on
    as many lines as there were, or on one. -/
def assigned (key : List Char) (as : List Assignment) (old : List (List Char)) :
    List (List Char) :=
  match as.reverse.find? (·.key = key) with
  | some a => List.replicate (max 1 old.length) a.value
  | none => old

/-- No assignment is to the key that the line sets. -/
def Untouched (as : List Assignment) (line : List Char) : Prop :=
  line ≠ [] ∧ ∀ a ∈ as, ¬ Sets a.key line

instance (as : List Assignment) (line : List Char) : Decidable (Untouched as line) :=
  inferInstanceAs (Decidable (line ≠ [] ∧ ∀ a ∈ as, ¬ Sets a.key line))

variable {file : Option (List Char)} {a : Assignment}

/-! ## One write -/

theorem Assignment.not_mem_newLine (a : Assignment) : '\r' ∉ newLine a.key a.value := by
  simp [newLine, a.key_plain.2.2, a.value_plain.2]

/-- A file without carriage returns stays one. -/
theorem clean_write (a : Assignment) (h_file : '\r' ∉ file.getD []) :
    '\r' ∉ (write file a).getD [] := by
  intro h_mem
  have h_mem : '\r' ∈ upsertEnvVar file a.key a.value := h_mem
  have h_ne : '\r' ≠ '\n' := by decide
  obtain ⟨row, h_row, h_in⟩ := Lines.exists_row h_mem h_ne
  obtain rfl | ⟨h_old, -⟩ :=
    of_mem_rows_upsertEnvVar h_file a.key_plain.2.1 a.value_plain.1 h_row
  · exact a.not_mem_newLine h_in
  · exact h_file ((Lines.of_mem_rows h_old).2 h_in)

/-- A line has one key. -/
theorem Sets.takeWhile_eq {key line : List Char} (h : Sets key line) (h_key : '=' ∉ key) :
    line.takeWhile (· ≠ '=') = key := by
  obtain ⟨rest, rfl⟩ := h
  have h_plain : ∀ c ∈ key, decide (c ≠ '=') = true := by
    intro c h_c
    exact decide_eq_true fun h_eq => h_key (h_eq ▸ h_c)
  rw [linePrefix, List.append_assoc, List.takeWhile_append_of_pos h_plain, List.singleton_append,
    List.takeWhile_cons_of_neg (by simp), List.append_nil]

/-- Keys without an equals sign do not share lines. -/
theorem Sets.key_eq {k key line : List Char} (h : Sets k line) (h' : Sets key line)
    (h_k : '=' ∉ k) (h_key : '=' ∉ key) : k = key :=
  (h.takeWhile_eq h_k).symm.trans (h'.takeWhile_eq h_key)

/-- In a file without carriage returns the values stand on its rows. -/
theorem values_eq_rows {key text : List Char} (h_text : '\r' ∉ text) :
    values key text =
      ((rows '\n' text).filter (Sets key ·)).map (·.drop (linePrefix key).length) := by
  rw [values, ← filter_lines_eq_rows h_text, List.filter_filter]
  congr 1
  apply List.filter_congr
  intro line _
  by_cases h : Sets key line
  · simp [h, h.ne_nil]
  · simp [h]

theorem drop_newLine (key value : List Char) :
    (newLine key value).drop (linePrefix key).length = value := by
  simp [newLine, linePrefix, List.drop_append]

/-- The lines of a key after the update are as many as before, each the new one. -/
theorem filter_updated (key value : List Char) (ls : List (List Char)) :
    (ls.map (updateLine key value)).filter (Sets key ·) =
      List.replicate (ls.filter (Sets key ·)).length (newLine key value) := by
  induction ls with
  | nil => rfl
  | cons line ls ih =>
      rw [List.map_cons]
      by_cases h : Sets key line
      · rw [updateLine_of_sets h, List.filter_cons_of_pos (by simp [sets_newLine]),
          List.filter_cons_of_pos (by simpa using h), ih, List.length_cons, List.replicate_succ]
      · rw [updateLine_of_not_sets h, List.filter_cons_of_neg (by simpa using h),
          List.filter_cons_of_neg (by simpa using h), ih]

/-- All lines of the written key carry the new value, and there is one if there was none. -/
theorem values_write_self (a : Assignment) (h_file : '\r' ∉ file.getD []) :
    values a.key ((write file a).getD []) =
      List.replicate (max 1 (values a.key (file.getD [])).length) a.value := by
  rw [values_eq_rows (clean_write a h_file), values_eq_rows h_file, List.length_map]
  change (((rows '\n' (upsertEnvVar file a.key a.value)).filter _).map _) = _
  rw [rows_upsertEnvVar h_file a.key_plain.2.1 a.value_plain.1]
  split
  · rename_i h_any
    obtain ⟨row, h_row, h_sets⟩ := h_any
    have h_pos : 0 < ((rows '\n' (file.getD [])).filter (Sets a.key ·)).length :=
      List.length_pos_of_mem (List.mem_filter.mpr ⟨h_row, by simpa using h_sets⟩)
    rw [filter_updated, List.map_replicate, drop_newLine, Nat.max_eq_right (by omega)]
  · rename_i h_none
    have h_nil : (rows '\n' (file.getD [])).filter (Sets a.key ·) = [] := by
      rw [List.filter_eq_nil_iff]
      intro row h_row h_sets
      exact h_none ⟨row, h_row, by simpa using h_sets⟩
    rw [List.filter_append, h_nil, List.nil_append,
      List.filter_cons_of_pos (by simp [sets_newLine]), List.filter_nil, List.map_cons,
      drop_newLine]
    rfl

/-- The values of the other keys stay. -/
theorem values_write_other {k : List Char} (a : Assignment) (h_file : '\r' ∉ file.getD [])
    (h_k : '=' ∉ k) (h_ne : k ≠ a.key) :
    values k ((write file a).getD []) = values k (file.getD []) := by
  rw [values_eq_rows (clean_write a h_file), values_eq_rows h_file]
  congr 1
  -- the rows of `k` are among those that do not set the written key
  have h_among (ls : List (List Char)) :
      ls.filter (Sets k ·) = (ls.filter (¬ Sets a.key ·)).filter (Sets k ·) := by
    rw [List.filter_filter]
    apply List.filter_congr
    intro line _
    by_cases h : Sets k line
    · have h_not : ¬ Sets a.key line := fun h' => h_ne (h.key_eq h' h_k a.key_plain.1)
      simp [h, h_not]
    · simp [h]
  rw [h_among, h_among (rows '\n' (file.getD []))]
  congr 1
  exact other_rows_upsertEnvVar h_file a.key_plain.2.1 a.value_plain.1

/-! ## Any number of writes -/

section
variable {as : List Assignment}

theorem writeAll_append (as : List Assignment) (a : Assignment) :
    writeAll file (as ++ [a]) = write (writeAll file as) a :=
  List.foldl_concat ..

theorem clean_writeAll (as : List Assignment) (h_file : '\r' ∉ file.getD []) :
    '\r' ∉ (writeAll file as).getD [] := by
  induction as using List.reverseRecOn with
  | nil => exact h_file
  | append_singleton as a ih =>
      rw [writeAll_append]
      exact clean_write a ih

theorem assigned_append_self (as : List Assignment) (a : Assignment) (old : List (List Char)) :
    assigned a.key (as ++ [a]) old = List.replicate (max 1 old.length) a.value := by
  simp [assigned]

theorem assigned_append_other {key : List Char} (as : List Assignment) (a : Assignment)
    (old : List (List Char)) (h_ne : key ≠ a.key) :
    assigned key (as ++ [a]) old = assigned key as old := by
  simp [assigned, Ne.symm h_ne]

/-- A further write to a key finds as many lines as the ones before it left. -/
theorem max_length_assigned (key : List Char) (as : List Assignment) (old : List (List Char)) :
    max 1 (assigned key as old).length = max 1 old.length := by
  rw [assigned]
  split
  · rw [List.length_replicate]
    omega
  · rfl

theorem values_writeAll {key : List Char} (as : List Assignment) (h_file : '\r' ∉ file.getD [])
    (h_key : '=' ∉ key) :
    values key ((writeAll file as).getD []) = assigned key as (values key (file.getD [])) := by
  induction as using List.reverseRecOn with
  | nil => rfl
  | append_singleton as a ih =>
      have h_clean := clean_writeAll as h_file
      rw [writeAll_append]
      by_cases h_eq : key = a.key
      · subst h_eq
        rw [values_write_self a h_clean, ih, max_length_assigned, assigned_append_self]
      · rw [values_write_other a h_clean h_key h_eq, ih, assigned_append_other as a _ h_eq]

theorem untouched_append (as : List Assignment) (a : Assignment) (ls : List (List Char)) :
    ls.filter (Untouched (as ++ [a]) ·) = (ls.filter (¬ Sets a.key ·)).filter (Untouched as ·) := by
  rw [List.filter_filter]
  apply List.filter_congr
  intro line _
  rw [← Bool.decide_and]
  refine decide_eq_decide.mpr ⟨fun ⟨h_line, h_none⟩ => ?_, fun ⟨⟨h_line, h_none⟩, h_not⟩ => ?_⟩
  · exact ⟨⟨h_line, fun b h_b => h_none b (List.mem_append_left _ h_b)⟩,
      h_none a (List.mem_append_right _ List.mem_cons_self)⟩
  · refine ⟨h_line, fun b h_b => ?_⟩
    obtain h_b | h_b := List.mem_append.mp h_b
    · exact h_none b h_b
    · rw [List.mem_singleton.mp h_b]
      exact h_not

/-- The lines of keys that were never written stay, in their order. -/
theorem untouched_writeAll (as : List Assignment) (h_file : '\r' ∉ file.getD []) :
    (rows '\n' ((writeAll file as).getD [])).filter (Untouched as ·) =
      (rows '\n' (file.getD [])).filter (Untouched as ·) := by
  induction as using List.reverseRecOn with
  | nil => rfl
  | append_singleton as a ih =>
      have h_other := other_rows_upsertEnvVar (clean_writeAll as h_file) a.key_plain.2.1
        a.value_plain.1
      rw [writeAll_append, untouched_append, untouched_append]
      calc ((rows '\n' ((write (writeAll file as) a).getD [])).filter (¬ Sets a.key ·)).filter
            (Untouched as ·)
          = ((rows '\n' ((writeAll file as).getD [])).filter (¬ Sets a.key ·)).filter
              (Untouched as ·) := congrArg _ h_other
        _ = ((rows '\n' ((writeAll file as).getD [])).filter (Untouched as ·)).filter
              (¬ Sets a.key ·) := by rw [List.filter_comm]
        _ = ((rows '\n' (file.getD [])).filter (Untouched as ·)).filter (¬ Sets a.key ·) := by
              rw [ih]
        _ = _ := by rw [List.filter_comm]

theorem lines_writeAll (as : List Assignment) (h_file : '\r' ∉ file.getD []) :
    (lines ((writeAll file as).getD [])).filter (Untouched as ·) =
      (lines (file.getD [])).filter (Untouched as ·) := by
  -- a line that counts has something in it, so it is a row
  have h_rows {text : List Char} (h_text : '\r' ∉ text) :
      (lines text).filter (Untouched as ·) = (rows '\n' text).filter (Untouched as ·) := by
    rw [← filter_lines_eq_rows h_text, List.filter_filter]
    apply List.filter_congr
    intro line _
    by_cases h : line = []
    · simp [h, Untouched]
    · simp [h]
  rw [h_rows (clean_writeAll as h_file), h_rows h_file]
  exact untouched_writeAll as h_file

end

/-- **Writes are assignments.**  Write any assignments, one after the other, to a file without
    carriage returns, or to one that is not there.  Every key without an equals sign then has the
    last value it was given, on as many lines as it had before or on one, and what it had if it
    was given none; the lines that set no written key are those of the file, in the same order;
    and there still is no carriage return. -/
theorem writes_are_assignments (file : Option (List Char)) (as : List Assignment)
    (h_file : '\r' ∉ file.getD []) :
    '\r' ∉ (writeAll file as).getD [] ∧
    (∀ key, '=' ∉ key →
      values key ((writeAll file as).getD []) = assigned key as (values key (file.getD []))) ∧
    (lines ((writeAll file as).getD [])).filter (Untouched as ·) =
      (lines (file.getD [])).filter (Untouched as ·) :=
  ⟨clean_writeAll as h_file, fun _ h_key => values_writeAll as h_file h_key,
    lines_writeAll as h_file⟩

/-- Two keys, one of them written twice, into a file that has it on two lines. -/
def Sample.assignments : List Assignment :=
  [⟨"ID".toList, "A".toList, by decide, by decide⟩,
   ⟨"URL".toList, "u".toList, by decide, by decide⟩,
   ⟨"ID".toList, "B".toList, by decide, by decide⟩]

theorem writes_are_assignments_keyTwice :
    let file := some "ID=1\nMY_ID=2\n\nID=3".toList
    '\r' ∉ (writeAll file Sample.assignments).getD [] ∧
    (∀ key, '=' ∉ key → values key ((writeAll file Sample.assignments).getD []) =
      assigned key Sample.assignments (values key (file.getD []))) ∧
    (lines ((writeAll file Sample.assignments).getD [])).filter
        (Untouched Sample.assignments ·) =
      (lines (file.getD [])).filter (Untouched Sample.assignments ·) :=
  writes_are_assignments (some "ID=1\nMY_ID=2\n\nID=3".toList) Sample.assignments (by decide)

example : writeAll (some "ID=1\nMY_ID=2\n\nID=3".toList) Sample.assignments =
    some "ID=B\nMY_ID=2\n\nID=B\n\nURL=u\n".toList := by decide

end StarEscrow.Cli
