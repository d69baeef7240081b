/-
Module: Mp257Fsbl.Cmd.Complete
Purpose: What Tab makes of a line, for any table of command names.
Trusted boundary: none
Main exports: nameTable, candidates, completion, completion_prefix,
  completion_fitting, cmdTabCompletion_padded
-/
import Mp257Fsbl.Cmd.Line

namespace Mp257Fsbl.Cmd

open Mp257Fsbl.Utils

/-- The names with their terminators, as `cmd_list` points to them. -/
def nameTable (names : List (List UInt8)) : List (List UInt8) := names.map (· ++ [0])

/-- The names that start with the text. -/
def candidates (names : List (List UInt8)) (text : List UInt8) : List (List UInt8) :=
  names.filter text.isPrefixOf

/-- The only name that starts with the text, or the text. -/
def completion (names : List (List UInt8)) (text : List UInt8) : List UInt8 :=
  match candidates names text with
  | [name] => name
  | _ => text

section Completion

variable {names : List (List UInt8)} {text name : List UInt8}

theorem mem_candidates : name ∈ candidates names text ↔ name ∈ names ∧ text <+: name := by
  simp [candidates]

/-- Tab keeps what is on the line. -/
theorem completion_prefix (names : List (List UInt8)) (text : List UInt8) :
    text <+: completion names text := by
  unfold completion
  split
  · rename_i name only
    have member : name ∈ candidates names text := by simp [only]
    exact (mem_candidates.mp member).2
  · exact List.prefix_refl text

/-- Tab leaves a line that fits. -/
theorem completion_fitting (table : ∀ name ∈ names, Fitting name) (fitting : Fitting text) :
    Fitting (completion names text) := by
  unfold completion
  split
  · rename_i name only
    have member : name ∈ candidates names text := by simp [only]
    exact table name (mem_candidates.mp member).1
  · exact fitting

end Completion

/-! ### The loops of `cmd_tab_completion` -/

/-- A filter whose test never fails. -/
theorem filterM_some {α : Type} {test : α → Option Bool} {keep : α → Bool} {list : List α}
    (total : ∀ x ∈ list, test x = some (keep x)) :
    list.filterM test = some (list.filter keep) := by
  have loop : ∀ (list acc : List α), (∀ x ∈ list, test x = some (keep x)) →
      List.filterAuxM test list acc = some ((list.filter keep).reverse ++ acc) := by
    intro list
    induction list with
    | nil =>
        intro acc _
        rfl
    | cons x list ih =>
        intro acc total
        have here := total x List.mem_cons_self
        have rest := fun acc => ih acc fun y member => total y (List.mem_cons_of_mem _ member)
        cases kept : keep x with
        | true => simp [List.filterAuxM, here, kept, rest]
        | false => simp [List.filterAuxM, here, kept, rest]
  simp [List.filterM, loop list [] total]

section Table

variable {names : List (List UInt8)} {text : List UInt8}

/-- The names that match are the candidates. -/
theorem matching_candidates (table : ∀ name ∈ names, Fitting name) (noNul : NoNul text)
    (rest : List UInt8) :
    ((nameTable names).filterM fun name => do
        let order ← strncmp (text ++ rest) name text.length
        return order == 0) = some (nameTable (candidates names text)) := by
  have total : ∀ cmd ∈ nameTable names,
      (do
        let order ← strncmp (text ++ rest) cmd text.length
        return order == 0) = some (text.isPrefixOf cmd.dropLast) := by
    intro cmd listed
    obtain ⟨name, member, rfl⟩ := List.mem_map.mp listed
    obtain ⟨order, compared, iff⟩ := strncmp_prefix noNul (table name member).noNul rest []
    rw [compared, List.dropLast_concat]
    have same : (order == 0) = text.isPrefixOf name := by
      rw [Bool.eq_iff_iff, beq_iff_eq, iff, List.isPrefixOf_iff_prefix]
    rw [← same]
    rfl
  rw [filterM_some total, nameTable, List.filter_map]
  congr 2
  apply List.filter_congr
  intro name _
  simp

/-- The loop that appends the rest of a name. -/
theorem completeFrom_padded {name : List UInt8} (fitting : Fitting name) (n : Nat) {k : Nat}
    (inside : k + n ≤ name.length) {e : Editor} (lineBuf : e.lineBuf = padded (name.take k))
    (lineLen : e.lineLen = k) :
    Editor.completeFrom (name ++ [0]) n e =
      some { e with lineBuf := padded (name.take (k + n)), lineLen := k + n } := by
  induction n generalizing k e with
  | zero => rw [Editor.completeFrom, Nat.add_zero, ← lineBuf, ← lineLen]
  | succ n ih =>
      have at_ : k < name.length := by omega
      have read : (name ++ [0])[e.lineLen]? = some name[k] := by
        rw [lineLen, List.getElem?_append_left at_, List.getElem?_eq_getElem at_]
      have length : (name.take k).length = k := by
        rw [List.length_take]
        omega
      have room : (name.take k).length < cmdMaxLen := by
        have fits := fitting.fits
        omega
      have written : writeAt e.lineBuf e.lineLen name[k] = some (padded (name.take (k + 1))) := by
        have appended := writeAt_padded room name[k]
        rw [length, List.take_append_getElem] at appended
        rw [lineBuf, lineLen, appended]
      have rest := @ih (k + 1) (by omega)
        { e with lineBuf := padded (name.take (k + 1)), lineLen := e.lineLen + 1 } rfl
        (by rw [lineLen])
      have total : k + (n + 1) = k + 1 + n := by omega
      simp only [Editor.completeFrom, read, written, rest, total, Option.bind_eq_bind,
        Option.bind_some]

/-- Tab completes the line. -/
theorem cmdTabCompletion_padded (table : ∀ name ∈ names, Fitting name) (fitting : Fitting text)
    {e : Editor} (lineBuf : e.lineBuf = padded text) (lineLen : e.lineLen = text.length) :
    e.cmdTabCompletion (nameTable names) =
      some
        { e with
          lineBuf := padded (completion names text)
          lineLen := (completion names text).length } := by
  have matching := matching_candidates table fitting.noNul
    (List.replicate (cmdMaxLen - text.length) 0)
  rw [← padded, ← lineBuf, ← lineLen] at matching
  have unchanged : e =
      { e with lineBuf := padded text, lineLen := text.length } := by
    rw [← lineBuf, ← lineLen]
  rw [Editor.cmdTabCompletion, matching, Option.bind_eq_bind, Option.bind_some]
  cases found : candidates names text with
  | nil => simpa [nameTable, completion, found] using unchanged
  | cons name others =>
      cases others with
      | cons second others => simpa [nameTable, completion, found] using unchanged
      | nil =>
          have member : name ∈ candidates names text := by simp [found]
          obtain ⟨member, starts⟩ := mem_candidates.mp member
          have fitting := table name member
          have length := starts.length_le
          have length_name : strlen (name ++ [0]) = some name.length :=
            strlen_append fitting.noNul []
          have prefix_ : name.take text.length = text := (List.prefix_iff_eq_take.mp starts).symm
          have completed := completeFrom_padded fitting (name.length - text.length)
            (by omega : text.length + (name.length - text.length) ≤ name.length)
            (lineBuf.trans (by rw [prefix_])) lineLen
          rw [Nat.add_sub_cancel' length, List.take_length] at completed
          simp only [nameTable, List.map_cons, List.map_nil, length_name, Option.bind_eq_bind,
            Option.bind_some, lineLen, completed, completion, found]

end Table

end Mp257Fsbl.Cmd
