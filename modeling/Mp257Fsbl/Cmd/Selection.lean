/-
Module: Mp257Fsbl.Cmd.Selection
Purpose: Which command a line selects, for any table of names and in any order
  of the table, and that Tab does not change it.
Trusted boundary: human-reviewed statement of the choice
Main exports: firstWord, Selects, choice, dispatchOf, selectCommand_padded,
  dispatchLine_padded, Editing, enter_dispatch, selection_exact
-/
import Mathlib.Data.List.TakeWhile
import Mp257Fsbl.Cmd.Complete

namespace Mp257Fsbl.Cmd

open Mp257Fsbl.Utils

/-- The characters before the first space. -/
def firstWord (text : List UInt8) : List UInt8 := text.takeWhile (· != 0x20)

/-- The name is the word, or the word is no name and the only name that starts
with it is this one. -/
def Selects (names : List (List UInt8)) (word name : List UInt8) : Prop :=
  name ∈ names ∧
    (name = word ∨
      (word ∉ names ∧ word <+: name ∧ ∀ other ∈ names, word <+: other → other = name))

/-- The name that is selected, if there is one. -/
def choice (names : List (List UInt8)) (word : List UInt8) : Option (List UInt8) :=
  if word ∈ names then some word
  else
    match candidates names word with
    | [name] => some name
    | _ => none

section Choice

variable {names : List (List UInt8)} {word name : List UInt8}

theorem eq_singleton_of_nodup {α : Type} {list : List α} {x : α} (nodup : list.Nodup)
    (member : x ∈ list) (all : ∀ y ∈ list, y = x) : list = [x] := by
  cases list with
  | nil => cases member
  | cons first rest =>
      obtain rfl := all first List.mem_cons_self
      cases rest with
      | nil => rfl
      | cons second rest =>
          have same := all second (List.mem_cons_of_mem _ List.mem_cons_self)
          exact absurd (same ▸ List.mem_cons_self) (List.nodup_cons.mp nodup).1

theorem choice_eq_some_iff (distinct : names.Nodup) :
    choice names word = some name ↔ Selects names word name := by
  unfold choice Selects
  by_cases exact_ : word ∈ names
  · rw [if_pos exact_]
    constructor
    · intro chosen
      cases chosen
      exact ⟨exact_, .inl rfl⟩
    · rintro ⟨_, same | ⟨absent, _⟩⟩
      · rw [same]
      · exact absurd exact_ absent
  · rw [if_neg exact_]
    constructor
    · intro chosen
      split at chosen
      · rename_i only found
        cases chosen
        have member : name ∈ candidates names word := by simp [found]
        obtain ⟨listed, starts⟩ := mem_candidates.mp member
        refine ⟨listed, .inr ⟨exact_, starts, fun other member starts => ?_⟩⟩
        have candidate : other ∈ candidates names word := mem_candidates.mpr ⟨member, starts⟩
        rwa [found, List.mem_singleton] at candidate
      · cases chosen
    · rintro ⟨listed, same | ⟨_, starts, unique⟩⟩
      · exact absurd (same ▸ listed) exact_
      · have alone : candidates names word = [name] := by
          apply eq_singleton_of_nodup (distinct.filter _)
            (mem_candidates.mpr ⟨listed, starts⟩)
          intro other candidate
          obtain ⟨listed, starts⟩ := mem_candidates.mp candidate
          exact unique other listed starts
        rw [alone]

end Choice

/-! ### The loop of `execute_command` -/

section Loop

variable {names : List (List UInt8)} {word : List UInt8}

/-- An exact name wins wherever it stands, and else the names that start with
the word are counted. -/
theorem selectCommand_padded (table : ∀ name ∈ names, Fitting name) (noNul : NoNul word)
    (rest : List UInt8) (found : Nat) (matched : Option (List UInt8)) :
    selectCommand (word ++ rest) word.length (nameTable names) found matched =
      some
        (if word ∈ names then (1, some (word ++ [0]))
        else
          (found + (candidates names word).length,
            (nameTable (candidates names word)).getLast?.or matched)) := by
  induction names generalizing found matched with
  | nil => rfl
  | cons name names ih =>
      have tail := fun other member => table other (List.mem_cons_of_mem name member)
      have whole := (table name List.mem_cons_self).noNul
      obtain ⟨order, compared, order_iff⟩ := strncmp_prefix noNul whole rest []
      have unfolded : nameTable (name :: names) = (name ++ [0]) :: nameTable names := rfl
      rw [unfolded, selectCommand, compared]
      by_cases starts : word <+: name
      · have equal := order_iff.mpr starts
        by_cases exact_ : word = name
        · subst exact_
          simp [equal]
        · have longer : word.length < name.length := by
            rcases Nat.lt_or_eq_of_le starts.length_le with longer | same
            · exact longer
            · exact absurd (starts.eq_of_length same) exact_
          have next : (name ++ [0])[word.length]? = some name[word.length] := by
            rw [List.getElem?_append_left longer, List.getElem?_eq_getElem longer]
          have more : name[word.length] ≠ 0 := whole _ (List.getElem_mem longer)
          have kept : candidates (name :: names) word = name :: candidates names word := by
            simp [candidates, starts]
          have last : (nameTable (name :: candidates names word)).getLast?.or matched =
              (nameTable (candidates names word)).getLast?.or (some (name ++ [0])) := by
            simp only [nameTable, List.map_cons, List.getLast?_cons, Option.or_some, Option.some_or]
          have counted : found + 1 + (candidates names word).length =
              found + (name :: candidates names word).length := by
            rw [List.length_cons]
            omega
          simp only [equal, next, more, ih tail, exact_, kept, last, counted, List.mem_cons,
            false_or, if_true, if_false, Option.bind_eq_bind, Option.bind_some]
      · have differs : order ≠ 0 := mt order_iff.mp starts
        have exact_ : word ≠ name := by
          rintro rfl
          exact starts (List.prefix_refl word)
        have dropped : candidates (name :: names) word = candidates names word := by
          simp [candidates, starts]
        simp [differs, ih tail, exact_, dropped]

end Loop

/-! ### The dispatch -/

/-- What is made of a line by its first word and its arguments. -/
def dispatchOf (names : List (List UInt8)) (word : List UInt8) (argc : Nat)
    (args : List UInt32) : Dispatch :=
  match choice names word with
  | some name => .handler (name ++ [0]) argc (args.getD 0 0) (args.getD 1 0) (args.getD 2 0)
  | none => if candidates names word = [] then .unknown else .ambiguous

section Dispatch

variable {names : List (List UInt8)} {text : List UInt8}

/-- `strchr` finds the end of the first word. -/
theorem strchr_firstWord (noNul : NoNul text) (rest : List UInt8) :
    ∃ found, strchr (text ++ 0 :: rest) 0x20 = some found ∧
      found.getD text.length = (firstWord text).length := by
  induction text with
  | nil => exact ⟨none, rfl, rfl⟩
  | cons c text ih =>
      obtain ⟨more, noNul⟩ := noNul_cons.mp noNul
      by_cases space : c = 0x20
      · subst space
        exact ⟨some 0, rfl, rfl⟩
      · obtain ⟨found, scan, length⟩ := ih noNul
        refine ⟨found.map (· + 1), by simp [strchr, more, space, scan], ?_⟩
        have word : firstWord (c :: text) = c :: firstWord text := by
          simp [firstWord, space]
        rw [word, List.length_cons, List.length_cons, ← length]
        cases found with
        | none => rfl
        | some i => rfl

theorem firstWord_append (text : List UInt8) :
    firstWord text ++ text.dropWhile (· != 0x20) = text :=
  List.takeWhile_append_dropWhile

theorem firstWord_noNul (noNul : NoNul text) : NoNul (firstWord text) := by
  intro c member
  exact noNul c (List.takeWhile_subset _ member)

/-- The dispatch of a line. -/
theorem dispatchLine_padded (table : ∀ name ∈ names, Fitting name) (fitting : Fitting text)
    {argc : Nat} {args : List UInt32} (parsed : parseArgsUint32 (padded text) = some (argc, args)) :
    dispatchLine (nameTable names) (padded text) text.length =
      some (dispatchOf names (firstWord text) argc args) := by
  obtain ⟨found, scan, length⟩ := strchr_firstWord fitting.noNul
    (List.replicate (cmdMaxLen - 1 - text.length) 0)
  rw [← padded_eq fitting.fits] at scan
  have split : padded text = firstWord text ++
      (text.dropWhile (· != 0x20) ++ List.replicate (cmdMaxLen - text.length) 0) := by
    rw [← List.append_assoc, firstWord_append]
    rfl
  have selected := selectCommand_padded table (firstWord_noNul fitting.noNul)
    (text.dropWhile (· != 0x20) ++ List.replicate (cmdMaxLen - text.length) 0) 0 none
  rw [← split] at selected
  simp only [dispatchLine, scan, length, selected, Option.bind_eq_bind, Option.bind_some,
    dispatchOf, choice]
  by_cases exact_ : firstWord text ∈ names
  · simp [exact_, parsed]
  · simp only [exact_, if_false, Nat.zero_add]
    cases found : candidates names (firstWord text) with
    | nil => rfl
    | cons name others =>
        cases others with
        | nil => simp [nameTable, parsed]
        | cons second others => simp [nameTable]

/-- The order of the names does not matter. -/
theorem dispatchOf_perm {permuted : List (List UInt8)} (perm : permuted.Perm names)
    (word : List UInt8) (argc : Nat) (args : List UInt32) :
    dispatchOf permuted word argc args = dispatchOf names word argc args := by
  have same : (candidates permuted word).Perm (candidates names word) := perm.filter _
  have exact_ : word ∈ permuted ↔ word ∈ names := perm.mem_iff
  unfold dispatchOf choice
  simp only [exact_]
  cases found : candidates names word with
  | nil =>
      rw [found, List.perm_nil] at same
      rw [same]
  | cons name others =>
      cases others with
      | nil =>
          rw [found, List.perm_singleton] at same
          rw [same]
      | cons second others =>
          rw [found] at same
          have length := same.length_eq
          cases other : candidates permuted word with
          | nil => simp [other] at length
          | cons first rest =>
              cases rest with
              | nil => simp [other] at length
              | cons third rest => rfl

end Dispatch

/-- The name of the command whose handler runs, if one does. -/
def Dispatch.selected : Dispatch → Option (List UInt8)
  | .handler name _ _ _ _ => some name
  | _ => none

theorem dispatchOf_selected (names : List (List UInt8)) (word : List UInt8) (argc : Nat)
    (args : List UInt32) :
    (dispatchOf names word argc args).selected = (choice names word).map (· ++ [0]) := by
  unfold dispatchOf
  cases choice names word with
  | some name => rfl
  | none =>
      dsimp only
      split
      · rfl
      · rfl

/-! ### Enter and Tab -/

/-- The text is on the line and Enter would submit it. -/
structure Editing (text : List UInt8) (e : Editor) : Prop where
  lineBuf : e.lineBuf = padded text
  lineLen : e.lineLen = text.length
  outside : e.escState = 0
  slots : e.history.length = 8
  historyHead : 0 ≤ e.historyHead ∧ e.historyHead < 8

section Keys

variable {names : List (List UInt8)} {text : List UInt8} {e : Editor}

theorem Editing.line (editing : Editing text e) : e.line = text := by
  rw [Editor.line, editing.lineBuf, editing.lineLen, padded, List.take_left]

/-- Adding the line to the history leaves it on the line. -/
theorem historyAdd_editing (fitting : Fitting text) (entered : text ≠ [])
    (editing : Editing text e) :
    ∃ added, e.historyAdd = some added ∧ added.lineBuf = padded text ∧
      added.lineLen = text.length ∧ added.executed = e.executed := by
  have terminator := writeAt_padded_behind fitting.fits (Nat.le_refl _) fitting.fits
  have last : writeAt (padded text) (cmdMaxLen - 1) 0 = some (padded text) :=
    writeAt_padded_behind fitting.fits (Nat.le_sub_one_of_lt fitting.fits) (by decide)
  obtain ⟨first, more, read⟩ : ∃ first, first ≠ 0 ∧ deref (padded text) = some first := by
    cases text with
    | nil => exact absurd rfl entered
    | cons c rest => exact ⟨c, fitting.noNul c List.mem_cons_self, rfl⟩
  obtain ⟨present, inside⟩ := editing.historyHead
  have slot : e.historyHead.toNat < e.history.length := by
    rw [editing.slots]
    omega
  refine ⟨{ e with
      lineBuf := padded text
      history := e.history.set e.historyHead.toNat (padded text)
      historyHead := (e.historyHead + 1) % historySize
      historyCount :=
        if e.historyCount < historySize then e.historyCount + 1 else e.historyCount
      historyIndex := -1 }, ?_, rfl, editing.lineLen, rfl⟩
  have stored : writeAt e.history e.historyHead.toNat (padded text) =
      some (e.history.set e.historyHead.toNat (padded text)) := if_pos slot
  simp only [Editor.historyAdd, editing.lineBuf, editing.lineLen, terminator, read, more, if_false,
    strncpy_padded fitting, last, present, if_true, stored, Option.bind_eq_bind, Option.bind_some]
  rfl

/-- Enter executes the line. -/
theorem enter_dispatch (table : ∀ name ∈ names, Fitting name) (fitting : Fitting text)
    (entered : text ≠ []) (editing : Editing text e) {argc : Nat} {args : List UInt32}
    (parsed : parseArgsUint32 (padded text) = some (argc, args)) :
    ∃ after, e.cmdByte (nameTable names) 0x0D = some after ∧
      after.executed = e.executed ++
        [{ line := text, dispatch := dispatchOf names (firstWord text) argc args }] := by
  obtain ⟨added, stored, lineBuf, lineLen, executed⟩ := historyAdd_editing fitting entered editing
  have some_left : text.length ≠ 0 := mt List.length_eq_zero_iff.mp entered
  have terminator := writeAt_padded_behind fitting.fits (Nat.le_refl _) fitting.fits
  have dispatched := dispatchLine_padded table fitting parsed
  have handled : e.tryHandleEscape 0x0D = some (false, e) := by
    simp [Editor.tryHandleEscape, editing.outside]
  have line : (padded text).take text.length = text := List.take_left
  refine ⟨{ added.cmdPrompt with
      executed := added.executed ++
        [{ line := text, dispatch := dispatchOf names (firstWord text) argc args }] }, ?_, ?_⟩
  · simp only [Editor.cmdByte, handled, stored, Editor.executeCommand, lineLen, some_left, lineBuf,
      terminator, dispatched, line, if_false, Option.bind_eq_bind, Option.bind_some]
    rfl
  · simp only [executed]

/-- Tab completes the line. -/
theorem tab_editing (table : ∀ name ∈ names, Fitting name) (fitting : Fitting text)
    (editing : Editing text e) :
    ∃ tabbed, e.cmdByte (nameTable names) 0x09 = some tabbed ∧
      Editing (completion names text) tabbed ∧ tabbed.executed = e.executed := by
  have completed := cmdTabCompletion_padded table fitting editing.lineBuf editing.lineLen
  have handled : e.tryHandleEscape 0x09 = some (false, e) := by
    simp [Editor.tryHandleEscape, editing.outside]
  refine ⟨{ e with
      lineBuf := padded (completion names text)
      lineLen := (completion names text).length }, ?_,
    ⟨rfl, rfl, editing.outside, editing.slots, editing.historyHead⟩, rfl⟩
  rw [← completed]
  simp [Editor.cmdByte, handled]

/-- A line of one word has no arguments. -/
theorem parseArgs_word (fitting : Fitting text) (word : ∀ c ∈ text, myIsspace c = false) :
    parseArgsUint32 (padded text) = some (0, []) := by
  rw [padded_eq fitting.fits,
    parseArgsUint32_word (fun c member => ⟨fitting.noNul c member, word c member⟩) (.inl rfl)]
  rfl

/-- A line that Tab changes is one word, and Tab makes it the name that it
selects. -/
theorem completion_selects (spaceless : ∀ name ∈ names, 0x20 ∉ name)
    (changed : completion names text ≠ text) :
    completion names text ∈ names ∧
      choice names (firstWord text) = some (completion names text) ∧
      choice names (firstWord (completion names text)) = some (completion names text) := by
  have whole : ∀ {text : List UInt8}, 0x20 ∉ text → firstWord text = text := by
    intro text absent
    apply List.takeWhile_eq_self_iff.mpr
    intro c member
    rw [bne_iff_ne]
    rintro rfl
    exact absent member
  cases found : candidates names text with
  | nil => exact absurd (by simp [completion, found]) changed
  | cons name others =>
      cases others with
      | cons second others => exact absurd (by simp [completion, found]) changed
      | nil =>
          have completed : completion names text = name := by simp [completion, found]
          rw [completed] at changed ⊢
          have member : name ∈ candidates names text := by simp [found]
          obtain ⟨listed, starts⟩ := mem_candidates.mp member
          have spaceless := spaceless name listed
          have word := whole fun inside => spaceless (starts.subset inside)
          have inexact : text ∉ names := by
            intro listed
            have candidate : text ∈ candidates names text :=
              mem_candidates.mpr ⟨listed, List.prefix_refl text⟩
            rw [found, List.mem_singleton] at candidate
            exact changed candidate.symm
          refine ⟨listed, ?_, ?_⟩
          · rw [word, choice, if_neg inexact, found]
          · rw [whole spaceless, choice, if_pos listed]

end Keys

/-- Enter runs the command that the first word selects, whatever the order of
the table, and a Tab that changes the line changes neither the command nor, where
names hold no white space, its arguments. -/
theorem selection_exact {names : List (List UInt8)} {text : List UInt8} {e : Editor}
    (table : ∀ name ∈ names, Fitting name) (distinct : names.Nodup)
    (spaceless : ∀ name ∈ names, 0x20 ∉ name) (fitting : Fitting text) (entered : text ≠ [])
    (editing : Editing text e) :
    ∃ after dispatch, e.cmdByte (nameTable names) 0x0D = some after ∧
      after.executed = e.executed ++ [{ line := text, dispatch := dispatch }] ∧
      (∀ name, dispatch.selected = some (name ++ [0]) ↔
        Selects names (firstWord text) name) ∧
      ((∀ name, ¬ Selects names (firstWord text) name) → dispatch.selected = none) ∧
      (∀ permuted : List (List UInt8), permuted.Perm names →
        ∃ other, e.cmdByte (nameTable permuted) 0x0D = some other ∧
          other.executed = after.executed) ∧
      ∃ tabbed, e.cmdByte (nameTable names) 0x09 = some tabbed ∧
        (tabbed.line ≠ e.line →
          ∃ other again, tabbed.cmdByte (nameTable names) 0x0D = some other ∧
            other.executed = e.executed ++ [{ line := tabbed.line, dispatch := again }] ∧
            again.selected = dispatch.selected ∧
            ((∀ name ∈ names, ∀ c ∈ name, myIsspace c = false) → again = dispatch)) := by
  obtain ⟨⟨argc, args⟩, parsed⟩ := parseArgsUint32_total (padded_terminated fitting.fits)
  obtain ⟨after, done, executed⟩ := enter_dispatch table fitting entered editing parsed
  have selected := dispatchOf_selected names (firstWord text) argc args
  refine ⟨after, _, done, executed, ?_, ?_, ?_, ?_⟩
  · intro name
    rw [selected, ← choice_eq_some_iff distinct]
    simp
  · intro none_
    rw [selected]
    cases chosen : choice names (firstWord text) with
    | none => rfl
    | some name => exact absurd ((choice_eq_some_iff distinct).mp chosen) (none_ name)
  · intro permuted perm
    have table : ∀ name ∈ permuted, Fitting name := fun name member =>
      table name (perm.mem_iff.mp member)
    obtain ⟨other, done, same⟩ := enter_dispatch table fitting entered editing parsed
    exact ⟨other, done, by rw [same, executed, dispatchOf_perm perm]⟩
  · obtain ⟨tabbed, pressed, edited, unchanged⟩ := tab_editing table fitting editing
    refine ⟨tabbed, pressed, ?_⟩
    rw [edited.line, editing.line]
    intro changed
    obtain ⟨listed, before, behind⟩ := completion_selects spaceless changed
    have starts := completion_prefix names text
    have completed := completion_fitting table fitting
    have left : completion names text ≠ [] := by
      intro empty
      rw [empty, List.prefix_nil] at starts
      exact entered starts
    obtain ⟨⟨argc', args'⟩, parsed'⟩ := parseArgsUint32_total (padded_terminated completed.fits)
    obtain ⟨other, done, executed⟩ := enter_dispatch table completed left edited parsed'
    refine ⟨other, _, done, by rw [executed, unchanged], ?_, ?_⟩
    · rw [selected, dispatchOf_selected, before, behind]
    · intro words
      have word := words _ listed
      rw [parseArgs_word completed word] at parsed'
      rw [parseArgs_word fitting fun c member => word c (starts.subset member)] at parsed
      cases parsed
      cases parsed'
      rw [dispatchOf, dispatchOf, before, behind]

theorem selection_exact_sd :
    ∃ after dispatch,
      Editor.cmdByte (nameTable [[0x73, 0x64, 0x77], [0x73, 0x64]]) 0x0D
        { Editor.reset with lineBuf := padded [0x73, 0x64], lineLen := 2 } = some after ∧
      after.executed = [{ line := [0x73, 0x64], dispatch := dispatch }] ∧
      dispatch.selected = some [0x73, 0x64, 0] := by
  have fitting : ∀ text ∈ ([[0x73, 0x64, 0x77], [0x73, 0x64]] : List (List UInt8)),
      Fitting text := by
    intro text member
    rw [List.mem_cons, List.mem_singleton] at member
    rcases member with rfl | rfl
    · exact ⟨by simp [NoNul], by decide⟩
    · exact ⟨by simp [NoNul], by decide⟩
  obtain ⟨after, dispatch, done, executed, selected, _⟩ :=
    @selection_exact [[0x73, 0x64, 0x77], [0x73, 0x64]] [0x73, 0x64]
      { Editor.reset with lineBuf := padded [0x73, 0x64], lineLen := 2 } fitting (by decide)
      (by decide) (fitting _ (by decide)) (by decide) ⟨rfl, rfl, rfl, rfl, by decide⟩
  exact ⟨after, dispatch, done, executed, (selected [0x73, 0x64]).mpr ⟨by decide, .inl rfl⟩⟩

end Mp257Fsbl.Cmd
