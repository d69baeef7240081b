/-
Module: Mp257Fsbl.Ddr.Retention
Purpose: The list of PHY registers in the retention memory: which registers it
  tracks, and what a restore brings back, over runs with resets of the program.
Trusted boundary: human-reviewed model of ddrphy_phyinit_reginterface.c for LPDDR4;
  a PHY register holds what was written to it last, and an entry past the end of the
  area is kept like the others
Main exports: Retention, ddrphyPhyinitTrackreg, ddrphyPhyinitReginterface, Tracker,
  reachable_tracked, restore_saved
-/
import Mathlib.Logic.Function.Basic
import Mp257Fsbl.Foundation.Transition

namespace Mp257Fsbl.Ddr

open Mp257Fsbl.Foundation

/-! ### The list -/

def maxNumRetRegs : Nat := 283

/-- `struct reg_addr_val`. -/
structure RegAddrVal where
  address : UInt32
  value : UInt16
deriving Repr, DecidableEq

/-- `sizeof(struct reg_addr_val)`. -/
def sizeofRegAddrVal : Nat := 8

/-- `RETREG_AREA`, behind which the retention memory ends. -/
def retregArea : Nat := (maxNumRetRegs + 1) * sizeofRegAddrVal

/-- The retention memory, which outlives a reset, the statics of the program, and
the registers of the PHY by their addresses on the bus. -/
structure Retention where
  retregsize : Int
  retreglist : Nat → RegAddrVal
  numregsaved : Nat
  tracken : Bool
  phy : UInt32 → UInt16

def ddrphycBase : UInt32 := 0x48C00000

def phyAddress (adr : UInt32) : UInt32 := ddrphycBase + 4 * adr

/-- The search of the list. -/
def Retention.tracks (s : Retention) (adr : UInt32) : Bool :=
  (List.range s.numregsaved).any fun i => (s.retreglist i).address = adr

/-- The entry behind the last one. -/
def Retention.push (s : Retention) (adr : UInt32) : Retention :=
  { s with
    retreglist := Function.update s.retreglist s.numregsaved
      { s.retreglist s.numregsaved with address := adr }
    numregsaved := s.numregsaved + 1 }

def ddrphyPhyinitTrackreg (adr : UInt32) (s : Retention) : Int × Retention :=
  if s.tracken = false then (0, s)
  else if s.tracks adr then (0, s)
  else if s.numregsaved > maxNumRetRegs then (-1, s)
  else (0, s.push adr)

/-- `enum reginstr`. -/
inductive RegInstr where
  | startTrack
  | stopTrack
  | saveRegs
  | restoreRegs
deriving Repr, DecidableEq

/-- The loop of SAVEREGS, for so many entries. -/
def Retention.save : Nat → Retention → Retention
  | 0, s => s
  | n + 1, s =>
      let s := s.save n
      let address := (s.retreglist n).address
      { s with
        retreglist := Function.update s.retreglist n ⟨address, s.phy (phyAddress address)⟩ }

/-- The loop of RESTOREREGS, for so many entries. -/
def Retention.restore : Nat → Retention → Retention
  | 0, s => s
  | n + 1, s =>
      let s := s.restore n
      { s with
        phy := Function.update s.phy (phyAddress (s.retreglist n).address)
          (s.retreglist n).value }

def ddrphyPhyinitReginterface (instr : RegInstr) (s : Retention) : Int × Retention :=
  match instr with
  | .saveRegs => (0, { s.save s.numregsaved with retregsize := s.numregsaved })
  | .restoreRegs => (0, s.restore s.retregsize.toNat)
  | .startTrack => (0, { s with tracken := true })
  | .stopTrack => (0, { s with tracken := false })

/-! ### Runs -/

/-- What changes the list or the PHY. A reset starts the program anew, with any
contents of the PHY. -/
inductive RetentionEvent where
  | track (adr : UInt32)
  | instr (instr : RegInstr)
  | phyWrite (address : UInt32) (value : UInt16)
  | reset (phy : UInt32 → UInt16)

/-- The program behind its start. -/
def Retention.boot (retregsize : Int) (retreglist : Nat → RegAddrVal) (phy : UInt32 → UInt16) :
    Retention where
  retregsize
  retreglist
  numregsaved := 0
  tracken := true
  phy

def Retention.next (s : Retention) : RetentionEvent → Retention
  | .track adr => (ddrphyPhyinitTrackreg adr s).2
  | .instr instr => (ddrphyPhyinitReginterface instr s).2
  | .phyWrite address value => { s with phy := Function.update s.phy address value }
  | .reset phy => .boot s.retregsize s.retreglist phy

def RetentionStep : Step Retention RetentionEvent := fun s event t => t = s.next event

/-! ### The registers tracked -/

/-- What the list is for: the registers tracked since the start, in order and once,
as long as there is room. -/
structure Tracker where
  registers : List UInt32
  enabled : Bool
deriving Repr, DecidableEq

def Tracker.start : Tracker := ⟨[], true⟩

def Tracker.next (t : Tracker) : RetentionEvent → Tracker
  | .track adr =>
      if t.enabled = true ∧ adr ∉ t.registers ∧ t.registers.length ≤ maxNumRetRegs then
        { t with registers := t.registers ++ [adr] }
      else t
  | .instr .startTrack => { t with enabled := true }
  | .instr .stopTrack => { t with enabled := false }
  | .instr .saveRegs => t
  | .instr .restoreRegs => t
  | .phyWrite _ _ => t
  | .reset _ => .start

def Retention.addresses (s : Retention) : List UInt32 :=
  (List.range s.numregsaved).map fun i => (s.retreglist i).address

/-- The list holds what the tracker does. -/
structure Tracks (s : Retention) (t : Tracker) : Prop where
  registers : s.addresses = t.registers
  enabled : s.tracken = t.enabled

section

variable {s : Retention} {t : Tracker}

theorem addresses_length (s : Retention) : s.addresses.length = s.numregsaved := by
  rw [Retention.addresses, List.length_map, List.length_range]

theorem tracks_iff (s : Retention) (adr : UInt32) : s.tracks adr = true ↔ adr ∈ s.addresses := by
  simp [Retention.tracks, Retention.addresses]

theorem push_addresses (s : Retention) (adr : UInt32) :
    (s.push adr).addresses = s.addresses ++ [adr] := by
  have old : (List.range s.numregsaved).map (fun i => ((s.push adr).retreglist i).address) =
      s.addresses := by
    refine List.map_congr_left fun i inside => ?_
    have ne : i ≠ s.numregsaved := Nat.ne_of_lt (List.mem_range.mp inside)
    exact congrArg RegAddrVal.address (Function.update_of_ne ne _ _)
  have new : ((s.push adr).retreglist s.numregsaved).address = adr := by
    change (Function.update s.retreglist s.numregsaved _ s.numregsaved).address = adr
    rw [Function.update_self]
  change (List.range (s.numregsaved + 1)).map _ = _
  rw [List.range_succ, List.map_append, old, List.map_singleton, new]

/-- What tracking a register can do. -/
theorem trackreg_cases (adr : UInt32) (s : Retention) :
    (ddrphyPhyinitTrackreg adr s = (0, s) ∧ (s.tracken = true → adr ∈ s.addresses)) ∨
    (ddrphyPhyinitTrackreg adr s = (-1, s) ∧ adr ∉ s.addresses ∧
      maxNumRetRegs < s.numregsaved) ∨
    (ddrphyPhyinitTrackreg adr s = (0, s.push adr) ∧ s.tracken = true ∧ adr ∉ s.addresses ∧
      s.numregsaved ≤ maxNumRetRegs) := by
  rw [ddrphyPhyinitTrackreg, ← tracks_iff]
  by_cases off : s.tracken = false
  · rw [if_pos off]
    exact .inl ⟨rfl, fun on => absurd (on.symm.trans off) Bool.noConfusion⟩
  rw [if_neg off]
  by_cases known : s.tracks adr = true
  · rw [if_pos known]
    exact .inl ⟨rfl, fun _ => known⟩
  rw [if_neg known]
  by_cases full : s.numregsaved > maxNumRetRegs
  · rw [if_pos full]
    exact .inr (.inl ⟨rfl, known, full⟩)
  · rw [if_neg full]
    exact .inr (.inr ⟨rfl, (Bool.not_eq_false _).mp off, known, Nat.not_lt.mp full⟩)

/-- With tracking on, success says that the list has the register. -/
theorem trackreg_zero_iff (adr : UInt32) (on : s.tracken = true) :
    (ddrphyPhyinitTrackreg adr s).1 = 0 ↔ adr ∈ (ddrphyPhyinitTrackreg adr s).2.addresses := by
  obtain ⟨done, known⟩ | ⟨done, new, _⟩ | ⟨done, _⟩ := trackreg_cases adr s
  · rw [done]
    exact ⟨fun _ => known on, fun _ => rfl⟩
  · rw [done]
    exact ⟨fun zero => absurd zero (by simp), fun inside => absurd inside new⟩
  · rw [done, push_addresses]
    exact ⟨fun _ => List.mem_append_right _ (List.mem_singleton_self adr), fun _ => rfl⟩

/-- The loop of SAVEREGS at once. -/
theorem save_eq (n : Nat) (s : Retention) :
    s.save n =
      { s with
        retreglist := fun i =>
          if i < n then ⟨(s.retreglist i).address, s.phy (phyAddress (s.retreglist i).address)⟩
          else s.retreglist i } := by
  induction n with
  | zero => rfl
  | succ n ih =>
      rw [Retention.save, ih]
      dsimp only
      congr 1
      funext i
      by_cases last : i = n
      · subst last
        rw [Function.update_self, if_neg (Nat.lt_irrefl i), if_pos (Nat.lt_succ_self i)]
      · rw [Function.update_of_ne last]
        by_cases before : i < n
        · rw [if_pos before, if_pos (Nat.lt_succ_of_lt before)]
        · rw [if_neg before, if_neg (by omega)]

/-- RESTOREREGS leaves the list alone. -/
theorem restore_frame (n : Nat) (s : Retention) :
    s.restore n = { s with phy := (s.restore n).phy } := by
  induction n with
  | zero => rfl
  | succ n ih =>
      rw [Retention.restore]
      dsimp only
      rw [ih]

theorem trackreg_tracks (adr : UInt32) (tracks : Tracks s t) :
    Tracks (s.next (.track adr)) (t.next (.track adr)) := by
  change Tracks (ddrphyPhyinitTrackreg adr s).2 _
  rw [Tracker.next, ← tracks.enabled, ← tracks.registers, addresses_length]
  obtain ⟨done, known⟩ | ⟨done, _, full⟩ | ⟨done, on, new, room⟩ := trackreg_cases adr s
  · rw [done, if_neg fun all => all.2.1 (known all.1)]
    exact tracks
  · rw [done, if_neg fun all => Nat.not_le.mpr full all.2.2]
    exact tracks
  · rw [done, if_pos ⟨on, new, room⟩]
    exact ⟨push_addresses s adr, rfl⟩

theorem next_tracks (event : RetentionEvent) (tracks : Tracks s t) :
    Tracks (s.next event) (t.next event) := by
  cases event with
  | track adr => exact trackreg_tracks adr tracks
  | instr instr =>
      cases instr with
      | startTrack => exact ⟨tracks.registers, rfl⟩
      | stopTrack => exact ⟨tracks.registers, rfl⟩
      | saveRegs =>
          change Tracks { s.save s.numregsaved with retregsize := s.numregsaved } t
          rw [save_eq]
          refine ⟨Eq.trans (List.map_congr_left fun i _ => ?_) tracks.registers, tracks.enabled⟩
          dsimp only
          split <;> rfl
      | restoreRegs =>
          change Tracks (s.restore s.retregsize.toNat) t
          rw [restore_frame]
          exact ⟨tracks.registers, tracks.enabled⟩
  | phyWrite address value => exact ⟨tracks.registers, tracks.enabled⟩
  | reset phy => exact ⟨rfl, rfl⟩

theorem run_tracks {events : List RetentionEvent} {final : Retention}
    (run : Run RetentionStep s events final) (tracks : Tracks s t) :
    Tracks final (events.foldl Tracker.next t) := by
  induction run generalizing t with
  | nil => exact tracks
  | cons taken _ ih =>
      cases taken
      exact ih (next_tracks _ tracks)

/-- No register twice, and at most one more than `MAX_NUM_RET_REGS`. -/
structure Tracker.Bounded (t : Tracker) : Prop where
  nodup : t.registers.Nodup
  room : t.registers.length ≤ maxNumRetRegs + 1

theorem Tracker.Bounded.next (bounded : t.Bounded) (event : RetentionEvent) :
    (t.next event).Bounded := by
  cases event with
  | track adr =>
      rw [Tracker.next]
      split
      · rename_i all
        refine ⟨?_, ?_⟩
        · exact List.nodup_append.mpr ⟨bounded.nodup, by simp, fun a inside b same eq =>
            all.2.1 (List.mem_singleton.mp same ▸ eq ▸ inside)⟩
        · rw [List.length_append]
          exact Nat.succ_le_succ all.2.2
      · exact bounded
  | instr instr => cases instr <;> exact ⟨bounded.nodup, bounded.room⟩
  | phyWrite address value => exact bounded
  | reset phy => exact ⟨List.nodup_nil, Nat.zero_le _⟩

theorem Tracker.Bounded.foldl (bounded : t.Bounded) (events : List RetentionEvent) :
    (events.foldl Tracker.next t).Bounded := by
  induction events generalizing t with
  | nil => exact bounded
  | cons event events ih => exact ih (bounded.next event)

end

/-- The bytes of the area up to the end of an entry, behind `retregsize`. -/
def entryEnd (i : Nat) : Nat := 4 + (i + 1) * sizeofRegAddrVal

theorem run_foldl (events : List RetentionEvent) (s : Retention) :
    Run RetentionStep s events (events.foldl Retention.next s) := by
  induction events generalizing s with
  | nil => exact .nil s
  | cons event events ih => exact .cons rfl (ih (s.next event))

/-- In every run the list holds the registers tracked since the last start, in order
and once, and with tracking on a register is refused only where it is not let in. One
register more than `MAX_NUM_RET_REGS` is let in, and exactly then the entries end
behind the area. -/
theorem reachable_tracked {retregsize : Int} {retreglist : Nat → RegAddrVal}
    {phy : UInt32 → UInt16} {events : List RetentionEvent} {s : Retention}
    (run : Run RetentionStep (.boot retregsize retreglist phy) events s) :
    s.addresses = (events.foldl Tracker.next .start).registers ∧ s.addresses.Nodup ∧
      (s.tracken = true → ∀ adr, (ddrphyPhyinitTrackreg adr s).1 = 0 ↔
        adr ∈ (ddrphyPhyinitTrackreg adr s).2.addresses) ∧
      s.numregsaved ≤ maxNumRetRegs + 1 ∧
      ((∀ i < s.numregsaved, entryEnd i ≤ retregArea) ↔ s.numregsaved ≠ maxNumRetRegs + 1) := by
  have tracks : Tracks s (events.foldl Tracker.next .start) := run_tracks run ⟨rfl, rfl⟩
  have bounded : (events.foldl Tracker.next .start).Bounded :=
    Tracker.Bounded.foldl ⟨List.nodup_nil, Nat.zero_le _⟩ events
  have room : s.numregsaved ≤ maxNumRetRegs + 1 := by
    rw [← addresses_length, tracks.registers]
    exact bounded.room
  refine ⟨tracks.registers, tracks.registers ▸ bounded.nodup,
    fun on adr => trackreg_zero_iff adr on, room, ?_⟩
  simp only [entryEnd, retregArea, sizeofRegAddrVal, maxNumRetRegs] at room ⊢
  constructor
  · intro fits full
    have last := fits 283 (by omega)
    omega
  · intro notFull i inside
    omega

/-- The program at its first start, with nothing saved. -/
def firstStart : Retention := .boot 0 (fun _ => ⟨0, 0⟩) fun _ => 0

theorem reachable_tracked_twice :
    let events : List RetentionEvent := [.track 3, .reset fun _ => 1, .track 7, .instr .stopTrack,
      .track 9, .instr .startTrack, .track 8, .track 7]
    let s := events.foldl Retention.next firstStart
    Run RetentionStep firstStart events s ∧ s.addresses = [7, 8] ∧ s.addresses.Nodup ∧
      ((∀ i < s.numregsaved, entryEnd i ≤ retregArea) ↔ s.numregsaved ≠ maxNumRetRegs + 1) := by
  intro events s
  have run : Run RetentionStep firstStart events s := run_foldl events firstStart
  obtain ⟨registers, nodup, _, _, fits⟩ := reachable_tracked run
  exact ⟨run, registers, nodup, fits⟩

/-! ### What a restore brings back -/

/-- The steps behind a save that leave the saved entries alone: no other save, and
no register tracked over them once a reset has emptied the list. -/
def KeepsSaved (s : Retention) : RetentionEvent → Prop
  | .track _ => s.tracken = true → s.retregsize ≤ s.numregsaved
  | .instr instr => instr ≠ .saveRegs
  | .phyWrite _ _ => True
  | .reset _ => True

/-- The retention memory holds the registers of a state that was saved. -/
structure Holds (saved s : Retention) : Prop where
  size : s.retregsize = saved.numregsaved
  entries : ∀ i < saved.numregsaved, s.retreglist i =
    ⟨(saved.retreglist i).address, saved.phy (phyAddress (saved.retreglist i).address)⟩

section

variable {saved s : Retention}

theorem holds_save (s : Retention) : Holds s (s.next (.instr .saveRegs)) := by
  change Holds s { s.save s.numregsaved with retregsize := s.numregsaved }
  rw [save_eq]
  exact ⟨rfl, fun i inside => if_pos inside⟩

theorem Holds.push (holds : Holds saved s) (behind : s.retregsize ≤ s.numregsaved)
    (adr : UInt32) : Holds saved (s.push adr) := by
  refine ⟨holds.size, fun i inside => ?_⟩
  have ne : i ≠ s.numregsaved := by
    have size := holds.size
    omega
  rw [← holds.entries i inside]
  exact Function.update_of_ne ne _ _

theorem Holds.next (holds : Holds saved s) {event : RetentionEvent}
    (keeps : KeepsSaved s event) : Holds saved (s.next event) := by
  cases event with
  | track adr =>
      change Holds saved (ddrphyPhyinitTrackreg adr s).2
      obtain ⟨done, _⟩ | ⟨done, _⟩ | ⟨done, on, _⟩ := trackreg_cases adr s
      · rw [done]
        exact holds
      · rw [done]
        exact holds
      · rw [done]
        exact holds.push (keeps on) adr
  | instr instr =>
      cases instr with
      | startTrack => exact ⟨holds.size, holds.entries⟩
      | stopTrack => exact ⟨holds.size, holds.entries⟩
      | saveRegs => exact absurd rfl keeps
      | restoreRegs =>
          change Holds saved (s.restore s.retregsize.toNat)
          rw [restore_frame]
          exact ⟨holds.size, holds.entries⟩
  | phyWrite address value => exact ⟨holds.size, holds.entries⟩
  | reset phy => exact ⟨holds.size, holds.entries⟩

/-- The loop of RESTOREREGS at once, where the entries hold what `phy` does. -/
theorem restore_phy {n : Nat} {phy : UInt32 → UInt16}
    (holds : ∀ i < n, (s.retreglist i).value = phy (phyAddress (s.retreglist i).address))
    (address : UInt32) :
    (s.restore n).phy address =
      if address ∈ (List.range n).map fun i => phyAddress (s.retreglist i).address then phy address
      else s.phy address := by
  induction n with
  | zero => rfl
  | succ n ih =>
      have before := ih fun i inside => holds i (Nat.lt_succ_of_lt inside)
      have list : (s.restore n).retreglist = s.retreglist := by rw [restore_frame]
      rw [Retention.restore]
      dsimp only
      rw [list, List.range_succ, List.map_append, List.map_singleton]
      by_cases last : address = phyAddress (s.retreglist n).address
      · rw [last, Function.update_self, holds n (Nat.lt_succ_self n), if_pos]
        exact List.mem_append_right _ (List.mem_singleton_self _)
      · rw [Function.update_of_ne last, before]
        simp only [List.mem_append, List.mem_singleton, last, or_false]

/-- A restore gives every register that was tracked at the save the value it had
then, and leaves the others as they are, whatever was written to the PHY and
however often the program has started since. -/
theorem restore_saved {events : List RetentionEvent} {t : Retention}
    (run : Run (Guarded KeepsSaved RetentionStep) (saved.next (.instr .saveRegs)) events t)
    (address : UInt32) :
    (t.next (.instr .restoreRegs)).phy address =
      if address ∈ saved.addresses.map phyAddress then saved.phy address else t.phy address := by
  have holds : Holds saved t := by
    refine run.guarded_invariant (Holds saved) ?_ (holds_save saved)
    intro state event next here keeps taken
    cases taken
    exact here.next keeps
  have entries (i : Nat) (inside : i < saved.numregsaved) :
      (t.retreglist i).address = (saved.retreglist i).address := by
    rw [holds.entries i inside]
  have registers : (List.range saved.numregsaved).map
      (fun i => phyAddress (t.retreglist i).address) = saved.addresses.map phyAddress := by
    rw [Retention.addresses, List.map_map]
    refine List.map_congr_left fun i inside => ?_
    exact congrArg phyAddress (entries i (List.mem_range.mp inside))
  change (t.restore t.retregsize.toNat).phy address = _
  rw [holds.size, Int.toNat_natCast, ← registers]
  apply restore_phy
  intro i inside
  rw [entries i inside]
  exact congrArg RegAddrVal.value (holds.entries i inside)

theorem restore_saved_lost :
    let saved := (firstStart.next (.track 7)).next (.phyWrite 0x48C0001C 5)
    let events : List RetentionEvent := [.instr .stopTrack, .track 9, .reset fun _ => 0,
      .phyWrite 0x48C00020 3]
    let t := events.foldl Retention.next (saved.next (.instr .saveRegs))
    Run (Guarded KeepsSaved RetentionStep) (saved.next (.instr .saveRegs)) events t ∧
      t.phy 0x48C0001C = 0 ∧ (t.next (.instr .restoreRegs)).phy 0x48C0001C = 5 ∧
      (t.next (.instr .restoreRegs)).phy 0x48C00020 = 3 := by
  intro saved events t
  have stopped : KeepsSaved ((saved.next (.instr .saveRegs)).next (.instr .stopTrack)) (.track 9) :=
    fun on => absurd on Bool.false_ne_true
  have run : Run (Guarded KeepsSaved RetentionStep) (saved.next (.instr .saveRegs)) events t :=
    .cons ⟨RegInstr.noConfusion, rfl⟩ <| .cons ⟨stopped, rfl⟩ <| .cons ⟨trivial, rfl⟩ <|
      .cons ⟨trivial, rfl⟩ <| .nil _
  have restored := restore_saved run
  exact ⟨run, by decide, (restored 0x48C0001C).trans (by decide),
    (restored 0x48C00020).trans (by decide)⟩

end

end Mp257Fsbl.Ddr
