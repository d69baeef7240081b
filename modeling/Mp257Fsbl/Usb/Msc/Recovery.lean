/-
Module: Mp257Fsbl.Usb.Msc.Recovery
Purpose: From where a BOT reset or a new configuration leaves a clean class, and
  which steps do not.
Trusted boundary: `Recovers` states what a clean recovery is
Main exports: Recovers, Clean, WrapperFits, Orderly, Sound, sound_step, portRun_recovers
-/
import Mp257Fsbl.Usb.Msc.Phase
import Mp257Fsbl.Usb.Msc.Port
import Mp257Fsbl.Usb.Msc.Wire

namespace Mp257Fsbl.Usb.Msc

open Mp257Fsbl.Foundation
open Mp257Fsbl.Sd

/-! ### What a recovery promises -/

/-- No endpoint has a second transfer armed over an outstanding one; the wrapper
after a restart can come, is not dropped, and is dispatched as a new command;
what goes out next belongs to that command. -/
structure Recovers (behind : Behind) (info : SdDevInfo) (p : Port) : Prop where
  oneOut : (outs p.outstanding).length ≤ 1
  oneIn : (ins p.outstanding).length ≤ 1
  awaited : p.recovered = true → p.dev.botState = .idle ∧
    ∀ (v : ValidCbw) (sd : SdOutcome), ∃ next, PortStep behind info p (.out v.cbw.wire sd) next
  taken : p.missed = false
  dispatched : p.TakesWrapper → ∀ (v : ValidCbw) (sd : SdOutcome) (next : Port),
    PortStep behind info p (.out v.cbw.wire sd) next →
      let started := mscCmdDispatch info sd (p.dev.received .cbw v.cbw.wire)
      next.dev = started.1 ∧ next.served = p.served + 1 ∧
        ∃ others, next.outstanding = others ++ armedFor next.served started.2
  inTurn : p.handle.devState = .configured → ∀ (bytes : List UInt8) (sd : SdOutcome)
    (next : Port), PortStep behind info p (.out bytes sd) next →
      p.dev.botState = .idle ∨ p.dev.botState = .dataOut
  owned : ∀ a ∈ ins p.outstanding, a.owner = p.served

/-- The step does not restart the class over an outstanding receive, does not
bring a wrapper before an old reply is collected, and does not bring the packet
after a restart to a device that is not configured. -/
def Clean (p : Port) : PortEvent → Prop
  | .out _ _ =>
      (p.recovered = true → p.handle.devState = .configured) ∧
        (p.TakesWrapper → ins p.outstanding = [])
  | .in_ _ => True
  | .control action => Restarts p.handle action → outs p.outstanding = []

/-- No packet longer than a wrapper goes into `cbw`. -/
def WrapperFits (p : Port) : PortEvent → Prop
  | .out bytes _ =>
      ∀ len owner, ⟨.bulkOut .cbw len, owner⟩ ∈ p.outstanding → bytes.length ≤ cbwLength.toNat
  | .in_ _ | .control _ => True

/-- The steps after which the class recovers. -/
def Orderly (p : Port) (event : PortEvent) : Prop := Clean p event ∧ WrapperFits p event

/-! ### The invariant -/

/-- What is outstanding is what `botState` stands for, apart from a reply of an
earlier command that a restart has left in `BOT_IDLE`. -/
structure Sound (p : Port) : Prop where
  oneOut : (outs p.outstanding).length ≤ 1
  oneIn : (ins p.outstanding).length ≤ 1
  owned : ∀ a ∈ ins p.outstanding, a.owner = p.served
  taken : p.missed = false
  awaited : p.recovered = true →
    p.dev.botState = .idle ∧ ∃ owner, outs p.outstanding = [⟨.bulkOut .cbw cbwLength, owner⟩]
  idle : p.dev.botState = .idle →
    ∀ a ∈ outs p.outstanding, a.transfer = .bulkOut .cbw cbwLength
  noIn : p.dev.botState = .dataOut → ins p.outstanding = []
  noOut : p.dev.botState = .dataIn ∨ p.dev.botState = .csw → outs p.outstanding = []

theorem sound_boot (desc : UInt16 → Option (List UInt8)) (card : Store UInt8) :
    Sound (.boot desc card) where
  oneOut := by simp [Port.boot]
  oneIn := by simp [Port.boot]
  owned := by simp [Port.boot]
  taken := rfl
  awaited := by simp [Port.boot]
  idle := by simp [Port.boot]
  noIn := by simp [Port.boot]
  noOut := by simp [Port.boot]

section Completions

variable {p : Port} {before after : List Armed} {buffer : Buffer} {len : UInt32} {owner : Nat}

/-- The completed transfer was the only one on its endpoint. -/
theorem Sound.out_alone (sound : Sound p)
    (pending : p.outstanding = before ++ ⟨.bulkOut buffer len, owner⟩ :: after) :
    outs p.outstanding = [⟨.bulkOut buffer len, owner⟩] ∧ outs (before ++ after) = [] ∧
      ins (before ++ after) = ins p.outstanding := by
  have one := sound.oneOut
  simp only [pending, outs_append, outs_cons_out, List.length_append, List.length_cons] at one
  have no_before : outs before = [] := List.eq_nil_of_length_eq_zero (by omega)
  have no_after : outs after = [] := List.eq_nil_of_length_eq_zero (by omega)
  simp [pending, no_before, no_after]

theorem Sound.in_alone (sound : Sound p)
    (pending : p.outstanding = before ++ ⟨.bulkIn buffer len, owner⟩ :: after) :
    ins p.outstanding = [⟨.bulkIn buffer len, owner⟩] ∧ ins (before ++ after) = [] ∧
      outs (before ++ after) = outs p.outstanding := by
  have one := sound.oneIn
  simp only [pending, ins_append, ins_cons_in, List.length_append, List.length_cons] at one
  have no_before : ins before = [] := List.eq_nil_of_length_eq_zero (by omega)
  have no_after : ins after = [] := List.eq_nil_of_length_eq_zero (by omega)
  simp [pending, no_before, no_after]

/-- A configured device takes a packet where it waits for one. -/
theorem Sound.out_inTurn (sound : Sound p)
    (pending : p.outstanding = before ++ ⟨.bulkOut buffer len, owner⟩ :: after) :
    p.dev.botState = .idle ∨ p.dev.botState = .dataOut := by
  have here := (sound.out_alone pending).1
  cases state : p.dev.botState with
  | idle => exact .inl rfl
  | dataOut => exact .inr rfl
  | dataIn => simp [sound.noOut (.inl state)] at here
  | csw => simp [sound.noOut (.inr state)] at here

/-- A reply goes out where the class waits for it to, or is an old one. -/
theorem Sound.in_inTurn (sound : Sound p)
    (pending : p.outstanding = before ++ ⟨.bulkIn buffer len, owner⟩ :: after) :
    p.dev.botState = .idle ∨
      ((p.dev.botState = .dataIn ∨ p.dev.botState = .csw) ∧ p.recovered = false) := by
  have here := (sound.in_alone pending).1
  have settled : p.dev.botState ≠ .idle → p.recovered = false := by
    intro busy
    rw [← Bool.not_eq_true]
    exact fun recovered => busy (sound.awaited recovered).1
  cases state : p.dev.botState with
  | idle => exact .inl rfl
  | dataOut => simp [sound.noIn state] at here
  | dataIn => exact .inr ⟨.inl rfl, settled (by simp [state])⟩
  | csw => exact .inr ⟨.inr rfl, settled (by simp [state])⟩

/-- In `BOT_IDLE` what completes is the receive of a wrapper. -/
theorem Sound.out_idle (sound : Sound p)
    (pending : p.outstanding = before ++ ⟨.bulkOut buffer len, owner⟩ :: after)
    (state : p.dev.botState = .idle) : buffer = .cbw ∧ len = cbwLength := by
  have here := sound.idle state ⟨.bulkOut buffer len, owner⟩
    (by rw [(sound.out_alone pending).1]; exact List.mem_singleton_self _)
  injection here with same_buffer same_len
  exact ⟨same_buffer, same_len⟩

end Completions

/-! ### Callbacks -/

/-- A class that has armed one transfer, of its latest command, is sound. -/
theorem sound_of_alone {p : Port} {transfer : Transfer}
    (alone : p.outstanding = [⟨transfer, p.served⟩]) (fresh : p.recovered = false)
    (taken : p.missed = false)
    (ready : transfer.isOut = true →
      (p.dev.botState = .idle ∧ transfer = .bulkOut .cbw cbwLength) ∨ p.dev.botState = .dataOut)
    (sending : transfer.isOut = false → p.dev.botState = .dataIn ∨ p.dev.botState = .csw) :
    Sound p := by
  cases transfer with
  | bulkOut buffer len =>
      rcases ready rfl with ⟨state, wrapper⟩ | state
      · constructor <;> simp [alone, fresh, taken, state, wrapper]
      · constructor <;> simp [alone, fresh, taken, state]
  | bulkIn buffer len =>
      rcases sending rfl with state | state
      · constructor <;> simp [alone, fresh, taken, state]
      · constructor <;> simp [alone, fresh, taken, state]

theorem sound_of_rearms {p : Port} {result : MscState × List Action} (rearms : Rearms result)
    (dev : p.dev = result.1) (alone : p.outstanding = armedFor p.served result.2)
    (fresh : p.recovered = false) (taken : p.missed = false) : Sound p := by
  have listed : ∀ transfer, armed result.2 = [transfer] →
      p.outstanding = [⟨transfer, p.served⟩] := by
    intro transfer one
    rw [alone, armedFor, one]
    rfl
  cases state : result.1.botState <;>
    simp only [Rearms, AwaitsOne, Bus.after, state, List.nil_append] at rearms
  case idle =>
    exact sound_of_alone (listed _ rearms) fresh taken
      (fun _ => .inl ⟨by rw [dev, state], rfl⟩) (by simp [Transfer.isOut])
  case dataOut =>
    obtain ⟨len, one, -⟩ := rearms
    exact sound_of_alone (listed _ one) fresh taken
      (fun _ => .inr (by rw [dev, state])) (by simp [Transfer.isOut])
  case dataIn =>
    obtain ⟨len, one⟩ := rearms
    exact sound_of_alone (listed _ one) fresh taken (by simp [Transfer.isOut])
      (fun _ => .inl (by rw [dev, state]))
  case csw =>
    exact sound_of_alone (listed _ rearms) fresh taken (by simp [Transfer.isOut])
      (fun _ => .inr (by rw [dev, state]))

section Completed

variable {info : SdDevInfo} {p : Port} {others : List Armed} {bytes : List UInt8}
  {dev : MscState} {sd : SdOutcome}

/-- The class takes what a configured device receives. -/
theorem outDone_of_configured (configured : p.handle.devState = .configured) :
    p.outDone info others bytes dev sd =
      let served := if p.dev.botState = .idle then p.served + 1 else p.served
      let result := mscDataOut info mscEpNum (UInt32.ofNat bytes.length) sd dev
      { handle := p.handle
        dev := result.1
        outstanding := others ++ armedFor served result.2
        served := served
        recovered := false
        missed := p.missed } := by
  simp [Port.outDone, Port.TakesWrapper, configured, dataOut_of_configured, mscClass]

theorem outDone_of_not_configured (other : p.handle.devState ≠ .configured) :
    p.outDone info others bytes dev sd =
      { p with
        dev := dev
        outstanding := others
        recovered := false
        missed := p.missed || p.recovered } := by
  have dropped : (p.handle.devState != .configured) = true := bne_iff_ne.mpr other
  simp [Port.outDone, Port.TakesWrapper, other, dropped, dataOut_of_not_configured, armedFor]

theorem inDone_of_configured (configured : p.handle.devState = .configured) :
    p.inDone info others sd =
      let result := mscDataIn mscEpNum sd p.dev
      { p with
        dev := result.1
        outstanding := others ++ armedFor p.served result.2 } := by
  simp [Port.inDone, configured, dataIn_of_configured, mscClass]

theorem inDone_of_not_configured (other : p.handle.devState ≠ .configured) :
    p.inDone info others sd = { p with outstanding := others } := by
  simp [Port.inDone, other, dataIn_of_not_configured, armedFor]

end Completed

/-! ### One step -/

section Steps

variable {behind : Behind} {info : SdDevInfo} {p next : Port}

/-- Transfers that go away without the class doing anything leave it sound. -/
theorem Sound.of_fewer (sound : Sound p) (state : next.dev.botState = p.dev.botState)
    (served : next.served = p.served) (taken : next.missed = false)
    (recovered : next.recovered = true → p.recovered = true)
    (fewerOut : outs next.outstanding = outs p.outstanding ∨
      (outs next.outstanding = [] ∧ next.recovered = false))
    (fewerIn : ins next.outstanding = ins p.outstanding ∨ ins next.outstanding = []) :
    Sound next where
  oneOut := by
    rcases fewerOut with same | ⟨none_, -⟩
    · rw [same]
      exact sound.oneOut
    · simp [none_]
  oneIn := by
    rcases fewerIn with same | none_
    · rw [same]
      exact sound.oneIn
    · simp [none_]
  owned := by
    rcases fewerIn with same | none_
    · rw [same, served]
      exact sound.owned
    · simp [none_]
  taken := taken
  awaited := by
    intro pending
    rcases fewerOut with same | ⟨-, lost⟩
    · rw [state, same]
      exact sound.awaited (recovered pending)
    · simp [lost] at pending
  idle := by
    intro waiting
    rcases fewerOut with same | ⟨none_, -⟩
    · rw [same]
      exact sound.idle (state ▸ waiting)
    · simp [none_]
  noIn := by
    intro writing
    rcases fewerIn with same | none_
    · rw [same]
      exact sound.noIn (state ▸ writing)
    · exact none_
  noOut := by
    intro sending
    rcases fewerOut with same | ⟨none_, -⟩
    · rw [same]
      exact sound.noOut (state ▸ sending)
    · exact none_

variable {before after : List Armed} {buffer : Buffer} {len : UInt32} {owner : Nat}
  {bytes : List UInt8} {dev : MscState} {sd : SdOutcome}

/-- A packet that fits changes nothing but its buffer. -/
theorem WrapperFits.delivered (short : WrapperFits p (.out bytes sd))
    (pending : p.outstanding = before ++ ⟨.bulkOut buffer len, owner⟩ :: after)
    (delivered : p.dev.delivered behind buffer bytes = some dev) :
    dev = p.dev.received buffer bytes := by
  have fits : buffer = .cbw → bytes.length ≤ cbwLength.toNat := by
    rintro rfl
    exact short len owner (by simp [pending])
  rw [delivered_of_fits behind p.dev fits] at delivered
  exact (Option.some.inj delivered).symm

theorem sound_outDone (sound : Sound p) (clean : Clean p (.out bytes sd))
    (state : dev.botState = p.dev.botState)
    (pending : p.outstanding = before ++ ⟨.bulkOut buffer len, owner⟩ :: after) :
    Sound (p.outDone info (before ++ after) bytes dev sd) := by
  obtain ⟨-, no_out, same_in⟩ := sound.out_alone pending
  by_cases configured : p.handle.devState = .configured
  · have inTurn := sound.out_inTurn pending
    have no_in : ins p.outstanding = [] := by
      rcases inTurn with idle | dataOut
      · exact clean.2 ⟨configured, idle⟩
      · exact sound.noIn dataOut
    rw [outDone_of_configured configured, eq_nil_of_endpoints no_out (same_in.trans no_in)]
    exact sound_of_rearms (rearms_mscDataOut info _ sd dev (by rwa [state])) rfl rfl rfl
      sound.taken
  · have settled : p.recovered = false := by
      rw [← Bool.not_eq_true]
      exact fun recovered => configured (clean.1 recovered)
    rw [outDone_of_not_configured configured]
    exact sound.of_fewer state rfl (by simp [sound.taken, settled])
      (by simp) (.inr ⟨no_out, rfl⟩) (.inl same_in)

theorem sound_inDone (sound : Sound p)
    (pending : p.outstanding = before ++ ⟨.bulkIn buffer len, owner⟩ :: after) :
    Sound (p.inDone info (before ++ after) sd) := by
  obtain ⟨-, no_in, same_out⟩ := sound.in_alone pending
  have dropped : Sound { p with outstanding := before ++ after } :=
    sound.of_fewer rfl rfl sound.taken id (.inl same_out) (.inr no_in)
  by_cases configured : p.handle.devState = .configured
  · rw [inDone_of_configured configured]
    rcases sound.in_inTurn pending with idle | ⟨inTurn, settled⟩
    · -- the callback does nothing with an old reply
      simpa [mscDataIn, idle, armedFor] using dropped
    · rw [eq_nil_of_endpoints (same_out.trans (sound.noOut inTurn)) no_in]
      exact sound_of_rearms (rearms_mscDataIn sd p.dev inTurn) rfl rfl settled sound.taken
  · rw [inDone_of_not_configured configured]
    exact dropped

/-- The class does not stop anything when it is stopped. -/
theorem eq_of_stopped {xferCount : UInt32} {s : MscState} {result : MscState × List Action}
    (stopped : Stopped (mscClass info xferCount sd) s result) : result = (s, []) := by
  rcases stopped with untouched | ⟨cfgidx, closed⟩
  · exact untouched
  · exact closed

theorem mscSetup_of_botReset (req : SetupReq) (s : MscState)
    (reset : req.bmRequest &&& 0x60 = 0x20 ∧ req.bRequest = 0xFF) :
    (mscSetup req s).1.botState = .idle ∧
      armed (mscSetup req s).2 = [.bulkOut .cbw cbwLength] := by
  simp [mscSetup, reset.1, reset.2, mscArmCbw]

theorem mscSetup_of_not_botReset (req : SetupReq) (s : MscState)
    (other : ¬ (req.bmRequest &&& 0x60 = 0x20 ∧ req.bRequest = 0xFF)) :
    (mscSetup req s).1.botState = s.botState ∧ armed (mscSetup req s).2 = [] := by
  unfold mscSetup
  dsimp only
  split
  · rename_i ofClass
    split
    · exact ⟨rfl, rfl⟩
    · split
      · rename_i reset
        exact absurd ⟨ofClass, reset⟩ other
      · exact ⟨rfl, rfl⟩
  · exact ⟨rfl, rfl⟩

variable (info) {action : UsbAction}

/-- A restart waits for a wrapper, whatever the class was doing and whatever is
still outstanding. -/
theorem control_of_restarts (restarts : Restarts p.handle action) :
    (p.control info action).dev.botState = .idle ∧
      (p.control info action).outstanding =
        p.outstanding ++ [⟨.bulkOut .cbw cbwLength, p.served⟩] := by
  cases action <;> try exact restarts.elim
  case setup req =>
    have kept : kept (.setup req) p.outstanding = p.outstanding := rfl
    rcases restarts with starts | ⟨reaches, reset⟩
    · obtain ⟨stopped, undergone, dev, actions⟩ :=
        handleIt_of_starts (mscClass info 0 .ok) p.dev starts
      rw [eq_of_stopped undergone] at dev actions
      constructor
      · simp only [Port.control, dev]
        rfl
      · simp only [Port.control, actions, kept]
        rfl
    · obtain ⟨dev, actions⟩ := handleIt_of_reaches (mscClass info 0 .ok) p.dev reaches
      obtain ⟨state, wrapper⟩ := mscSetup_of_botReset ⟨req.bmRequest, req.bRequest⟩ p.dev reset
      constructor
      · simp only [Port.control, dev]
        exact state
      · have one : armed (classActions (usbCoreHandleIt (mscClass info 0 .ok) (.setup req)
            p.handle p.dev).actions) = [.bulkOut .cbw cbwLength] := actions ▸ wrapper
        simp only [Port.control, kept, armedFor, one]
        rfl

theorem control_of_not_restarts (noTransfer : action.endpoint = none)
    (other : ¬ Restarts p.handle action) :
    (p.control info action).dev.botState = p.dev.botState ∧
      (p.control info action).outstanding = kept action p.outstanding := by
  have quiet : ∀ actions, armed actions = [] →
      kept action p.outstanding ++ armedFor p.served actions = kept action p.outstanding := by
    intro actions none_
    simp [armedFor, none_]
  by_cases reached : ∃ req, action = .setup req ∧ ReachesClass p.handle req
  · obtain ⟨req, rfl, reaches⟩ := reached
    obtain ⟨dev, actions⟩ := handleIt_of_reaches (mscClass info 0 .ok) p.dev reaches
    obtain ⟨state, none_⟩ := mscSetup_of_not_botReset ⟨req.bmRequest, req.bRequest⟩
      p.dev (fun reset => other (.inr ⟨reaches, reset⟩))
    constructor
    · simp only [Port.control, dev]
      exact state
    · exact quiet _ (actions ▸ none_)
  · have untouched := eq_of_stopped (handleIt_of_neither (mscClass info 0 .ok) p.dev noTransfer
      (fun req same starts => other (same ▸ .inl starts))
      (fun req same reaches => reached ⟨req, same, reaches⟩))
    have dev := congrArg Prod.fst untouched
    have actions := congrArg Prod.snd untouched
    constructor
    · exact congrArg MscState.botState dev
    · exact quiet _ (by rw [show classActions _ = _ from actions]; rfl)

variable {info}

theorem sound_control (sound : Sound p) (noTransfer : action.endpoint = none)
    (clean : Clean p (.control action)) : Sound (p.control info action) := by
  by_cases restarts : Restarts p.handle action
  · obtain ⟨state, outstanding⟩ := control_of_restarts info restarts
    have no_out := clean restarts
    have now_out : outs (p.control info action).outstanding =
        [⟨.bulkOut .cbw cbwLength, p.served⟩] := by
      simp [outstanding, no_out]
    have same_in : ins (p.control info action).outstanding = ins p.outstanding := by
      simp [outstanding]
    exact
      { oneOut := by simp [now_out]
        oneIn := by
          rw [same_in]
          exact sound.oneIn
        owned := by
          rw [same_in]
          exact sound.owned
        taken := sound.taken
        awaited := fun _ => ⟨state, _, now_out⟩
        idle := by simp [now_out]
        noIn := by simp [state]
        noOut := by simp [state] }
  · obtain ⟨state, outstanding⟩ := control_of_not_restarts info noTransfer restarts
    have recovered : (p.control info action).recovered =
        if Unconfigures p.handle action then false else p.recovered := if_neg restarts
    by_cases ends : action = .reset
    · subst ends
      have gone : (p.control info .reset).outstanding = [] := outstanding
      have lost : (p.control info .reset).recovered = false := recovered.trans (if_pos trivial)
      exact sound.of_fewer state rfl sound.taken (by simp [lost]) (.inr ⟨by simp [gone], lost⟩)
        (.inr (by simp [gone]))
    · have same : (p.control info action).outstanding = p.outstanding := by
        rw [outstanding, kept, if_neg ends]
      refine sound.of_fewer state rfl sound.taken ?_ (.inl (by rw [same])) (.inl (by rw [same]))
      rw [recovered]
      split <;> simp

/-- A clean step keeps the class sound. -/
theorem sound_step {event : PortEvent} (sound : Sound p) (clean : Clean p event)
    (short : WrapperFits p event) (step : PortStep behind info p event next) : Sound next := by
  cases step with
  | out pending fits delivered =>
      rw [short.delivered pending delivered]
      exact sound_outDone sound clean (received_botState _ _ _) pending
  | in_ pending => exact sound_inDone sound pending
  | control noTransfer => exact sound_control sound noTransfer clean

/-! ### What soundness gives -/

theorem Sound.recovers (sound : Sound p) : Recovers behind info p where
  oneOut := sound.oneOut
  oneIn := sound.oneIn
  owned := sound.owned
  taken := sound.taken
  awaited := by
    intro recovered
    obtain ⟨state, owner, one⟩ := sound.awaited recovered
    have member : ⟨.bulkOut .cbw cbwLength, owner⟩ ∈ p.outstanding :=
      List.mem_of_mem_filter (one ▸ List.mem_singleton_self _)
    obtain ⟨before, after, pending⟩ := List.append_of_mem member
    exact ⟨state, fun v sd => ⟨_, .out pending (wire_fits v.cbw) (delivered_wire v.cbw _ behind)⟩⟩
  dispatched := by
    intro takes v sd next step
    cases step with
    | out pending fits delivered =>
        obtain ⟨rfl, -⟩ := sound.out_idle pending takes.2
        obtain rfl := Option.some.inj ((delivered_wire v.cbw p.dev behind).symm.trans delivered)
        have dispatch := mscDataOut_wire info sd v.signed takes.2
        simp only [outDone_of_configured takes.1, takes.2, if_true, dispatch, true_and]
        exact ⟨_, rfl⟩
  inTurn := by
    intro _ bytes sd next step
    cases step with
    | out pending fits delivered => exact sound.out_inTurn pending

/-- A packet that is taken for a wrapper while a reply is outstanding leaves the
old reply in front of the new command's. -/
theorem not_owned_outDone (sound : Sound p) (takes : p.TakesWrapper)
    (stale : ins p.outstanding ≠ [])
    (pending : p.outstanding = before ++ ⟨.bulkOut buffer len, owner⟩ :: after) :
    ∃ a ∈ ins (p.outDone info (before ++ after) bytes dev sd).outstanding,
      a.owner ≠ (p.outDone info (before ++ after) bytes dev sd).served := by
  obtain ⟨a, old⟩ := List.exists_mem_of_ne_nil _ stale
  have here : a ∈ ins (before ++ after) := by rwa [(sound.out_alone pending).2.2]
  have counted : (p.outDone info (before ++ after) bytes dev sd).served = p.served + 1 :=
    if_pos takes
  refine ⟨a, ?_, ?_⟩
  · simp only [Port.outDone, ins_append] at here ⊢
    exact List.mem_append_left _ here
  · rw [counted, sound.owned a old]
    exact Nat.ne_of_lt (Nat.lt_succ_self _)

/-- A step that is not clean ends the recovery. -/
theorem not_recovers_of_not_clean {event : PortEvent} (sound : Sound p)
    (step : PortStep behind info p event next) (unclean : ¬ Clean p event) :
    ¬ Recovers behind info next := by
  intro recovers
  cases step with
  | in_ pending => exact unclean trivial
  | control noTransfer =>
      simp only [Clean, Classical.not_imp] at unclean
      obtain ⟨restarts, busy⟩ := unclean
      have one := recovers.oneOut
      have some_out := List.length_pos_of_ne_nil busy
      simp only [(control_of_restarts info restarts).2, outs_append, outs_cons_out, outs_nil,
        List.length_append, List.length_singleton] at one
      omega
  | out pending fits delivered =>
      simp only [Clean, not_and_or, Classical.not_imp] at unclean
      rcases unclean with ⟨recovered, other⟩ | ⟨takes, stale⟩
      · have taken := recovers.taken
        simp [outDone_of_not_configured other, recovered] at taken
      · obtain ⟨a, sending, other⟩ := not_owned_outDone sound takes stale pending
        exact other (recovers.owned a sending)

theorem recovers_step_iff {event : PortEvent} (sound : Sound p) (short : WrapperFits p event)
    (step : PortStep behind info p event next) : Recovers behind info next ↔ Clean p event := by
  constructor
  · intro recovers
    by_contra unclean
    exact not_recovers_of_not_clean sound step unclean recovers
  · intro clean
    exact (sound_step sound clean short step).recovers

end Steps

/-! ### Runs -/

/-- As long as the class is restarted only while no receive is outstanding, no
packet is taken for a wrapper while an old reply is, and the packet after a
restart finds the device configured, and no packet longer than a wrapper goes into
`cbw`, every restart recovers the class. The first step with no such packet that is
not clean ends that. -/
theorem portRun_recovers (behind : Behind) (info : SdDevInfo) (desc : UInt16 → Option (List UInt8))
    (card : Store UInt8) {events : List PortEvent} {p : Port}
    (run : Run (Guarded Orderly (PortStep behind info)) (.boot desc card) events p) :
    Recovers behind info p ∧
      ∀ event next, WrapperFits p event → PortStep behind info p event next →
        (Recovers behind info next ↔ Clean p event) := by
  have sound : Sound p := by
    apply run.guarded_invariant Sound _ (sound_boot desc card)
    intro state event next before ⟨clean, short⟩ step
    exact sound_step before clean short step
  exact ⟨sound.recovers, fun _ _ short step => recovers_step_iff sound short step⟩

/-! ### An interrupted READ(10) -/

def setAddress : UsbSetupReq := ⟨0, 0x05, 7, 0, 0⟩

def setConfiguration (value : UInt16) : UsbSetupReq := ⟨0, 0x09, value, 0, 0⟩

def botReset : UsbSetupReq := ⟨0x21, 0xFF, 0, 0, 0⟩

/-- A READ(10) of the first block. -/
def readFirst : ValidCbw where
  cbw := .ofBytes
    [0x55, 0x53, 0x42, 0x43, 1, 0, 0, 0, 0, 2, 0, 0, 0x80, 0, 10, 0x28, 0, 0, 0, 0, 0, 0, 0, 1]
  signed := by decide

def unitReady : ValidCbw where
  cbw := .ofBytes [0x55, 0x53, 0x42, 0x43, 2, 0, 0, 0, 0, 0, 0, 0, 0, 0, 6]
  signed := by decide

/-- A blank card behind a device that the host has configured. -/
def configuredPort : Port :=
  ((Port.boot (fun _ => none) fun _ => 0).control .smallest (.setup setAddress)).control
    .smallest (.setup (setConfiguration 1))

/-- The first block of the card is on its way to the host. -/
def readingPort : Port :=
  configuredPort.outDone .smallest [] readFirst.cbw.wire
    (configuredPort.dev.received .cbw readFirst.cbw.wire) .ok

/-- The host gives up and resets. -/
def interruptedPort : Port := readingPort.control .smallest (.setup botReset)

def staleBlock : Armed := ⟨.bulkIn .xferBuf 512, 1⟩

def awaitedWrapper (owner : Nat) : Armed := ⟨.bulkOut .cbw cbwLength, owner⟩

/-- The old block has been collected, and its data thrown away. -/
def collectedPort : Port := interruptedPort.inDone .smallest [awaitedWrapper 1] .ok

/-- The next command comes before the old block has been collected. -/
def overtakenPort : Port :=
  interruptedPort.outDone .smallest [staleBlock] unitReady.cbw.wire
    (interruptedPort.dev.received .cbw unitReady.cbw.wire) .ok

theorem interrupted_outstanding :
    interruptedPort.outstanding = [staleBlock, awaitedWrapper 1] := by decide

theorem orderlyRun_configured :
    Run (Guarded Orderly (PortStep .stateFirst .smallest)) (.boot (fun _ => none) fun _ => 0)
      [.control (.setup setAddress), .control (.setup (setConfiguration 1))]
      configuredPort :=
  .cons ⟨⟨fun _ => rfl, trivial⟩, .control rfl⟩
    (.single ⟨⟨fun _ => rfl, trivial⟩, .control rfl⟩)

/-- Up to the reset in the middle of the data phase every step is orderly. -/
theorem orderlyRun_interrupted :
    Run (Guarded Orderly (PortStep .stateFirst .smallest)) (.boot (fun _ => none) fun _ => 0)
      [.control (.setup setAddress), .control (.setup (setConfiguration 1)),
        .out readFirst.cbw.wire .ok, .control (.setup botReset)] interruptedPort := by
  have pending : configuredPort.outstanding = [] ++ awaitedWrapper 0 :: [] := by decide
  have taken : PortStep .stateFirst .smallest configuredPort (.out readFirst.cbw.wire .ok)
      readingPort := .out pending (wire_fits readFirst.cbw) (delivered_wire readFirst.cbw _ _)
  have alone : Clean configuredPort (.out readFirst.cbw.wire .ok) := ⟨fun _ => rfl, fun _ => rfl⟩
  have short : WrapperFits configuredPort (.out readFirst.cbw.wire .ok) :=
    fun _ _ _ => Nat.le_of_eq (wire_length _)
  have reading := orderlyRun_configured.snoc ⟨⟨alone, short⟩, taken⟩
  have no_out : outs readingPort.outstanding = [] := by decide
  exact reading.snoc ⟨⟨fun _ => no_out, trivial⟩, .control rfl⟩

/-- A host that collects the old block first has recovered the class. -/
theorem portRun_recovers_midRead :
    collectedPort.recovered = true ∧ Recovers .stateFirst .smallest collectedPort := by
  have pending : interruptedPort.outstanding = [] ++ staleBlock :: [awaitedWrapper 1] :=
    interrupted_outstanding
  have collected : PortStep .stateFirst .smallest interruptedPort (.in_ .ok) collectedPort :=
    .in_ pending
  have orderly : Orderly interruptedPort (.in_ .ok) := ⟨trivial, trivial⟩
  exact ⟨by decide, (portRun_recovers .stateFirst .smallest (fun _ => none) (fun _ => 0)
    (orderlyRun_interrupted.snoc ⟨orderly, collected⟩)).1⟩

/-- A reset while the class waits for a wrapper, and a new configuration then,
arm a second receive over the first. After a reset in the middle of a READ(10)
the next command is taken while the old block is still on its way, and the host
gets that block first. -/
theorem portRun_restart_unclean :
    (∃ p, Run (PortStep .stateFirst .smallest) (.boot (fun _ => none) fun _ => 0)
        [.control (.setup setAddress), .control (.setup (setConfiguration 1)),
          .control (.setup botReset)] p ∧
      p.outstanding = [awaitedWrapper 0, awaitedWrapper 0] ∧ ¬ Recovers .stateFirst .smallest p) ∧
    (∃ p, Run (PortStep .stateFirst .smallest) (.boot (fun _ => none) fun _ => 0)
        [.control (.setup setAddress), .control (.setup (setConfiguration 1)),
          .control (.setup (setConfiguration 0)), .control (.setup (setConfiguration 1))] p ∧
      p.outstanding = [awaitedWrapper 0, awaitedWrapper 0] ∧ ¬ Recovers .stateFirst .smallest p) ∧
    Run (PortStep .stateFirst .smallest) (.boot (fun _ => none) fun _ => 0)
        [.control (.setup setAddress), .control (.setup (setConfiguration 1)),
          .out readFirst.cbw.wire .ok, .control (.setup botReset),
          .out unitReady.cbw.wire .ok] overtakenPort ∧
      overtakenPort.served = 2 ∧
      overtakenPort.outstanding = [staleBlock, ⟨.bulkIn .csw cswLength, 2⟩] ∧
      ¬ Recovers .stateFirst .smallest overtakenPort := by
  have configured := orderlyRun_configured.of_guarded
  refine ⟨⟨_, configured.snoc (.control rfl), by decide, ?_⟩,
    ⟨_, (configured.snoc (.control rfl)).snoc (.control rfl), by decide, ?_⟩,
    ?_, by decide, by decide, ?_⟩
  · intro recovers
    exact absurd recovers.oneOut (by decide)
  · intro recovers
    exact absurd recovers.oneOut (by decide)
  · have pending : interruptedPort.outstanding = [staleBlock] ++ awaitedWrapper 1 :: [] :=
      interrupted_outstanding
    exact orderlyRun_interrupted.of_guarded.snoc
      (.out pending (wire_fits unitReady.cbw) (delivered_wire unitReady.cbw _ _))
  · intro recovers
    exact absurd (recovers.owned staleBlock) (by decide)

end Mp257Fsbl.Usb.Msc
