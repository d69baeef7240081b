/-
Module: Mp257Fsbl.Usb.Control.Progress
Purpose: A control transfer that no bus reset ends is over after a bounded number of
  steps, and the device waits for the next one.
Trusted boundary: none
Main exports: LinkEvent.Inner, Link.remaining, inner_lt, stuck_waits, reachable_ends
-/
import Mp257Fsbl.Usb.Control.Transfers

namespace Mp257Fsbl.Usb.Control

open Mp257Fsbl.Foundation

variable {answer : List EpCmd → EpCmd → CmdAnswer}

/-! ### Steps within a transfer -/

/-- The steps of a transfer behind its SETUP. -/
def LinkEvent.Inner : LinkEvent → Prop
  | .setup _ | .reset | .other _ => False
  | .ask | .data | .ack | .closed | .stalled | .poll _ _ => True

/-- The steps of a transfer, taken by any of the three. -/
abbrev InnerStep (answer : List EpCmd → EpCmd → CmdAnswer) : Step Link LinkEvent :=
  Guarded (fun _ label => label.Inner) (LinkStep answer)

/-- What a stage and those behind it cost. -/
def Stage.cost : Stage → Nat
  | .dataIn | .dataOut => 6
  | .statusIn | .statusOut _ => 2

/-- Twice the steps that the host can still take. -/
def Host.remaining : Host → Nat
  | .idle => 0
  | .busy _ stage asked => stage.cost + if asked then 0 else 2

/-- More than the steps that are left of a transfer. -/
def Link.remaining (link : Link) : Nat := link.events.length + link.host.remaining

theorem two_le_remaining (packet : SetupPacket) (stage : Stage) (asked : Bool) :
    2 ≤ (Host.busy packet stage asked).remaining := by
  have cost : 2 ≤ stage.cost := by
    cases stage with
    | dataIn | dataOut => exact Nat.le_add_left 2 4
    | statusIn | statusOut => exact Nat.le_refl 2
  exact Nat.le_trans cost (Nat.le_add_right _ _)

theorem inner_lt {link next : Link} {label : LinkEvent} (step : InnerStep answer link label next) :
    next.remaining < link.remaining := by
  obtain ⟨inner, step⟩ := step
  -- the host pays for the event that the controller reports
  have pays {now : Host} {word : Word} (less : now.remaining + 2 ≤ link.host.remaining) :
      (link.events ++ [word]).length + now.remaining < link.remaining := by
    rw [List.length_append, List.length_singleton, Link.remaining]
    omega
  cases step with
  | setup => exact inner.elim
  | reset => exact inner.elim
  | other => exact inner.elim
  | @ask _ packet stage busy =>
      refine pays ?_
      rw [busy]
      exact Nat.le_refl _
  | @data _ packet asked bytes busy =>
      refine pays ?_
      rw [busy]
      exact Nat.le_add_right 6 _
  | @ack _ packet asked busy =>
      refine pays ?_
      rw [busy]
      exact two_le_remaining packet .statusIn asked
  | @closed _ packet asked bytes busy =>
      refine pays ?_
      rw [busy]
      exact two_le_remaining packet (.statusOut bytes) asked
  | @stalled _ packet stage asked busy =>
      have left := two_le_remaining packet stage asked
      rw [Link.remaining, Link.remaining, busy]
      exact Nat.add_lt_add_left (Nat.lt_of_lt_of_le Nat.two_pos left) _
  | @poll _ outside dsts word rest next =>
      rw [Link.remaining, Link.remaining, next, List.length_cons]
      exact Nat.add_lt_add_right (Nat.lt_succ_self _) _

theorem inner_length {link link' : Link} {labels : List LinkEvent}
    (run : Run (InnerStep answer) link labels link') :
    labels.length + link'.remaining ≤ link.remaining := by
  induction run with
  | nil => exact Nat.le_of_eq (Nat.zero_add _)
  | cons first _ ih =>
      have less := inner_lt first
      rw [List.length_cons]
      omega

/-! ### Where steps lead -/

/-- What a transfer adds to the log of the host: nothing yet, or how it has ended. -/
inductive Follows (link link' : Link) : Prop where
  | idle (before : link.host = .idle) (now : link'.host = .idle) (log : link'.log = link.log)
  | busy {packet : SetupPacket} {stage stage' : Stage} {asked asked' : Bool}
      (before : link.host = .busy packet stage asked)
      (now : link'.host = .busy packet stage' asked') (log : link'.log = link.log)
  | answered {packet : SetupPacket} {stage : Stage} {asked : Bool} {reply : Reply}
      (before : link.host = .busy packet stage asked) (now : link'.host = .idle)
      (log : link'.log = link.log ++ [(packet, some reply)])

theorem Follows.refl (link : Link) : Follows link link := by
  cases host : link.host with
  | idle => exact .idle host host rfl
  | busy packet stage asked => exact .busy host host rfl

/-- In a transfer the host is where it was, or further. -/
theorem Follows.step {link link' next : Link} {label : LinkEvent} (follows : Follows link link')
    (step : InnerStep answer link' label next) : Follows link next := by
  obtain ⟨inner, step⟩ := step
  have further {packet : SetupPacket} {stage stage' : Stage} {asked asked' : Bool}
      (at_ : link'.host = .busy packet stage asked)
      (now : next.host = .busy packet stage' asked') (log : next.log = link'.log) :
      Follows link next := by
    cases follows with
    | idle _ none => rw [none] at at_; cases at_
    | answered _ none => rw [none] at at_; cases at_
    | busy before there kept =>
        rw [there] at at_
        cases at_
        exact .busy before now (log.trans kept)
  have ends {packet : SetupPacket} {stage : Stage} {asked : Bool} {reply : Reply}
      (at_ : link'.host = .busy packet stage asked) (now : next.host = .idle)
      (log : next.log = link'.log ++ [(packet, some reply)]) : Follows link next := by
    cases follows with
    | idle _ none => rw [none] at at_; cases at_
    | answered _ none => rw [none] at at_; cases at_
    | busy before there kept =>
        rw [there] at at_
        cases at_
        exact .answered before now (kept ▸ log)
  cases step with
  | setup => exact inner.elim
  | reset => exact inner.elim
  | other => exact inner.elim
  | ask busy => exact further busy rfl rfl
  | data busy => exact further busy rfl rfl
  | ack busy => exact ends busy rfl rfl
  | closed busy => exact ends busy rfl rfl
  | stalled busy => exact ends busy rfl rfl
  | poll next =>
      cases follows with
      | idle before now log => exact .idle before now log
      | busy before now log => exact .busy before now log
      | answered before now log => exact .answered before now log

theorem Follows.run {link link' : Link} {labels : List LinkEvent}
    (run : Run (InnerStep answer) link labels link') : Follows link link' :=
  run.invariant (Follows link) (fun _ _ _ before step => before.step step) (.refl link)

/-! ### Where no step is left -/

/-- No party can take a step of the transfer. -/
def Stuck (answer : List EpCmd → EpCmd → CmdAnswer) (link : Link) : Prop :=
  ∀ label next, ¬ InnerStep answer link label next

/-- Only a device that waits for the next SETUP leaves nothing to do. -/
theorem stuck_waits {link : Link} {performed : List (SetupPacket × Reply)}
    (linked : Linked link performed) (stuck : Stuck answer link) :
    link.host = .idle ∧ link.events = [] ∧ Waiting link.device.view := by
  have none : link.events = [] := by
    cases words : link.events with
    | nil => rfl
    | cons word rest => exact absurd ⟨trivial, .poll words⟩ (stuck (.poll (.smallest, 0, .ok) 0) _)
  have ep0 : ep0Words link.events = [] := by
    rw [none]
    rfl
  cases linked with
  | aborted _ _ _ _ _ words =>
      rw [ep0] at words
      exact absurd words.symm (List.append_ne_nil_of_right_ne_nil _ (List.cons_ne_nil _ _))
  | @current _ done _ _ phase =>
      rw [ep0] at phase
      cases host : link.host with
      | idle =>
          rw [host] at phase
          cases phase with
          | waiting waits => exact ⟨rfl, none, waits⟩
      | busy packet stage asked =>
          rw [host] at phase
          have asks (same : asked = false) : False := by
            subst same
            exact stuck .ask _ ⟨trivial, .ask host⟩
          generalize empty : [] = words at phase
          exfalso
          cases phase with
          | @taken _ _ before =>
              cases before <;> cases empty
          | begun =>
              cases asked with
              | false => exact asks rfl
              | true => cases empty
          | acking engaged active owned status =>
              exact stuck .ack _ ⟨trivial, .ack host active owned status⟩
          | sending engaged some_length inward active owned ctl bp =>
              exact stuck .data _ ⟨trivial, .data host active owned ctl bp⟩
          | @sent _ _ _ before =>
              cases before <;> cases empty
          | read =>
              cases asked with
              | false => exact asks rfl
              | true => cases empty
          | closing completed clear owned ctl =>
              exact stuck .closed _ ⟨trivial, .closed host owned (.inr ctl)⟩
          | refused waits stalled =>
              have owned : link.device.dwc3.outEp.trb.hwo = true := by
                have trb : link.device.dwc3.outEp.trb = setupTrb := waits.trb
                rw [trb]
                rfl
              exact stuck .stalled _ ⟨trivial, .stalled host stalled owned⟩

/-! ### Runs -/

/-- What the log of the host gets of a transfer. -/
def Host.Answered : Host → List (SetupPacket × Option Reply) → Prop
  | .idle, more => more = []
  | .busy packet _ _, more => ∃ reply, more = [(packet, some reply)]

/-- Where the controller ends its commands well and the host sends conforming requests,
one behind the other, whatever has happened before: without a reset, a transfer takes a
bounded number of further steps in any order, and where none is left the host has its
answer and the device waits for the next SETUP. -/
theorem reachable_ends (obeys : Obeys answer) {dev : Msc.MscState}
    {labels more : List LinkEvent} {link link' : Link}
    (run : Run (LinkStep answer) (.started answer dev) labels link)
    (further : Run (InnerStep answer) link more link') :
    more.length ≤ link.remaining ∧
      (Stuck answer link' →
        link'.events = [] ∧ Waiting link'.device.view ∧
          ∃ answers, link'.log = link.log ++ answers ∧ link.host.Answered answers) := by
  refine ⟨Nat.le_of_add_right_le (inner_length further), fun stuck => ?_⟩
  obtain ⟨_, _, linked⟩ := (run_linked obeys (run.append further.of_guarded)).linked
  obtain ⟨idle, none, waits⟩ := stuck_waits linked stuck
  refine ⟨none, waits, ?_⟩
  cases Follows.run further with
  | idle before _ log => exact ⟨[], by rw [log, List.append_nil], by rw [before]; rfl⟩
  | busy _ now =>
      rw [idle] at now
      cases now
  | answered before _ log => exact ⟨_, log, by rw [before]; exact ⟨_, rfl⟩⟩

/-- The link behind the SETUP of a GET_DESCRIPTOR. -/
def descriptorAsked : Link where
  device :=
    ((Device.started obedient mscDesc (.boot fun _ => 0)).stored getDeviceDesc).moved .dirOut
  events := [.complete .dirOut]
  host := .busy getDeviceDesc getDeviceDesc.firstStage false
  log := []

theorem reachable_ends_descriptor :
    ∃ link', Run (InnerStep obedient) descriptorAsked descriptorSteps link' ∧
      descriptorSteps.length ≤ descriptorAsked.remaining ∧
        (Stuck obedient link' →
          link'.events = [] ∧ Waiting link'.device.view ∧
            ∃ answers, link'.log = descriptorAsked.log ++ answers ∧
              descriptorAsked.host.Answered answers) := by
  have run : Run (LinkStep obedient) (.started obedient (.boot fun _ => 0))
      [.setup getDeviceDesc] descriptorAsked :=
    .single (.setup rfl conforming_getDeviceDesc rfl rfl)
  have further : Run (InnerStep obedient) descriptorAsked descriptorSteps _ :=
    .cons ⟨trivial, .poll rfl⟩
      (.cons ⟨trivial, @LinkStep.data obedient _ _ _ mscDeviceDesc rfl rfl rfl rfl rfl⟩
        (.cons ⟨trivial, .poll rfl⟩ (.cons ⟨trivial, .ask rfl⟩ (.cons ⟨trivial, .poll rfl⟩
          (.cons ⟨trivial, .closed rfl rfl (.inr rfl)⟩ (.cons ⟨trivial, .poll rfl⟩ (.nil _)))))))
  exact ⟨_, further, reachable_ends (fun _ _ => rfl) run further⟩

end Mp257Fsbl.Usb.Control
