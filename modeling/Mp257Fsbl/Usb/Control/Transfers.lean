/-
Module: Mp257Fsbl.Usb.Control.Transfers
Purpose: The control transfers of endpoint zero, stage by stage and event by event,
  are the requests that the core performs at once.
Trusted boundary: human-reviewed statement of which transfers agree
Main exports: Agrees, ep0Words, Linked, Linked.poll, LinkedFrom,
  run_linked, reachable_agrees
-/
import Mp257Fsbl.Usb.Control.Link

namespace Mp257Fsbl.Usb.Control

open Mp257Fsbl.Foundation

variable {answer : List EpCmd → EpCmd → CmdAnswer}

/-! ### Agreement -/

/-- The transfers of the host against the requests performed: one that has ended has
got the reply of the request, and one that has been ended by a reset, or is under way,
has been performed once or not at all. -/
inductive Agrees : List (SetupPacket × Option Reply) → List (SetupPacket × Reply) → Prop where
  | nil : Agrees [] []
  | answered {log : List (SetupPacket × Option Reply)} {performed : List (SetupPacket × Reply)}
      {packet : SetupPacket} {reply : Reply} (before : Agrees log performed) :
      Agrees (log ++ [(packet, some reply)]) (performed ++ [(packet, reply)])
  | lost {log : List (SetupPacket × Option Reply)} {performed : List (SetupPacket × Reply)}
      {packet : SetupPacket} {reply : Reply} (before : Agrees log performed) :
      Agrees (log ++ [(packet, none)]) (performed ++ [(packet, reply)])
  | unserved {log : List (SetupPacket × Option Reply)}
      {performed : List (SetupPacket × Reply)} {packet : SetupPacket}
      (before : Agrees log performed) : Agrees (log ++ [(packet, none)]) performed

/-- A transfer that has not ended. -/
theorem Agrees.unended {log : List (SetupPacket × Option Reply)}
    {served : List (SetupPacket × Reply)} (agrees : Agrees log served) (packet : SetupPacket)
    (stage : Stage) (asked : Bool) (done : Option Reply) :
    Agrees (log ++ [(packet, none)]) (served ++ settled (.busy packet stage asked) done) := by
  cases done with
  | none => simpa [settled] using agrees.unserved
  | some reply => exact agrees.lost

theorem Agrees.pending {log : List (SetupPacket × Option Reply)}
    {served : List (SetupPacket × Reply)} (agrees : Agrees log served) (host : Host)
    (done : Option Reply) : Agrees (log ++ host.pending) (served ++ settled host done) := by
  cases host with
  | idle => simpa [Host.pending, settled] using agrees
  | busy packet stage asked => exact agrees.unended packet stage asked done

/-! ### The events of endpoint zero -/

def Word.isEp0 : Word → Bool
  | .other _ _ => false
  | _ => true

def ep0Words (words : List Word) : List Word := words.filter Word.isEp0

@[simp] theorem ep0Words_append (before after : List Word) :
    ep0Words (before ++ after) = ep0Words before ++ ep0Words after := List.filter_append ..

@[simp] theorem ep0Words_complete (dir : Dir) : ep0Words [.complete dir] = [.complete dir] := rfl

@[simp] theorem ep0Words_reset : ep0Words [.reset] = [.reset] := rfl

@[simp] theorem ep0Words_notReady (stage : Stage) :
    ep0Words [stage.notReady] = [stage.notReady] := by
  cases stage <;> rfl

@[simp] theorem ep0Words_other (word : UInt32) (other : Other word) :
    ep0Words [.other word other] = [] := rfl

/-! ### Reading a phase -/

section

variable {packet : SetupPacket} {stage : Stage} {asked : Bool} {done : Option Reply}
  {words : List Word} {v : Ep0View}

theorem Phase.idle_listens (phase : Phase .idle done words v) (owned : v.outTrb.hwo = true) :
    Waiting v ∧ AllStale v words := by
  cases phase with
  | waiting waits stale => exact ⟨waits, stale⟩
  | acked engaged =>
      rw [engaged.used] at owned
      cases owned
  | closed _ used =>
      rw [used] at owned
      cases owned

theorem Phase.idle_done (phase : Phase .idle done words v) : done = none := by
  cases phase <;> rfl

/-- A bus reset behind a transfer that has ended. -/
theorem Phase.idle_reset (phase : Phase .idle done words v) :
    Phase .idle done (words ++ [.reset]) v := by
  have last : AllResets [.reset] := List.forall_mem_singleton.mpr rfl
  cases phase with
  | waiting waits stale =>
      refine .waiting waits (List.forall_mem_append.mpr ⟨stale, ?_⟩)
      exact List.forall_mem_singleton.mpr trivial
  | acked engaged moved empty core resets =>
      exact .acked engaged moved empty core (List.forall_mem_append.mpr ⟨resets, last⟩)
  | closed completed used empty idle core resets =>
      exact .closed completed used empty idle core (List.forall_mem_append.mpr ⟨resets, last⟩)

/-- A transfer in which the device waits for a SETUP has been refused. -/
theorem Phase.busy_waits (phase : Phase (.busy packet stage asked) done words v)
    (waits : Waiting v) : done = some .stall ∧ AllStale v words := by
  have owned : v.outTrb.hwo = true := by
    rw [waits.trb]
    rfl
  have queued := waits.queued
  cases phase with
  | refused _ _ stale => exact ⟨rfl, stale⟩
  | taken _ _ _ used =>
      rw [used] at owned
      cases owned
  | begun _ engaged =>
      rw [engaged.completed] at queued
      cases queued
  | acking engaged =>
      rw [engaged.completed] at queued
      cases queued
  | sending engaged =>
      rw [engaged.completed] at queued
      cases queued
  | sent engaged =>
      rw [engaged.completed] at queued
      cases queued
  | read engaged =>
      rw [engaged.completed] at queued
      cases queued
  | closing completed =>
      rw [completed] at queued
      cases queued

/-- Where the OUT direction has a descriptor in a transfer. -/
theorem Phase.busy_owned (phase : Phase (.busy packet stage asked) done words v)
    (owned : v.outTrb.hwo = true) :
    (done = some .stall ∧ Waiting v ∧ v.stalled = true ∧ AllStale v words) ∨
      (∃ bytes, stage = .statusOut bytes ∧ done = some (.data bytes) ∧ words = [] ∧
        v.ep0State = .setupCompleted ∧ v.stalled = false ∧ v.outTrb.ctl = .status3 ∧
        v.outLen = 0 ∧ v.inQueued = false ∧ v.core = .statusOut) := by
  cases phase with
  | refused waits stalled stale => exact .inl ⟨rfl, waits, stalled, stale⟩
  | closing completed clear _ ctl empty idle core =>
      exact .inr ⟨_, rfl, rfl, rfl, completed, clear, ctl, empty, idle, core⟩
  | taken _ _ _ used =>
      rw [used] at owned
      cases owned
  | begun _ engaged =>
      rw [engaged.used] at owned
      cases owned
  | acking engaged =>
      rw [engaged.used] at owned
      cases owned
  | sending engaged =>
      rw [engaged.used] at owned
      cases owned
  | sent engaged =>
      rw [engaged.used] at owned
      cases owned
  | read engaged =>
      rw [engaged.used] at owned
      cases owned

/-- The host asks. -/
theorem Phase.asks (phase : Phase (.busy packet stage false) done words v) :
    Phase (.busy packet stage true) done (words ++ [stage.notReady]) v := by
  cases phase with
  | taken conforming queued stored used idle stale =>
      rw [List.append_assoc]
      exact .taken conforming queued stored used idle stale
  | begun conforming engaged noData idle => exact .begun conforming engaged noData idle
  | sending engaged some_length inward active owned ctl bp size some_bytes core early =>
      refine .sending engaged some_length inward active owned ctl bp size some_bytes core ?_
      exact List.forall_mem_append.mpr ⟨early, List.forall_mem_singleton.mpr rfl⟩
  | sent engaged some_length inward moved some_bytes core early =>
      rw [List.append_assoc]
      exact .sent engaged some_length inward moved some_bytes core early
  | read engaged some_length idle core => exact .read engaged some_length idle core
  | refused waits stalled stale =>
      refine .refused waits stalled (List.forall_mem_append.mpr ⟨stale, ?_⟩)
      exact stale_asks stalled stage true

/-- An active transfer in the IN direction. -/
theorem Phase.busy_active (phase : Phase (.busy packet stage asked) done words v)
    (active : v.inQueued = true) :
    (stage = .statusIn ∧ asked = true ∧ done = some .ack ∧ words = [] ∧ Engaged packet v ∧
        v.inLen = 0 ∧ v.core = .statusIn) ∨
      (∃ bytes, done = some (.data bytes) ∧ v.inTrb.bp = .data bytes ∧ stage = .dataIn ∧
        v.inTrb.size.toNat = bytes.length ∧ packet.reqLen ≠ 0 ∧ packet.dataDirIn ≠ 0 ∧
        Engaged packet v ∧ v.inLen ≠ 0 ∧ v.core = .dataIn ∧ AllEarly words) ∨
      ∃ bytes, stage = .statusOut bytes := by
  cases phase with
  | acking engaged _ _ _ empty core => exact .inl ⟨rfl, rfl, rfl, rfl, engaged, empty, core⟩
  | sending engaged some_length inward _ _ _ bp size some_bytes core early =>
      exact .inr (.inl ⟨_, rfl, bp, rfl, size, some_length, inward, engaged, some_bytes, core,
        early⟩)
  | taken _ _ _ _ idle =>
      rw [idle] at active
      cases active
  | begun _ _ _ idle =>
      rw [idle] at active
      cases active
  | sent => exact .inr (.inr ⟨_, rfl⟩)
  | read => exact .inr (.inr ⟨_, rfl⟩)
  | closing => exact .inr (.inr ⟨_, rfl⟩)
  | refused waits =>
      rw [waits.idle] at active
      cases active

end

/-! ### The invariant -/

/-- The link against the requests performed: in a phase, or in one that a bus reset
has ended and that the device has not left yet. -/
inductive Linked (link : Link) (performed : List (SetupPacket × Reply)) : Prop where
  | current {served : List (SetupPacket × Reply)} {done : Option Reply}
      (agrees : Agrees link.log served)
      (all : performed = served ++ settled link.host done)
      (phase : Phase link.host done (ep0Words link.events) link.device.view)
  | aborted {served : List (SetupPacket × Reply)} {log : List (SetupPacket × Option Reply)}
      {packet : SetupPacket} {stage : Stage} {asked : Bool} {done : Option Reply}
      {before after : List Word} (idle : link.host = .idle) (agrees : Agrees log served)
      (logged : link.log = log ++ [(packet, none)])
      (all : performed = served ++ settled (.busy packet stage asked) done)
      (phase : Phase (.busy packet stage asked) done before link.device.view)
      (words : ep0Words link.events = before ++ .reset :: after) (resets : AllResets after)
      (deaf : ¬ Waiting link.device.view)

section

variable {link : Link} {performed : List (SetupPacket × Reply)} {packet : SetupPacket}
  {stage : Stage} {asked : Bool}

theorem Linked.agrees (linked : Linked link performed) : Agrees link.history performed := by
  cases linked with
  | current agrees all phase => exact all ▸ agrees.pending link.host _
  | @aborted served log packet stage asked done _ _ idle agrees logged all =>
      rw [Link.history, idle, logged, all, Host.pending, List.append_nil]
      exact agrees.unended packet stage asked done

/-- A host in a transfer is in its phase. -/
theorem Linked.busy (linked : Linked link performed) (busy : link.host = .busy packet stage asked) :
    ∃ served done, Agrees link.log served ∧
      performed = served ++ settled (.busy packet stage asked) done ∧
      Phase (.busy packet stage asked) done (ep0Words link.events) link.device.view := by
  cases linked with
  | current agrees all phase => exact ⟨_, _, agrees, busy ▸ all, busy ▸ phase⟩
  | aborted idle =>
      rw [busy] at idle
      cases idle

/-- A SETUP packet is only taken between transfers. -/
theorem Linked.listens (linked : Linked link performed) (idle : link.host = .idle)
    (owned : link.device.dwc3.outEp.trb.hwo = true)
    (waits : link.device.dwc3.outEp.trb.ctl = .setup) :
    Agrees link.log performed ∧ Waiting link.device.view ∧
      AllStale link.device.view (ep0Words link.events) := by
  cases linked with
  | current agrees all phase =>
      rw [idle] at all phase
      have none := phase.idle_done
      subst none
      exact ⟨(all.trans (List.append_nil _)) ▸ agrees, phase.idle_listens owned⟩
  | aborted _ _ _ _ phase _ _ deaf =>
      rcases phase.busy_owned owned with ⟨_, waiting, _⟩ | ⟨_, _, _, _, _, _, status, _⟩
      · exact absurd waiting deaf
      · have setup : link.device.view.outTrb.ctl = .setup := waits
        rw [setup] at status
        cases status

theorem Linked.setup (linked : Linked link performed) (idle : link.host = .idle)
    (conforming : Conforming packet.req) (owned : link.device.dwc3.outEp.trb.hwo = true)
    (waits : link.device.dwc3.outEp.trb.ctl = .setup) :
    Linked
      { link with
        device := (link.device.stored packet).moved .dirOut
        events := link.events ++ [.complete .dirOut]
        host := .busy packet packet.firstStage false } performed := by
  obtain ⟨agrees, waiting, stale⟩ := linked.listens idle owned waits
  have unserved : performed = performed ++ settled (.busy packet packet.firstStage false) none :=
    (List.append_nil _).symm
  refine .current agrees unserved ?_
  rw [ep0Words_append, ep0Words_complete]
  exact .taken conforming waiting.queued rfl rfl waiting.idle stale

theorem Linked.ask (linked : Linked link performed)
    (busy : link.host = .busy packet stage false) :
    Linked
      { link with
        events := link.events ++ [stage.notReady]
        host := .busy packet stage true } performed := by
  obtain ⟨served, done, agrees, all, phase⟩ := linked.busy busy
  refine .current agrees all ?_
  rw [ep0Words_append, ep0Words_notReady]
  exact phase.asks

theorem Linked.data {bytes : List UInt8} (linked : Linked link performed)
    (busy : link.host = .busy packet .dataIn asked)
    (active : link.device.dwc3.inEp.reqQueued = true)
    (bp : link.device.dwc3.inEp.trb.bp = .data bytes) :
    Linked
      { link with
        device := link.device.moved .dirIn
        events := link.events ++ [.complete .dirIn]
        host := .busy packet (.statusOut (bytes.take link.device.dwc3.inEp.trb.size.toNat)) false }
      performed := by
  obtain ⟨served, done, agrees, all, phase⟩ := linked.busy busy
  rcases phase.busy_active active with ⟨other, _⟩ | sending | ⟨_, other⟩
  · cases other
  · obtain ⟨sent, decided, moving, _, size, some_length, inward, engaged, some_bytes, core,
      early⟩ := sending
    have same : sent = bytes := Ep0Buffer.data.inj (moving.symm.trans bp)
    subst same
    have whole : sent.take link.device.dwc3.inEp.trb.size.toNat = sent := by
      have length : link.device.dwc3.inEp.trb.size.toNat = sent.length := size
      rw [length, List.take_length]
    subst decided
    refine .current agrees all ?_
    rw [ep0Words_append, ep0Words_complete, whole]
    exact .sent ⟨engaged.completed, engaged.stored, engaged.clear, engaged.used⟩ some_length
      inward rfl some_bytes core early
  · cases other

theorem Linked.ack (linked : Linked link performed)
    (busy : link.host = .busy packet .statusIn asked)
    (active : link.device.dwc3.inEp.reqQueued = true) :
    Linked
      { device := link.device.moved .dirIn
        events := link.events ++ [.complete .dirIn]
        host := .idle
        log := link.log ++ [(packet, some .ack)] } performed := by
  obtain ⟨served, done, agrees, all, phase⟩ := linked.busy busy
  rcases phase.busy_active active with acking | ⟨_, _, _, other, _⟩ | ⟨_, other⟩
  · obtain ⟨_, _, decided, words, engaged, empty, core⟩ := acking
    have ended : performed = (served ++ [(packet, .ack)]) ++ settled .idle none := by
      rw [all, decided]
      exact (List.append_nil _).symm
    refine .current agrees.answered ended ?_
    rw [ep0Words_append, ep0Words_complete, words]
    exact .acked ⟨engaged.completed, engaged.stored, engaged.clear, engaged.used⟩ rfl empty core
      nofun
  · cases other
  · cases other

theorem Linked.closed {bytes : List UInt8} (linked : Linked link performed)
    (busy : link.host = .busy packet (.statusOut bytes) asked)
    (owned : link.device.dwc3.outEp.trb.hwo = true)
    (status : link.device.dwc3.outEp.trb.IsStatus) :
    Linked
      { device := link.device.moved .dirOut
        events := link.events ++ [.complete .dirOut]
        host := .idle
        log := link.log ++ [(packet, some (.data bytes))] } performed := by
  obtain ⟨served, done, agrees, all, phase⟩ := linked.busy busy
  rcases phase.busy_owned owned with ⟨_, waiting, _⟩ | closing
  · have setup : link.device.dwc3.outEp.trb = setupTrb := waiting.trb
    rw [setup] at status
    cases status with
    | inl status => cases status
    | inr status => cases status
  · obtain ⟨_, same, decided, words, completed, clear, _, empty, idle, core⟩ := closing
    cases same
    have ended : performed = (served ++ [(packet, .data bytes)]) ++ settled .idle none := by
      rw [all, decided]
      exact (List.append_nil _).symm
    refine .current agrees.answered ended ?_
    rw [ep0Words_append, ep0Words_complete, words]
    exact .closed completed rfl empty idle core nofun

theorem Linked.stalled (linked : Linked link performed)
    (busy : link.host = .busy packet stage asked)
    (stalled : link.device.dwc3.outEp.isStall = true)
    (since : link.device.dwc3.outEp.trb.hwo = true) :
    Linked { link with host := .idle, log := link.log ++ [(packet, some .stall)] } performed := by
  obtain ⟨served, done, agrees, all, phase⟩ := linked.busy busy
  rcases phase.busy_owned since with ⟨decided, waiting, _, stale⟩ | closing
  · have ended : performed = (served ++ [(packet, .stall)]) ++ settled .idle none := by
      rw [all, decided]
      exact (List.append_nil _).symm
    exact .current agrees.answered ended (.waiting waiting stale)
  · obtain ⟨_, _, _, _, _, clear, _⟩ := closing
    have same : link.device.dwc3.outEp.isStall = false := clear
    rw [same] at stalled
    cases stalled

theorem Linked.reset (linked : Linked link performed) :
    Linked { link with events := link.events ++ [.reset], host := .idle, log := link.history }
      performed := by
  have last : AllResets [.reset] := List.forall_mem_singleton.mpr rfl
  cases linked with
  | aborted idle agrees logged all phase words resets deaf =>
      refine .aborted rfl agrees ?_ all phase ?_ (List.forall_mem_append.mpr ⟨resets, last⟩) deaf
      · rw [Link.history, idle, Host.pending, List.append_nil, logged]
      · rw [ep0Words_append, ep0Words_reset, words, List.append_assoc, List.cons_append]
  | @current served done agrees all phase =>
      cases host : link.host with
      | idle =>
          rw [host] at all phase
          have none := phase.idle_done
          subst none
          have history : Agrees link.history served := by
            rw [Link.history, host, Host.pending, List.append_nil]
            exact agrees
          refine .current history all ?_
          rw [ep0Words_append, ep0Words_reset]
          exact phase.idle_reset
      | busy packet stage asked =>
          rw [host] at all phase
          have history : link.history = link.log ++ [(packet, none)] := by
            rw [Link.history, host, Host.pending]
          by_cases waits : Waiting link.device.view
          · obtain ⟨decided, stale⟩ := phase.busy_waits waits
            have ended : performed = performed ++ settled .idle none := (List.append_nil _).symm
            refine .current ?_ ended ?_
            · rw [history, all]
              exact agrees.unended packet stage asked done
            · rw [ep0Words_append, ep0Words_reset]
              exact (Phase.waiting waits stale).idle_reset
          · have none : AllResets [] := nofun
            refine .aborted rfl agrees history all phase ?_ none waits
            rw [ep0Words_append, ep0Words_reset]

theorem Linked.other {word : UInt32} (linked : Linked link performed) (other : Other word) :
    Linked { link with events := link.events ++ [.other word other] } performed := by
  have same : ep0Words (link.events ++ [.other word other]) = ep0Words link.events := by simp
  cases linked with
  | current agrees all phase => exact .current agrees all (same ▸ phase)
  | aborted idle agrees logged all phase words resets deaf =>
      exact .aborted idle agrees logged all phase (same.trans words) resets deaf

end

section

variable {link : Link} {performed : List (SetupPacket × Reply)} {packet : SetupPacket}
  {stage : Stage} {asked : Bool} {done : Option Reply} {word : Word} {rest : List Word}

/-- What the device makes of an event, and what the core undergoes. -/
def Advances (link : Link) (performed : List (SetupPacket × Reply)) (rest : List Word)
    (d : Device Msc.MscState) : Prop :=
  ∃ events, Run CoreStep link.device.coreState events d.coreState ∧
    Linked { link with device := d, events := rest } (performed ++ replies events)

theorem Linked.poll_other {word : UInt32} (other : Other word) (obeys : Obeys answer)
    (listening : Listening mscDesc link.device) (linked : Linked link performed)
    (outside : Outside) (dsts : UInt32) (next : link.events = .other word other :: rest) :
    Advances link performed rest (link.device.handled answer outside dsts (.other word other)) := by
  have smallDesc : SmallDesc link.device.handle.desc :=
    listening.desc ▸ fun _ _ found => (mscDesc_small found).2
  obtain ⟨action, reports, elsewhere⟩ := @reports_other _ answer dsts link.device obeys word other
  obtain ⟨view, core⟩ := handled_event obeys smallDesc outside reports elsewhere
  have same : ep0Words link.events = ep0Words rest := by
    rw [next]
    rfl
  refine ⟨[.event action], ?_, ?_⟩
  · rw [core]
    exact .single (.event elsewhere)
  · rw [show performed ++ replies [.event action] = performed from List.append_nil _]
    cases linked with
    | current agrees all phase =>
        refine .current agrees all ?_
        dsimp only
        rw [view, ← same]
        exact phase
    | aborted idle agrees logged all phase words resets deaf =>
        refine .aborted idle agrees logged all ?_ (same.symm.trans words) resets ?_
        · dsimp only
          rw [view]
          exact phase
        · dsimp only
          rw [view]
          exact deaf

/-- A transfer that a reset finds, with nothing in front of it. -/
theorem Phase.reset_found {v : Ep0View} (phase : Phase (.busy packet stage asked) done [] v)
    (deaf : ¬ Waiting v) :
    v.ep0State = .setupCompleted ∧ v.stalled = false := by
  generalize none : [] = words at phase
  cases phase with
  | @taken _ _ before =>
      cases before <;> cases none
  | begun _ engaged => exact ⟨engaged.completed, engaged.clear⟩
  | acking engaged => exact ⟨engaged.completed, engaged.clear⟩
  | sending engaged => exact ⟨engaged.completed, engaged.clear⟩
  | @sent _ _ _ before =>
      cases before <;> cases none
  | read engaged => exact ⟨engaged.completed, engaged.clear⟩
  | closing completed clear => exact ⟨completed, clear⟩
  | refused waits => exact absurd waits deaf

/-- The device leaves a transfer that a reset has ended. -/
theorem Linked.poll_aborted {log : List (SetupPacket × Option Reply)}
    {served : List (SetupPacket × Reply)} {before after : List Word} (obeys : Obeys answer)
    (listening : Listening mscDesc link.device) (outside : Outside) (dsts : UInt32)
    (next : word :: ep0Words rest = before ++ .reset :: after) (idle : link.host = .idle)
    (agrees : Agrees log served) (logged : link.log = log ++ [(packet, none)])
    (all : performed = served ++ settled (.busy packet stage asked) done)
    (phase : Phase (.busy packet stage asked) done before link.device.view)
    (resets : AllResets after) (deaf : ¬ Waiting link.device.view) :
    Advances link performed rest (link.device.handled answer outside dsts word) := by
  have staleResets (v : Ep0View) : AllStale v after := fun word member =>
    (resets word member) ▸ trivial
  cases before with
  | nil =>
      obtain ⟨rfl, left⟩ := List.cons.inj next
      have smallDesc : SmallDesc link.device.handle.desc :=
        listening.desc ▸ fun _ _ found => (mscDesc_small found).2
      obtain ⟨completed, clear⟩ := phase.reset_found deaf
      obtain ⟨view, core⟩ := handled_event obeys smallDesc outside
        (reports_reset dsts obeys completed clear) .reset
      refine ⟨[.event .reset], ?_, ?_⟩
      · rw [core]
        exact .single (.event .reset)
      · have ended : performed ++ replies [.event .reset] =
            performed ++ settled link.host none := by
          rw [idle]
          rfl
        refine .current ?_ ended ?_
        · rw [logged, all]
          exact agrees.unended packet stage asked done
        · dsimp only
          rw [idle, left, view]
          exact .waiting ⟨rfl, rfl, rfl⟩ (staleResets _)
  | cons first others =>
      obtain ⟨rfl, left⟩ := List.cons.inj next
      obtain ⟨events, done', run, phase', more⟩ :=
        phase.handled obeys listening outside dsts rfl
      have all' : performed ++ replies events =
          served ++ settled (.busy packet stage asked) done' := by
        rw [all, List.append_assoc, more]
      refine ⟨events, run, ?_⟩
      by_cases waits : Waiting (link.device.handled answer outside dsts word).view
      · have stale := (phase'.busy_waits waits).2
        have ended : performed ++ replies events =
            (performed ++ replies events) ++ settled link.host none := by
          rw [idle]
          exact (List.append_nil _).symm
        refine .current ?_ ended ?_
        · rw [logged, all']
          exact agrees.unended packet stage asked done'
        · dsimp only
          rw [idle, left]
          refine .waiting waits (List.forall_mem_append.mpr ⟨stale, ?_⟩)
          exact List.forall_mem_cons.mpr ⟨trivial, staleResets _⟩
      · exact .aborted idle agrees logged all' phase' left resets waits

theorem Linked.poll (obeys : Obeys answer) (listening : Listening mscDesc link.device)
    (linked : Linked link performed) (outside : Outside) (dsts : UInt32)
    (next : link.events = word :: rest) :
    Advances link performed rest (link.device.handled answer outside dsts word) := by
  cases isEp0 : word.isEp0 with
  | false =>
      cases word with
      | other word other => exact linked.poll_other other obeys listening outside dsts next
      | _ => cases isEp0
  | true =>
      have words : ep0Words link.events = word :: ep0Words rest := by
        rw [next, ep0Words, List.filter_cons_of_pos isEp0]
        rfl
      cases linked with
      | @current served done agrees all phase =>
          obtain ⟨events, done', run, phase', more⟩ :=
            phase.handled obeys listening outside dsts words
          refine ⟨events, run, .current agrees ?_ phase'⟩
          rw [all, List.append_assoc, more]
      | aborted idle agrees logged all phase found resets deaf =>
          exact Linked.poll_aborted obeys listening outside dsts (words.symm.trans found) idle
            agrees logged all phase resets deaf

end

/-! ### Runs -/

/-- The link behind a run of the core. -/
structure LinkedFrom (start : CoreState) (link : Link) : Prop where
  listening : Listening mscDesc link.device
  linked : ∃ events, Run CoreStep start events link.device.coreState ∧
    Linked link (replies events)

theorem replies_append (front back : List CoreEvent) :
    replies (front ++ back) = replies front ++ replies back := List.filterMap_append

theorem small_mscWith (outside : Outside) : SmallClass mscEp0Call (mscWith outside) :=
  mscSmall outside.1 outside.2.1 outside.2.2

theorem smallDesc_msc : SmallDesc mscDesc := fun _ _ found => (mscDesc_small found).2

theorem listening_moved {d : Device Msc.MscState} (listening : Listening mscDesc d) (dir : Dir) :
    Listening mscDesc (d.moved dir) :=
  listening.step small_mscWith smallDesc_msc
    (.complete : DeviceStep obedient mscEp0Call mscWith d (.complete dir 0) (d.moved dir))

theorem listening_stored {d : Device Msc.MscState} (listening : Listening mscDesc d)
    (packet : SetupPacket) : Listening mscDesc (d.stored packet) :=
  listening.step small_mscWith smallDesc_msc
    (.packet : DeviceStep obedient mscEp0Call mscWith d (.packet packet) (d.stored packet))

theorem LinkedFrom.step (obeys : Obeys answer) {start : CoreState} {link link' : Link}
    {label : LinkEvent} (before : LinkedFrom start link)
    (step : LinkStep answer link label link') : LinkedFrom start link' := by
  obtain ⟨listening, events, run, linked⟩ := before
  cases step with
  | setup idle conforming owned waits =>
      exact ⟨listening_moved (listening_stored listening _) .dirOut, events, run,
        linked.setup idle conforming owned waits⟩
  | ask busy => exact ⟨listening, events, run, linked.ask busy⟩
  | data busy active owned ctl bp =>
      exact ⟨listening_moved listening .dirIn, events, run, linked.data busy active bp⟩
  | ack busy active =>
      exact ⟨listening_moved listening .dirIn, events, run, linked.ack busy active⟩
  | closed busy owned status =>
      exact ⟨listening_moved listening .dirOut, events, run, linked.closed busy owned status⟩
  | stalled busy stalled since =>
      exact ⟨listening, events, run, linked.stalled busy stalled since⟩
  | reset => exact ⟨listening, events, run, linked.reset⟩
  | other other => exact ⟨listening, events, run, linked.other other⟩
  | @poll _ outside dsts word rest next =>
      obtain ⟨more, further, linked'⟩ := linked.poll obeys listening outside dsts next
      have handled : Listening mscDesc (link.device.handled answer outside dsts word) :=
        listening.event (small_mscWith outside) smallDesc_msc dsts word.bits
      exact ⟨handled, events ++ more, run.append further, (replies_append _ _) ▸ linked'⟩

theorem waiting_started (obeys : Obeys answer) (dev : Msc.MscState) :
    Waiting (Device.started answer mscDesc dev).view := by
  have view := view_outStart obeys (Device.started answer mscDesc dev)
    (h := { ep0State := .setupQueued, outEp := .zero, inEp := .zero
            setupAddr := Vector.replicate 8 0, pcdSetup := Vector.replicate 8 0
            devAddr := 0, cmds := [] }) rfl
  have started : (Device.started answer mscDesc dev).view = _ := view
  rw [started]
  exact ⟨rfl, rfl, rfl⟩

theorem linked_started (obeys : Obeys answer) (dev : Msc.MscState) :
    LinkedFrom ⟨.registered mscDesc, dev⟩ (.started answer dev) where
  listening := listening_started mscDesc dev
  linked := ⟨[], .nil _, .current .nil rfl (.waiting (waiting_started obeys dev) nofun)⟩

/-- Every run leaves a link behind a run of the core. -/
theorem run_linked (obeys : Obeys answer) {dev : Msc.MscState} {labels : List LinkEvent}
    {link : Link} (run : Run (LinkStep answer) (.started answer dev) labels link) :
    LinkedFrom ⟨.registered mscDesc, dev⟩ link :=
  run.invariant (LinkedFrom ⟨.registered mscDesc, dev⟩)
    (fun _ _ _ before step => before.step obeys step) (linked_started obeys dev)

/-- Where the controller ends its commands well and the host sends conforming requests,
one behind the other: in every order of the steps of host, controller and device, with
bus resets at any time, the core has undergone requests performed at once, and the
transfers of the host agree with them. -/
theorem reachable_agrees (obeys : Obeys answer) {dev : Msc.MscState} {labels : List LinkEvent}
    {link : Link} (run : Run (LinkStep answer) (.started answer dev) labels link) :
    ∃ events, Run CoreStep ⟨.registered mscDesc, dev⟩ events link.device.coreState ∧
      Agrees link.history (replies events) := by
  obtain ⟨events, core, linked⟩ := (run_linked obeys run).linked
  exact ⟨events, core, linked.agrees⟩

theorem conforming_getDeviceDesc : Conforming getDeviceDesc.req where
  descriptor _ _ := by decide
  configuration _ request := by cases request
  status _ request := by cases request
  maxLun interface := by cases interface
  botReset interface := by cases interface
  unknown interface := by cases interface
  endpoint device := absurd rfl device

/-- The steps of a whole transfer behind its SETUP. -/
def descriptorSteps : List LinkEvent :=
  [.poll (.smallest, 0, .ok) 0, .data, .poll (.smallest, 0, .ok) 0, .ask,
    .poll (.smallest, 0, .ok) 0, .closed, .poll (.smallest, 0, .ok) 0]

theorem reachable_agrees_descriptor :
    ∃ link, Run (LinkStep obedient) (.started obedient (.boot fun _ => 0))
        (.setup getDeviceDesc :: descriptorSteps) link ∧
      link.history = [(getDeviceDesc, some (.data mscDeviceDesc))] ∧
      ∃ events, Run CoreStep ⟨.registered mscDesc, .boot fun _ => 0⟩ events
          link.device.coreState ∧
        Agrees link.history (replies events) := by
  have run : Run (LinkStep obedient) (.started obedient (.boot fun _ => 0))
      (.setup getDeviceDesc :: descriptorSteps) _ :=
    .cons (.setup rfl conforming_getDeviceDesc rfl rfl)
      (.cons (.poll rfl) (.cons (@LinkStep.data obedient _ _ _ mscDeviceDesc rfl rfl rfl rfl rfl)
        (.cons (.poll rfl) (.cons (.ask rfl) (.cons (.poll rfl)
          (.cons (.closed rfl rfl (.inr rfl)) (.cons (.poll rfl) (.nil _))))))))
  exact ⟨_, run, rfl, reachable_agrees (fun _ _ => rfl) run⟩

end Mp257Fsbl.Usb.Control
