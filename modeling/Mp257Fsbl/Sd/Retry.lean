/-
Module: Mp257Fsbl.Sd.Retry
Purpose: How many requests one command makes, and when its nested stops end.
Trusted boundary: none
Main exports: Request.needsStop, sendCmd_requests_le, Bus.Settles,
  sendCmd_returns, Bus.Hangs, stopTransfer_never_returns
-/
import Mp257Fsbl.Sd.Command
import Mathlib.Tactic.Common

namespace Mp257Fsbl.Sd

open Mp257Fsbl.Foundation

variable {W α : Type} {bus : Bus W}

/-- The driver stops the transfer behind this request. -/
def Request.needsStop (request : Request) : Bool := request.err ≠ 0 ∧ request.active

/-! ### The parts of one request -/

/-- The state when the wait for the answer is over. -/
def SdHost.answered (bus : Bus W) (cmd : MmcCmd) (waited : Bool × UInt32) (host : SdHost W) :
    SdHost W :=
  let sent := host.program cmd
  { sent with world := (bus.request sent.regs sent.world).2 }.logged waited

/-- How the request that would be sent now goes. -/
def SdHost.waited (bus : Bus W) (cmd : MmcCmd) (host : SdHost W) : Option (Bool × UInt32) :=
  let sent := host.program cmd
  pollCmd (flagsCmd cmd) (bus.request sent.regs sent.world).1.samples

/-- The response to it. -/
def SdHost.response (bus : Bus W) (cmd : MmcCmd) (host : SdHost W) : Resp :=
  let sent := host.program cmd
  respond cmd (bus.request sent.regs sent.world).1.resp

/-- One request, by how it goes. -/
theorem sendCmdReq_eq (stop : Call (SdHost W) Int) (cmd : MmcCmd) (host : SdHost W) :
    sendCmdReq bus stop cmd host =
      match host.waited bus cmd with
      | none => none
      | some waited =>
          let after := host.answered bus cmd waited
          if reqError waited = 0 then
            some ((0, { cmd with respData := host.response bus cmd }), after)
          else if waited.2 &&& sdmmcStarDpsmact ≠ 0 then
            (stop after.endRequest).map fun stopped =>
              ((if stopped.1 ≠ 0 then stopped.1 else reqError waited, cmd), stopped.2)
          else some ((reqError waited, cmd), after.endRequest) := by
  unfold sendCmdReq SdHost.waited SdHost.answered SdHost.response
  simp only [Call.bind_apply, Call.update_apply, request, Option.bind_some]
  generalize bus.request (SdHost.program cmd host).regs (SdHost.program cmd host).world = answered
  cases pollCmd (flagsCmd cmd) answered.1.samples with
  | none => rfl
  | some waited =>
      simp only [Call.bind_apply, Call.ite_apply, Call.update_apply, Option.bind_some,
        Call.pure_apply]
      split
      · rfl
      · split
        · cases stop _ with
          | none => rfl
          | some stopped => rfl
        · rfl

/-! ### How many requests -/

/-- At most `k` requests, and three more for each of them that needs a stop. -/
def SendsWithin (k : Nat) (host after : SdHost W) : Prop :=
  ∃ new, after.requests = host.requests ++ new ∧
    new.length ≤ k + 3 * new.countP Request.needsStop

theorem SendsWithin.none (host : SdHost W) : SendsWithin 0 host host := ⟨[], by simp⟩

theorem SendsWithin.trans {j k : Nat} {host between after : SdHost W}
    (first : SendsWithin j host between) (second : SendsWithin k between after) :
    SendsWithin (j + k) host after := by
  obtain ⟨new, grown, few⟩ := first
  obtain ⟨newer, grown', few'⟩ := second
  refine ⟨new ++ newer, by rw [grown', grown, List.append_assoc], ?_⟩
  rw [List.length_append, List.countP_append]
  omega

theorem SendsWithin.mono {j k : Nat} {host after : SdHost W} (sends : SendsWithin j host after)
    (le : j ≤ k) : SendsWithin k host after := by
  obtain ⟨new, grown, few⟩ := sends
  exact ⟨new, grown, by omega⟩

theorem answered_requests (bus : Bus W) (cmd : MmcCmd) (waited : Bool × UInt32) (host : SdHost W) :
    ∃ sent : Request, (host.answered bus cmd waited).requests = host.requests ++ [sent] ∧
      sent.needsStop = decide (reqError waited ≠ 0 ∧ waited.2 &&& sdmmcStarDpsmact ≠ 0) :=
  ⟨_, rfl, by simp [Request.needsStop]⟩

/-- One request, and what its stop sends where it needs one. -/
theorem sendCmdReq_within {stop : Call (SdHost W) Int}
    (stops : Call.Steps (SendsWithin 3) stop) (cmd : MmcCmd) :
    Call.Steps (SendsWithin 1) (sendCmdReq bus stop cmd) := by
  intro host result after run
  rw [sendCmdReq_eq] at run
  split at run
  · cases run
  · rename_i waited _
    obtain ⟨sent, grown, needs⟩ := answered_requests bus cmd waited host
    have alone : SendsWithin 1 host (host.answered bus cmd waited) :=
      ⟨[sent], grown, by simp⟩
    dsimp only at run
    split at run
    · cases run
      exact alone
    · rename_i failed
      split at run
      · rename_i active
        obtain ⟨stopped, ran, ended⟩ := Option.map_eq_some_iff.mp run
        cases ended
        obtain ⟨new, grown', few⟩ := stops _ _ _ ran
        have grown' : stopped.2.requests = (host.answered bus cmd waited).requests ++ new := grown'
        have marked : sent.needsStop = true := by simp [needs, failed, active]
        refine ⟨sent :: new, by rw [grown', grown, List.append_assoc]; rfl, ?_⟩
        rw [List.length_cons, List.countP_cons_of_pos marked]
        omega
      · cases run
        exact alone

theorem retryCmd_within {req : MmcCmd → Call (SdHost W) (Int × MmcCmd)}
    (once : ∀ cmd, Call.Steps (SendsWithin 1) (req cmd)) (rounds : Nat) (err : Int)
    (cmd : MmcCmd) : Call.Steps (SendsWithin rounds) (retryCmd req rounds err cmd) := by
  induction rounds generalizing err cmd with
  | zero =>
      intro host result after run
      cases run
      exact SendsWithin.none host
  | succ rounds ih =>
      intro host result after run
      rw [retryCmd] at run
      obtain ⟨⟨err, cmd'⟩, between, first, rest⟩ := Call.bind_eq_some run
      have sent := once cmd _ _ _ first
      simp only [Call.ite_apply, Call.pure_apply] at rest
      split at rest
      · cases rest
        exact sent.mono (by omega)
      · split at rest
        · cases rest
          exact sent.mono (by omega)
        · exact (sent.trans (ih err cmd' _ _ _ rest)).mono (by omega)

theorem sendCmdReqAt_within (bus : Bus W) (depth : Nat) (cmd : MmcCmd) :
    Call.Steps (SendsWithin 1) (sendCmdReqAt bus depth cmd) := by
  induction depth generalizing cmd with
  | zero => exact sendCmdReq_within Call.Steps.stuck cmd
  | succ depth ih =>
      apply sendCmdReq_within
      intro host ret after run
      obtain ⟨result, between, first, rest⟩ := Call.bind_eq_some run
      cases rest
      exact retryCmd_within ih 3 0 cmdStop _ _ _ first

/-- However the controller answers, a command that returns has made at most
three requests, and three more for each request whose transfer had to be
stopped. -/
theorem sendCmd_requests_le (bus : Bus W) (depth : Nat) (cmd : MmcCmd) :
    Call.Steps (SendsWithin 3) (sendCmd bus depth cmd) :=
  retryCmd_within (sendCmdReqAt_within bus depth) 3 0 cmd

/-! ### Whether it returns -/

/-- Every wait ends, and a budget falls with each request that needs a stop. -/
structure Bus.Settles (bus : Bus W) (budget : W → Nat) : Prop where
  answers : ∀ cmd regs w, pollCmd (flagsCmd cmd) (bus.request regs w).1.samples ≠ none
  falls : ∀ cmd regs w waited,
    pollCmd (flagsCmd cmd) (bus.request regs w).1.samples = some waited →
      budget (bus.request regs w).2 +
        (if reqError waited ≠ 0 ∧ waited.2 &&& sdmmcStarDpsmact ≠ 0 then 1 else 0) ≤ budget w

/-- Each request that needs a stop is paid for. -/
def Spends (budget : W → Nat) (host after : SdHost W) : Prop :=
  ∃ new, after.requests = host.requests ++ new ∧
    new.countP Request.needsStop + budget after.world ≤ budget host.world

theorem Spends.nothing (budget : W → Nat) (host : SdHost W) : Spends budget host host :=
  ⟨[], by simp⟩

theorem Spends.trans {budget : W → Nat} {host between after : SdHost W}
    (first : Spends budget host between) (second : Spends budget between after) :
    Spends budget host after := by
  obtain ⟨new, grown, paid⟩ := first
  obtain ⟨newer, grown', paid'⟩ := second
  refine ⟨new ++ newer, by rw [grown', grown, List.append_assoc], ?_⟩
  rw [List.countP_append]
  omega

/-- The call returns, and pays for its stops. -/
def ReturnsWithin (budget : W → Nat) (code : Call (SdHost W) α) (host : SdHost W) : Prop :=
  ∃ result after, code host = some (result, after) ∧ Spends budget host after

theorem answered_spends {budget : W → Nat} (settles : bus.Settles budget) {cmd : MmcCmd}
    {waited : Bool × UInt32} {host : SdHost W} (poll : host.waited bus cmd = some waited) :
    Spends budget host (host.answered bus cmd waited) := by
  obtain ⟨sent, grown, needs⟩ := answered_requests bus cmd waited host
  refine ⟨[sent], grown, ?_⟩
  have falls := settles.falls cmd _ _ waited poll
  rw [List.countP_singleton, needs]
  simp only [decide_eq_true_eq]
  rw [Nat.add_comm]
  exact falls

theorem sendCmdReq_returns {budget : W → Nat} (settles : bus.Settles budget)
    {stop : Call (SdHost W) Int} {depth : Nat}
    (stops : ∀ host : SdHost W, budget host.world < depth → ReturnsWithin budget stop host)
    (cmd : MmcCmd) (host : SdHost W) (enough : budget host.world ≤ depth) :
    ReturnsWithin budget (sendCmdReq bus stop cmd) host := by
  unfold ReturnsWithin
  rw [sendCmdReq_eq]
  cases poll : host.waited bus cmd with
  | none => exact absurd poll (settles.answers cmd _ _)
  | some waited =>
      have spent := answered_spends settles poll
      dsimp only
      split
      · exact ⟨_, _, rfl, spent⟩
      · rename_i failed
        split
        · rename_i active
          have less := settles.falls cmd _ _ waited poll
          rw [if_pos ⟨failed, active⟩] at less
          obtain ⟨ret, after, ran, rest⟩ :=
            stops (host.answered bus cmd waited).endRequest (Nat.lt_of_lt_of_le less enough)
          rw [ran]
          exact ⟨_, after, rfl, spent.trans rest⟩
        · exact ⟨_, _, rfl, spent⟩

theorem retryCmd_returns {budget : W → Nat} {depth : Nat}
    {req : MmcCmd → Call (SdHost W) (Int × MmcCmd)}
    (once : ∀ cmd host, budget host.world ≤ depth → ReturnsWithin budget (req cmd) host)
    (rounds : Nat) (err : Int) (cmd : MmcCmd) (host : SdHost W)
    (enough : budget host.world ≤ depth) :
    ReturnsWithin budget (retryCmd req rounds err cmd) host := by
  induction rounds generalizing err cmd host with
  | zero => exact ⟨_, host, rfl, .nothing budget host⟩
  | succ rounds ih =>
      obtain ⟨⟨err, cmd'⟩, between, first, spent⟩ := once cmd host enough
      unfold ReturnsWithin
      rw [retryCmd, Call.bind_of_some first]
      simp only [Call.ite_apply, Call.pure_apply]
      split
      · exact ⟨_, _, rfl, spent⟩
      · split
        · exact ⟨_, _, rfl, spent⟩
        · have left : budget between.world ≤ depth := by
            obtain ⟨new, _, paid⟩ := spent
            omega
          obtain ⟨result, after, rest, spent'⟩ := ih err cmd' between left
          exact ⟨result, after, rest, spent.trans spent'⟩

theorem sendCmdReqAt_returns {budget : W → Nat} (settles : bus.Settles budget) (depth : Nat)
    (cmd : MmcCmd) (host : SdHost W) (enough : budget host.world ≤ depth) :
    ReturnsWithin budget (sendCmdReqAt bus depth cmd) host := by
  induction depth generalizing cmd host with
  | zero =>
      exact sendCmdReq_returns settles (fun _ less => absurd less (Nat.not_lt_zero _)) cmd host
        enough
  | succ depth ih =>
      refine sendCmdReq_returns settles (fun between less => ?_) cmd host enough
      obtain ⟨result, after, ran, spent⟩ :=
        retryCmd_returns ih 3 0 cmdStop between (Nat.le_of_lt_succ less)
      exact ⟨result.1, after, by rw [Call.bind_of_some ran]; rfl, spent⟩

/-- Where every wait ends and only so many requests can need a stop, the nested
stops end: the command returns, and has made at most three requests for itself
and three for each stop. -/
theorem sendCmd_returns {budget : W → Nat} (settles : bus.Settles budget) (cmd : MmcCmd)
    (host : SdHost W) {depth : Nat} (enough : budget host.world ≤ depth) :
    ∃ result after, sendCmd bus depth cmd host = some (result, after) ∧
      after.requests.length ≤ host.requests.length + 3 * (1 + budget host.world) := by
  obtain ⟨result, after, ran, new, grown, paid⟩ :=
    retryCmd_returns (sendCmdReqAt_returns settles depth) 3 0 cmd host enough
  refine ⟨result, after, ran, ?_⟩
  obtain ⟨sent, grown', few⟩ := sendCmd_requests_le bus depth cmd host result after ran
  have same : new = sent := List.append_cancel_left (grown.symm.trans grown')
  subst same
  rw [grown, List.length_append]
  omega

/-- A bus that fails so many requests with the data path active and answers the
others. -/
def stoppingBus : Bus Nat where
  request := fun _ left =>
    (⟨[⟨if left = 0 then sdmmcStarCmdrend else sdmmcStarCtimeout ||| sdmmcStarDpsmact, true⟩],
      .zero⟩, left - 1)
  drain := fun _ left => (([], fun _ => 0), left)
  feed := fun _ left => ([], left)
  fed := fun _ _ left => left

/-- A wait that the clock ends at its first status. -/
theorem pollCmd_elapsed (flags status : UInt32) :
    ∃ late, pollCmd flags [⟨status, true⟩] = some (late, status) := by
  rw [pollCmd]
  by_cases shown : status &&& flags ≠ 0
  · exact ⟨false, if_pos shown⟩
  · exact ⟨true, if_neg shown⟩

theorem stoppingBus_settles : stoppingBus.Settles id where
  answers := by
    intro cmd regs left
    obtain ⟨late, polled⟩ := pollCmd_elapsed (flagsCmd cmd)
      (if left = 0 then sdmmcStarCmdrend else sdmmcStarCtimeout ||| sdmmcStarDpsmact)
    simp [stoppingBus, polled]
  falls := by
    intro cmd regs left waited polled
    obtain ⟨late, ended⟩ := pollCmd_elapsed (flagsCmd cmd)
      (if left = 0 then sdmmcStarCmdrend else sdmmcStarCtimeout ||| sdmmcStarDpsmact)
    obtain rfl := Option.some.inj (ended.symm.trans polled)
    simp only [stoppingBus, id_eq]
    cases left with
    | zero =>
        have idle : sdmmcStarCmdrend &&& sdmmcStarDpsmact = 0 := by decide
        simp [idle]
    | succ left =>
        rw [if_neg (Nat.succ_ne_zero left)]
        split <;> omega

theorem sendCmd_returns_oneStop :
    ∃ result after, sendCmd stoppingBus 1 ⟨17, 0, mmcResponseR1, .zero⟩ (.reset 1) =
        some (result, after) ∧ after.requests.length ≤ 0 + 3 * (1 + id 1) :=
  sendCmd_returns stoppingBus_settles ⟨17, 0, mmcResponseR1, .zero⟩ (.reset 1) (by decide)

/-- No CMD12 is answered, and the data path stays active. -/
def Bus.Hangs (bus : Bus W) : Prop :=
  ∀ regs w, ∃ waited, pollCmd (flagsCmd cmdStop) (bus.request regs w).1.samples = some waited ∧
    reqError waited ≠ 0 ∧ waited.2 &&& sdmmcStarDpsmact ≠ 0

/-- Then a stop stops its own failed request, and so on: it never returns,
however deep the calls may be nested. -/
theorem stopTransfer_never_returns (hangs : bus.Hangs) (depth : Nat) (host : SdHost W) :
    stopTransfer bus depth host = none := by
  have first (stop : Call (SdHost W) Int) (stuck : ∀ host, stop host = none) (host : SdHost W) :
      sendCmdReq bus stop cmdStop host = none := by
    obtain ⟨waited, polled, failed, active⟩ :=
      hangs (host.program cmdStop).regs (host.program cmdStop).world
    have poll : host.waited bus cmdStop = some waited := polled
    rw [sendCmdReq_eq, poll]
    dsimp only
    rw [if_neg failed, if_pos active, stuck]
    rfl
  have each (depth : Nat) (host : SdHost W) : sendCmdReqAt bus depth cmdStop host = none := by
    induction depth generalizing host with
    | zero => exact first Call.stuck (fun _ => rfl) host
    | succ depth ih =>
        refine first _ (fun host => ?_) host
        have sent : retryCmd (sendCmdReqAt bus depth) 3 0 cmdStop host = none := by
          rw [retryCmd]
          exact Call.bind_of_none (ih host)
        exact Call.bind_of_none sent
  have sent : sendCmd bus depth cmdStop host = none := by
    rw [sendCmd, retryCmd]
    exact Call.bind_of_none (each depth host)
  exact Call.bind_of_none sent

/-- A bus without a card whose data path never comes to rest. -/
def hangingBus : Bus Unit where
  request := fun _ _ => (⟨[⟨sdmmcStarCtimeout ||| sdmmcStarDpsmact, false⟩], .zero⟩, ())
  drain := fun _ _ => (([], fun _ => 0), ())
  feed := fun _ _ => ([], ())
  fed := fun _ _ _ => ()

theorem stopTransfer_never_returns_noCard : stopTransfer hangingBus 3 (.reset ()) = none := by
  apply stopTransfer_never_returns
  intro regs w
  exact ⟨(false, sdmmcStarCtimeout ||| sdmmcStarDpsmact), rfl, by decide, by decide⟩

end Mp257Fsbl.Sd
