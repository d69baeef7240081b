/-
Module: Mp257Fsbl.Usb.Msc.StatusTruth
Purpose: Any sequence of valid wrappers is answered one CSW each, in order; what
  the CSW and a later REQUEST SENSE say is what happened.
Trusted boundary: `Fails`, `failure` and `Answers` state what an answer must
  say; `Watch` only records
Main exports: Answers, AllAnswered, Watch, WatchStep, watchRun_answered
-/
import Mp257Fsbl.Usb.Msc.Stages

namespace Mp257Fsbl.Usb.Msc

open Mp257Fsbl.Foundation
open Mp257Fsbl.Sd

/-! ### What an answer must say -/

/-- A block command with blocks beyond the card. -/
def Cbw.OutOfRange (info : SdDevInfo) (cbw : Cbw) : Prop :=
  (Scsi.ofByte (cbw.cb 0) = some .read10 ∨ Scsi.ofByte (cbw.cb 0) = some .write10) ∧
    1 ≤ cbw.cnt.toNat ∧ info.blockCount < cbw.lba.toNat + cbw.cnt.toNat

instance (info : SdDevInfo) (cbw : Cbw) : Decidable (cbw.OutOfRange info) :=
  inferInstanceAs (Decidable (_ ∧ _ ∧ _))

namespace Account

/-- The command is unsupported or out of range, or one of its SD calls failed. -/
def Fails (info : SdDevInfo) (x : Account) : Prop :=
  Scsi.ofByte (x.cbw.cb 0) = none ∨ x.cbw.OutOfRange info ∨ x.sdFailed = true

instance (info : SdDevInfo) (x : Account) : Decidable (x.Fails info) :=
  inferInstanceAs (Decidable (_ ∨ _ ∨ _))

/-- The key and code of a failing command. -/
def failure (info : SdDevInfo) (x : Account) : Sense :=
  if Scsi.ofByte (x.cbw.cb 0) = none then (0x05, 0x20)
  else if x.cbw.OutOfRange info then (0x05, 0x21)
  else if Scsi.ofByte (x.cbw.cb 0) = some .write10 then (0x04, 0x03)
  else (0x04, 0x11)

end Account

/-- The sense after a history, newest first: that of the latest failing command
since the last REQUEST SENSE. -/
def senseOf (info : SdDevInfo) : List Account → Sense
  | [] => (0, 0)
  | x :: earlier =>
      if Scsi.ofByte (x.cbw.cb 0) = some .requestSense then (0, 0)
      else if x.Fails info then x.failure info
      else senseOf info earlier

/-- The card after a history, newest first. -/
def cardOf (card : Store UInt8) : List Account → Store UInt8
  | [] => card
  | x :: _ => x.after

/-- Of a WRITE(10) whose chunk `k` fails, the chunks before it are stored; its
own range holds anything, and nothing else has changed. -/
def Account.StoppedAt (k : Nat) (x : Account) : Prop :=
  32 * k < x.cnt ∧ x.stored.length = 512 * (32 * k) ∧
    ∃ residue : List UInt8, residue.length = 512 * min 32 (x.cnt - 32 * k) ∧
      x.after = (x.before.overlay (512 * x.lba) x.stored).overlay
        (512 * (x.lba + 32 * k)) residue

/-- The CSW and the data tell the truth about the command that followed
`earlier`. -/
structure Answers (info : SdDevInfo) (earlier : List Account) (x : Account) (csw : Csw) :
    Prop where
  signature : csw.signature = cswSignature
  tag : csw.tag = x.cbw.tag
  status : csw.status = if x.Fails info then 1 else 0
  sense : Scsi.ofByte (x.cbw.cb 0) = some .requestSense →
    x.sent = (sns (senseOf info earlier).1 (senseOf info earlier).2).take
      x.cbw.dataLength.toNat
  written : Scsi.ofByte (x.cbw.cb 0) = some .write10 → csw.status = 0 →
    x.stored.length = 512 * x.cnt ∧ x.after = x.before.overlay (512 * x.lba) x.stored
  stopped : Scsi.ofByte (x.cbw.cb 0) = some .write10 → x.sdFailed = true →
    x.StoppedAt x.sdDone
  untouched : Scsi.ofByte (x.cbw.cb 0) ≠ some .write10 → x.after = x.before

/-- Every command of a history, newest first, has its answer. -/
def AllAnswered (info : SdDevInfo) (card : Store UInt8) : List Account → List Csw → Prop
  | [], [] => True
  | x :: earlier, csw :: csws =>
      x.before = cardOf card earlier ∧ Answers info earlier x csw ∧
        AllAnswered info card earlier csws
  | _, _ => False

/-- As many answers as commands. -/
theorem allAnswered_length {info : SdDevInfo} {card : Store UInt8} (history : List Account) :
    ∀ {csws : List Csw}, AllAnswered info card history csws → history.length = csws.length := by
  induction history with
  | nil =>
      intro csws answered
      cases csws with
      | nil => rfl
      | cons csw csws => exact answered.elim
  | cons x earlier ih =>
      intro csws answered
      cases csws with
      | nil => exact answered.elim
      | cons csw csws => exact congrArg (· + 1) (ih answered.2.2)

/-! ### What the decision of the dispatcher says about the command -/

/-- What the wrapper is when the dispatcher decides so. -/
def Plan.Explained (info : SdDevInfo) (sense : Sense) (cbw : Cbw) : Plan → Prop
  | .good =>
      Scsi.ofByte (cbw.cb 0) ≠ none ∧ ¬ cbw.OutOfRange info ∧
        Scsi.ofByte (cbw.cb 0) ≠ some .requestSense ∧
        (Scsi.ofByte (cbw.cb 0) = some .write10 → cbw.cnt.toNat = 0)
  | .bad left =>
      (Scsi.ofByte (cbw.cb 0) = none ∧ left = (0x05, 0x20)) ∨
        (Scsi.ofByte (cbw.cb 0) ≠ none ∧ cbw.OutOfRange info ∧ left = (0x05, 0x21))
  | .reply data clears =>
      Scsi.ofByte (cbw.cb 0) ≠ none ∧ Scsi.ofByte (cbw.cb 0) ≠ some .read10 ∧
        Scsi.ofByte (cbw.cb 0) ≠ some .write10 ∧
        (Scsi.ofByte (cbw.cb 0) = some .requestSense ↔ clears = true) ∧
        (clears = true → data = sns sense.1 sense.2)
  | .read => Scsi.ofByte (cbw.cb 0) = some .read10 ∧ ¬ cbw.OutOfRange info
  | .write => Scsi.ofByte (cbw.cb 0) = some .write10 ∧ ¬ cbw.OutOfRange info

theorem planIo_explained {info : SdDevInfo} {sense : Sense} {cbw : Cbw} {io : Plan}
    {command : Scsi} (opcode : Scsi.ofByte (cbw.cb 0) = some command)
    (block : command = .read10 ∨ command = .write10)
    (explained : ¬ cbw.OutOfRange info → io.Explained info sense cbw) :
    (cbw.planIo info io).Explained info sense cbw := by
  unfold Cbw.planIo
  split
  · rename_i nothing
    have none_ : cbw.cnt.toNat = 0 := by rw [nothing]; rfl
    refine ⟨by simp [opcode], ?_, ?_, fun _ => none_⟩
    · intro outOfRange
      have some_blocks := outOfRange.2.1
      omega
    · rcases block with rfl | rfl <;> simp [opcode]
  · rename_i some_blocks
    have positive : cbw.cnt.toNat ≠ 0 := fun zero => some_blocks (UInt32.toNat.inj zero)
    split
    · rename_i beyond
      refine .inr ⟨by simp [opcode], ⟨?_, Nat.one_le_iff_ne_zero.mpr positive, beyond⟩, rfl⟩
      rw [opcode]
      rcases block with rfl | rfl
      · exact .inl rfl
      · exact .inr rfl
    · rename_i inRange
      exact explained fun outOfRange => inRange outOfRange.2.2

theorem plan_explained (info : SdDevInfo) (sense : Sense) (cbw : Cbw) :
    (cbw.plan info sense).Explained info sense cbw := by
  unfold Cbw.plan
  cases opcode : Scsi.ofByte (cbw.cb 0) with
  | none => exact .inl ⟨opcode, rfl⟩
  | some command =>
      cases command
      case read10 => exact planIo_explained opcode (.inl rfl) fun inRange => ⟨opcode, inRange⟩
      case write10 => exact planIo_explained opcode (.inr rfl) fun inRange => ⟨opcode, inRange⟩
      all_goals simp [Plan.Explained, opcode, Cbw.OutOfRange]

/-! ### The host at work -/

/-- The bus, the commands it has received and the CSWs the host has collected,
newest first. -/
structure Watch where
  bus : Bus
  history : List Account
  csws : List Csw

/-- A wrapper arrives, or the outstanding transfer completes in full. -/
inductive WatchEvent where
  | command (v : ValidCbw) (sd : SdOutcome)
  | full (supply : Supply)

inductive WatchStep (info : SdDevInfo) : Step Watch WatchEvent where
  | command {w : Watch} {v : ValidCbw} {sd : SdOutcome}
      (pending : w.bus.outstanding = [.bulkOut .cbw cbwLength]) :
      WatchStep info w (.command v sd)
        { bus := (opened info v sd w.bus.dev).bus
          history := (opened info v sd w.bus.dev).account :: w.history
          csws := w.csws }
  | data {w : Watch} {x : Account} {earlier : List Account} {supply : Supply} {next : Course}
      (current : w.history = x :: earlier)
      (step : FullStep info { bus := w.bus, account := x } supply next) :
      WatchStep info w (.full supply)
        { bus := next.bus, history := next.account :: earlier, csws := w.csws }
  | status {w : Watch} {supply : Supply}
      (pending : w.bus.outstanding = [.bulkIn .csw cswLength]) :
      WatchStep info w (.full supply)
        { bus := completeIn [] supply.sd w.bus.dev
          history := w.history
          csws := w.bus.dev.csw :: w.csws }

/-- What happens on the bus. -/
def WatchEvent.bulk (bus : Bus) : WatchEvent → BulkEvent
  | .command v sd => .out v.cbw.wire sd
  | .full supply => supply.event bus

/-- The records add nothing to what the bus does. -/
theorem watchStep_bulkStep {behind : Behind} {info : SdDevInfo} {w next : Watch}
    {event : WatchEvent} (step : WatchStep info w event next) :
    BulkStep behind info w.bus (event.bulk w.bus) next.bus := by
  cases step with
  | command pending =>
      exact .out_alone pending (wire_fits _) fun _ => Nat.le_of_eq (wire_length _)
  | data current step => exact dataStep_bulkStep step
  | status pending =>
      simp only [WatchEvent.bulk, Supply.event, pending]
      exact .in_alone pending

/-- The class after `msc_init`, with `card` in the slot. -/
def Watch.boot (card : Store UInt8) : Watch where
  bus := .after [] (mscInit (.boot card))
  history := []
  csws := []

/-- The wrappers that the host has sent, newest first. -/
def wrappers : List WatchEvent → List Cbw
  | [] => []
  | .command v _ :: events => wrappers events ++ [v.cbw]
  | .full _ :: events => wrappers events

/-! ### The answer of a finished command -/

section Finish

variable {info : SdDevInfo} {sense : Sense} {plan : Plan} {c : Course}

theorem fails_iff (finished : Finished True sense plan c)
    (explained : plan.Explained info sense c.account.cbw) :
    plan.fails c.account.sdFailed = true ↔ c.account.Fails info := by
  have moved := finished.moved
  unfold Account.Fails
  cases plan with
  | good =>
      obtain ⟨supported, inRange, _⟩ := explained
      simp [Plan.fails, supported, inRange]
  | bad left =>
      rcases explained with ⟨unsupported, _⟩ | ⟨_, outOfRange, _⟩
      · simp [Plan.fails, unsupported]
      · simp [Plan.fails, outOfRange]
  | reply data clears =>
      obtain ⟨supported, notRead, notWrite, _⟩ := explained
      simp [Plan.fails, supported, Cbw.OutOfRange, notRead, notWrite]
  | read =>
      obtain ⟨opcode, inRange⟩ := explained
      simp [Plan.fails, opcode, inRange]
  | write =>
      obtain ⟨opcode, inRange⟩ := explained
      simp [Plan.fails, opcode, inRange]

/-- The sense that a finished command leaves. -/
theorem senseAfter_eq {earlier : List Account} (finished : Finished True sense plan c)
    (explained : plan.Explained info sense c.account.cbw) (before : sense = senseOf info earlier) :
    plan.senseAfter c.account.sdFailed sense = senseOf info (c.account :: earlier) := by
  have fails := fails_iff finished explained
  have moved := finished.moved
  rw [senseOf, ← before]
  cases plan with
  | good =>
      obtain ⟨_, _, noSense, _⟩ := explained
      have fine : ¬ c.account.Fails info := by simp [← fails, Plan.fails, moved.2.2.2]
      simp [Plan.senseAfter, noSense, fine]
  | bad left =>
      have failed : c.account.Fails info := fails.mp rfl
      rcases explained with ⟨unsupported, rfl⟩ | ⟨supported, outOfRange, rfl⟩
      · simp [Plan.senseAfter, failed, Account.failure, unsupported]
      · have noSense : Scsi.ofByte (c.account.cbw.cb 0) ≠ some .requestSense := by
          rcases outOfRange.1 with opcode | opcode <;> simp [opcode]
        simp [Plan.senseAfter, failed, Account.failure, supported, outOfRange, noSense]
  | reply data clears =>
      obtain ⟨_, _, _, requests, _⟩ := explained
      have fine : ¬ c.account.Fails info := by simp [← fails, Plan.fails, moved.2.2.2]
      cases clears with
      | true => simp [Plan.senseAfter, requests]
      | false => simp [Plan.senseAfter, requests, fine]
  | read =>
      obtain ⟨opcode, inRange⟩ := explained
      by_cases failed : c.account.sdFailed = true
      · simp [Plan.senseAfter, failed, opcode, fails.mp failed, Account.failure, inRange]
      · have fine : ¬ c.account.Fails info := fun other => failed (fails.mpr other)
        simp [Plan.senseAfter, failed, opcode, fine]
  | write =>
      obtain ⟨opcode, inRange⟩ := explained
      by_cases failed : c.account.sdFailed = true
      · simp [Plan.senseAfter, failed, opcode, fails.mp failed, Account.failure, inRange]
      · have fine : ¬ c.account.Fails info := fun other => failed (fails.mpr other)
        simp [Plan.senseAfter, failed, opcode, fine]

/-- Only a REQUEST SENSE is answered with the sense. -/
theorem Plan.Explained.requestSense {cbw : Cbw} (explained : plan.Explained info sense cbw)
    (opcode : Scsi.ofByte (cbw.cb 0) = some .requestSense) :
    plan = .reply (sns sense.1 sense.2) true := by
  cases plan with
  | good => exact absurd opcode explained.2.2.1
  | bad left =>
      rcases explained with ⟨unsupported, _⟩ | ⟨_, outOfRange, _⟩
      · simp [opcode] at unsupported
      · rcases outOfRange.1 with other | other <;> simp [opcode] at other
  | reply data clears =>
      obtain ⟨_, _, _, requests, shown⟩ := explained
      have clears := requests.mp opcode
      rw [shown clears, clears]
  | read | write =>
      have other := explained.1
      simp [opcode] at other

/-- A WRITE(10) that is not refused writes, or has nothing to write. -/
theorem Plan.Explained.write10 {cbw : Cbw} (explained : plan.Explained info sense cbw)
    (opcode : Scsi.ofByte (cbw.cb 0) = some .write10) :
    (plan = .good ∧ cbw.cnt.toNat = 0) ∨ (∃ left, plan = .bad left) ∨ plan = .write := by
  cases plan with
  | good => exact .inl ⟨rfl, explained.2.2.2 opcode⟩
  | bad left => exact .inr (.inl ⟨left, rfl⟩)
  | reply data clears => exact absurd opcode explained.2.2.1
  | read =>
      have other := explained.1
      simp [opcode] at other
  | write => exact .inr (.inr rfl)

/-- What a finished command answers is the truth. -/
theorem answers_of_finished {earlier : List Account} (finished : Finished True sense plan c)
    (explained : plan.Explained info sense c.account.cbw) (before : sense = senseOf info earlier) :
    Answers info earlier c.account c.bus.dev.csw := by
  have fails := fails_iff finished explained
  have moved := finished.moved
  have status : c.bus.dev.csw.status = if c.account.Fails info then 1 else 0 := by
    rw [finished.csw]
    simp only [fails]
  refine ⟨by rw [finished.csw], by rw [finished.csw], status, ?_, ?_, ?_, ?_⟩
  · intro opcode
    have planned := explained.requestSense opcode
    subst planned
    rw [← before]
    exact moved.1
  · intro opcode good
    have fine : ¬ c.account.Fails info := by
      intro failed
      rw [status, if_pos failed] at good
      exact absurd good (by decide)
    rcases explained.write10 opcode with ⟨rfl, nothing⟩ | ⟨left, rfl⟩ | rfl
    · have none_ : c.account.cnt = 0 := nothing
      obtain ⟨_, stored, kept, _⟩ := moved
      simp [stored, kept, none_]
    · exact absurd (fails.mp rfl) fine
    · have noFailure : c.account.sdFailed = false := by
        simpa [Plan.fails] using fun failed => fine (fails.mp failed)
      have all := moved.all noFailure
      have whole := moved.whole trivial
      unfold Account.blocksDone at whole
      exact ⟨by omega, moved.good trivial noFailure⟩
  · intro opcode failed
    rcases explained.write10 opcode with ⟨rfl, _⟩ | ⟨left, rfl⟩ | rfl
    · simp [moved.2.2.2] at failed
    · simp [moved.2.2.2] at failed
    · have stopped := moved.stopped failed
      have done : c.account.blocksDone = 32 * c.account.sdDone := by
        unfold Account.blocksDone
        omega
      have whole := moved.whole trivial
      have partWay := moved.partWay trivial failed
      rw [done] at whole partWay
      exact ⟨stopped, whole, partWay⟩
  · intro opcode
    cases plan with
    | good | bad left => exact moved.2.2.1
    | reply data clears | read => exact moved.2.2.1
    | write => exact absurd explained.1 opcode

end Finish

/-! ### Runs -/

section Runs

variable {info : SdDevInfo} {card : Store UInt8}

/-- Either a wrapper is awaited and all commands are answered, or all but the
latest one are and that one is under way. -/
inductive Answered (info : SdDevInfo) (card : Store UInt8) (w : Watch) : Prop where
  | idle (idle : Idle w.bus) (answered : AllAnswered info card w.history w.csws)
      (sensed : w.bus.dev.sense = senseOf info w.history)
      (kept : w.bus.dev.card = cardOf card w.history)
  | busy {x : Account} {earlier : List Account} (current : w.history = x :: earlier)
      (answered : AllAnswered info card earlier w.csws) (before : x.before = cardOf card earlier)
      (stands : Stands True (senseOf info earlier) (x.cbw.plan info (senseOf info earlier))
        { bus := w.bus, account := x })

theorem answered_boot (info : SdDevInfo) (card : Store UInt8) :
    Answered info card (.boot card) :=
  .idle (idle_mscInit _) trivial rfl rfl

theorem dataStep_not_idle {c next : Course} {event : BulkEvent}
    (step : DataStep info c event next) :
    c.bus.outstanding ≠ [.bulkOut .cbw cbwLength] := by
  cases step with
  | out pending fits => simp [pending]
  | in_ pending => simp [pending]

theorem answered_step {w next : Watch} {event : WatchEvent} (answered : Answered info card w)
    (step : WatchStep info w event next) : Answered info card next := by
  cases step with
  | command pending =>
      rename_i v sd
      cases answered with
      | idle idle answered sensed kept =>
          have stands : Stands True _ (v.cbw.plan info _) (opened info v sd w.bus.dev) :=
            stands_opened True idle.1
          rw [sensed] at stands
          exact .busy rfl answered kept stands
      | busy current answered before stands => exact absurd pending stands.1.not_idle
  | data current step =>
      rename_i x earlier supply after
      cases answered with
      | idle idle answered sensed kept => exact absurd idle.2 (dataStep_not_idle step)
      | busy current' answered before stands =>
          rw [current] at current'
          cases current'
          obtain ⟨sameCbw, sameBefore⟩ := cbw_step step
          have further := stands_fullStep stands step
          refine .busy rfl answered (sameBefore.trans before) ?_
          rw [sameCbw]
          exact further
  | status pending =>
      cases answered with
      | idle idle answered sensed kept =>
          rw [idle.2] at pending
          cases pending
      | busy current answered before stands =>
          rename_i supply x earlier
          have finished := stands.1.at_status pending
          have explained := plan_explained info (senseOf info earlier) x.cbw
          have rearmed := completeIn_csw [] supply.sd finished.state
          refine .idle ?_ ?_ ?_ ?_
          · rw [rearmed]
            exact ⟨rfl, rfl⟩
          · rw [current]
            exact ⟨before, answers_of_finished finished explained rfl, answered⟩
          · rw [rearmed, current]
            exact finished.sensed.trans (senseAfter_eq finished explained rfl)
          · rw [rearmed, current]
            exact finished.kept

theorem answered_run {w w' : Watch} {events : List WatchEvent}
    (run : Run (WatchStep info) w events w') (answered : Answered info card w) :
    Answered info card w' := by
  apply run.invariant (Answered info card) _ answered
  intro state event next before step
  exact answered_step before step

/-- The history holds the wrappers that the host has sent, in order. -/
theorem history_run {w w' : Watch} {events : List WatchEvent}
    (run : Run (WatchStep info) w events w') :
    w'.history.map Account.cbw = wrappers events ++ w.history.map Account.cbw := by
  induction run with
  | nil => rfl
  | cons first rest ih =>
      rw [ih]
      cases first with
      | command pending => simp [wrappers, opened, Account.course, Account.begun]
      | data current step => simp [wrappers, current, (cbw_step step).1]
      | status pending => rfl

/-- The rest of a command, for any supply. -/
theorem watch_of_fullRun {c finish : Course} {supplies : List Supply}
    (run : Run (FullStep info) c supplies finish) (earlier : List Account) (csws : List Csw) :
    Run (WatchStep info) { bus := c.bus, history := c.account :: earlier, csws := csws }
      (supplies.map .full)
      { bus := finish.bus, history := finish.account :: earlier, csws := csws } := by
  induction run with
  | nil state => exact .nil _
  | cons first rest ih => exact .cons (.data rfl first) ih

/-- A command under way ends with its CSW collected, whatever is supplied. -/
theorem busy_finishes {w : Watch} {x : Account} {earlier : List Account}
    (current : w.history = x :: earlier) (answered : AllAnswered info card earlier w.csws)
    (before : x.before = cardOf card earlier)
    (stands : Stands True (senseOf info earlier) (x.cbw.plan info (senseOf info earlier))
      { bus := w.bus, account := x }) (supply : Nat → Supply) :
    ∃ n finish y csw,
      Run (WatchStep info) w ((List.range n).map fun k => .full (supply k)) finish ∧
        Idle finish.bus ∧ finish.history = y :: earlier ∧ y.cbw = x.cbw ∧
        finish.csws = csw :: w.csws ∧ AllAnswered info card finish.history finish.csws := by
  obtain ⟨n, c, run, after, finished⟩ := stands_finishes info _ rfl stands supply
  have watched := watch_of_fullRun run earlier w.csws
  rw [← current, List.map_map] at watched
  let collected : Watch :=
    { bus := completeIn [] (supply n).sd c.bus.dev
      history := c.account :: earlier
      csws := c.bus.dev.csw :: w.csws }
  have all : Run (WatchStep info) w ((List.range (n + 1)).map fun k => .full (supply k))
      collected := by
    rw [List.range_succ, List.map_append]
    exact watched.snoc (.status finished.armed)
  have sameCbw : c.account.cbw = x.cbw := by
    obtain ⟨events, dataRun⟩ := dataRun_of_fullRun run
    exact (cbw_run dataRun).1
  have rearmed : collected.bus = .after [] (mscArmCbw c.bus.dev) :=
    completeIn_csw [] (supply n).sd finished.state
  have state := answered_run all (.busy current answered before stands)
  cases state with
  | idle idle done sensed kept =>
      exact ⟨n + 1, collected, c.account, c.bus.dev.csw, all, idle, rfl, sameCbw, rfl, done⟩
  | busy current answered before stands =>
      refine absurd ?_ stands.1.not_idle
      simp [rearmed, Bus.after, mscArmCbw]

/-- In every run of valid wrappers and full completions from the start of the
class: the commands received are those sent, in order; each has exactly one
CSW, which tells the truth, except the one under way; and that one gets its
own whatever the card does. -/
theorem watchRun_answered (info : SdDevInfo) (card : Store UInt8) {events : List WatchEvent}
    {w : Watch} (run : Run (WatchStep info) (.boot card) events w) :
    w.history.map Account.cbw = wrappers events ∧
      ((AllAnswered info card w.history w.csws ∧
          ∀ v sd, ∃ next, WatchStep info w (.command v sd) next) ∨
        ∃ x earlier, w.history = x :: earlier ∧ AllAnswered info card earlier w.csws ∧
          ∀ supply : Nat → Supply, ∃ n finish y csw,
            Run (WatchStep info) w ((List.range n).map fun k => .full (supply k)) finish ∧
              Idle finish.bus ∧ finish.history = y :: earlier ∧ y.cbw = x.cbw ∧
              finish.csws = csw :: w.csws ∧
              AllAnswered info card finish.history finish.csws) := by
  refine ⟨(history_run run).trans (List.append_nil _), ?_⟩
  cases answered_run run (answered_boot info card) with
  | idle idle answered sensed kept =>
      exact .inl ⟨answered, fun v sd => ⟨_, .command idle.2⟩⟩
  | busy current answered before stands =>
      exact .inr ⟨_, _, current, answered, busy_finishes current answered before stands⟩

end Runs

/-- A command with an opcode that the class does not know. -/
def unknownOpcode : ValidCbw where
  cbw := .ofBytes [0x55, 0x53, 0x42, 0x43, 1, 0, 0, 0, 0, 0, 0, 0, 0, 0, 6, 0xFF]
  signed := by decide

/-- A REQUEST SENSE for 18 bytes. -/
def requestSense18 : ValidCbw where
  cbw := .ofBytes
    [0x55, 0x53, 0x42, 0x43, 2, 0, 0, 0, 18, 0, 0, 0, 0x80, 0, 6, 0x03, 0, 0, 0, 18]
  signed := by decide

/-- The one after the other. -/
def unknownThenSense : List WatchEvent :=
  [.command unknownOpcode .ok, .full ⟨.ok, fun _ => 0⟩, .command requestSense18 .ok,
    .full ⟨.ok, fun _ => 0⟩, .full ⟨.ok, fun _ => 0⟩]

/-- The second command shows the sense that the first one left. -/
theorem watchRun_answered_unknownOpcode :
    ∃ w y x csw csws, Run (WatchStep .smallest) (.boot fun _ => 0) unknownThenSense w ∧
      w.history = [y, x] ∧ w.csws = csw :: csws ∧ csw.tag = 2 ∧ y.sent = sns 0x05 0x20 := by
  have run : ∃ w, Run (WatchStep .smallest) (.boot fun _ => 0) unknownThenSense w ∧
      w.csws.length = 2 :=
    ⟨_, .cons (.command rfl) (.cons (.status rfl) (.cons (.command rfl)
      (.cons (.data rfl (.in_ rfl)) (.cons (.status rfl) (.nil _))))), rfl⟩
  obtain ⟨w, run, two⟩ := run
  obtain ⟨received, ⟨answered, _⟩ | ⟨x, earlier, current, answered, _⟩⟩ :=
    watchRun_answered .smallest (fun _ => 0) run
  · obtain ⟨y, x, history⟩ := List.length_eq_two.mp ((allAnswered_length _ answered).trans two)
    obtain ⟨csw, csw', collected⟩ := List.length_eq_two.mp two
    rw [history] at received answered
    rw [collected] at answered
    have sent : y.cbw = requestSense18.cbw ∧ x.cbw = unknownOpcode.cbw := by
      simpa [wrappers, unknownThenSense] using received
    obtain ⟨_, answer, _⟩ := answered
    refine ⟨w, y, x, csw, [csw'], run, history, collected, ?_, ?_⟩
    · rw [answer.tag, sent.1]
      decide
    · have shown := answer.sense (by rw [sent.1]; decide)
      have unknown : Scsi.ofByte (x.cbw.cb 0) = none := by
        rw [sent.2]
        decide
      have left : senseOf .smallest [x] = (0x05, 0x20) := by
        simp [senseOf, Account.Fails, Account.failure, unknown]
      rw [sent.1, left] at shown
      exact shown.trans (by decide)
  · have counted := allAnswered_length _ answered
    have all := congrArg List.length received
    rw [current] at all
    simp only [List.map_cons, List.length_cons, List.length_map, counted, two] at all
    exact absurd all (by decide)

end Mp257Fsbl.Usb.Msc
