import Mathlib.Data.List.Sort
import Mathlib.Data.String.Basic
import Mathlib.Order.Hom.Basic
import HaruTrade.Backtest.Simulation
import HaruTrade.Data.Dict
import HaruTrade.Data.Machine

/-!
# Backtest jobs

`BacktestJobService` runs every backtest as a task of its own; the tasks share one bounded store of
job rows. A step of the machine is one critical section of a task, the answer of the alert sink, or
a call of `start_job`, in any order. The prices and the results of a job are doubles, and a square that
is too large for one ends the job.

* `backtest` — the result of a job as a function of its request.
* `JobTask` — where a suspended task goes on.
* `turn`, `answered` — what a task does next, on its own row.
* `machine` — the service.
-/

namespace HaruTrade

/-! ## Requests and rows -/

/-- Source: `app/services/backtest_jobs.py` `BacktestJobService`. Kind: D -/
inductive JobStatus where
  | queued
  | running
  | completed
  | failed
  deriving DecidableEq, Repr

/-- A value of `meta`, as far as the service looks at it: what `float(value)` gives or raises, and what
`str(value)` gives. Source: `app/services/backtest_jobs.py` `BacktestJobService._run_job`. Kind: D -/
structure MetaValue where
  float : Except Exn PyNum
  str : String

/-- The arguments of a task. Source: `app/services/backtest_jobs.py`
`BacktestJobService._run_job`. Kind: D -/
structure JobArgs where
  candles : List (Candle PyNum)
  signals : List BacktestSignal
  slippagePct : PyNum := 5 / 100

/-- The arguments of a call that starts a job. Source: `app/services/backtest_jobs.py`
`BacktestJobService.start_job`. Kind: D -/
structure JobRequest extends JobArgs where
  «meta» : Dict String MetaValue := Table.empty

/-- Source: `app/services/backtest_jobs.py` `BacktestJobService._run_job`. Kind: D -/
structure BacktestResult where
  tradeCount : ℕ
  wins : ℕ
  losses : ℕ
  skipped : ℕ
  winRate : PyNum
  totalPnl : PyNum
  avgPnl : PyNum
  expectancy : PyNum
  expectancyR : PyNum
  totalReturn : PyNum
  totalReturnPct : PyNum
  sharpeRatio : PyNum
  mdd : PyNum
  grossProfit : PyNum
  grossLoss : PyNum
  profitFactor : Option PyNum
  exitReasons : Dict String ℕ
  atrPeriod : ℤ
  stopAtrMult : PyNum
  tpAtrMult : PyNum
  trailAtrMult : PyNum

/-- A row of the store; the times are the texts of `isoformat`.
Source: `app/services/backtest_jobs.py` `BacktestJobService.start_job`. Kind: D -/
structure JobRow where
  jobId : String
  status : JobStatus := .queued
  progress : ℤ := 0
  createdAt : String
  startedAt : Option String := none
  completedAt : Option String := none
  result : Option BacktestResult := none
  error : Option String := none
  «meta» : Dict String MetaValue

/-- What is outside of the service: whether it has an alert sink, the identifiers that `uuid4` draws,
none of them twice, the rounding to a `float`, and `math.sqrt`.
Source: `app/services/backtest_jobs.py` `BacktestJobService.__init__`. Kind: D -/
structure BacktestJobService where
  alertSink : Bool
  maxJobs : ℤ := 200
  uuid4 : ℕ ↪ String
  round : ℚ →o ℚ
  sqrt : PyNum → PyNum

namespace BacktestJobService

/-! ## The computation -/

/-- `float(meta.get(key, default))`. Source: `app/services/backtest_jobs.py`
`BacktestJobService._run_job`. Kind: D -/
def metaFloat («meta» : Dict String MetaValue) (key : String) (default : PyNum) : Except Exn PyNum :=
  (Dict.find? «meta» key).elim (.ok default) MetaValue.float

/-- `int` of a float. Source: none: infrastructure. Kind: D -/
def intOf : PyNum → Except Exn ℤ
  | .nan => .error (.lookup "cannot convert float NaN to integer")
  | .inf _ => .error (.other "cannot convert float infinity to integer")
  | .of q => .ok (truncInt q)

/-- The settings of a job. Source: `app/services/backtest_jobs.py`
`BacktestJobService._run_job`. Kind: D -/
def jobSettings (slippagePct : PyNum) («meta» : Dict String MetaValue) :
    Except Exn (BacktestSettings PyNum) := do
  let atrPeriod ← (metaFloat «meta» "atr_period" 14).bind intOf
  let stopAtrMult ← metaFloat «meta» "stop_atr_mult" (3 / 2)
  let tpAtrMult ← metaFloat «meta» "tp_atr_mult" 2
  let trailAtrMult ← metaFloat «meta» "trail_atr_mult" (3 / 2)
  return { slippagePct, atrPeriod := max atrPeriod 1, stopAtrMult, tpAtrMult, trailAtrMult }

/-- The local variables of the loop over the signals. Source: `app/services/backtest_jobs.py`
`BacktestJobService._run_job`. Kind: D -/
structure Tally where
  pnls : List PyNum := []
  returns : List PyNum := []
  reasons : Dict String ℕ := Table.empty
  wins : ℕ := 0
  losses : ℕ := 0
  skipped : ℕ := 0

/-- Source: `app/services/backtest_jobs.py` `BacktestJobService._run_job`. Kind: D -/
def Tally.book (t : Tally) (pnl ret : PyNum) (reason : String) : Tally where
  pnls := t.pnls ++ [pnl]
  returns := t.returns ++ [ret]
  reasons := Dict.set t.reasons reason ((Dict.find? t.reasons reason).getD 0 + 1)
  wins := if 0 < pnl then t.wins + 1 else t.wins
  losses := if 0 < pnl then t.losses else if pnl < 0 then t.losses + 1 else t.losses
  skipped := t.skipped

/-- The trade of one signal; a `ValueError` skips it. Source: `app/services/backtest_jobs.py`
`BacktestJobService._run_job`. Kind: D -/
def Tally.next (cfg : BacktestSettings PyNum) (candles : List (Candle PyNum)) (t : Tally)
    (signal : BacktestSignal) : Except Exn Tally :=
  match simulateTrade cfg candles signal with
  | .ok (pnl, ret, reason) => .ok (t.book pnl ret reason)
  | .error (.lookup _) => .ok { t with skipped := t.skipped + 1 }
  | .error exc => .error exc

/-- `x ** 2`, with the text of its `OverflowError`. Source: `app/services/backtest_jobs.py`
`BacktestJobService._sharpe_ratio`. Kind: D -/
def square (x : PyNum) : Except Exn PyNum :=
  x.square?.elim (.error (.other "(34, 'Numerical result out of range')")) .ok

/-- Source: `app/services/backtest_jobs.py` `BacktestJobService._sharpe_ratio`. Kind: D -/
def sharpeRatio (sqrt : PyNum → PyNum) (returns : List PyNum) : Except Exn PyNum :=
  if returns.length < 2 then return 0
  else do
    let avg := pySum returns / returns.length
    let squares ← returns.mapM fun x => square (x - avg)
    let variance := pySum squares / returns.length
    let std := sqrt variance
    return if std = 0 then if 0 < avg then 10 else 0 else avg / std * sqrt returns.length

section drawdown

variable {F : Type} [OfNat F 0] [OfNat F 1] [Add F] [Sub F] [Mul F] [Div F] [LT F] [DecidableLT F]
  [Max F]

/-- Source: `app/services/backtest_jobs.py` `BacktestJobService._max_drawdown`. Kind: D -/
structure Drawdown (F : Type := ℚ) [OfNat F 0] [OfNat F 1] where
  equity : F := 1
  peak : F := 1
  maxDd : F := 0

/-- Source: `app/services/backtest_jobs.py` `BacktestJobService._max_drawdown`. Kind: D -/
def Drawdown.next (d : Drawdown F) (r : F) : Drawdown F :=
  let equity := d.equity * max 0 (1 + r)
  let peak := max d.peak equity
  { equity, peak, maxDd := if 0 < peak then max d.maxDd ((peak - equity) / peak) else d.maxDd }

/-- Source: `app/services/backtest_jobs.py` `BacktestJobService._max_drawdown`. Kind: D -/
def maxDrawdown (returns : List F) : F :=
  (returns.foldl Drawdown.next ({} : Drawdown F)).maxDd

end drawdown

/-- The result of a job whose returns have the ratio. Source: `app/services/backtest_jobs.py`
`BacktestJobService._run_job`. Kind: D -/
def resultWith (cfg : BacktestSettings PyNum) (t : Tally) (sharpeRatio : PyNum) : BacktestResult :=
  let tradeCount := t.pnls.length
  let totalPnl := pySum t.pnls
  let avgPnl := if tradeCount ≠ 0 then totalPnl / tradeCount else 0
  let grossProfit := pySum (t.pnls.filter fun x => 0 < x)
  let grossLoss := pyAbs (pySum (t.pnls.filter fun x => x < 0))
  let totalReturn := pySum t.returns
  { tradeCount
    wins := t.wins
    losses := t.losses
    skipped := t.skipped
    winRate := if tradeCount ≠ 0 then t.wins / tradeCount else 0
    totalPnl
    avgPnl
    expectancy := avgPnl
    expectancyR := if tradeCount ≠ 0 then pySum t.returns / tradeCount else 0
    totalReturn
    totalReturnPct := totalReturn * 100
    sharpeRatio
    mdd := maxDrawdown t.returns
    grossProfit
    grossLoss
    profitFactor := if 0 < grossLoss then some (grossProfit / grossLoss) else none
    exitReasons := t.reasons
    atrPeriod := cfg.atrPeriod
    stopAtrMult := cfg.stopAtrMult
    tpAtrMult := cfg.tpAtrMult
    trailAtrMult := cfg.trailAtrMult }

/-- What a job computes after its loop. Source: `app/services/backtest_jobs.py`
`BacktestJobService._run_job`. Kind: D -/
def resultOf (sqrt : PyNum → PyNum) (cfg : BacktestSettings PyNum) (t : Tally) :
    Except Exn BacktestResult :=
  (sharpeRatio sqrt t.returns).map (resultWith cfg t)

/-- **The backtest of a request**: what its task computes when nothing else runs.
Source: `app/services/backtest_jobs.py` `BacktestJobService._run_job`. Kind: D -/
def backtest (sqrt : PyNum → PyNum) (request : JobRequest) : Except Exn BacktestResult := do
  let cfg ← jobSettings request.slippagePct request.«meta»
  let tally ← request.signals.foldlM (Tally.next cfg request.candles) {}
  resultOf sqrt cfg tally

/-- Every signal that has a bar after it is traded. -/
example : (backtest id
    { candles := [flatCandle 100, flatCandle 102, flatCandle 103].map Candle.toDouble
      signals := [⟨0, "buy"⟩, ⟨1, "sell"⟩] }).toOption.map BacktestResult.tradeCount = some 2 := by
  decide +kernel

/-! ## Rows and alerts -/

/-- Source: `app/services/backtest_jobs.py` `BacktestJobService._update_progress`. Kind: D -/
def updateProgress (progress : ℤ) (row : JobRow) : JobRow :=
  { row with progress := max 0 (min progress 100) }

/-- A manual backtest of the dashboard is not announced. Source: `app/services/backtest_jobs.py`
`BacktestJobService._should_notify_completion`. Kind: D -/
def shouldNotifyCompletion (row : JobRow) : Bool :=
  PyText.lower (PyText.strip ((Dict.find? row.«meta» "source").elim "" MetaValue.str)) ≠
    "dashboard_manual"

/-- `job_id[:8]`. Source: `app/services/backtest_jobs.py` `BacktestJobService._run_job`. Kind: D -/
def shortId (jobId : String) : String := String.ofList (jobId.toList.take 8)

/-- Source: `app/services/backtest_jobs.py` `BacktestJobService._run_job`. Kind: D -/
def completionText (jobId : String) (result : BacktestResult) : String :=
  s!"[백테스트 완료] 작업={shortId jobId} 거래수={result.tradeCount} " ++
    s!"승률={PyNum.fixed 3 result.winRate}"

/-- Source: `app/services/backtest_jobs.py` `BacktestJobService._run_job`. Kind: D -/
def failureText (jobId : String) (exc : Exn) : String :=
  s!"[백테스트 실패] 작업={shortId jobId} 오류={exc.str}"

/-! ## Tasks -/

/-- Where a task goes on: at its start, with the next signal of the loop, with the handler of an error
of the computation, or with the answer of the alert sink.
Source: `app/services/backtest_jobs.py` `BacktestJobService._run_job`. Kind: D -/
inductive JobTask where
  | created (args : JobArgs)
  | looping (args : JobArgs) (cfg : BacktestSettings PyNum) (idx : ℕ) (tally : Tally)
      (rest : List BacktestSignal)
  | failing (exc : Exn)
  | announcing
  | reporting
  | ended

/-- What a step of a task leaves: its row, unless the row is gone, where the task goes on, and the
alert that it sends. Source: none: infrastructure. Kind: D -/
structure Segment where
  row : Option JobRow
  task : JobTask
  alert : Option String := none

section task

variable (service : BacktestJobService) (jobId now : String)

/-- The first critical section, and the settings. Source: `app/services/backtest_jobs.py`
`BacktestJobService._run_job`. Kind: D -/
def begin (args : JobArgs) : Option JobRow → Segment
  | none => { row := none, task := .ended }
  | some row =>
    { row := some { row with status := .running, startedAt := some now }
      task :=
        match jobSettings args.slippagePct row.«meta» with
        | .ok cfg => .looping args cfg 0 {} args.signals
        | .error exc => .failing exc }

/-- `int(((idx + 1) / total) * 100)`, with the two roundings of the division and the product.
Source: `app/services/backtest_jobs.py` `BacktestJobService._run_job`. Kind: D -/
def percent (idx total : ℕ) : ℤ :=
  truncInt (service.round (service.round ((idx + 1 : ℕ) / total) * 100))

/-- One round of the loop. Source: `app/services/backtest_jobs.py`
`BacktestJobService._run_job`. Kind: D -/
def loopRound (args : JobArgs) (cfg : BacktestSettings PyNum) (idx : ℕ) (tally : Tally)
    (signal : BacktestSignal) (rest : List BacktestSignal) (row : Option JobRow) : Segment :=
  match tally.next cfg args.candles signal with
  | .ok tally =>
    { row := row.map (updateProgress (service.percent idx (max args.signals.length 1)))
      task := .looping args cfg (idx + 1) tally rest }
  | .error exc => { row, task := .failing exc }

/-- The critical section after the computation, and the call of the alert sink.
Source: `app/services/backtest_jobs.py` `BacktestJobService._run_job`. Kind: D -/
def complete (result : BacktestResult) : Option JobRow → Segment
  | none => { row := none, task := .ended }
  | some row =>
    let row := { row with
      status := .completed
      progress := 100
      result := some result
      completedAt := some now }
    if shouldNotifyCompletion row && service.alertSink then
      { row := some row, task := .announcing, alert := some (completionText jobId result) }
    else { row := some row, task := .ended }

/-- The handler of every `Exception`. Source: `app/services/backtest_jobs.py`
`BacktestJobService._run_job`. Kind: D -/
def fail (exc : Exn) : Option JobRow → Segment
  | none => { row := none, task := .ended }
  | some row =>
    let row := { row with
      status := .failed
      error := some exc.str
      completedAt := some now }
    if shouldNotifyCompletion row && service.alertSink then
      { row := some row, task := .reporting, alert := some (failureText jobId exc) }
    else { row := some row, task := .ended }

/-- The computation after the loop, and the critical section after it, unless the computation raises.
Source: `app/services/backtest_jobs.py` `BacktestJobService._run_job`. Kind: D -/
def finish (cfg : BacktestSettings PyNum) (tally : Tally) (row : Option JobRow) : Segment :=
  match resultOf service.sqrt cfg tally with
  | .ok result => service.complete jobId now result row
  | .error exc => { row, task := .failing exc }

/-- **The next step of a task**; one that waits for the alert sink does nothing.
Source: `app/services/backtest_jobs.py` `BacktestJobService._run_job`. Kind: D -/
def turn (row : Option JobRow) : JobTask → Segment
  | .created args => begin now args row
  | .looping args cfg idx tally (signal :: rest) =>
    service.loopRound args cfg idx tally signal rest row
  | .looping _ cfg _ tally [] => service.finish jobId now cfg tally row
  | .failing exc => service.fail jobId now exc row
  | task => { row, task }

/-- **The sink answers.** The completion is announced inside of the `try`, so that an exception of
the sink goes to the handler of the computation; one of the failure report ends the task.
Source: `app/services/backtest_jobs.py` `BacktestJobService._run_job`. Kind: D -/
def answered (outcome : Except Exn Bool) (row : Option JobRow) : JobTask → Segment
  | .announcing =>
    match outcome with
    | .ok _ => { row, task := .ended }
    | .error exc => service.fail jobId now exc row
  | .reporting => { row, task := .ended }
  | task => { row, task }

end task

/-! ## The service -/

/-- The rows, the tasks that were created, and how many identifiers were drawn.
Source: `app/services/backtest_jobs.py` `BacktestJobService.__init__`. Kind: D -/
structure JobStore where
  jobs : Dict String JobRow := Table.empty
  tasks : String → Option JobTask := fun _ => none
  drawn : ℕ := 0

/-- The rows that were created first are dropped, whatever their jobs do.
Source: `app/services/backtest_jobs.py` `BacktestJobService._trim_jobs`. Kind: D -/
def trimJobs (maxJobs : ℤ) (jobs : Dict String JobRow) : Dict String JobRow :=
  let overflow := jobs.rows.length - maxJobs
  if overflow ≤ 0 then jobs
  else
    let keys := (jobs.rows.insertionSort fun a b => a.2.createdAt ≤ b.2.createdAt).map Prod.fst
    Dict.popAll jobs (keys.take overflow.toNat)

/-- The row of a new job. Source: `app/services/backtest_jobs.py`
`BacktestJobService.start_job`. Kind: D -/
def newRow (jobId : String) (request : JobRequest) (now : String) : JobRow where
  jobId := jobId
  createdAt := now
  «meta» := request.«meta»

section service

variable (service : BacktestJobService) (s : JobStore)

/-- Source: `app/services/backtest_jobs.py` `BacktestJobService.start_job`. Kind: D -/
def startJob (request : JobRequest) (now : String) : JobStore :=
  let jobId := service.uuid4 s.drawn
  { jobs := trimJobs service.maxJobs (Dict.set s.jobs jobId (newRow jobId request now))
    tasks := Function.update s.tasks jobId (some (.created request.toJobArgs))
    drawn := s.drawn + 1 }

/-- Write what a step of a task leaves. Source: none: infrastructure. Kind: D -/
def JobStore.commit (jobId : String) (seg : Segment) : JobStore :=
  { s with
    jobs := seg.row.elim s.jobs (Dict.set s.jobs jobId)
    tasks := Function.update s.tasks jobId (some seg.task) }

end service

/-- A call that starts a job, the next step of a task, or the answer of the alert sink to one, each
with the time that it reads. Source: `app/services/backtest_jobs.py` `BacktestJobService`.
Kind: D -/
inductive JobEvent where
  | start (request : JobRequest) (now : String)
  | turn (jobId : String) (now : String)
  | answer (jobId : String) (outcome : Except Exn Bool) (now : String)

/-- Source: `app/services/backtest_jobs.py` `BacktestJobService`. Kind: D -/
inductive JobReply where
  | started (jobId : String)
  | sent (text : String)
  | nothing

/-- A task, if it was created, on its own row. Source: none: infrastructure. Kind: D -/
def JobStore.resume (s : JobStore) (jobId : String) (go : Option JobRow → JobTask → Segment) :
    JobStore × JobReply :=
  match s.tasks jobId with
  | none => (s, .nothing)
  | some task =>
    let seg := go (Dict.find? s.jobs jobId) task
    (s.commit jobId seg, seg.alert.elim .nothing .sent)

/-- Source: `app/services/backtest_jobs.py` `BacktestJobService`. Kind: D -/
def step (service : BacktestJobService) (s : JobStore) : JobEvent → JobStore × JobReply
  | .start request now => (service.startJob s request now, .started (service.uuid4 s.drawn))
  | .turn jobId now => s.resume jobId (service.turn jobId now)
  | .answer jobId outcome now => s.resume jobId (service.answered jobId now outcome)

/-- **The service.** Source: `app/services/backtest_jobs.py` `BacktestJobService`. Kind: D -/
def machine (service : BacktestJobService) : Machine JobStore JobEvent JobReply where
  step := service.step

end BacktestJobService

end HaruTrade
