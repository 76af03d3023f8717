import CrashWave.JavaScript.Double
import CrashWave.JavaScript.FixedPoint
import CrashWave.JavaScript.Number

/-! The live divergence monitor: predictions against outcomes in a rolling window, and the levels
of protection that follow from them. The metrics are computed with doubles, each operation rounded.
-/

namespace CrashWave.Divergence

open JavaScript

abbrev DivergenceLevel := Fin 6

structure DivergenceActions where
  disableDynamicThresholds : Bool
  disableMultiTargetSwitch : Bool
  disableKelly : Bool
  lockConservativeBaseline : Bool
  fullSheathHaltEntries : Bool
  deriving DecidableEq

/-- The reasons of a snapshot, with the numbers that their texts show. -/
inductive DivergenceReason where
  | ok
  | insufficientWindow
  | escalate (ece gap brier : ℚ)
  | improve (ece gap : ℚ)
  | hold (ece gap brier : ℚ)
  | manualRecovery
  deriving DecidableEq

structure WindowMetrics where
  predictedMean : ℚ
  realizedRate : ℚ
  brier : ℚ
  eceProxy : ℚ
  deriving DecidableEq

structure DivergenceSnapshot where
  level : DivergenceLevel
  actions : DivergenceActions
  windowSize : Nat
  metrics : WindowMetrics
  reason : DivergenceReason
  manualRecoveryRequired : Bool

/-- A recorded prediction, which may be NaN, and its outcome. -/
structure WindowPoint where
  predicted : Number
  actual : Bool
  deriving DecidableEq

structure LiveDivergenceMonitor where
  window : List WindowPoint
  maxWindow : Number
  level : DivergenceLevel
  manualRecoveryRequired : Bool
  lastReason : DivergenceReason
  recoveryGraceRemaining : Number
  deriving DecidableEq

/-- `LEVEL_ACTIONS`. -/
def levelActions : DivergenceLevel → DivergenceActions
  | 0 => ⟨false, false, false, false, false⟩
  | 1 => ⟨true, false, false, false, false⟩
  | 2 => ⟨true, true, false, false, false⟩
  | 3 => ⟨true, true, true, false, false⟩
  | 4 => ⟨true, true, true, true, false⟩
  | 5 => ⟨true, true, true, true, true⟩

-----------------------------------------------------------------------------------------
-- Metrics of a window
-----------------------------------------------------------------------------------------

/-- A bin of the calibration error: its count, and the sums of predictions and outcomes. -/
structure Bin where
  c : Nat
  sp : ℚ
  sa : ℚ

/-- The bin of a prediction. -/
def binIndex (predicted : ℚ) : Nat := min 9 ⌊double (predicted * 10)⌋.toNat

/-- The points as numbers. The loop over the window throws at a NaN, which has no bin. -/
def windowValues (window : List WindowPoint) : Option (List (ℚ × ℚ)) :=
  window.mapM fun point =>
    point.predicted.finiteValue.map fun predicted =>
      (double predicted, if point.actual then 1 else 0)

/-- `sum += term` over some terms. -/
def sumOf (terms : List ℚ) : ℚ := terms.foldl (fun sum term => double (sum + term)) 0

def fillBin (values : List (ℚ × ℚ)) (idx : Nat) : Bin :=
  let inside := values.filter fun value => binIndex value.1 = idx
  ⟨inside.length, sumOf (inside.map Prod.fst), sumOf (inside.map Prod.snd)⟩

/-- The weighted distance of predictions and outcomes over the bins. -/
def calibrationError (values : List (ℚ × ℚ)) : ℚ :=
  let terms := (List.range 10).filterMap fun idx =>
    let b := fillBin values idx
    if b.c = 0 then none
    else
      let distance := |double (double (b.sp / b.c) - double (b.sa / b.c))|
      some (double (double (b.c / values.length) * distance))
  sumOf terms

def measure (values : List (ℚ × ℚ)) : WindowMetrics :=
  let errors := values.map fun value =>
    let error := double (value.1 - value.2)
    double (error * error)
  { predictedMean := double (sumOf (values.map Prod.fst) / values.length)
    realizedRate := double (sumOf (values.map Prod.snd) / values.length)
    brier := double (sumOf errors / values.length)
    eceProxy := calibrationError values }

/-- The metrics of a window, unless a NaN in it throws. -/
def windowMetrics (window : List WindowPoint) : Option WindowMetrics :=
  (windowValues window).map measure

namespace WindowMetrics

def gap (metrics : WindowMetrics) : ℚ := double (metrics.predictedMean - metrics.realizedRate)

/-- The level that the metrics imply. -/
def impliedLevel (metrics : WindowMetrics) : DivergenceLevel :=
  let far (bound : ℚ) : Prop := double bound < metrics.eceProxy ∨ double bound < metrics.gap
  if far 0.12 ∨ double 0.35 < metrics.brier then 5
  else if far 0.1 ∨ double 0.3 < metrics.brier then 4
  else if far 0.08 then 3
  else if far 0.06 then 2
  else if far 0.05 then 1
  else 0

end WindowMetrics

-----------------------------------------------------------------------------------------
-- The monitor
-----------------------------------------------------------------------------------------

namespace LiveDivergenceMonitor

/-- The constructor, whose window holds 2000 points by default. -/
def new (maxWindow : Option Number) : LiveDivergenceMonitor where
  window := []
  maxWindow := maxWindow.getD 2000
  level := 0
  manualRecoveryRequired := false
  lastReason := .ok
  recoveryGraceRemaining := 0

def snapshot (monitor : LiveDivergenceMonitor) (level : DivergenceLevel)
    (reason : DivergenceReason) (metrics : Option WindowMetrics)
    : DivergenceSnapshot where
  level
  actions := levelActions level
  windowSize := monitor.window.length
  metrics := metrics.getD ⟨0, 0, 0, 0⟩
  reason
  manualRecoveryRequired := monitor.manualRecoveryRequired

/-- The level after metrics were evaluated: without a required recovery, and outside the grace
after one, it is the one that they imply.
-/
def evaluatedLevel (monitor : LiveDivergenceMonitor) (metrics : WindowMetrics)
    : DivergenceLevel :=
  if !monitor.manualRecoveryRequired ∧ monitor.recoveryGraceRemaining ≤ 0 then
    metrics.impliedLevel
  else monitor.level

/-- `evaluate` from the metrics on. -/
def settle (monitor : LiveDivergenceMonitor) (metrics : WindowMetrics)
    : LiveDivergenceMonitor :=
  let newLevel := monitor.evaluatedLevel metrics
  let ece := toFixed 3 metrics.eceProxy
  let gap := toFixedSigned 3 metrics.gap
  let brier := toFixed 3 metrics.brier
  if monitor.level < newLevel then
    { monitor with
      level := newLevel
      manualRecoveryRequired := monitor.manualRecoveryRequired || 3 ≤ newLevel
      lastReason := .escalate ece gap brier }
  else if newLevel < monitor.level ∧ !monitor.manualRecoveryRequired then
    { monitor with level := newLevel, lastReason := .improve ece gap }
  else { monitor with lastReason := .hold ece gap brier }

/-- The monitor and its snapshot; none where it throws. -/
def evaluate (monitor : LiveDivergenceMonitor)
    : LiveDivergenceMonitor × Option DivergenceSnapshot :=
  if monitor.window.length < 50 then
    (monitor, some (monitor.snapshot 0 .insufficientWindow none))
  else
    match windowMetrics monitor.window with
    | none => (monitor, none)
    | some metrics =>
        let settled := monitor.settle metrics
        (settled, some (settled.snapshot settled.level settled.lastReason (some metrics)))

/-- The window with a new point, without the oldest one if it was full. -/
def pushPoint (monitor : LiveDivergenceMonitor) (predicted : Number) (actual : Bool)
    : List WindowPoint :=
  let window :=
    monitor.window
      ++ [⟨Number.min (.finite 0.99) (Number.max (.finite 0.01) predicted), actual⟩]
  if monitor.maxWindow < .finite window.length then window.drop 1 else window

/-- `observe` up to the evaluation. -/
def record (monitor : LiveDivergenceMonitor) (predicted : Number) (actual : Bool)
    : LiveDivergenceMonitor :=
  { monitor with
    window := monitor.pushPoint predicted actual
    recoveryGraceRemaining :=
      if 0 < monitor.recoveryGraceRemaining then monitor.recoveryGraceRemaining - 1
      else monitor.recoveryGraceRemaining }

def observe (monitor : LiveDivergenceMonitor) (predicted : Number) (actual : Bool)
    : LiveDivergenceMonitor × Option DivergenceSnapshot :=
  (monitor.record predicted actual).evaluate

/-- The recovery, which throws unless it is confirmed. -/
def manualRecover (monitor : LiveDivergenceMonitor) (confirm : Bool)
    : LiveDivergenceMonitor × Option DivergenceSnapshot :=
  if confirm then
    let recovered :=
      { monitor with
        manualRecoveryRequired := false
        level := 0
        recoveryGraceRemaining := monitor.maxWindow.min 100
        lastReason := .manualRecovery }
    (recovered, some (recovered.snapshot 0 .manualRecovery none))
  else (monitor, none)

def getActions (monitor : LiveDivergenceMonitor) : DivergenceActions := levelActions monitor.level

end LiveDivergenceMonitor

/-- A call of the monitor. -/
inductive DivergenceCall where
  | observe (predicted : Number) (actual : Bool)
  | evaluate
  | manualRecover (confirm : Bool)

/-- What a call does and reports. -/
def LiveDivergenceMonitor.call (monitor : LiveDivergenceMonitor)
    : DivergenceCall → LiveDivergenceMonitor × Option DivergenceSnapshot
  | .observe predicted actual => monitor.observe predicted actual
  | .evaluate => monitor.evaluate
  | .manualRecover confirm => monitor.manualRecover confirm

def LiveDivergenceMonitor.next (monitor : LiveDivergenceMonitor) (call : DivergenceCall)
    : LiveDivergenceMonitor :=
  (monitor.call call).1

end CrashWave.Divergence
