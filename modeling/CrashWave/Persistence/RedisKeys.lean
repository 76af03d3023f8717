import CrashWave.JavaScript.Number
import CrashWave.Leases.Basic

/-! Keys of Redis with an expiry, and the clock that they expire by, in milliseconds. -/

namespace CrashWave.Persistence.RedisKeys

open JavaScript

/-- When something that lasts for a time from now on expires. -/
def expiry (now : ℤ) (timeout : Number) : Number := .finite now + timeout

/-- Redis takes a positive whole number of milliseconds for `PX`, and answers an error else. -/
def accepts : Number → Bool
  | .finite timeout => timeout.den = 1 && 0 < timeout
  | .infinity _ | .nan => false

instance : IsTrans Number (· ≤ ·) := ⟨fun _ _ _ => Number.le_trans⟩

theorem finite_le {time later : ℤ} (passed : time ≤ later)
    : Number.finite time ≤ .finite later :=
  decide_eq_true (Int.cast_le.mpr passed)

end CrashWave.Persistence.RedisKeys
