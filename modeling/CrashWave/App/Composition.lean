import CrashWave.JavaScript.Value
import CrashWave.Types

/-! The runtime that operator commands change, and the dependencies that the composition
injects to change its mode and its configuration.
-/

namespace CrashWave.App

open JavaScript

/-- The runtime state the operator's dependencies write, with the configuration tree that
the bridges read their mode from.
-/
structure Runtime where
  currentMode : SystemMode
  halted : Bool := false
  haltReason : Option String := none
  config : Value

/-- What a caller hands to `setSystemMode`: a mode, or a member that a lookup inherited. -/
inductive RequestedMode where
  | mode (mode : SystemMode)
  | inherited
  deriving DecidableEq

/-- The modes that `setSystemMode` and `setConfigValue` accept. -/
def validModes : List SystemMode := [.observeOnly, .dryRun, .live, .maintenance]

/-- Sets the mode in the runtime, then in the configuration. The second write throws when
`config.system` is no object, which leaves the halt as it was.
-/
def Runtime.setSystemMode (runtime : Runtime) : RequestedMode → Runtime
  | .inherited => runtime
  | .mode mode =>
      let changed := { runtime with currentMode := mode }
      match runtime.config.setPath ["system"] "mode" (.string mode.text) with
      | none => changed
      | some config =>
          if mode = .live then
            { changed with config := config, halted := false, haltReason := none }
          else { changed with config := config }

/-- The halt that `pauseSystem` records. -/
def Runtime.pauseSystem (runtime : Runtime) (reason : String) : Runtime :=
  { runtime with halted := true, haltReason := some reason }

/-- `resumeSystem` clears the halt. -/
def Runtime.resumeSystem (runtime : Runtime) : Runtime :=
  { runtime with halted := false, haltReason := none }

/-- The halt that `stopSystem` records. -/
def Runtime.stopSystem (runtime : Runtime) : Runtime :=
  { runtime with halted := true, haltReason := some "stopped" }

/-- The value of a dotted key, if every part of it but the last names an object. -/
def getConfigValue (config : Value) (key : String) : Option Value :=
  config.getPath (splitDots key)

/-- What `setConfigValue` stores under the last part of a key, unless it rejects it. -/
def configEntry (last value : String) : Option Value :=
  if last = "stakePerEntry" ∨ last = "cashOutTarget" ∨ last = "maxDailyEntries" then
    if (toNumber value).isFinite ∧ 0 < toNumber value then some (.number (toNumber value))
    else none
  else if last = "mode" then
    if value ∈ validModes.map SystemMode.text then some (.string value) else none
  else some (.string value)

/-- Writes a value under a dotted key; nothing where the source returns false. -/
def setConfigValue (config : Value) (key value : String) : Option Value :=
  let parts := splitDots key
  let last := parts.getLast?.getD ""
  (configEntry last value).bind (config.setPath parts.dropLast last)

/-- The runtime after `setConfigValue`. -/
def Runtime.setConfigValue (runtime : Runtime) (key value : String) : Runtime :=
  match App.setConfigValue runtime.config key value with
  | none => runtime
  | some config => { runtime with config := config }

/-- The places that hold the mode: the runtime, and the configuration that the bridges
consult.
-/
inductive ModeHolder where
  | currentMode
  | config
  deriving DecidableEq

/-- The mode is live in one of its places. -/
def Runtime.isLive (runtime : Runtime) : ModeHolder → Bool
  | .currentMode => runtime.currentMode = .live
  | .config => Value.isText "live" (runtime.config.getPath ["system", "mode"])

/-- What the configuration stores is a text or a number. -/
theorem configEntry_leaf {last value : String} {entry : Value}
    (stored : configEntry last value = some entry)
    : entry.Leaf ∧ ∀ text, entry = .string text → text = value := by
  unfold configEntry at stored
  split at stored
  · split at stored
    · obtain rfl := Option.some.inj stored
      exact ⟨trivial, fun text equal => by cases equal⟩
    · cases stored
  · split at stored
    · split at stored
      · obtain rfl := Option.some.inj stored
        exact ⟨trivial, fun text equal => (Value.string.inj equal).symm⟩
      · cases stored
    · obtain rfl := Option.some.inj stored
      exact ⟨trivial, fun text equal => (Value.string.inj equal).symm⟩

/-- Only a request for live mode makes a mode live. -/
theorem Runtime.setSystemMode_isLive {runtime : Runtime} {requested : RequestedMode}
    {holder : ModeHolder} (live : (runtime.setSystemMode requested).isLive holder = true)
    : runtime.isLive holder = true ∨ requested = .mode .live := by
  cases requested with
  | inherited => exact .inl live
  | mode mode =>
      by_cases same : mode = .live
      · exact .inr (by rw [same])
      left
      cases written : runtime.config.setPath ["system"] "mode" (.string mode.text) with
      | none =>
          cases holder with
          | currentMode => simp [isLive, setSystemMode, written, same] at live
          | config => simpa [isLive, setSystemMode, written] using live
      | some config =>
          cases holder with
          | currentMode => simp [isLive, setSystemMode, written, same] at live
          | config =>
              have found : config.getPath ["system", "mode"] = some (.string "live") := by
                simpa [isLive, setSystemMode, written, same, Value.isText_iff] using live
              have leaf : (Value.string mode.text).Leaf := trivial
              rcases Value.text_of_setPath leaf written found with before | ⟨-, -, text⟩
              · exact Value.isText_iff.mpr before
              · have named : mode.text = "live" := Value.string.inj text
                cases mode <;> simp [SystemMode.text] at named same

/-- Only a `live` under `system.mode` makes the mode of the configuration live. -/
theorem Runtime.setConfigValue_isLive {runtime : Runtime} {key value : String}
    {holder : ModeHolder} (live : (runtime.setConfigValue key value).isLive holder = true)
    : runtime.isLive holder = true
      ∨ (holder = .config ∧ key = "system.mode" ∧ value = "live") := by
  unfold Runtime.setConfigValue at live
  cases changed : App.setConfigValue runtime.config key value with
  | none => exact .inl (by simpa only [changed] using live)
  | some config =>
      simp only [changed] at live
      cases holder with
      | currentMode => exact .inl live
      | config =>
          obtain ⟨entry, stored, written⟩ := Option.bind_eq_some_iff.mp changed
          obtain ⟨leaf, text⟩ := configEntry_leaf stored
          have found : config.getPath ["system", "mode"] = some (.string "live") :=
            Value.isText_iff.mp live
          rcases Value.text_of_setPath leaf written found with before | ⟨front, last, equal⟩
          · exact .inl (Value.isText_iff.mpr before)
          · refine .inr ⟨rfl, splitDots_injective ?_, (text "live" equal).symm⟩
            cases ending : (splitDots key).getLast? with
            | none => simp [ending] at last
            | some part =>
                obtain rfl : part = "mode" := by simpa [ending] using last
                have parts := List.dropLast_append_getLast? "mode" ending
                rw [front] at parts
                exact parts.symm

end CrashWave.App
