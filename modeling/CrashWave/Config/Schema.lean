import CrashWave.Schemas.Basic

/-! The schema of the application's configuration, and the configuration that it starts from. -/

namespace CrashWave.Config

open JavaScript Schemas NumberCheck

-----------------------------------------------------------------------------------------
-- Fields with a default
-----------------------------------------------------------------------------------------

def number (checks : List NumberCheck) (value : ℚ) : Schema :=
  .withDefault (.number checks) (.scalar (.number (.finite value)))

def text (value : String) : Schema :=
  .withDefault (.string 1) (.scalar (.string value))

def flag (value : Bool) : Schema :=
  .withDefault .boolean (.scalar (.boolean value))

def choice (options : List String) (value : String) : Schema :=
  .withDefault (.enum options) (.scalar (.string value))

/-- A text or null, with null as its default. -/
def nullableText : Schema :=
  .withDefault (.nullable (.string 0)) (.scalar .null)

/-- A number between 0 and 1. -/
def fraction (value : ℚ) : Schema :=
  number [.min 0 true, .max 1 true] value

-----------------------------------------------------------------------------------------
-- The schemas
-----------------------------------------------------------------------------------------

/-- `SystemMode`. -/
def systemModes : List String := ["observe-only", "dry-run", "live", "maintenance"]

/-- `LogLevel`. -/
def logLevels : List String := ["trace", "debug", "info", "warn", "error", "fatal"]

def bettingConfigSchema : Schema := .object [
  ("stakePerEntry", number [positive] 700),
  ("cashOutTarget", number [positive] 1.3),
  ("maxDailyEntries", number [.int, positive, .max 1000 true] 500),
  ("currencyUnit", text "units"),
  ("dayBoundaryTimezone", text "UTC")]

def dryRunConfigSchema : Schema := .object [
  ("stake", number [positive] 700),
  ("target", number [positive] 1.3),
  ("initialVirtualBalance", number [nonnegative] 10000),
  ("maxDailyVirtualTrades", number [.int, nonnegative] 500),
  ("minProbability", fraction 0.35),
  ("minConfidence", fraction 0.3)]

def riskConfigSchema : Schema := .object [
  ("minBalanceForEntry", number [nonnegative] 700),
  ("balanceBuffer", number [nonnegative] 700),
  ("maxConsecutiveErrorsBeforeStop", number [.int, positive] 3),
  ("maxCashOutFailuresBeforeStop", number [.int, positive] 2),
  ("cooldownMs", number [.int, nonnegative] 5000),
  ("minPredictionProbability", fraction 0.35),
  ("minPredictionConfidence", fraction 0.3),
  ("requirePredictionForLive", flag true)]

def observationConfigSchema : Schema := .object [
  ("maxTickLatencyMs", number [.int, positive] 1000),
  ("minConfidenceForEntry", choice ["low", "medium", "high"] "medium"),
  ("requireRoundId", flag true),
  ("latencyThresholdHealthyMs", number [.int, positive] 500),
  ("latencyThresholdDegradedMs", number [.int, positive] 1000)]

def telegramConfigSchema : Schema := .object [
  ("allowedUserIds", .withDefault (.array (.number [])) (.array [] [])),
  ("verbosity", choice ["quiet", "normal", "verbose", "debug"] "normal"),
  ("sendRoundStart", flag false),
  ("sendRoundResult", flag true),
  ("sendHealthWarnings", flag true),
  ("rateLimitMessagesPerMinute", number [.int, positive] 30)]

def browserConfigSchema : Schema := .object [
  ("headless", flag true),
  ("viewportWidth", number [.int, positive] 1366),
  ("viewportHeight", number [.int, positive] 900),
  ("profileDirectory", text "./secrets/browser-profile"),
  ("timeoutMs", number [.int, positive] 30000),
  ("stealthLevel", choice ["off", "minimal", "standard", "full"] "standard")]

def proxyPoolEntrySchema : Schema := .object [
  ("server", .string 1),
  ("username", nullableText),
  ("password", nullableText)]

def proxyConfigSchema : Schema := .object [
  ("enabled", flag false),
  ("server", nullableText),
  ("username", nullableText),
  ("password", nullableText),
  ("pool", .withDefault (.array proxyPoolEntrySchema) (.array [] []))]

def persistenceConfigSchema : Schema := .object [
  ("databasePoolSize", number [.int, positive] 5),
  ("idleTimeoutMillis", number [.int, positive] 30000),
  ("connectionTimeoutMillis", number [.int, positive] 5000),
  ("queryTimeoutMillis", number [.int, positive] 15000)]

def healthConfigSchema : Schema := .object [
  ("checkIntervalMs", number [.int, positive] 30000),
  ("degradationThreshold", number [.int, positive] 2),
  ("failureThreshold", number [.int, positive] 3)]

def appConfigSchema : Schema := .object [
  ("system", .object [
    ("mode", choice systemModes "dry-run"),
    ("logLevel", choice logLevels "info"),
    ("serviceName", text "personal-bc-automation")]),
  ("betting", bettingConfigSchema),
  ("dryRun", .withDefault dryRunConfigSchema (.object [])),
  ("risk", riskConfigSchema),
  ("observation", observationConfigSchema),
  ("telegram", telegramConfigSchema),
  ("browser", browserConfigSchema),
  ("persistence", persistenceConfigSchema),
  ("health", healthConfigSchema),
  ("proxy", .withDefault proxyConfigSchema (.object []))]

/-- The sections that have no default. -/
def requiredSections : List String :=
  ["system", "betting", "risk", "observation", "telegram", "browser", "persistence", "health"]

/-- Every default passes its own check: sections without fields are accepted. -/
theorem defaults_accepted
    : appConfigSchema.accepts
        (some (.object (requiredSections.map fun name => (name, .object [])))) = true := by
  decide +kernel

-----------------------------------------------------------------------------------------
-- The configuration that the loader starts from
-----------------------------------------------------------------------------------------

def numberData (value : ℚ) : Datum := .scalar (.number (.finite value))

def textData (value : String) : Datum := .scalar (.string value)

def flagData (value : Bool) : Datum := .scalar (.boolean value)

/-- `DEFAULT_CONFIG`. -/
def defaultConfig : Datum := .object [
  ("system", .object [
    ("mode", textData "dry-run"),
    ("logLevel", textData "info"),
    ("serviceName", textData "personal-bc-automation")]),
  ("betting", .object [
    ("stakePerEntry", numberData 700),
    ("cashOutTarget", numberData 1.3),
    ("maxDailyEntries", numberData 500),
    ("currencyUnit", textData "units"),
    ("dayBoundaryTimezone", textData "UTC")]),
  ("dryRun", .object [
    ("stake", numberData 700),
    ("target", numberData 1.3),
    ("initialVirtualBalance", numberData 10000),
    ("maxDailyVirtualTrades", numberData 500),
    ("minProbability", numberData 0.35),
    ("minConfidence", numberData 0.3)]),
  ("risk", .object [
    ("minBalanceForEntry", numberData 700),
    ("balanceBuffer", numberData 700),
    ("maxConsecutiveErrorsBeforeStop", numberData 3),
    ("maxCashOutFailuresBeforeStop", numberData 2),
    ("cooldownMs", numberData 5000),
    ("minPredictionProbability", numberData 0.35),
    ("minPredictionConfidence", numberData 0.3),
    ("requirePredictionForLive", flagData true)]),
  ("observation", .object [
    ("maxTickLatencyMs", numberData 1000),
    ("minConfidenceForEntry", textData "medium"),
    ("requireRoundId", flagData true),
    ("latencyThresholdHealthyMs", numberData 500),
    ("latencyThresholdDegradedMs", numberData 1000)]),
  ("telegram", .object [
    ("allowedUserIds", .array [] []),
    ("verbosity", textData "normal"),
    ("sendRoundStart", flagData false),
    ("sendRoundResult", flagData true),
    ("sendHealthWarnings", flagData true),
    ("rateLimitMessagesPerMinute", numberData 30)]),
  ("browser", .object [
    ("headless", flagData true),
    ("viewportWidth", numberData 1366),
    ("viewportHeight", numberData 900),
    ("profileDirectory", textData "./secrets/browser-profile"),
    ("timeoutMs", numberData 30000),
    ("stealthLevel", textData "standard")]),
  ("persistence", .object [
    ("databasePoolSize", numberData 5),
    ("idleTimeoutMillis", numberData 30000),
    ("connectionTimeoutMillis", numberData 5000),
    ("queryTimeoutMillis", numberData 15000)]),
  ("health", .object [
    ("checkIntervalMs", numberData 30000),
    ("degradationThreshold", numberData 2),
    ("failureThreshold", numberData 3)]),
  ("proxy", .object [
    ("enabled", flagData false),
    ("server", .scalar .null),
    ("username", .scalar .null),
    ("password", .scalar .null),
    ("pool", .array [] [])])]

theorem defaultConfig_accepted : appConfigSchema.accepts (some defaultConfig) = true := by
  decide +kernel

end CrashWave.Config
