import CrashWave.Chains.Basic
import CrashWave.JavaScript.Text
import CrashWave.Runs.Basic

/-! The hash chain verifier of the provably fair games, and how the links that it accepts are
connected to the chain root.
-/

namespace CrashWave.HashChain

open JavaScript Runs Chains

/-- What the verifier takes from the platform: `createHash('sha256').update(text)` and
`createHmac('sha256', key).update(text)` with their hexadecimal digests, and the text of a
number in a template.
-/
structure Platform where
  sha256 : String → String
  hmacSha256 : (key : String) → (text : String) → String
  numberText : Number → String

structure ChainLink where
  roundId : String
  hash : String
  seed : Option String
  crashPoint : Number
  verified : Bool
  expectedHash : Option String

structure HashChainVerifier where
  chainRoot : Option String
  links : List ChainLink
  consecutiveFailures : Nat
  deriver : String → Number
  maxFailures : Number

/-- `new HashChainVerifier(deriver, maxFailures)`. -/
def HashChainVerifier.create (deriver : String → Number) (maxFailures : Number)
    : HashChainVerifier :=
  { chainRoot := none, links := [], consecutiveFailures := 0, deriver, maxFailures }

/-- `text.toLowerCase().replace(/^0x/, '')`. -/
def normalize (text : String) : String :=
  match (toLowerCase text).toList with
  | '0' :: 'x' :: rest => String.ofList rest
  | chars => String.ofList chars

def HashChainVerifier.setChainRoot (verifier : HashChainVerifier) (root : String)
    : HashChainVerifier :=
  { verifier with chainRoot := some (normalize root), links := [], consecutiveFailures := 0 }

structure LinkParams where
  roundId : String
  hash : String
  nextHash : Option String
  seed : Option String
  serverSeed : Option String
  clientSeed : Option String
  nonce : Option Number

/-- What a call presents for its hash: which branch of `verifyLink` runs, with its values. -/
inductive Presented where
  | nextHash (text : String)
  | seedPair (serverSeed clientSeed : String) (nonce : Number)
  | seed (text : String)

/-- The branch that the parameters select; empty strings count as missing. -/
def LinkParams.presented (params : LinkParams) : Option Presented :=
  if truthy params.nextHash then params.nextHash.map .nextHash
  else
    match params.serverSeed, params.clientSeed, params.nonce with
    | some serverSeed, some clientSeed, some nonce =>
        if serverSeed ≠ "" then some (.seedPair serverSeed clientSeed nonce)
        else if truthy params.seed then params.seed.map .seed
        else none
    | _, _, _ => if truthy params.seed then params.seed.map .seed else none

/-- The hash that the presented values make. -/
def Presented.digest (platform : Platform) : Presented → String
  | .nextHash text => platform.sha256 text
  | .seedPair serverSeed clientSeed nonce =>
      platform.hmacSha256 serverSeed s!"{clientSeed}:{platform.numberText nonce}"
  | .seed text => platform.sha256 text

/-- The last 500 links. -/
def pushLink (links : List ChainLink) (link : ChainLink) : List ChainLink :=
  let pushed := links ++ [link]
  if pushed.length > 500 then pushed.tail else pushed

/-- The verifier after the call, and the link or the text of the error that the call throws. -/
def HashChainVerifier.verifyLink (platform : Platform) (verifier : HashChainVerifier)
    (params : LinkParams)
    : HashChainVerifier × Except String ChainLink :=
  let hash := normalize params.hash
  let expectedHash := params.presented.map (Presented.digest platform)
  let verified := decide (expectedHash = some hash)
  let link : ChainLink := {
    roundId := params.roundId
    hash
    seed := params.seed
    crashPoint := verifier.deriver hash
    verified
    expectedHash
  }
  let links := pushLink verifier.links link
  if !verified && (truthy params.nextHash || truthy params.seed || truthy params.serverSeed) then
    let failures := verifier.consecutiveFailures + 1
    let failed := { verifier with links, consecutiveFailures := failures }
    if verifier.maxFailures ≤ .finite failures then
      (failed, .error s!"PROVABLY_FAIR_BREAK: {failures} consecutive failures")
    else
      (failed, .ok link)
  else if verified then
    ({ verifier with links, consecutiveFailures := 0 }, .ok link)
  else
    ({ verifier with links }, .ok link)

-----------------------------------------------------------------------------------------
-- Runs of the verifier
-----------------------------------------------------------------------------------------

inductive ChainEvent where
  | setChainRoot (root : String)
  | verifyLink (params : LinkParams)

/-- The verifier after a call. -/
def HashChainVerifier.next (platform : Platform) (verifier : HashChainVerifier)
    : ChainEvent → HashChainVerifier
  | .setChainRoot root => verifier.setChainRoot root
  | .verifyLink params => (verifier.verifyLink platform params).1

/-- The text that a link shows to stand behind its hash: the next hash or the seed. -/
def Presented.revealed : Presented → String
  | .nextHash text => text
  | .seedPair serverSeed _ _ => serverSeed
  | .seed text => text

/-- The two ends of the link that a call presents. -/
def LinkParams.ends (params : LinkParams) : Option (String × String) :=
  params.presented.map fun presented => (normalize params.hash, normalize presented.revealed)

/-- The call reports its link as verified. -/
def Reported (platform : Platform) (verifier : HashChainVerifier) (params : LinkParams)
    : Prop :=
  ∃ link, (verifier.verifyLink platform params).2 = .ok link ∧ link.verified = true

/-- The ends of the links reported as verified since the chain root was set. -/
def recordVerified (platform : Platform) (recorded : List (String × String))
    (verifier : HashChainVerifier)
    : ChainEvent → List (String × String)
  | .setChainRoot _ => []
  | .verifyLink params =>
      match (verifier.verifyLink platform params).2 with
      | .ok link => if link.verified then params.ends.toList ++ recorded else recorded
      | .error _ => recorded

/-- A link reported as verified is connected to the chain root, if one is set, by the links
verified before.
-/
def ReportsRooted (platform : Platform)
    (state : HashChainVerifier × List (String × String))
    : ChainEvent → Prop
  | .setChainRoot _ => True
  | .verifyLink params =>
      ∀ root, state.1.chainRoot = some root → Reported platform state.1 params →
        ∃ hash revealed, params.ends = some (hash, revealed)
          ∧ (Connected state.2 root hash ∨ Connected state.2 root revealed)

/-- The hash that the call makes of what it presents is the hash of the call. -/
def LinkParams.Matching (platform : Platform) (params : LinkParams) : Prop :=
  params.presented.map (Presented.digest platform) = some (normalize params.hash)

instance (platform : Platform) (params : LinkParams) : Decidable (params.Matching platform) :=
  inferInstanceAs (Decidable (_ = _))

/-- The root that was set and the ends of the matching links presented since, read from the
calls alone.
-/
def touched (platform : Platform) (nodes : Option (List String))
    : ChainEvent → Option (List String)
  | .setChainRoot root => some [normalize root]
  | .verifyLink params =>
      nodes.map fun nodes =>
        if params.Matching platform then
          params.ends.elim nodes fun ends => ends.1 :: ends.2 :: nodes
        else nodes

/-- A matching link is presented in the order of a chain: one of its ends is the root or an
end of a matching link presented before.
-/
def InOrder (platform : Platform) (nodes : Option (List String)) : ChainEvent → Prop
  | .setChainRoot _ => True
  | .verifyLink params =>
      ∀ known, nodes = some known → params.Matching platform →
        ∃ hash revealed, params.ends = some (hash, revealed)
          ∧ (hash ∈ known ∨ revealed ∈ known)

-----------------------------------------------------------------------------------------
-- What a call reports does not depend on the root
-----------------------------------------------------------------------------------------

variable {platform : Platform} {verifier : HashChainVerifier} {params : LinkParams}

/-- The chain root plays no part: a link is reported as verified exactly when it matches. -/
theorem reported_iff : Reported platform verifier params ↔ params.Matching platform := by
  unfold Reported LinkParams.Matching HashChainVerifier.verifyLink
  extract_lets hash expectedHash verified link links failures failed
  constructor
  · intro reported
    obtain ⟨answer, answered, good⟩ := reported
    have sameLink : answer = link := by
      split_ifs at answered <;> cases answered <;> rfl
    rw [sameLink] at good
    exact of_decide_eq_true good
  · intro matching
    have good : verified = true := decide_eq_true matching
    refine ⟨link, ?_, good⟩
    simp [good]

theorem verifyLink_chainRoot
    : (verifier.verifyLink platform params).1.chainRoot = verifier.chainRoot := by
  unfold HashChainVerifier.verifyLink
  extract_lets hash expectedHash verified link links failures failed
  split_ifs <;> rfl

/-- The record grows by the ends of a matching link. -/
theorem recordVerified_verifyLink (recorded : List (String × String))
    : recordVerified platform recorded verifier (.verifyLink params)
      = if params.Matching platform then params.ends.toList ++ recorded else recorded := by
  have matching : Reported platform verifier params ↔ params.Matching platform := reported_iff
  simp only [recordVerified]
  generalize answered : (verifier.verifyLink platform params).2 = answer
  rw [Reported, answered] at matching
  cases answer with
  | ok link =>
      have verified : link.verified = true ↔ params.Matching platform := by simpa using matching
      simp [verified]
  | error text =>
      have unmatched : ¬ params.Matching platform := by simpa using matching
      simp [unmatched]

-----------------------------------------------------------------------------------------
-- When verified links are connected to the root
-----------------------------------------------------------------------------------------

/-- No root is set on either side, or the nodes are those that the recorded links connect to
the root.
-/
def Tracks (state : HashChainVerifier × List (String × String)) : Option (List String) → Prop
  | none => state.1.chainRoot = none
  | some nodes => ∃ root, state.1.chainRoot = some root ∧ Spanned state.2 root nodes

variable {state : HashChainVerifier × List (String × String)} {nodes : Option (List String)}

theorem Tracks.reportsRooted_iff (tracks : Tracks state nodes) (event : ChainEvent)
    : ReportsRooted platform state event ↔ InOrder platform nodes event := by
  cases event with
  | setChainRoot root => exact Iff.rfl
  | verifyLink params =>
      simp only [ReportsRooted, InOrder, reported_iff]
      cases nodes with
      | none =>
          have unset : state.1.chainRoot = none := tracks
          simp [unset]
      | some nodes =>
          obtain ⟨root, set, spanned⟩ := tracks
          simp [set, spanned.connected_iff]

theorem Tracks.next (tracks : Tracks state nodes) {event : ChainEvent}
    (ordered : InOrder platform nodes event)
    : Tracks
        (watched (HashChainVerifier.next platform) (recordVerified platform) state event)
        (touched platform nodes event) := by
  cases event with
  | setChainRoot root => exact ⟨normalize root, rfl, .initial _⟩
  | verifyLink params =>
      cases nodes with
      | none => exact verifyLink_chainRoot.trans tracks
      | some nodes =>
          obtain ⟨root, set, spanned⟩ := tracks
          refine ⟨root, verifyLink_chainRoot.trans set, ?_⟩
          simp only [watched, recordVerified_verifyLink]
          by_cases matching : params.Matching platform
          · obtain ⟨hash, revealed, ends, touches⟩ := ordered nodes rfl matching
            simpa [matching, ends] using spanned.cons touches
          · simpa [matching] using spanned

/-- A new verifier reports, over every run, only links that verified links connect to the
chain root exactly when the matching links are presented in the order of a chain.
-/
theorem verified_rooted_iff (platform : Platform) (deriver : String → Number)
    (maxFailures : Number) (events : List ChainEvent)
    : Always (watched (HashChainVerifier.next platform) (recordVerified platform))
        (ReportsRooted platform) (.create deriver maxFailures, []) events
      ↔ Always (touched platform) (InOrder platform) none events := by
  have start : Tracks (.create deriver maxFailures, []) none := rfl
  exact always_iff_of_simulation (fun _ _ event tracks => tracks.reportsRooted_iff event)
    (fun _ _ _ tracks ordered => tracks.next ordered) events start

/-- Digests that are right for the seed "unrelated". -/
def digestOfUnrelated : Platform where
  sha256 := fun _ => "c2703a7ddf6c74b39505339af20dd6dd4f0794720e038b78ba395600c72417d4"
  hmacSha256 := fun _ _ => ""
  numberText := fun _ => ""

/-- A seed of one's own passes under any root, with its digest as the hash. -/
theorem unrelated_seed_verified
    : ¬ Always
        (watched (HashChainVerifier.next digestOfUnrelated) (recordVerified digestOfUnrelated))
        (ReportsRooted digestOfUnrelated) (.create (fun _ => 1) 3, [])
        [.setChainRoot "0xAB", .verifyLink {
          roundId := "7"
          hash := digestOfUnrelated.sha256 "unrelated"
          nextHash := none
          seed := some "unrelated"
          serverSeed := none
          clientSeed := none
          nonce := none
        }] := by
  intro rooted
  obtain ⟨hash, revealed, ends, connected⟩ :=
    rooted.2.1 (normalize "0xAB") rfl (reported_iff.mpr (by decide +kernel))
  have unlinked := Spanned.initial (normalize "0xAB")
  obtain ⟨rfl, rfl⟩ := Prod.mk.inj (Option.some_inj.mp ends)
  rcases connected with first | second
  · exact absurd (unlinked.connected_iff.mp first) (by decide +kernel)
  · exact absurd (unlinked.connected_iff.mp second) (by decide +kernel)

end CrashWave.HashChain
