import CrashWave.Rankings.Basic
import CrashWave.Runs.Basic
import Mathlib.Algebra.Order.Floor.Ring
import Mathlib.Data.List.Induction

/-! The ranker of the decision layer: a window of scored opportunities, the best first, from which
they expire or are displaced by better ones. One clock reading for each call.
-/

namespace CrashWave.Opportunity

open Rankings Runs

/-- `OpportunityDimensions`. -/
structure OpportunityDimensions (K : Type*) where
  edge : K
  confidence : K
  dataQuality : K
  regimeFit : K
  executionFeasibility : K
  temporalConsistency : K
  deriving DecidableEq

/-- `ScoredOpportunity`, with the instants of its dates. -/
structure ScoredOpportunity (K : Type*) where
  id : String
  roundId : String
  tenantId : Option String := none
  dimensions : OpportunityDimensions K
  qualityScore : K
  probability : K
  confidence : K
  regime : Option String := none
  modelVersion : Option String := none
  scoredAt : Int
  expiresAt : Int
  rank : Option Nat := none
  deriving DecidableEq

namespace ScoredOpportunity

variable {K : Type*}

/-- The opportunity as it was scored. -/
def unranked (opp : ScoredOpportunity K) : ScoredOpportunity K := { opp with rank := none }

end ScoredOpportunity

/-- The window of the ranker and its options. -/
structure OpportunityRanker (K : Type*) where
  window : List (ScoredOpportunity K) := []
  windowSize : Nat
  topFraction : K
  minQualityScore : K

section Window

variable {K : Type*}

/-- The window with the opportunity in the place of its former self, or at the end. -/
def replace (window : List (ScoredOpportunity K)) (opp : ScoredOpportunity K)
    : List (ScoredOpportunity K) :=
  match window.findIdx? fun other => other.id = opp.id with
  | some idx => window.set idx opp
  | none => window ++ [opp]

/-- Each opportunity gets its place. -/
def assignRanks (window : List (ScoredOpportunity K)) : List (ScoredOpportunity K) :=
  window.mapIdx fun i opp => { opp with rank := some (i + 1) }

/-- The ranks are positive and grow along the window. -/
structure Placed (window : List (ScoredOpportunity K)) : Prop where
  grow
    : window.Pairwise fun first second =>
        ∃ m n, first.rank = some m ∧ second.rank = some n ∧ m < n
  positive : ∀ opp ∈ window, ∃ n, opp.rank = some (n + 1)

/-- An opportunity takes the place of its former self, or the end. -/
theorem replace_cases (window : List (ScoredOpportunity K)) (opp : ScoredOpportunity K)
    : (∃ before old after,
        window = before ++ old :: after ∧ old.id = opp.id
        ∧ replace window opp = before ++ opp :: after)
      ∨ (∀ other ∈ window, other.id ≠ opp.id) ∧ replace window opp = window ++ [opp] := by
  rw [replace]
  cases found : window.findIdx? fun other => other.id = opp.id with
  | none =>
      right
      rw [List.findIdx?_eq_none_iff] at found
      exact ⟨fun other member => by simpa using found other member, rfl⟩
  | some idx =>
      left
      obtain ⟨inside, same, -⟩ := List.findIdx?_eq_some_iff_getElem.mp found
      refine ⟨window.take idx, window[idx], window.drop (idx + 1), ?_, by simpa using same, ?_⟩
      · rw [List.getElem_cons_drop, List.take_append_drop]
      · exact List.set_eq_take_append_cons_drop .. |>.trans (if_pos inside)

/-- What is in the window then: the opportunity, and the others that were in it. -/
theorem mem_replace {window : List (ScoredOpportunity K)} {opp other : ScoredOpportunity K}
    (distinct : (window.map ScoredOpportunity.id).Nodup)
    : other ∈ replace window opp ↔ other = opp ∨ other ∈ window ∧ other.id ≠ opp.id := by
  rcases replace_cases window opp with ⟨before, old, after, rfl, same, replaced⟩ | ⟨new, replaced⟩
  · rw [replaced]
    simp only [List.map_append, List.map_cons] at distinct
    obtain ⟨-, right, apart⟩ := List.nodup_append.mp distinct
    have left : ∀ item ∈ before, item.id ≠ opp.id := by
      intro item member equal
      exact apart _ (List.mem_map_of_mem member) _ (List.mem_cons_self ..) (equal.trans same.symm)
    have behind : ∀ item ∈ after, item.id ≠ opp.id := by
      intro item member equal
      exact (List.nodup_cons.mp right).1 (same.trans equal.symm ▸ List.mem_map_of_mem member)
    constructor
    · intro member
      rcases List.mem_append.mp member with early | late
      · exact .inr ⟨List.mem_append_left _ early, left other early⟩
      · rcases List.mem_cons.mp late with rfl | late
        · exact .inl rfl
        · exact .inr ⟨by simp [late], behind other late⟩
    · rintro (rfl | ⟨member, differs⟩)
      · simp
      · rcases List.mem_append.mp member with early | late
        · exact List.mem_append_left _ early
        · rcases List.mem_cons.mp late with rfl | late
          · exact absurd same differs
          · simp [late]
  · rw [replaced, List.mem_append, List.mem_singleton]
    constructor
    · rintro (member | rfl)
      · exact .inr ⟨member, new other member⟩
      · exact .inl rfl
    · rintro (rfl | ⟨member, -⟩)
      · exact .inr rfl
      · exact .inl member

theorem replace_nodup {window : List (ScoredOpportunity K)}
    (distinct : (window.map ScoredOpportunity.id).Nodup) (opp : ScoredOpportunity K)
    : ((replace window opp).map ScoredOpportunity.id).Nodup := by
  rcases replace_cases window opp with ⟨before, old, after, rfl, same, replaced⟩ | ⟨new, replaced⟩
  · rw [replaced]
    simpa [same] using distinct
  · rw [replaced, List.map_append, List.nodup_append]
    refine ⟨distinct, List.nodup_singleton _, ?_⟩
    intro id member other last equal
    obtain ⟨item, there, rfl⟩ := List.mem_map.mp member
    rw [List.map_cons, List.map_nil, List.mem_singleton] at last
    exact new item there (equal.trans last)

theorem assignRanks_map {α : Type*} (read : ScoredOpportunity K → α)
    (unread : ∀ opp rank, read { opp with rank := rank } = read opp)
    (window : List (ScoredOpportunity K))
    : (assignRanks window).map read = window.map read := by
  apply List.ext_getElem
  · simp [assignRanks]
  · intro i _ _
    simp [assignRanks, unread]

theorem mem_assignRanks {window : List (ScoredOpportunity K)} {opp : ScoredOpportunity K}
    (member : opp ∈ assignRanks window)
    : ∃ old ∈ window, opp.unranked = old.unranked ∧ opp.qualityScore = old.qualityScore
        ∧ opp.id = old.id := by
  rw [assignRanks, List.mem_mapIdx] at member
  obtain ⟨i, inside, rfl⟩ := member
  exact ⟨window[i], List.getElem_mem inside, rfl, rfl, rfl⟩

theorem assignRanks_placed (window : List (ScoredOpportunity K)) : Placed (assignRanks window) where
  grow := by
    rw [List.pairwise_iff_getElem]
    intro i j inside within less
    simp only [assignRanks, List.getElem_mapIdx]
    exact ⟨i + 1, j + 1, rfl, rfl, by omega⟩
  positive := by
    intro opp member
    rw [assignRanks, List.mem_mapIdx] at member
    obtain ⟨i, inside, rfl⟩ := member
    exact ⟨i, rfl⟩

/-- A rank counts at least the opportunities that stand before it, by induction on these. -/
theorem Placed.length_lt_rank {before after : List (ScoredOpportunity K)}
    {opp : ScoredOpportunity K} (placed : Placed (before ++ opp :: after)) {rank : Nat}
    (isRank : opp.rank = some rank) : before.length < rank := by
  have grown (least : Nat) (positive : ∀ other ∈ before ++ opp :: after,
      ∃ n, other.rank = some (n + 1 + least)) : before.length + least < rank := by
    induction before generalizing least with
    | nil =>
        obtain ⟨n, same⟩ := positive opp (by simp)
        rw [isRank] at same
        have := Option.some.inj same
        simp only [List.length_nil]
        omega
    | cons head before ih =>
        have rest : Placed (before ++ opp :: after) :=
          ⟨(List.pairwise_cons.mp placed.grow).2,
            fun other member => placed.positive other (List.mem_cons_of_mem _ member)⟩
        have further := ih rest (least + 1) (by
          intro other member
          obtain ⟨first, isFirst⟩ := positive head (List.mem_cons_self ..)
          obtain ⟨m, n, one, two, less⟩ := (List.pairwise_cons.mp placed.grow).1 other member
          rw [isFirst] at one
          have := Option.some.inj one
          exact ⟨n - least - 2, by rw [two]; congr 1; omega⟩)
        simp only [List.length_cons]
        omega
  exact grown 0 placed.positive

end Window

namespace OpportunityRanker

variable {K : Type*} [Field K] [LinearOrder K]

/-- `new OpportunityRanker()`. -/
def default : OpportunityRanker K :=
  { windowSize := 50, topFraction := 0.7, minQualityScore := 0.35 }

def evictExpired (ranker : OpportunityRanker K) (now : Int) : OpportunityRanker K :=
  { ranker with window := ranker.window.filter fun opp => ¬ opp.expiresAt < now }

def upsert (ranker : OpportunityRanker K) (opp : ScoredOpportunity K) (now : Int)
    : OpportunityRanker K × Option (ScoredOpportunity K) :=
  let evicted := ranker.evictExpired now
  if opp.qualityScore < ranker.minQualityScore then
    (evicted, none)
  else
    let sorted := ranking ScoredOpportunity.qualityScore (replace evicted.window opp)
    let window := assignRanks (sorted.take ranker.windowSize)
    ({ ranker with window }, window.find? fun other => other.id = opp.id)

def top (ranker : OpportunityRanker K) (n : Nat) (now : Int)
    : OpportunityRanker K × List (ScoredOpportunity K) :=
  let evicted := ranker.evictExpired now
  (evicted, evicted.window.take n)

/-- The last rank that is approved in a window of this length. -/
def cutoff [FloorRing K] (ranker : OpportunityRanker K) (length : Nat) : Int :=
  max 1 ⌈(length : K) * ranker.topFraction⌉

def isApproved [FloorRing K] (ranker : OpportunityRanker K) (opportunityId : String) (now : Int)
    : OpportunityRanker K × Bool :=
  let evicted := ranker.evictExpired now
  match evicted.window.find? fun opp => opp.id = opportunityId with
  | some { rank := some rank, .. } =>
      (evicted, decide ((rank : Int) ≤ evicted.cutoff evicted.window.length))
  | _ => (evicted, false)

def size (ranker : OpportunityRanker K) (now : Int) : OpportunityRanker K × Nat :=
  let evicted := ranker.evictExpired now
  (evicted, evicted.window.length)

def clear (ranker : OpportunityRanker K) : OpportunityRanker K := { ranker with window := [] }

end OpportunityRanker

/-- A call of the ranker. -/
inductive RankerCall (K : Type*) where
  | upsert (opp : ScoredOpportunity K) (now : Int)
  | top (n : Nat) (now : Int)
  | isApproved (opportunityId : String) (now : Int)
  | size (now : Int)
  | clear

namespace OpportunityRanker

variable {K : Type*} [Field K] [LinearOrder K] [FloorRing K]

def next (ranker : OpportunityRanker K) : RankerCall K → OpportunityRanker K
  | .upsert opp now => (ranker.upsert opp now).1
  | .top n now => (ranker.top n now).1
  | .isApproved opportunityId now => (ranker.isApproved opportunityId now).1
  | .size now => (ranker.size now).1
  | .clear => ranker.clear

end OpportunityRanker

-----------------------------------------------------------------------------------------
-- The window
-----------------------------------------------------------------------------------------

namespace OpportunityRanker

section Calls

variable {K : Type*} [LinearOrder K]

/-- The window is in order, without doubles, within its size and its quality. -/
structure Sound (ranker : OpportunityRanker K) : Prop where
  ranked : Ranked ScoredOpportunity.qualityScore ranker.window
  distinct : (ranker.window.map ScoredOpportunity.id).Nodup
  bounded : ranker.window.length ≤ ranker.windowSize
  quality : ∀ opp ∈ ranker.window, ranker.minQualityScore ≤ opp.qualityScore
  placed : Placed ranker.window

theorem Sound.sublist {ranker : OpportunityRanker K} (sound : Sound ranker)
    {part : List (ScoredOpportunity K)} (sublist : part.Sublist ranker.window)
    : Sound { ranker with window := part } where
  ranked := sound.ranked.sublist sublist
  distinct := sound.distinct.sublist (sublist.map _)
  bounded := sublist.length_le.trans sound.bounded
  quality opp member := sound.quality opp (sublist.subset member)
  placed := ⟨sound.placed.grow.sublist sublist,
    fun opp member => sound.placed.positive opp (sublist.subset member)⟩

theorem Sound.evictExpired {ranker : OpportunityRanker K} (sound : Sound ranker) (now : Int)
    : Sound (ranker.evictExpired now) :=
  sound.sublist List.filter_sublist

theorem Sound.upsert {ranker : OpportunityRanker K} (sound : Sound ranker)
    (opp : ScoredOpportunity K) (now : Int) : Sound (ranker.upsert opp now).1 := by
  rw [OpportunityRanker.upsert]
  split_ifs with low
  · exact sound.evictExpired now
  · have distinct := replace_nodup (sound.evictExpired now).distinct opp
    have perm := ranking_perm ScoredOpportunity.qualityScore
      (replace (ranker.evictExpired now).window opp)
    refine ⟨?_, ?_, ?_, ?_, assignRanks_placed _⟩
    · have ranked := (ranking_ranked ScoredOpportunity.qualityScore
        (replace (ranker.evictExpired now).window opp)).sublist
          (List.take_sublist ranker.windowSize _)
      exact Ranked.of_map_eq ranked (assignRanks_map _ (fun _ _ => rfl) _)
    · dsimp only
      rw [assignRanks_map ScoredOpportunity.id fun _ _ => rfl]
      exact ((perm.map _).nodup_iff.mpr distinct).sublist ((List.take_sublist _ _).map _)
    · simp [assignRanks]
    · intro other member
      obtain ⟨old, among, -, same, -⟩ := mem_assignRanks member
      rw [same]
      have there := perm.mem_iff.mp (List.mem_of_mem_take among)
      rcases (mem_replace (sound.evictExpired now).distinct).mp there with rfl | ⟨kept, -⟩
      · exact not_lt.mp low
      · exact (sound.evictExpired now).quality old kept

end Calls

section Run

variable {K : Type*} [Field K] [LinearOrder K] [FloorRing K]

theorem isApproved_fst (ranker : OpportunityRanker K) (opportunityId : String) (now : Int)
    : (ranker.isApproved opportunityId now).1 = ranker.evictExpired now := by
  rw [isApproved]
  split <;> rfl

theorem Sound.next {ranker : OpportunityRanker K} (sound : Sound ranker) (call : RankerCall K)
    : Sound (ranker.next call) := by
  cases call with
  | upsert opp now => exact sound.upsert opp now
  | top n now => exact sound.evictExpired now
  | isApproved opportunityId now =>
      rw [OpportunityRanker.next, isApproved_fst]
      exact sound.evictExpired now
  | size now => exact sound.evictExpired now
  | clear => exact sound.sublist (List.nil_sublist _)

-----------------------------------------------------------------------------------------
-- What was offered
-----------------------------------------------------------------------------------------

/-- The opportunities that were offered last under their ids with enough quality, since the last
time that the window was cleared.
-/
def write (minQualityScore : K) (offered : String → Option (ScoredOpportunity K))
    : RankerCall K → String → Option (ScoredOpportunity K)
  | .upsert opp _ =>
      if opp.qualityScore < minQualityScore then
        offered
      else
        Function.update offered opp.id (some opp.unranked)
  | .clear => fun _ => none
  | .top _ _ | .isApproved _ _ | .size _ => offered

/-- The time at which a call reads the clock. -/
def time : RankerCall K → Option Int
  | .upsert _ now | .top _ now | .isApproved _ now | .size now => some now
  | .clear => none

/-- The window has the opportunity. -/
def Holds (ranker : OpportunityRanker K) (opp : ScoredOpportunity K) : Prop :=
  ∃ other ∈ ranker.window, other.unranked = opp

/-- The window is full of opportunities that are no worse. -/
def Outranks (ranker : OpportunityRanker K) (opp : ScoredOpportunity K) : Prop :=
  ranker.window.length = ranker.windowSize
  ∧ ∀ other ∈ ranker.window, opp.qualityScore ≤ other.qualityScore

variable {ranker : OpportunityRanker K} {offered : String → Option (ScoredOpportunity K)}

/-- A call keeps the window among what was offered, by cases on the call. -/
theorem offered_next (sound : Sound ranker)
    (within : ∀ opp ∈ ranker.window, offered opp.id = some opp.unranked) (call : RankerCall K)
    : ∀ opp ∈ (ranker.next call).window,
        write ranker.minQualityScore offered call opp.id = some opp.unranked := by
  have evicted (now : Int)
      : ∀ opp ∈ (ranker.evictExpired now).window, offered opp.id = some opp.unranked := by
    intro opp member
    exact within opp (List.mem_of_mem_filter member)
  cases call with
  | upsert opp now =>
      intro other member
      rw [next, upsert] at member
      rw [write]
      split_ifs at member ⊢ with low
      · exact evicted now other member
      · obtain ⟨old, among, same, -, id⟩ := mem_assignRanks member
        have there := (ranking_perm ScoredOpportunity.qualityScore _).mem_iff.mp
          (List.mem_of_mem_take among)
        rw [same, id]
        rcases (mem_replace (sound.evictExpired now).distinct).mp there with
          rfl | ⟨kept, differs⟩
        · exact Function.update_self ..
        · rw [Function.update_of_ne differs]
          exact evicted now old kept
  | top n now => exact evicted now
  | isApproved opportunityId now =>
      rw [next, isApproved_fst]
      exact evicted now
  | size now => exact evicted now
  | clear =>
      intro opp member
      cases member

omit [Field K] [FloorRing K] in
/-- What goes into the window stays, or the window is full of opportunities that are no worse. -/
theorem upsert_keeps {opp other : ScoredOpportunity K} {now : Int}
    (enough : ¬ opp.qualityScore < ranker.minQualityScore)
    (member : other ∈ replace (ranker.evictExpired now).window opp)
    : Holds (ranker.upsert opp now).1 other.unranked
      ∨ Outranks (ranker.upsert opp now).1 other := by
  rw [upsert, if_neg enough]
  let sorted :=
    ranking ScoredOpportunity.qualityScore (replace (ranker.evictExpired now).window opp)
  have there : other ∈ sorted.take ranker.windowSize ++ sorted.drop ranker.windowSize := by
    rw [List.take_append_drop]
    exact (ranking_perm ScoredOpportunity.qualityScore _).mem_iff.mpr member
  rcases List.mem_append.mp there with kept | out
  · left
    have unranked : other.unranked
        ∈ (assignRanks (sorted.take ranker.windowSize)).map ScoredOpportunity.unranked := by
      rw [assignRanks_map ScoredOpportunity.unranked fun _ _ => rfl]
      exact List.mem_map_of_mem kept
    exact List.mem_map.mp unranked
  · right
    have ranked : Ranked ScoredOpportunity.qualityScore sorted := ranking_ranked _ _
    have nonempty := List.length_pos_of_mem out
    rw [List.length_drop] at nonempty
    constructor
    · change (assignRanks (sorted.take ranker.windowSize)).length = ranker.windowSize
      rw [assignRanks, List.length_mapIdx, List.length_take]
      omega
    · intro best member
      obtain ⟨old, among, -, same, -⟩ := mem_assignRanks member
      rw [same]
      exact ranked.cut among out

omit [Field K] [LinearOrder K] [FloorRing K] in
/-- What has not expired at a later time is not evicted. -/
theorem mem_evictExpired {opp : ScoredOpportunity K} {asked now : Int}
    (member : opp ∈ ranker.window) (order : asked ≤ now) (live : now ≤ opp.expiresAt)
    : opp ∈ (ranker.evictExpired asked).window := by
  refine List.mem_filter.mpr ⟨member, ?_⟩
  simpa using order.trans live

/-- A call loses an opportunity that has not expired only to a full window of others that are no
worse, by cases on the call.
-/
theorem next_keeps (sound : Sound ranker) {call : RankerCall K} {id : String}
    {opp : ScoredOpportunity K} {now : Int}
    (isOffered : write ranker.minQualityScore offered call id = some opp)
    (named : ∀ id opp, offered id = some opp → opp.id = id)
    (before : offered id = some opp → Holds ranker opp)
    (past : ∀ asked, time call = some asked → asked ≤ now) (live : now ≤ opp.expiresAt)
    : Holds (ranker.next call) opp ∨ Outranks (ranker.next call) opp := by
  have evicted (asked : Int) (order : asked ≤ now) (isOffered : offered id = some opp)
      : Holds (ranker.evictExpired asked) opp := by
    obtain ⟨other, member, rfl⟩ := before isOffered
    exact ⟨other, mem_evictExpired member order live, rfl⟩
  cases call with
  | upsert new asked =>
      have order := past asked rfl
      rw [write] at isOffered
      split_ifs at isOffered with low
      · left
        rw [next, upsert, if_pos low]
        exact evicted asked order isOffered
      · have distinct := (sound.evictExpired asked).distinct
        by_cases own : id = new.id
        · subst own
          rw [Function.update_self] at isOffered
          cases isOffered
          exact upsert_keeps low ((mem_replace distinct).mpr (.inl rfl))
        · rw [Function.update_of_ne own] at isOffered
          obtain ⟨other, member, rfl⟩ := evicted asked order isOffered
          have differs : other.id ≠ new.id := by
            intro equal
            exact own ((named _ _ isOffered).symm.trans equal)
          exact upsert_keeps low ((mem_replace distinct).mpr (.inr ⟨member, differs⟩))
  | top n asked => exact .inl (evicted asked (past asked rfl) isOffered)
  | isApproved opportunityId asked =>
      rw [next, isApproved_fst]
      exact .inl (evicted asked (past asked rfl) isOffered)
  | size asked => exact .inl (evicted asked (past asked rfl) isOffered)
  | clear => cases isOffered

-----------------------------------------------------------------------------------------
-- Runs of calls
-----------------------------------------------------------------------------------------

theorem next_options (ranker : OpportunityRanker K) (call : RankerCall K)
    : (ranker.next call).minQualityScore = ranker.minQualityScore
      ∧ (ranker.next call).windowSize = ranker.windowSize
      ∧ (ranker.next call).topFraction = ranker.topFraction := by
  cases call with
  | upsert opp now =>
      rw [next, upsert]
      split_ifs <;> exact ⟨rfl, rfl, rfl⟩
  | isApproved opportunityId now =>
      rw [next, isApproved_fst]
      exact ⟨rfl, rfl, rfl⟩
  | _ => exact ⟨rfl, rfl, rfl⟩

/-- What holds after a run of calls. -/
structure Accounted (start : OpportunityRanker K) (calls : List (RankerCall K))
    (offered : String → Option (ScoredOpportunity K)) : Prop where
  sound : Sound (run next start calls)
  options : (run next start calls).minQualityScore = start.minQualityScore
  named : ∀ id opp, offered id = some opp → opp.id = id
  within : ∀ opp ∈ (run next start calls).window, offered opp.id = some opp.unranked
  kept
    : ∀ now,
        (∀ asked ∈ calls.filterMap time, asked ≤ now)
        → ∀ id opp,
            offered id = some opp
            → now ≤ opp.expiresAt
            → Holds (run next start calls) opp
              ∨ ∃ before after, calls = before ++ after ∧ Outranks (run next start before) opp

/-- A run of calls from an empty window is accounted for, by induction on the calls. -/
theorem accounted_run (start : OpportunityRanker K) (empty : start.window = [])
    (calls : List (RankerCall K))
    : Accounted start calls (run (write start.minQualityScore) (fun _ => none) calls) := by
  induction calls using List.reverseRecOn with
  | nil =>
      refine ⟨⟨?_, ?_, ?_, ?_, ?_, ?_⟩, rfl, ?_, ?_, ?_⟩
      · simp [run_nil, empty, Ranked]
      · simp [run_nil, empty]
      · simp [run_nil, empty]
      · simp [run_nil, empty]
      · simp [run_nil, empty]
      · simp [run_nil, empty]
      · intro id opp found
        cases found
      · simp [run_nil, empty]
      · intro now past id opp found
        cases found
  | append_singleton calls call ih =>
      rw [run_append (write start.minQualityScore), run_cons, run_nil]
      generalize run (write start.minQualityScore) (fun _ => none) calls = offered at ih
      have ends : run next start (calls ++ [call]) = (run next start calls).next call := by
        rw [run_append, run_cons, run_nil]
      refine ⟨?_, ?_, ?_, ?_, ?_⟩
      · rw [ends]
        exact ih.sound.next call
      · rw [ends, (next_options _ call).1, ih.options]
      · intro id opp found
        cases call with
        | upsert new asked =>
            rw [write] at found
            split_ifs at found with low
            · exact ih.named id opp found
            · by_cases own : id = new.id
              · subst own
                rw [Function.update_self] at found
                cases found
                rfl
              · rw [Function.update_of_ne own] at found
                exact ih.named id opp found
        | clear => cases found
        | _ => exact ih.named id opp found
      · rw [ends, ← ih.options]
        exact offered_next ih.sound ih.within call
      · intro now past id opp found live
        rw [List.filterMap_append] at past
        have last : ∀ asked, time call = some asked → asked ≤ now := by
          intro asked isTime
          refine past asked (List.mem_append_right _ ?_)
          exact List.mem_filterMap.mpr ⟨call, List.mem_singleton_self _, isTime⟩
        have earlier := ih.kept now fun asked member => past asked (List.mem_append_left _ member)
        rw [← ih.options] at found
        by_cases displaced : ∃ before after,
            calls = before ++ after ∧ Outranks (run next start before) opp
        · obtain ⟨before, after, rfl, outranked⟩ := displaced
          exact .inr ⟨before, after ++ [call], List.append_assoc .., outranked⟩
        · have before : offered id = some opp → Holds (run next start calls) opp := by
            intro isOffered
            exact (earlier id opp isOffered live).resolve_right displaced
          rcases next_keeps ih.sound found ih.named before last live with holds | outranked
          · left
            rw [ends]
            exact holds
          · refine .inr ⟨calls ++ [call], [], (List.append_nil _).symm, ?_⟩
            rw [ends]
            exact outranked

-----------------------------------------------------------------------------------------
-- Ranks and approvals
-----------------------------------------------------------------------------------------

/-- What is approved stands within the part of the window that may be entered. -/
theorem approved_place (sound : Sound ranker) {opportunityId : String} {now : Int}
    (approved : (ranker.isApproved opportunityId now).2 = true)
    : ∃ before opp after,
        (ranker.evictExpired now).window = before ++ opp :: after
        ∧ opp.id = opportunityId
        ∧ (before.length : Int) < ranker.cutoff (ranker.evictExpired now).window.length := by
  rw [isApproved] at approved
  split at approved
  · next opp found =>
      obtain ⟨same, before, after, split, -⟩ := List.find?_eq_some_iff_append.mp found
      refine ⟨before, _, after, split, by simpa using same, ?_⟩
      have placed := (sound.evictExpired now).placed
      rw [split] at placed
      have less := placed.length_lt_rank rfl
      have within := of_decide_eq_true approved
      have ordered : (before.length : Int) < _ := Int.ofNat_lt.mpr less
      exact ordered.trans_le within
  · cases approved

omit [Field K] [FloorRing K] in
/-- An opportunity is answered with its place among the others, if the window reaches to it. -/
theorem snd_upsert {opp : ScoredOpportunity K} {now : Int}
    {before after : List (ScoredOpportunity K)}
    (enough : ¬ opp.qualityScore < ranker.minQualityScore)
    (replaced : replace (ranker.evictExpired now).window opp = before ++ opp :: after)
    (distinct : ((before ++ opp :: after).map ScoredOpportunity.id).Nodup)
    : (ranker.upsert opp now).2
      = if standing ScoredOpportunity.qualityScore before opp after < ranker.windowSize then
          some { opp with
            rank := some (standing ScoredOpportunity.qualityScore before opp after + 1) }
        else
          none := by
  obtain ⟨above, below, sorted, length, -⟩ :=
    exists_place ScoredOpportunity.qualityScore before opp after
  have perm := (ranking_perm ScoredOpportunity.qualityScore (before ++ opp :: after)).map
    ScoredOpportunity.id
  rw [sorted] at perm
  have apart := perm.nodup_iff.mpr distinct
  rw [List.map_append, List.map_cons] at apart
  have others : ∀ other ∈ above, other.id ≠ opp.id := by
    intro other member equal
    exact (List.nodup_append.mp apart).2.2 _ (List.mem_map_of_mem member) _
      (List.mem_cons_self ..) equal
  have absent (part : List (ScoredOpportunity K)) (among : ∀ other ∈ part, other ∈ above)
      : (assignRanks part).find? (fun other => other.id = opp.id) = none := by
    rw [List.find?_eq_none]
    intro other member
    obtain ⟨old, there, -, -, id⟩ := mem_assignRanks member
    simpa [id] using others old (among old there)
  rw [upsert, if_neg enough, replaced, sorted, ← length]
  split_ifs with fits
  · have taken : (above ++ opp :: below).take ranker.windowSize
        = above ++ opp :: below.take (ranker.windowSize - above.length - 1) := by
      rw [List.take_append, List.take_of_length_le fits.le]
      obtain ⟨room, equal⟩ : ∃ room, ranker.windowSize - above.length = room + 1 :=
        ⟨ranker.windowSize - above.length - 1, by omega⟩
      rw [equal, List.take_succ_cons]
      rfl
    dsimp only
    rw [taken]
    have ranks : assignRanks (above ++ opp :: below.take (ranker.windowSize - above.length - 1))
        = assignRanks above ++ { opp with rank := some (above.length + 1) }
          :: (below.take (ranker.windowSize - above.length - 1)).mapIdx
            fun i other => { other with rank := some (i + (above.length + 1) + 1) } := by
      rw [assignRanks, List.mapIdx_append, List.mapIdx_cons]
      simp [assignRanks, Nat.add_assoc, Nat.add_comm 1]
    rw [ranks, List.find?_append, absent above fun _ member => member]
    simp
  · dsimp only
    rw [List.take_append_of_le_length (not_lt.mp fits)]
    exact absent _ fun _ member => List.mem_of_mem_take member

end Run

end OpportunityRanker

end CrashWave.Opportunity
