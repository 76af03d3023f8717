import CrashWave.Prediction.RollingHistory
import Mathlib.Algebra.BigOperators.Group.List.Basic
import Mathlib.Algebra.Order.Field.Basic
import Mathlib.Tactic.FieldSimp

/-! The candidate of `runValidationProtocol`: the probability that it scores for each of the last
rounds, which is the share of hits among these rounds themselves. Shares are exact.
-/

namespace CrashWave.Prediction

open CrashWave.History JavaScript

/-- A scored probability with the outcome of its round. -/
structure ScoredPair where
  p : ℚ
  y : Nat
  deriving DecidableEq

namespace ValidationProtocol

/-- A round counts as a hit from 1.3 on. -/
def outcome (round : HistoricalRound) : Nat :=
  if .finite (13 / 10) ≤ round.crashPoint then 1 else 0

def binary (rounds : List HistoricalRound) : List Nat := rounds.map outcome

/-- The sum of the outcomes over `Math.max(1, length)`. -/
def hitRate (outcomes : List Nat) : ℚ := outcomes.sum / max 1 outcomes.length

/-- The index of the first of the last 500 rounds. -/
def scoredFrom (rounds : List HistoricalRound) : Nat :=
  rounds.length - min 500 rounds.length

/-- `binary.slice(-Math.min(500, binary.length))`. -/
def short (rounds : List HistoricalRound) : List Nat := (binary rounds).drop (scoredFrom rounds)

/-- `shortRate`. -/
def shortRate (rounds : List HistoricalRound) : ℚ := hitRate (short rounds)

/-- `candidatePairs`. -/
def candidatePairs (rounds : List HistoricalRound) : List ScoredPair :=
  (short rounds).map fun y => { p := shortRate rounds, y }

/-- A round is scored when it is one of the last 500. -/
def Scored (rounds : List HistoricalRound) (i : Nat) : Prop :=
  scoredFrom rounds ≤ i ∧ i < rounds.length

/-- The probability that is scored for a round, if it is scored. -/
def candidateProbability (rounds : List HistoricalRound) (i : Nat) : Option ℚ :=
  if scoredFrom rounds ≤ i then
    ((candidatePairs rounds)[i - scoredFrom rounds]?).map (·.p)
  else none

/-- The hits from a round on. -/
def hitsFrom (i : Nat) (rounds : List HistoricalRound) : Nat := ((binary rounds).drop i).sum

variable {rounds others : List HistoricalRound} {i : Nat}

theorem length_short (rounds : List HistoricalRound)
    : (short rounds).length = min 500 rounds.length := by
  rw [short, List.length_drop, binary, List.length_map, scoredFrom]
  omega

/-- Every scored round gets the same probability. -/
theorem candidateProbability_scored (scored : Scored rounds i)
    : candidateProbability rounds i = some (shortRate rounds) := by
  obtain ⟨from_, inside⟩ := scored
  have among : i - scoredFrom rounds < (short rounds).length := by
    rw [length_short]
    unfold scoredFrom at from_ ⊢
    omega
  rw [candidateProbability, if_pos from_, candidatePairs, List.getElem?_map,
    List.getElem?_eq_getElem among]
  rfl

/-- Two rates are the same exactly if the hits are in the proportion of the lengths. -/
theorem hitRate_eq_iff {xs ys : List Nat} (some : 0 < xs.length) (others : 0 < ys.length)
    : hitRate xs = hitRate ys ↔ xs.sum * ys.length = ys.sum * xs.length := by
  have left : ((xs.length : Nat) : ℚ) ≠ 0 := Nat.cast_ne_zero.mpr some.ne'
  have right : ((ys.length : Nat) : ℚ) ≠ 0 := Nat.cast_ne_zero.mpr others.ne'
  rw [hitRate, hitRate, Nat.max_eq_right some, Nat.max_eq_right others,
    div_eq_div_iff left right]
  exact_mod_cast Iff.rfl

theorem short_pos (scored : Scored rounds i) : 0 < (short rounds).length := by
  rw [length_short]
  have inside := scored.2
  omega

/-- The hits that are scored are those before a scored round and those from it on. -/
theorem sum_short (scored : Scored rounds i)
    : (short rounds).sum
      = (((binary rounds).take i).drop (scoredFrom rounds)).sum + hitsFrom i rounds := by
  have parts : short rounds
      = ((binary rounds).take i).drop (scoredFrom rounds) ++ (binary rounds).drop i := by
    conv_lhs => rw [short, ← List.take_append_drop i (binary rounds)]
    rw [List.drop_append_of_le_length]
    rw [List.length_take, binary, List.length_map]
    exact le_min scored.1 (scored.1.trans scored.2.le)
  rw [parts, List.sum_append, hitsFrom]

/-- Lists of the same length that agree before a round have the same rate exactly if they have
as many hits from it on.
-/
theorem hitRate_short_eq_iff (scored : Scored rounds i) (scored' : Scored others i)
    (agree : rounds.take i = others.take i) (same : rounds.length = others.length)
    : (short rounds).sum * (short others).length = (short others).sum * (short rounds).length
      ↔ hitsFrom i rounds = hitsFrom i others := by
  have before : (binary rounds).take i = (binary others).take i := by
    rw [binary, binary, ← List.map_take, ← List.map_take, agree]
  have start : scoredFrom rounds = scoredFrom others := by rw [scoredFrom, scoredFrom, same]
  have lengths : (short rounds).length = (short others).length := by
    rw [length_short, length_short, same]
  rw [lengths, Nat.mul_left_inj (short_pos scored').ne', sum_short scored, sum_short scored',
    before, start]
  exact Nat.add_left_cancel_iff

/-- A round that hits exactly when the other does not. -/
def flipped (round : HistoricalRound) : HistoricalRound :=
  { round with crashPoint := if outcome round = 1 then 1 else 2 }

theorem outcome_flipped (round : HistoricalRound)
    : outcome (flipped round) ≠ outcome round := by
  have low : ¬ Number.finite (13 / 10) ≤ 1 := by decide +kernel
  have high : Number.finite (13 / 10) ≤ 2 := by decide +kernel
  unfold flipped
  by_cases hit : outcome round = 1
  · rw [if_pos hit, hit, outcome, if_neg low]
    exact Nat.zero_ne_one
  · rw [if_neg hit]
    have two : outcome { round with crashPoint := 2 } = 1 := if_pos high
    rw [two]
    exact fun same => hit same.symm

/-- Flipping a round changes the hits from it on. -/
theorem hitsFrom_flipped (inside : i < rounds.length)
    : hitsFrom i (rounds.set i (flipped rounds[i])) ≠ hitsFrom i rounds := by
  have own : hitsFrom i rounds = outcome rounds[i] + hitsFrom (i + 1) rounds := by
    rw [hitsFrom, binary, ← List.map_drop, List.drop_eq_getElem_cons inside, List.map_cons,
      List.sum_cons, hitsFrom, binary, List.map_drop]
  have inside' : i < (rounds.set i (flipped rounds[i])).length := by rwa [List.length_set]
  have other : hitsFrom i (rounds.set i (flipped rounds[i]))
      = outcome (flipped rounds[i]) + hitsFrom (i + 1) rounds := by
    rw [hitsFrom, binary, ← List.map_drop, List.drop_eq_getElem_cons inside',
      List.getElem_set_self, List.drop_set_of_lt (Nat.lt_succ_self i), List.map_cons,
      List.sum_cons, hitsFrom, binary, List.map_drop]
  rw [own, other]
  exact fun same => outcome_flipped _ (Nat.add_right_cancel same)

/-- A round that is scored in two lists that agree before it gets the same probability in both
exactly if the hits of their last rounds are in the proportion of their numbers; for lists of
the same length, if as many rounds from it on are hits. Every list has another one of its
length that agrees before the round and in which it gets another probability.
-/
theorem candidateProbability_eq_iff (rounds : List HistoricalRound) (i : Nat)
    (scored : Scored rounds i)
    : (∀ others, Scored others i → rounds.take i = others.take i →
        (candidateProbability rounds i = candidateProbability others i
          ↔ (short rounds).sum * (short others).length
            = (short others).sum * (short rounds).length)
        ∧ (rounds.length = others.length →
            (candidateProbability rounds i = candidateProbability others i
              ↔ hitsFrom i rounds = hitsFrom i others)))
      ∧ ∃ others, Scored others i ∧ rounds.length = others.length
        ∧ rounds.take i = others.take i
        ∧ candidateProbability rounds i ≠ candidateProbability others i := by
  have general : ∀ others, Scored others i →
      (candidateProbability rounds i = candidateProbability others i
        ↔ (short rounds).sum * (short others).length
          = (short others).sum * (short rounds).length) := by
    intro others scored'
    rw [candidateProbability_scored scored, candidateProbability_scored scored',
      Option.some.injEq]
    exact hitRate_eq_iff (short_pos scored) (short_pos scored')
  refine ⟨fun others scored' agree => ⟨general others scored', fun same => ?_⟩, ?_⟩
  · rw [general others scored']
    exact hitRate_short_eq_iff scored scored' agree same
  · have inside := scored.2
    let others := rounds.set i (flipped rounds[i])
    have same : rounds.length = others.length := List.length_set.symm
    have scored' : Scored others i := by
      unfold Scored scoredFrom
      rw [← same]
      exact scored
    have agree : rounds.take i = others.take i := (List.take_set_of_le le_rfl).symm
    refine ⟨others, scored', same, agree, ?_⟩
    rw [Ne, general others scored', hitRate_short_eq_iff scored scored' agree same]
    exact fun hits => hitsFrom_flipped inside hits.symm

/-- A round with this crash point. -/
def roundAt (crashPoint : Number) : HistoricalRound where
  id := none
  externalRoundId := none
  crashPoint
  createdAt := ""

/-- A hit, a miss and a hit, of which the second is scored like all of them. -/
theorem candidateProbability_eq_threeRounds
    : let rounds := [roundAt 2, roundAt 1, roundAt 3]
      let others := [roundAt 2, roundAt 3, roundAt 1]
      Scored rounds 1
      ∧ (candidateProbability rounds 1 = candidateProbability others 1
        ↔ hitsFrom 1 rounds = hitsFrom 1 others) := by
  intro rounds others
  have scored : Scored rounds 1 := ⟨by decide +kernel, by decide +kernel⟩
  have scored' : Scored others 1 := ⟨by decide +kernel, by decide +kernel⟩
  exact ⟨scored, ((candidateProbability_eq_iff rounds 1 scored).1 others scored' rfl).2 rfl⟩

/-- Two lists that agree before the second round and score it with 2/3 and with 1/3. -/
theorem candidateProbability_sees_later_rounds
    : let rounds := [roundAt 2, roundAt 1, roundAt 3]
      let others := [roundAt 2, roundAt 1, roundAt 1]
      Scored rounds 1 ∧ Scored others 1 ∧ rounds.take 1 = others.take 1
      ∧ candidateProbability rounds 1 = some (2 / 3)
      ∧ candidateProbability others 1 = some (1 / 3) := by
  refine ⟨⟨?_, ?_⟩, ⟨?_, ?_⟩, rfl, ?_, ?_⟩ <;> decide +kernel

end ValidationProtocol

end CrashWave.Prediction
