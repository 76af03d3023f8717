import CrashWave.Expiry.Basic
import CrashWave.JavaScript.Number
import CrashWave.JavaScript.RelatedMaps
import CrashWave.Runs.Basic
import Mathlib.Data.List.Induction

/-! The hot cache of predictions and features: entries expire, and a full cache evicts its oldest
entry on every write. What it answers is what was written last, as long as it holds it.
-/

namespace CrashWave.Observability

open JavaScript Runs Expiry

variable {T : Type*}

structure CacheEntry (T : Type*) where
  value : T
  storedAt : Int
  expiresAt : Number
  hits : Nat

structure HotCache (T : Type*) where
  store : Map String (CacheEntry T) := ∅
  defaultTtlMs : Number
  maxEntries : Number

namespace HotCache

def get (cache : HotCache T) (key : String) (now : Int) : HotCache T × Option T :=
  match cache.store.get key with
  | none => (cache, none)
  | some entry =>
      if entry.expiresAt < .finite now then
        ({ cache with store := cache.store.delete key }, none)
      else
        ({ cache with store := cache.store.set key { entry with hits := entry.hits + 1 } },
          some entry.value)

/-- The key that was stored first, the first one of these in the store's order. -/
def oldest (entries : List (String × CacheEntry T)) : Option (String × Int) :=
  entries.foldl
    (fun oldest entry =>
      match oldest with
      | none => some (entry.1, entry.2.storedAt)
      | some (key, at') =>
          if entry.2.storedAt < at' then some (entry.1, entry.2.storedAt) else some (key, at'))
    none

/-- An empty key is falsy, and stays. -/
def evict (cache : HotCache T) : HotCache T :=
  match oldest cache.store.entries with
  | none => cache
  | some (key, _) =>
      if key = "" then cache else { cache with store := cache.store.delete key }

def isFull (cache : HotCache T) : Prop := cache.maxEntries ≤ .finite cache.store.entries.length

instance (cache : HotCache T) : Decidable cache.isFull :=
  inferInstanceAs (Decidable (_ ≤ _))

/-- When a value with this lifetime that is written now expires. -/
def expiry (cache : HotCache T) (ttlMs : Option Number) (now : Int) : Number :=
  .finite now + ttlMs.getD cache.defaultTtlMs

def set (cache : HotCache T) (key : String) (value : T) (ttlMs : Option Number) (now : Int)
    : HotCache T :=
  let roomy := if cache.isFull then cache.evict else cache
  { roomy with
    store := roomy.store.set key
      { value, storedAt := now, expiresAt := cache.expiry ttlMs now, hits := 0 } }

def invalidate (cache : HotCache T) (key : String) : HotCache T :=
  { cache with store := cache.store.delete key }

def clear (cache : HotCache T) : HotCache T := { cache with store := ∅ }

def size (cache : HotCache T) : Nat := cache.store.entries.length

end HotCache

/-- A call of the cache. -/
inductive CacheCall (T : Type*) where
  | get (key : String) (now : Int)
  | set (key : String) (value : T) (ttlMs : Option Number) (now : Int)
  | invalidate (key : String)
  | clear

namespace HotCache

def next (cache : HotCache T) : CacheCall T → HotCache T
  | .get key now => (cache.get key now).1
  | .set key value ttlMs now => cache.set key value ttlMs now
  | .invalidate key => cache.invalidate key
  | .clear => cache.clear

-----------------------------------------------------------------------------------------
-- What was written
-----------------------------------------------------------------------------------------

/-- A value with the time at which it expires, which has passed. -/
def expired (value : T × Number) (now : Int) : Bool := decide (value.2 < .finite now)

/-- What the cache holds at its keys. -/
def held (cache : HotCache T) (key : String) : Option (T × Number) :=
  (cache.store.get key).map fun entry => (entry.value, entry.expiresAt)

/-- What the keys were given last, and when it expires: what the cache is for. -/
def write (defaultTtlMs : Number) (values : String → Option (T × Number))
    : CacheCall T → String → Option (T × Number)
  | .get _ _ => values
  | .set key value ttlMs now =>
      Function.update values key (some (value, .finite now + ttlMs.getD defaultTtlMs))
  | .invalidate key => Function.update values key none
  | .clear => fun _ => none

/-- The time at which a call reads the clock. -/
def time : CacheCall T → Option Int
  | .get _ now => some now
  | .set _ _ _ now => some now
  | .invalidate _ | .clear => none

variable {cache : HotCache T} {values : String → Option (T × Number)}

theorem lasting_expired : Lasting (expired (T := T)) := by
  intro value before later order dead
  refine decide_eq_true ?_
  have past : value.2 < .finite before := of_decide_eq_true dead
  cases due : value.2 with
  | nan =>
      rw [due] at past
      cases past
  | infinity negative => rwa [due] at past
  | finite expiry =>
      rw [due] at past
      have ordered : expiry < before := of_decide_eq_true past
      exact decide_eq_true (ordered.trans_le (by exact_mod_cast order))

theorem held_delete (key : String)
    : held { cache with store := cache.store.delete key }
      = Function.update cache.held key none := by
  funext other
  by_cases same : other = key
  · subst same
    simp [held]
  · simp [held, Map.get_delete_of_ne _ same, Function.update_of_ne same]

theorem held_set (key : String) (entry : CacheEntry T)
    : held { cache with store := cache.store.set key entry }
      = Function.update cache.held key (some (entry.value, entry.expiresAt)) := by
  funext other
  by_cases same : other = key
  · subst same
    simp [held]
  · simp [held, Map.get_set_of_ne _ _ same, Function.update_of_ne same]

/-- What a read answers is what is seen of what the cache holds. -/
theorem snd_get (key : String) (now : Int)
    : (cache.get key now).2 = (seen expired cache.held now key).map Prod.fst := by
  rw [get, seen, held]
  cases found : cache.store.get key with
  | none => rfl
  | some entry =>
      by_cases dead : entry.expiresAt < .finite now
      · simp [dead, expired, Option.filter]
      · simp [dead, expired, Option.filter]

/-- A read forgets an entry that has expired, and changes nothing else that is held. -/
theorem held_get (key : String) (now : Int)
    : (cache.get key now).1.held = cache.held
      ∨ ∃ value, cache.held key = some value ∧ expired value now = true
          ∧ (cache.get key now).1.held = Function.update cache.held key none := by
  rw [get]
  cases found : cache.store.get key with
  | none => exact .inl rfl
  | some entry =>
      have isHeld : cache.held key = some (entry.value, entry.expiresAt) := by simp [held, found]
      by_cases dead : entry.expiresAt < .finite now
      · refine .inr ⟨_, isHeld, decide_eq_true dead, ?_⟩
        simp only [dead, if_true]
        exact held_delete key
      · refine .inl ?_
        simp only [dead, if_false]
        rw [held_set]
        exact Function.update_eq_self_iff.mpr isHeld.symm

/-- An eviction forgets at most one entry. -/
theorem within_evict (within : Within cache.held values) : Within cache.evict.held values := by
  unfold evict
  split
  · exact within
  · split
    · exact within
    · rw [held_delete]
      exact within.forget _

/-- A call keeps what is held among what was written. -/
theorem within_next (within : Within cache.held values) (call : CacheCall T)
    : Within (cache.next call).held (write cache.defaultTtlMs values call) := by
  cases call with
  | get key now =>
      rcases cache.held_get key now with same | ⟨value, -, -, forgot⟩
      · change Within (cache.get key now).1.held values
        rwa [same]
      · change Within (cache.get key now).1.held values
        rw [forgot]
        exact within.forget key
  | set key value ttlMs now =>
      change Within (held { (if cache.isFull then cache.evict else cache) with store := _ }) _
      rw [held_set]
      refine Within.update ?_ key _
      split
      · exact within_evict within
      · exact within
  | invalidate key =>
      change Within (held { cache with store := cache.store.delete key }) _
      rw [held_delete]
      exact within.update key none
  | clear =>
      intro key value found
      cases found

-----------------------------------------------------------------------------------------
-- What is evicted
-----------------------------------------------------------------------------------------

/-- The oldest key of some entries is one of them, and none is older, by induction on the entries.
-/
theorem oldest_spec (entries : List (String × CacheEntry T))
    : match oldest entries with
      | none => entries = []
      | some (key, at') => (∃ entry, (key, entry) ∈ entries ∧ entry.storedAt = at')
          ∧ ∀ other ∈ entries, at' ≤ other.2.storedAt := by
  unfold oldest
  induction entries using List.reverseRecOn with
  | nil => rfl
  | append_singleton entries last ih =>
      rw [List.foldl_append, List.foldl_cons, List.foldl_nil]
      generalize entries.foldl _ none = found at ih
      cases found with
      | none =>
          dsimp only at ih ⊢
          subst ih
          exact ⟨⟨last.2, by simp, rfl⟩, by simp⟩
      | some first =>
          obtain ⟨key, at'⟩ := first
          dsimp only at ih ⊢
          obtain ⟨⟨entry, among, stored⟩, least⟩ := ih
          by_cases older : last.2.storedAt < at'
          · rw [if_pos older]
            refine ⟨⟨last.2, by simp, rfl⟩, fun other member => ?_⟩
            rcases List.mem_append.mp member with before | new
            · exact older.le.trans (least other before)
            · rw [List.mem_singleton.mp new]
          · rw [if_neg older]
            refine ⟨⟨entry, List.mem_append_left _ among, stored⟩, fun other member => ?_⟩
            rcases List.mem_append.mp member with before | new
            · exact least other before
            · rw [List.mem_singleton.mp new]
              exact not_lt.mp older

/-- An eviction deletes an entry that none is older than, or there is none, or it has the empty key.
-/
theorem evict_cases (cache : HotCache T)
    : (cache.evict = cache
        ∧ (cache.store.entries = [] ∨ ∃ entry, cache.store.get "" = some entry))
      ∨ ∃ key entry, cache.store.get key = some entry
          ∧ (∀ other younger, cache.store.get other = some younger →
            entry.storedAt ≤ younger.storedAt)
          ∧ cache.evict = { cache with store := cache.store.delete key } := by
  have spec := oldest_spec cache.store.entries
  unfold evict
  split
  · next none =>
      rw [none] at spec
      exact .inl ⟨rfl, .inl spec⟩
  · next key at' found =>
      rw [found] at spec
      obtain ⟨⟨entry, among, rfl⟩, least⟩ := spec
      have isEntry := Map.mem_entries_iff.mp among
      split
      · next empty =>
          rw [empty] at isEntry
          exact .inl ⟨rfl, .inr ⟨entry, isEntry⟩⟩
      · refine .inr ⟨key, entry, isEntry, fun other younger isYounger => ?_, rfl⟩
        exact least _ (Map.mem_entries_iff.mpr isYounger)

/-- An entry that a write of another key loses was the oldest one of a full cache. -/
theorem lost_of_set {key lost : String} {entry : CacheEntry T} {value : T}
    {ttlMs : Option Number} {now : Int} (had : cache.store.get lost = some entry)
    (lacks : (cache.set key value ttlMs now).store.get lost = none)
    : cache.isFull
      ∧ ∀ other younger, cache.store.get other = some younger →
        entry.storedAt ≤ younger.storedAt := by
  have differs : lost ≠ key := by
    intro same
    rw [same] at lacks
    simp [set] at lacks
  simp only [set, Map.get_set_of_ne _ _ differs] at lacks
  by_cases full : cache.isFull
  · rw [if_pos full] at lacks
    refine ⟨full, ?_⟩
    rcases cache.evict_cases with ⟨same, -⟩ | ⟨evicted, oldest, isOldest, least, deleted⟩
    · rw [same, had] at lacks
      cases lacks
    · rw [deleted] at lacks
      by_cases own : lost = evicted
      · subst own
        cases had.symm.trans isOldest
        exact least
      · rw [Map.get_delete_of_ne _ own, had] at lacks
        cases lacks
  · rw [if_neg full, had] at lacks
    cases lacks

-----------------------------------------------------------------------------------------
-- Its size
-----------------------------------------------------------------------------------------

/-- The cache holds no more than the limit, and nothing under the empty key. -/
structure Bounded (limit : Nat) (cache : HotCache T) : Prop where
  size : cache.store.entries.length ≤ limit
  keys : cache.store.get "" = none
  full : cache.maxEntries ≤ .finite limit

/-- The call does not write the empty key. -/
def NamesKey : CacheCall T → Prop
  | .set key _ _ _ => key ≠ ""
  | .get _ _ | .invalidate _ | .clear => True

theorem Bounded.delete {limit : Nat} (bounded : Bounded limit cache) (key : String)
    : Bounded limit { cache with store := cache.store.delete key } where
  size := (List.length_filter_le _ _).trans bounded.size
  keys := by
    cases found : (cache.store.delete key).get "" with
    | none => rfl
    | some entry =>
        have had := Map.get_of_get_delete found
        rw [bounded.keys] at had
        cases had
  full := bounded.full

/-- An eviction makes room in a full cache. -/
theorem length_evict_lt {limit : Nat} (bounded : Bounded limit cache)
    (filled : cache.store.entries ≠ [])
    : cache.evict.store.entries.length < cache.store.entries.length := by
  rcases cache.evict_cases with ⟨-, empty | ⟨entry, found⟩⟩ | ⟨key, entry, found, -, deleted⟩
  · exact absurd empty filled
  · rw [bounded.keys] at found
    cases found
  · rw [deleted]
    exact Map.length_delete_lt (Map.mem_entries_iff.mpr found)

theorem Bounded.next {limit : Nat} (bounded : Bounded limit cache) (positive : 0 < limit)
    (call : CacheCall T) (named : NamesKey call) : Bounded limit (cache.next call) := by
  cases call with
  | get key now =>
      change Bounded limit (cache.get key now).1
      unfold HotCache.get
      split
      · exact bounded
      · next entry found =>
          split
          · exact bounded.delete key
          · refine ⟨?_, ?_, bounded.full⟩
            · dsimp only
              rw [Map.length_set, if_neg (by simp [found])]
              exact bounded.size
            · dsimp only
              by_cases same : "" = key
              · rw [← same, bounded.keys] at found
                cases found
              · rw [Map.get_set_of_ne _ _ same]
                exact bounded.keys
  | set key value ttlMs now =>
      have roomy : (if cache.isFull then cache.evict else cache).store.entries.length + 1 ≤ limit
          ∧ (if cache.isFull then cache.evict else cache).store.get "" = none := by
        by_cases full : cache.isFull
        · rw [if_pos full]
          by_cases empty : cache.store.entries = []
          · have same : cache.evict = cache := by simp [evict, oldest, empty]
            rw [same, empty]
            exact ⟨positive, bounded.keys⟩
          · have shorter := length_evict_lt bounded empty
            have size := bounded.size
            refine ⟨by omega, ?_⟩
            rcases cache.evict_cases with ⟨same, -⟩ | ⟨other, entry, -, -, deleted⟩
            · rw [same]
              exact bounded.keys
            · rw [deleted]
              exact (bounded.delete other).keys
        · rw [if_neg full]
          refine ⟨?_, bounded.keys⟩
          by_contra beyond
          have reached : (limit : ℚ) ≤ cache.store.entries.length := by
            exact_mod_cast Nat.le_of_lt_succ (not_le.mp beyond)
          exact full (Number.le_trans bounded.full (decide_eq_true reached))
      refine ⟨?_, ?_, ?_⟩
      · exact (Map.length_set_le _ key _).trans roomy.1
      · change (Map.set _ key _).get "" = none
        rw [Map.get_set_of_ne _ _ (Ne.symm named)]
        exact roomy.2
      · change (if cache.isFull then cache.evict else cache).maxEntries ≤ _
        split
        · rcases cache.evict_cases with ⟨same, -⟩ | ⟨other, entry, -, -, deleted⟩
          · rw [same]
            exact bounded.full
          · rw [deleted]
            exact bounded.full
        · exact bounded.full
  | invalidate key => exact bounded.delete key
  | clear => exact ⟨Nat.zero_le _, rfl, bounded.full⟩

-----------------------------------------------------------------------------------------
-- What it answers
-----------------------------------------------------------------------------------------

/-- The call does not write to a full cache. -/
def FindsRoom (cache : HotCache T) : CacheCall T → Prop
  | .set _ _ _ _ => ¬ cache.isFull
  | .get _ _ | .invalidate _ | .clear => True

/-- A call that finds room keeps all that was written and has not expired. -/
theorem agrees_next {now : Int} (agrees : Agrees expired cache.held values now)
    (call : CacheCall T) (room : FindsRoom cache call)
    (timely : ∀ asked, time call = some asked → Agrees expired cache.held values asked)
    (order : ∀ asked, time call = some asked → asked ≤ now)
    : Agrees expired (cache.next call).held (write cache.defaultTtlMs values call) now := by
  cases call with
  | get key asked =>
      change Agrees expired (cache.get key asked).1.held values now
      rcases cache.held_get key asked with same | ⟨value, isHeld, dead, forgot⟩
      · rwa [same]
      · rw [forgot]
        exact ((timely asked rfl).forget isHeld dead).later lasting_expired (order asked rfl)
  | set key value ttlMs asked =>
      change Agrees expired (held { (if cache.isFull then cache.evict else cache) with store := _ })
        _ now
      rw [if_neg room, held_set]
      exact agrees.update key _
  | invalidate key =>
      change Agrees expired (held { cache with store := cache.store.delete key }) _ now
      rw [held_delete]
      exact agrees.update key none
  | clear => exact .of_none

@[simp] theorem defaultTtlMs_next (call : CacheCall T)
    : (cache.next call).defaultTtlMs = cache.defaultTtlMs := by
  cases call with
  | get key now =>
      change (cache.get key now).1.defaultTtlMs = _
      unfold get
      split
      · rfl
      · split <;> rfl
  | set key value ttlMs now =>
      change (if cache.isFull then cache.evict else cache).defaultTtlMs = _
      split
      · rcases cache.evict_cases with ⟨same, -⟩ | ⟨other, entry, -, -, deleted⟩
        · rw [same]
        · rw [deleted]
      · rfl
  | invalidate key => rfl
  | clear => rfl

@[simp] theorem defaultTtlMs_run (cache : HotCache T) (calls : List (CacheCall T))
    : (run next cache calls).defaultTtlMs = cache.defaultTtlMs := by
  induction calls generalizing cache with
  | nil => rfl
  | cons call rest ih => rw [run_cons, ih, defaultTtlMs_next]

/-- The cache holds nothing but what was written last, by induction on the calls. -/
theorem within_run (cache : HotCache T) (values : String → Option (T × Number))
    (within : Within cache.held values) (calls : List (CacheCall T))
    : Within (run next cache calls).held (run (write cache.defaultTtlMs) values calls) := by
  induction calls generalizing cache values with
  | nil => exact within
  | cons call rest ih =>
      have later := ih (cache.next call) _ (within_next within call)
      rwa [defaultTtlMs_next] at later

/-- While no write finds the cache full and the clock does not go back, the cache agrees with what
was written at any time from then on, by induction on the calls.
-/
theorem agrees_run {cache : HotCache T} {calls : List (CacheCall T)}
    (initial : ∀ now, Agrees expired cache.held values now)
    (room : Always next FindsRoom cache calls)
    (ordered : (calls.filterMap time).Pairwise (· ≤ ·)) {now : Int}
    (past : ∀ asked ∈ calls.filterMap time, asked ≤ now)
    : Agrees expired (run next cache calls).held
        (run (write cache.defaultTtlMs) values calls) now := by
  induction calls using List.reverseRecOn generalizing now with
  | nil => exact initial now
  | append_singleton calls call ih =>
      obtain ⟨roomBefore, roomNow, -⟩ := always_append.mp room
      rw [List.filterMap_append, List.pairwise_append] at ordered
      obtain ⟨orderedBefore, -, across⟩ := ordered
      rw [List.filterMap_append] at past
      have last : ∀ asked, time call = some asked → asked ∈ [call].filterMap time :=
        fun asked isTime => List.mem_filterMap.mpr ⟨call, List.mem_singleton_self _, isTime⟩
      have before := @ih roomBefore orderedBefore
      have agrees := agrees_next
        (before fun asked member => past asked (List.mem_append_left _ member)) call roomNow
        (fun asked isTime => before fun earlier member =>
          across earlier member asked (last asked isTime))
        (fun asked isTime => past asked (List.mem_append_right _ (last asked isTime)))
      rw [defaultTtlMs_run] at agrees
      rw [run, List.foldl_append, run, List.foldl_append]
      exact agrees

/-- In every run of calls a read answers with the value that its key was given last, not taken back
since and not expired, or with none. A cache with a limit holds no more entries, if none is written
under the empty key, and a write loses another entry only when the cache is full, an oldest one. And
while no write finds the cache full and the clock does not go back, nothing is lost: what was
written last is answered until it expires.
-/
theorem answers_last_written (defaultTtlMs maxEntries : Number) (calls : List (CacheCall T))
    : let cache := run next ({ defaultTtlMs, maxEntries } : HotCache T) calls
      let values := run (write defaultTtlMs) (fun _ => none) calls
      (∀ key now value, (cache.get key now).2 = some value →
          (seen expired values now key).map Prod.fst = some value)
        ∧ (∀ limit : Nat, 0 < limit → maxEntries ≤ .finite limit →
          (∀ call ∈ calls, NamesKey call) → cache.size ≤ limit)
        ∧ (∀ key value ttlMs now lost entry, cache.store.get lost = some entry →
          (cache.set key value ttlMs now).store.get lost = none →
          cache.isFull ∧ ∀ other younger, cache.store.get other = some younger →
            entry.storedAt ≤ younger.storedAt)
        ∧ (Always next FindsRoom { defaultTtlMs, maxEntries } calls →
          (calls.filterMap time).Pairwise (· ≤ ·) →
          ∀ now, (∀ asked ∈ calls.filterMap time, asked ≤ now) →
            ∀ key, (cache.get key now).2 = (seen expired values now key).map Prod.fst) := by
  refine ⟨fun key now value answer => ?_, fun limit positive most named => ?_,
    fun key value ttlMs now lost entry => lost_of_set, fun room ordered now past key => ?_⟩
  · have within := within_run { defaultTtlMs, maxEntries } (fun _ => none)
      (fun _ _ found => found) calls
    rw [snd_get] at answer
    obtain ⟨found, isFound, same⟩ := Option.map_eq_some_iff.mp answer
    rw [within.seen isFound]
    exact congrArg some same
  · have lawful : Always next (fun _ call => NamesKey call) { defaultTtlMs, maxEntries } calls :=
      .of_forall_mem fun call among _ => named call among
    have bounded := lawful.invariant
      (fun cache call (bounded : Bounded limit cache) named => bounded.next positive call named)
      ⟨Nat.zero_le _, rfl, most⟩
    exact bounded.size
  · have agrees := agrees_run (fun now => .of_none) room ordered past
    rw [snd_get, agrees.seen_eq key]

end HotCache

end CrashWave.Observability
