import FlowAPI.Batch.Accumulator
import FlowAPI.Semantics.Machine
import FlowAPI.Semantics.Pool
import FlowAPI.Semantics.Table
import Mathlib.Data.Fintype.Pi
import Mathlib.Data.List.AList

/-! Flushing the accumulators, `addNewRecord` and `batchUpdate` of `model/utils.go`: no recorded delta is lost and
none is written twice.

There is one accumulator map and one lock for each record type. A flush takes the maps away type by type, and writes
what it has taken: tokens, then channels, then users, whose three columns are written by one statement. Each turn at a
lock and each statement is a step, so writers and other flushes run in between. A step that writes is told its key,
since a Go map is iterated in any order. -/

set_option autoImplicit false
namespace FlowAPI.Batch
open Semantics Function

inductive Kind where
  | userQuota | tokenQuota | usedQuota | channelUsedQuota | requestCount
  deriving DecidableEq, Repr

def Kind.all : List Kind := [.userQuota, .tokenQuota, .usedQuota, .channelUsedQuota, .requestCount]

instance : Fintype Kind where
  elems := ⟨Kind.all, by decide⟩
  complete kind := by cases kind <;> decide

structure Store where
  entries : AList fun _ : Int => Int

namespace Store

theorem ext {left right : Store} (same : left.entries.entries = right.entries.entries) : left = right := by
  exact congrArg Store.mk (AList.ext same)
instance : DecidableEq Store := fun left right =>
  decidable_of_iff (left.entries.entries = right.entries.entries) ⟨ext, fun same => same ▸ rfl⟩
def empty : Store := ⟨∅⟩

variable (store : Store)

def get? (id : Int) : Option Int := store.entries.lookup id
def get (store : Store) (id : Int) : Int := (store.get? id).getD 0
def set (id value : Int) : Store := ⟨store.entries.insert id value⟩
def erase (store : Store) (id : Int) : Store := ⟨store.entries.erase id⟩
@[simp] theorem get_empty (id : Int) : empty.get id = 0 := rfl

theorem get_set (id value target : Int) :
    (store.set id value).get target = if target = id then value else store.get target := by
  unfold get get? set
  split
  next same => rw [same, AList.lookup_insert]; rfl
  next differs => rw [AList.lookup_insert_ne differs]

theorem get_erase (id target : Int) : (store.erase id).get target = if target = id then 0 else store.get target := by
  unfold get get? erase
  split
  next same => rw [same, AList.lookup_erase]; rfl
  next differs => rw [AList.lookup_erase_ne differs]

end Store

structure UserRow where
  (id quota usedQuota requestCount : Int)
  deriving DecidableEq, Repr

structure TokenRow where
  (id remainQuota usedQuota accessedTime : Int)
  deriving DecidableEq, Repr

structure ChannelRow where
  (id usedQuota : Int)
  deriving DecidableEq, Repr

structure Database where
  users : Table UserRow.id
  tokens : Table TokenRow.id
  channels : Table ChannelRow.id
  deriving DecidableEq

namespace Database

variable (db : Database)

def increaseTokenQuota (id quota now : Int) : Database :=
  { db with
    tokens := db.tokens.modify (fun row => decide (row.id = id))
      (fun row => { row with
        remainQuota := row.remainQuota + quota, usedQuota := row.usedQuota - quota, accessedTime := now })
      fun _ _ => rfl }

def updateChannelUsedQuota (id quota : Int) : Database :=
  { db with
    channels := db.channels.modify (fun row => decide (row.id = id))
      (fun row => { row with usedQuota := row.usedQuota + quota }) fun _ _ => rfl }

def updateUserQuotaUsedQuotaAndRequestCount (id quota usedQuota requestCount : Int) : Database :=
  if quota = 0 ∧ usedQuota = 0 ∧ requestCount = 0 then db
  else
    { db with
      users := db.users.modify (fun row => decide (row.id = id))
        (fun row => { row with
          quota := row.quota + quota, usedQuota := row.usedQuota + usedQuota
          requestCount := row.requestCount + requestCount })
        fun _ _ => rfl }

def value (kind : Kind) (id : Int) : Option Int :=
  match kind with
  | .userQuota => (db.users.find id).map UserRow.quota
  | .tokenQuota => (db.tokens.find id).map TokenRow.remainQuota
  | .usedQuota => (db.users.find id).map UserRow.usedQuota
  | .channelUsedQuota => (db.channels.find id).map ChannelRow.usedQuota
  | .requestCount => (db.users.find id).map UserRow.requestCount

end Database

inductive Flush where
  | scan (rest : List Kind)
  | swap (taken : Kind → Store) (rest : List Kind)
  | write (taken : Kind → Store)
  deriving DecidableEq

structure State where
  db : Database
  stores : Kind → Store
  flushes : List Flush
  deriving DecidableEq

inductive Event where
  | record (kind : Kind) (id value : Int)
  | batchUpdate
  | run (index : Nat) (key now : Int)

def write (key now : Int) (db : Database) (taken : Kind → Store) : Option (Database × List Flush) :=
  if taken .tokenQuota ≠ .empty then
    ((taken .tokenQuota).get? key).map fun value =>
      (db.increaseTokenQuota key value now,
        [.write (update taken .tokenQuota ((taken .tokenQuota).erase key))])
  else if taken .channelUsedQuota ≠ .empty then
    ((taken .channelUsedQuota).get? key).map fun value =>
      (db.updateChannelUsedQuota key value,
        [.write (update taken .channelUsedQuota ((taken .channelUsedQuota).erase key))])
  else if taken .userQuota = .empty ∧ taken .usedQuota = .empty ∧ taken .requestCount = .empty then some (db, [])
  else if (taken .userQuota).get? key = none ∧ (taken .usedQuota).get? key = none ∧
      (taken .requestCount).get? key = none then none
  else
    some (db.updateUserQuotaUsedQuotaAndRequestCount key ((taken .userQuota).get key) ((taken .usedQuota).get key)
        ((taken .requestCount).get key),
      [.write fun kind =>
        match kind with
        | .tokenQuota | .channelUsedQuota => taken kind
        | .userQuota | .usedQuota | .requestCount => (taken kind).erase key])

def runFlush (key now : Int) (state : State) : Flush → Option (State × List Flush)
  | .scan [] => some (state, [])
  | .scan (kind :: rest) =>
    if state.stores kind = .empty then some (state, [.scan rest])
    else some (state, [.swap (fun _ => .empty) Kind.all])
  | .swap taken [] => some (state, [.write taken])
  | .swap taken (kind :: rest) =>
    some ({ state with stores := update state.stores kind .empty },
      [.swap (update taken kind (state.stores kind)) rest])
  | .write taken => (write key now state.db taken).map fun (db, next) => ({ state with db }, next)

def step (state : State) : Event → Option State
  | .record kind id value =>
    let store := state.stores kind
    some { state with
      stores := update state.stores kind (store.set id (addNewRecord (store.get? id) value)) }
  | .batchUpdate => some { state with flushes := state.flushes ++ [.scan Kind.all] }
  | .run index key now =>
    (state.flushes[index]?).bind fun flush =>
      (runFlush key now state flush).map fun (after, next) =>
        { after with flushes := Pool.replace state.flushes index next }

def machine : Machine State Event := ⟨step⟩
def State.opened (db : Database) : State := { db, stores := fun _ => .empty, flushes := [] }

/-- The sum of an accumulator and what is recorded on it fits in a Go `int`. -/
def NoOverflow (state : State) : Event → Prop
  | .record kind id value => Fits ((state.stores kind).get id + value)
  | .batchUpdate | .run _ _ _ => True

instance : DecidableRel NoOverflow := fun _ _ => by
  unfold NoOverflow
  split <;> infer_instance

open List Option Pool State

def Flush.carries (kind : Kind) (id : Int) : Flush → Int
  | .scan _ => 0
  | .swap taken _ | .write taken => (taken kind).get id

def Flush.WellFormed : Flush → Prop
  | .swap taken rest => rest.Nodup ∧ ∀ kind ∈ rest, taken kind = .empty
  | .scan _ | .write _ => True

/-- The delta still on its way to the row: in the accumulator, or taken by a flush. -/
def State.pending (state : State) (kind : Kind) (id : Int) : Int :=
  (state.stores kind).get id + total (Flush.carries kind id) state.flushes

def Event.amount (kind : Kind) (id : Int) : Event → Int
  | .record kind' id' value => if kind = kind' ∧ id = id' then value else 0
  | .batchUpdate | .run _ _ _ => 0

def recorded (kind : Kind) (id : Int) (events : List Event) : Int := (events.map (Event.amount kind id)).sum

theorem column_modify {Row : Type} {key : Row → Int} (table : Table key) (target : Int) (change : Row → Row)
    (keeps : ∀ row, decide (key row = target) = true → key (change row) = key row) (column : Row → Int) (delta : Int)
    (adds : ∀ row, column (change row) = column row + delta) (id : Int) :
    ((table.modify (fun row => decide (key row = target)) change keeps).find id).map column =
      ((table.find id).map column).map (· + if id = target then delta else 0) := by
  rw [Table.find_modify]
  cases found : table.find id with
  | none => rfl
  | some =>
    have same := (Table.mem_of_find found).2
    simp only [map_some, same, decide_eq_true_eq]
    by_cases here : id = target
    · simp only [if_pos here, adds]
    · simp only [if_neg here, add_zero]

theorem map_add_zero (value : Option Int) : value.map (· + 0) = value := by
  cases value <;> simp

theorem value_increaseTokenQuota (db : Database) (key quota now : Int) (kind : Kind) (id : Int) :
    (db.increaseTokenQuota key quota now).value kind id =
      (db.value kind id).map (· + if kind = .tokenQuota ∧ id = key then quota else 0) := by
  cases kind with
  | tokenQuota =>
    simp only [true_and]
    apply column_modify db.tokens key _ ?_ TokenRow.remainQuota
    · intro row
      rfl
    · intro row _
      rfl
  | _ => exact (map_add_zero _).symm

theorem value_updateChannelUsedQuota (db : Database) (key quota : Int) (kind : Kind) (id : Int) :
    (db.updateChannelUsedQuota key quota).value kind id =
      (db.value kind id).map (· + if kind = .channelUsedQuota ∧ id = key then quota else 0) := by
  cases kind with
  | channelUsedQuota =>
    simp only [true_and]
    apply column_modify db.channels key _ ?_ ChannelRow.usedQuota
    · intro row
      rfl
    · intro row _
      rfl
  | _ => exact (map_add_zero _).symm

def userDelta (quota usedQuota requestCount : Int) : Kind → Int
  | .userQuota => quota
  | .usedQuota => usedQuota
  | .requestCount => requestCount
  | .tokenQuota | .channelUsedQuota => 0

theorem value_updateUser (db : Database) (key quota usedQuota requestCount : Int) (kind : Kind) (id : Int) :
    (db.updateUserQuotaUsedQuotaAndRequestCount key quota usedQuota requestCount).value kind id =
      (db.value kind id).map (· + if id = key then userDelta quota usedQuota requestCount kind else 0) := by
  unfold Database.updateUserQuotaUsedQuotaAndRequestCount
  split
  next zero =>
    -- the statement is left out when there is nothing to add
    have nothing : userDelta quota usedQuota requestCount kind = 0 := by
      cases kind with
      | userQuota => exact zero.1
      | usedQuota => exact zero.2.1
      | requestCount => exact zero.2.2
      | _ => rfl
    rw [nothing, ite_self, map_add_zero]
  · cases kind with
    | userQuota | usedQuota | requestCount =>
      apply column_modify db.users key _ ?_
      · intro row
        rfl
      · intro row _
        rfl
    | tokenQuota | channelUsedQuota =>
      simp only [userDelta, ite_self]
      exact (map_add_zero _).symm

theorem get_of_get? {store : Store} {id value : Int} (found : store.get? id = some value) : store.get id = value := by
  rw [Store.get, found, getD_some]

theorem get_update_erase (taken : Kind → Store) (target kind : Kind) (key id : Int) :
    (update taken target ((taken target).erase key) kind).get id +
      (if kind = target ∧ id = key then (taken target).get key else 0) = (taken kind).get id := by
  by_cases here : kind = target
  · subst here
    rw [update_self, Store.get_erase]
    by_cases same : id = key
    · subst same
      simp
    · simp [same]
  · rw [update_of_ne here]
    simp [here]

attribute [local simp] Flush.WellFormed Flush.carries

theorem write_conserves {key now : Int} {db after : Database} {taken : Kind → Store} {next : List Flush}
    (wrote : write key now db taken = some (after, next)) (kind : Kind) (id : Int) :
    (∀ flush ∈ next, flush.WellFormed) ∧ ∃ delta, after.value kind id = (db.value kind id).map (· + delta) ∧
        total (Flush.carries kind id) next + delta = (taken kind).get id := by
  unfold write at wrote
  split at wrote
  · obtain ⟨value, found, same⟩ := map_eq_some_iff.mp wrote
    cases same
    refine ⟨by simp, _, value_increaseTokenQuota db key value now kind id, ?_⟩
    rw [total_cons, total_nil, add_zero, ← get_update_erase taken .tokenQuota kind key id, get_of_get? found]
    rfl
  split at wrote
  · obtain ⟨value, found, same⟩ := map_eq_some_iff.mp wrote
    cases same
    refine ⟨by simp, _, value_updateChannelUsedQuota db key value kind id, ?_⟩
    rw [total_cons, total_nil, add_zero, ← get_update_erase taken .channelUsedQuota kind key id, get_of_get? found]
    rfl
  next tokens channels =>
    split at wrote
    next users =>
      cases wrote
      refine ⟨by simp, 0, (map_add_zero _).symm, ?_⟩
      have nothing : taken kind = .empty := by
        cases kind with
        | userQuota => exact users.1
        | tokenQuota => exact not_not.mp tokens
        | usedQuota => exact users.2.1
        | channelUsedQuota => exact not_not.mp channels
        | requestCount => exact users.2.2
      rw [nothing]
      rfl
    split at wrote <;> cases wrote
    · refine ⟨by simp, _, value_updateUser db key _ _ _ kind id, ?_⟩
      by_cases same : id = key
      · subst same
        cases kind <;> simp [userDelta, Store.get_erase]
      · cases kind <;> simp [Store.get_erase, same]

theorem runFlush_conserves {key now : Int} {state after : State} {flush : Flush} {next : List Flush}
    (wellFormed : flush.WellFormed) (ran : runFlush key now state flush = some (after, next)) (kind : Kind) (id : Int) :
    (∀ flush ∈ next, flush.WellFormed) ∧ ∃ delta, after.db.value kind id = (state.db.value kind id).map (· + delta) ∧
        (after.stores kind).get id + total (Flush.carries kind id) next + delta =
          (state.stores kind).get id + flush.carries kind id := by
  cases flush with
  | scan rest =>
    cases rest with
    | nil =>
      cases ran
      exact ⟨by simp, 0, (map_add_zero _).symm, by simp⟩
    | cons =>
      simp only [runFlush] at ran
      split at ran <;> cases ran
      · exact ⟨by simp, 0, (map_add_zero _).symm, by simp⟩
      · exact ⟨by simp [Kind.all], 0, (map_add_zero _).symm, by simp⟩
  | swap _ rest =>
    cases rest with
    | nil =>
      cases ran
      exact ⟨by simp, 0, (map_add_zero _).symm, by simp⟩
    | cons first =>
      cases ran
      obtain ⟨distinct, untaken⟩ := wellFormed
      obtain ⟨absent, distinct⟩ := nodup_cons.mp distinct
      refine ⟨?_, 0, (map_add_zero _).symm, ?_⟩
      · intro flush member
        rw [mem_singleton.mp member]
        refine ⟨distinct, fun other listed => ?_⟩
        have differs : other ≠ first := fun same => absent (same ▸ listed)
        rw [update_of_ne differs]
        exact untaken other (mem_cons_of_mem _ listed)
      · -- the map of `first` changes hands; the flush had none of its own
        by_cases here : kind = first
        · subst here
          simp [untaken kind mem_cons_self]
        · simp [here]
  | write =>
    obtain ⟨⟨_, _⟩, wrote, same⟩ := map_eq_some_iff.mp ran
    cases same
    obtain ⟨wellFormed, delta, value, moved⟩ := write_conserves wrote kind id
    refine ⟨wellFormed, delta, value, ?_⟩
    rw [add_assoc, moved]
    rfl

structure State.Conserved (initially : Database) (kind : Kind) (id : Int) (state : State) (total : Int) : Prop where
  wellFormed : ∀ flush ∈ state.flushes, flush.WellFormed
  value : ∀ before, initially.value kind id = some before →
    ∃ after, state.db.value kind id = some after ∧ after + state.pending kind id = before + total

theorem step_conserved {initially : Database} {kind : Kind} {id total : Int} {state next : State} {event : Event}
    (conserved : state.Conserved initially kind id total) (fits : NoOverflow state event)
    (stepped : step state event = some next) : next.Conserved initially kind id (total + event.amount kind id) := by
  cases event with
  | record target key value =>
    cases stepped
    refine ⟨conserved.wellFormed, fun before known => ?_⟩
    obtain ⟨after, stored, balance⟩ := conserved.value before known
    refine ⟨after, stored, ?_⟩
    simp only [pending, Event.amount] at balance ⊢
    by_cases here : kind = target
    · subst here
      rw [update_self, Store.get_set]
      by_cases same : id = key
      · subst same
        have exact_ := addNewRecord_exact fits
        simp only [if_pos, and_self]
        simp only [Store.get] at balance
        omega
      · simp only [same, if_false, and_false]
        omega
    · rw [update_of_ne here]
      simp only [here, false_and, if_false]
      omega
  | batchUpdate =>
    cases stepped
    refine ⟨forall_mem_append.mpr ⟨conserved.wellFormed, forall_mem_singleton.mpr trivial⟩, fun before known => ?_⟩
    obtain ⟨after, stored, balance⟩ := conserved.value before known
    refine ⟨after, stored, ?_⟩
    simpa [pending, Event.amount] using balance
  | run =>
    obtain ⟨flush, selected, ran⟩ := bind_eq_some_iff.mp stepped
    obtain ⟨⟨_, _⟩, flushed, same⟩ := map_eq_some_iff.mp ran
    cases same
    have member := mem_of_getElem? selected
    -- what the database gains leaves the pending amount
    obtain ⟨wellFormed, delta, moved, _⟩ := runFlush_conserves (conserved.wellFormed flush member) flushed kind id
    refine ⟨forall_replace conserved.wellFormed wellFormed, fun before known => ?_⟩
    obtain ⟨stored, found, held⟩ := conserved.value before known
    refine ⟨stored + delta, by rw [moved, found]; rfl, ?_⟩
    simp only [pending, Event.amount] at held ⊢
    rw [total_replace _ selected]
    omega

/-- For every record the row and what is still on its way to it hold the initial value
and all recorded deltas, in every state; and when no flush is under way what is on
its way is the accumulator. -/
theorem batch_conserves {initially : Database} {final : State} {events : List Event}
    (run : machine.Runs NoOverflow (.opened initially) events final) (kind : Kind) (id before : Int)
    (known : initially.value kind id = some before) :
    ∃ after, final.db.value kind id = some after ∧ after + final.pending kind id = before + recorded kind id events ∧
      (final.flushes = [] → after + (final.stores kind).get id = before + recorded kind id events) := by
  have opened : (opened initially).Conserved initially kind id 0 := by
    constructor
    · intro flush member
      cases member
    · intro value known
      exact ⟨value, known, rfl⟩
  have conserved := run.tracked (fun total event => total + event.amount kind id)
    (fun state total => state.Conserved initially kind id total)
    (fun _ _ _ _ held fits stepped => step_conserved held fits stepped) opened
  have total : events.foldl (fun total event => total + event.amount kind id) 0 = recorded kind id events := by
    rw [recorded, sum_eq_foldl, foldl_map]
  rw [total] at conserved
  obtain ⟨after, stored, balance⟩ := conserved.value before known
  refine ⟨after, stored, balance, fun idle => ?_⟩
  simpa [pending, idle] using balance

def sampleDatabase : Database where
  users := ⟨[⟨1, 100, 0, 0⟩, ⟨2, 50, 0, 0⟩], by decide⟩
  tokens := ⟨[⟨7, 30, 0, 0⟩], by decide⟩
  channels := ⟨[⟨3, 0⟩], by decide⟩

/-- Two flushes take their maps in turn while writers go on; each has a part of the
deltas of user 1. -/
def overlapping : List Event :=
  [.record .userQuota 1 (-10), .record .tokenQuota 7 (-10), .batchUpdate, .run 0 0 0, .run 0 0 0,
    .record .usedQuota 1 10, .record .userQuota 1 (-5), .batchUpdate, .run 1 0 0, .run 0 0 0, .run 1 0 0, .run 0 0 0,
    .run 0 0 0, .run 0 0 0, .run 0 0 0, .run 0 7 60]

def overlappingFinal : State :=
  (machine.exec NoOverflow (.opened sampleDatabase) overlapping).getD (.opened sampleDatabase)

theorem batch_conserves_overlapping :
    overlappingFinal.flushes.length = 2 ∧ overlappingFinal.db.value .userQuota 1 = some 100 ∧
      overlappingFinal.db.value .tokenQuota 7 = some 20 ∧ overlappingFinal.pending .userQuota 1 = -15 := by
  have run : machine.Runs NoOverflow (.opened sampleDatabase) overlapping overlappingFinal :=
    Machine.runs_iff_exec.mpr (by decide +kernel)
  have stored : overlappingFinal.db.value .userQuota 1 = some 100 := by decide +kernel
  obtain ⟨_, found, _, _⟩ := batch_conserves run .userQuota 1 100 (by decide +kernel)
  refine ⟨by decide +kernel, stored, by decide +kernel, ?_⟩
  rw [stored] at found
  cases found
  have total : recorded .userQuota 1 overlapping = -15 := by decide +kernel
  omega

end FlowAPI.Batch
