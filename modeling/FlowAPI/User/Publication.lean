import FlowAPI.Semantics.Machine
import FlowAPI.Semantics.Pool
import FlowAPI.User.Cache

/-! The authentication cache of one user under any interleaving.

Writers hold snapshots of committed rows, however old; fences carry versions
that may never be committed; the hash and the fence may expire at any moment.
`cacheGetUserBase` reads the hash first and the version keys in a second round
trip, and `GetUserCache` falls back to the database, so a reader is a sequence
of separate steps, each of which may fail.
-/

set_option autoImplicit false
namespace FlowAPI.User.Publication
open Semantics Option Machine

/-- Where a reader stands. `fallback` tells `GetUserCache` from `cacheGetUserBase`. -/
inductive Reader where
  | lookup (fallback : Bool)
  | lookupFloor (fallback : Bool) (user : UserBase)
  | readRow
  | checkFloor (user : UserBase)
  | publish (user : UserBase)
  | returned (user : UserBase)
  | failed
  deriving DecidableEq, Repr

structure State where
  keys : UserKeys
  row : UserBase
  deleted : Bool
  readers : List Reader
  deriving DecidableEq, Repr

def missed (fallback : Bool) : Reader := if fallback then .readRow else .failed

def runReader (fault : Bool) (state : State) : Reader → UserKeys × Reader
  | .lookup fallback =>
    if fault then (state.keys, missed fallback)
    else
      match readUserHash state.row.id state.keys.hash with
      | none => (state.keys, missed fallback)
      | some user => (state.keys, .lookupFloor fallback user)
  | .lookupFloor fallback user =>
    if fault || decide (user.authVersion < getUserAuthVersionFloor state.keys) then (state.keys, missed fallback)
    else (state.keys, .returned user)
  | .readRow => if fault || state.deleted then (state.keys, .failed) else (state.keys, .checkFloor state.row)
  | .checkFloor user =>
    -- an unreadable floor does not stop the fallback
    if !fault && decide (user.authVersion < getUserAuthVersionFloor state.keys) then (state.keys, .failed)
    else (state.keys, .publish user)
  | .publish user =>
    if fault then (state.keys, .returned user)
    else
      match populateUserCache user state.keys with
      | (.pending, _) => (state.keys, .failed)
      | (_, keys) => (keys, .returned user)
  | .returned user => (state.keys, .returned user)
  | .failed => (state.keys, .failed)

inductive Event where
  | write (snapshot : UserBase) (includeQuota : Bool)
  | updateField (field : CacheField) (value : String) (authVersion : Int)
  | fence (authVersion : Int)
  | publish (authVersion : Int)
  | cacheDelta (delta : Int)
  | cacheReserve (amount : Int)
  | expireHash | expireFence
  | edit (profile : UserBase)
  | increment | delete
  | call (fallback : Bool)
  | run (index : Nat) (fault : Bool)

def State.setHash (state : State) (hash : Option UserHash) : State := { state with keys := { state.keys with hash } }

/-- A writer carries a version some transaction has committed, and only such
versions are published; a fence is published before its transaction decides. -/
def step (state : State) : Event → Option State
  | .write snapshot includeQuota =>
    if snapshot.id = state.row.id ∧ snapshot.authVersion ≤ state.row.authVersion then
      some { state with keys := (writeUserCache snapshot includeQuota state.keys).2 }
    else none
  | .updateField field value authVersion =>
    if authVersion ≤ state.row.authVersion then
      some { state with
        keys := (updateUserCacheFieldAtVersion state.row.id field value authVersion state.keys).2 }
    else none
  | .fence authVersion => some { state with keys := (setUserAuthVersionFence state.row.id authVersion state.keys).2 }
  | .publish authVersion =>
    if authVersion ≤ state.row.authVersion then
      some { state with keys := (publishCommittedUserAuthVersion state.row.id authVersion state.keys).2 }
    else none
  | .cacheDelta delta => some (state.setHash (userQuotaDeltaScript state.keys.hash delta state.row.id).2)
  | .cacheReserve amount => some (state.setHash (userQuotaReserveScript state.keys.hash amount state.row.id).2)
  | .expireHash => some (state.setHash none)
  | .expireFence => some { state with keys := { state.keys with fence := none } }
  | .edit profile =>
    -- every other update of the row leaves `auth_version` out
    some { state with row := { profile with id := state.row.id, authVersion := state.row.authVersion } }
  | .increment => some { state with row := { state.row with authVersion := nextAuthVersion state.row.authVersion } }
  | .delete => some { state with deleted := true }
  | .call fallback => some { state with readers := state.readers ++ [.lookup fallback] }
  | .run index fault =>
    (state.readers[index]?).map fun reader =>
      let (keys, next) := runReader fault state reader
      { state with keys, readers := state.readers.set index next }

def machine : Machine State Event := ⟨step⟩

structure Advances (state next : State) : Prop where
  keys : Raises state.row.authVersion state.keys next.keys
  row : state.row.authVersion ≤ next.row.authVersion

variable {state next : State} {fault : Bool} {reader : Reader} {version : Int} {event : Event}

theorem Advances.of_keys (keys : next.keys.version = state.keys.version)
    (row : next.row.authVersion = state.row.authVersion) : Advances state next :=
  ⟨.of_version_eq _ keys, le_of_eq row.symm⟩

/-- A reader past its database read holds a version the row has reached. -/
def Reader.WithinRow (version : Int) : Reader → Prop
  | .checkFloor user | .publish user => user.authVersion ≤ version
  | _ => True

theorem runReader_raises (within : reader.WithinRow state.row.authVersion) :
    Raises state.row.authVersion state.keys (runReader fault state reader).1 := by
  cases reader with
  | publish user =>
    have written := (writeUserCache_raises user true state.keys).mono within
    simp only [runReader, populateUserCache]
    split
    · exact .of_version_eq _ rfl
    split
    · exact .of_version_eq _ rfl
    next _ _ _ same => rwa [same] at written
  | _ =>
    apply Raises.of_version_eq
    simp only [runReader]
    repeat' split
    all_goals rfl

theorem runReader_within (within : reader.WithinRow version) (reached : state.row.authVersion ≤ version) :
    (runReader fault state reader).2.WithinRow version := by
  cases reader with simp only [runReader]
  | readRow =>
    split
    · trivial
    · exact reached
  | checkFloor =>
    split
    · trivial
    · exact within
  | publish =>
    repeat' split
    all_goals trivial
  | lookup fallback | lookupFloor fallback =>
    cases fallback <;> simp only [missed] <;> repeat' split
    all_goals trivial
  | returned | failed => trivial

structure State.WellFormed (state : State) : Prop where
  committed : committedVersion state.keys ≤ state.row.authVersion
  readers : ∀ reader ∈ state.readers, reader.WithinRow state.row.authVersion

theorem Reader.WithinRow.mono {low high : Int} (within : reader.WithinRow low)
    (reached : low ≤ high) : reader.WithinRow high := by
  cases reader with
  | checkFloor | publish => exact Int.le_trans within reached
  | _ => trivial

theorem step_advances (formed : state.WellFormed) (stepped : step state event = some next) : Advances state next := by
  cases event with
  | write =>
    obtain ⟨carried, ⟨⟩⟩ := ite_none_right_eq_some.mp stepped
    exact ⟨(writeUserCache_raises _ _ _).mono carried.2, le_rfl⟩
  | updateField =>
    obtain ⟨carried, ⟨⟩⟩ := ite_none_right_eq_some.mp stepped
    exact ⟨(updateUserCacheFieldAtVersion_raises _ _ _ _ _).mono carried, le_rfl⟩
  | publish =>
    obtain ⟨carried, ⟨⟩⟩ := ite_none_right_eq_some.mp stepped
    exact ⟨(publishCommittedUserAuthVersion_raises _ _ _).mono carried, le_rfl⟩
  | fence =>
    cases stepped
    exact .of_keys (setUserAuthVersionFence_version _ _ _) rfl
  | increment =>
    cases stepped
    refine ⟨.of_version_eq _ rfl, ?_⟩
    simp only [nextAuthVersion]
    omega
  | run =>
    obtain ⟨_, selected, rfl⟩ := map_eq_some_iff.mp stepped
    exact ⟨runReader_raises (formed.readers _ (List.mem_of_getElem? selected)), le_rfl⟩
  | _ =>
    cases stepped
    exact .of_keys rfl rfl

theorem step_readers (stepped : step state event = some next) : next.readers = state.readers ∨
      (∃ fallback, next.readers = state.readers ++ [.lookup fallback]) ∨
      ∃ index reader fault, state.readers[index]? = some reader ∧
        next.readers = state.readers.set index (runReader fault state reader).2 := by
  cases event with
  | call fallback =>
    cases stepped
    exact .inr (.inl ⟨fallback, rfl⟩)
  | run index fault =>
    obtain ⟨reader, selected, rfl⟩ := map_eq_some_iff.mp stepped
    exact .inr (.inr ⟨index, reader, fault, selected, rfl⟩)
  | write | updateField | publish =>
    obtain ⟨-, ⟨⟩⟩ := ite_none_right_eq_some.mp stepped
    exact .inl rfl
  | _ =>
    cases stepped
    exact .inl rfl

theorem step_wellFormed (formed : state.WellFormed) (stepped : step state event = some next) : next.WellFormed := by
  have advanced := step_advances formed stepped
  refine ⟨?_, ?_⟩
  · have bounded := advanced.keys.2
    have row := advanced.row
    have committed := formed.committed
    omega
  · have kept : ∀ reader ∈ state.readers, reader.WithinRow next.row.authVersion :=
      fun reader listed => (formed.readers reader listed).mono advanced.row
    rcases step_readers stepped with same | ⟨_, same⟩ | ⟨_, reader, _, selected, same⟩
    · rwa [same]
    · rw [same]
      exact List.forall_mem_append.mpr ⟨kept, List.forall_mem_singleton.mpr trivial⟩
    · rw [same]
      exact Pool.forall_set kept (runReader_within (kept reader (List.mem_of_getElem? selected)) advanced.row)

def Reader.Above (version : Int) : Reader → Prop
  | .checkFloor user | .publish user | .returned user => version ≤ user.authVersion
  | _ => True

theorem missed_above (version : Int) (fallback : Bool) : (missed fallback).Above version := by
  cases fallback <;> trivial

/-- The second round trip decides: the hash may be as old as it likes, the
floor it is compared with is read after the publication. -/
theorem runReader_above (published : version ≤ committedVersion state.keys) (reached : version ≤ state.row.authVersion)
    (above : reader.Above version) : (runReader fault state reader).2.Above version := by
  cases reader with simp only [runReader]
  | lookup =>
    split
    · exact missed_above _ _
    split
    · exact missed_above _ _
    · trivial
  | lookupFloor _ user =>
    split
    · exact missed_above _ _
    next passed =>
      have floor : getUserAuthVersionFloor state.keys ≤ user.authVersion := by
        simp only [Bool.or_eq_true, decide_eq_true_eq, not_or, not_lt] at passed
        exact passed.2
      exact le_trans published (le_trans (committedVersion_le_floor _) floor)
  | readRow =>
    split
    · trivial
    · exact reached
  | checkFloor =>
    split
    · trivial
    · exact above
  | publish =>
    split
    · exact above
    split
    · trivial
    · exact above
  | returned => exact above
  | failed => trivial

/-- A published version, as seen by the readers from position `base` on. -/
structure Since (version : Int) (base : Nat) (state : State) : Prop where
  formed : state.WellFormed
  published : version ≤ committedVersion state.keys
  readers : ∀ index reader, base ≤ index → state.readers[index]? = some reader → reader.Above version

theorem step_since {base : Nat} (since : Since version base state) (stepped : step state event = some next) :
    Since version base next := by
  have advanced := step_advances since.formed stepped
  have formed := step_wellFormed since.formed stepped
  have reached : version ≤ state.row.authVersion := le_trans since.published since.formed.committed
  refine ⟨formed, le_trans since.published advanced.keys.1, ?_⟩
  intro position found later listed
  rcases step_readers stepped with same | ⟨_, same⟩ | ⟨index, reader, _, selected, same⟩
  · rw [same] at listed
    exact since.readers position found later listed
  · rw [same] at listed
    rcases Pool.getElem?_append_cases listed with rfl | old
    · trivial
    · exact since.readers position found later old
  · rw [same] at listed
    rcases Pool.getElem?_set_cases listed with ⟨rfl, rfl⟩ | ⟨_, old⟩
    · exact runReader_above since.published reached (since.readers index reader later selected)
    · exact since.readers position found later old

theorem runs_committed {start final : State} {events : List Event} (formed : start.WellFormed)
    (run : machine.Runs unrestricted start events final) :
    final.WellFormed ∧ committedVersion start.keys ≤ committedVersion final.keys := by
  refine run.invariant
    (fun state => state.WellFormed ∧ committedVersion start.keys ≤ committedVersion state.keys) ?_ ⟨formed, le_rfl⟩
  intro state event next held _ stepped
  exact ⟨step_wellFormed held.1 stepped, le_trans held.2 (step_advances held.1 stepped).keys.1⟩

/-- From the moment a version is published: the committed floor never falls, no
write or field update below that version changes a key, and no reader that
starts later returns a user below it. -/
theorem published_version_is_final {start published final : State} {before after : List Event} {version : Int}
    (formed : start.WellFormed) (reached : machine.Runs unrestricted start before published)
    (publication : version ≤ committedVersion published.keys)
    (continued : machine.Runs unrestricted published after final) :
    committedVersion start.keys ≤ committedVersion published.keys ∧
      committedVersion published.keys ≤ committedVersion final.keys ∧
      (∀ snapshot includeQuota, snapshot.authVersion < version →
        (writeUserCache snapshot includeQuota final.keys).2 = final.keys) ∧
      (∀ userId field value authVersion, authVersion < version →
        (updateUserCacheFieldAtVersion userId field value authVersion final.keys).2 = final.keys) ∧
      ∀ index user, published.readers.length ≤ index → final.readers[index]? = some (.returned user) →
        version ≤ user.authVersion := by
  obtain ⟨formedThen, risen⟩ := runs_committed formed reached
  have begins : Since version published.readers.length published := by
    refine ⟨formedThen, publication, fun index reader later listed => ?_⟩
    obtain ⟨_, -⟩ := List.getElem?_eq_some_iff.mp listed
    omega
  have since := continued.invariant (Since version published.readers.length)
    (fun _ _ _ held _ stepped => step_since held stepped) begins
  refine ⟨risen, (runs_committed formedThen continued).2, ?_, ?_, ?_⟩
  · intro snapshot includeQuota below
    exact writeUserCache_below includeQuota (lt_of_lt_of_le below since.published)
  · intro userId field value authVersion below
    exact updateUserCacheFieldAtVersion_below userId field value (lt_of_lt_of_le below since.published)
  · intro index user later listed
    exact since.readers index (.returned user) later listed

def sampleUser (authVersion : Int) : UserBase :=
  { id := 1, group := "default", email := "", quota := 0, unlimitedQuota := false, status := 1, role := 1
    username := "user", setting := "", authVersion }

def sampleStart : State :=
  { keys := { hash := some (stampHash (sampleUser 1) .empty), fence := none, version := some 1 }
    row := sampleUser 1
    deleted := false
    readers := [] }

def samplePublication : List Event := [.fence 2, .increment, .publish 2]

/-- A fill that read version 1 arrives late; a reader then finds the old hash,
meets the floor and answers from the database. -/
def sampleReading : List Event :=
  [.write (sampleUser 1) true, .call true, .run 0 false, .run 0 false, .run 0 false, .run 0 false, .run 0 false]

def samplePublished : State := (machine.exec unrestricted sampleStart samplePublication).getD sampleStart
def sampleAnswered : State := (machine.exec unrestricted samplePublished sampleReading).getD sampleStart

theorem published_version_is_final_late_fill :
    sampleAnswered.readers = [.returned (sampleUser 2)] ∧ 2 ≤ (sampleUser 2).authVersion := by
  have formed : sampleStart.WellFormed := ⟨by decide, by simp [sampleStart]⟩
  have reached : machine.Runs unrestricted sampleStart samplePublication samplePublished :=
    runs_iff_exec.mpr (by decide)
  have continued : machine.Runs unrestricted samplePublished sampleReading sampleAnswered :=
    runs_iff_exec.mpr (by decide)
  have publication : 2 ≤ committedVersion samplePublished.keys := by decide
  have final := published_version_is_final formed reached publication continued
  exact ⟨by decide, final.2.2.2.2 0 (sampleUser 2) (by decide) (by decide)⟩

end FlowAPI.User.Publication
