import FlowAPI.User.Cache
import FlowAPI.Semantics.Machine

/-! Which hashes with the current schema are complete.

Readers trust a hash by its `CacheSchema` field and take Go's zero value for every field that is
missing. The script of `writeUserCache` stamps the schema together with all fields but the
balance, and the script of `updateUserCacheFieldAtVersion` together with one
field. Either makes an incomplete hash of an older schema look current.
-/

set_option autoImplicit false
namespace FlowAPI.User
open Semantics Option Machine

structure UserHash.Complete (hash : UserHash) : Prop where
  id : hash.id.isSome
  group : hash.group.isSome
  email : hash.email.isSome
  quota : hash.quota.isSome
  unlimitedQuota : hash.unlimitedQuota.isSome
  status : hash.status.isSome
  role : hash.role.isSome
  username : hash.username.isSome
  setting : hash.setting.isSome
  authVersion : hash.authVersion.isSome

open UserHash

def UserHash.current (hash : UserHash) : Bool := hash.cacheSchema = some userCacheSchemaVersion

def UserKeys.Intact (keys : UserKeys) : Prop := ∀ fields ∈ keys.hash, fields.current → fields.Complete

open UserKeys

/-- Neither a fence nor the committed version nor the hash is ahead of the version. -/
def UserKeys.Admits (incoming : Int) (keys : UserKeys) : Prop :=
  keys.fence.getD 0 ≤ incoming ∧ keys.version.getD 0 ≤ incoming ∧ hashNumber keys.hash (·.authVersion) ≤ incoming

instance (incoming : Int) (keys : UserKeys) : Decidable (keys.Admits incoming) := inferInstanceAs (Decidable (_ ∧ _))

def written (user : UserBase) (includeQuota : Bool) (hash : Option UserHash) : UserHash :=
  let stamped := stampHash user (hash.getD empty)
  if includeQuota = true ∧ stamped.quota = none then { stamped with quota := some user.quota } else stamped

/-- A write reaches the hash. One without the balance does not create it. -/
def Reaches (user : UserBase) (includeQuota : Bool) (keys : UserKeys) : Prop :=
  0 < user.id ∧ 0 < user.authVersion ∧ keys.Admits user.authVersion ∧ (includeQuota = true ∨ keys.hash ≠ none)

instance (user : UserBase) (includeQuota : Bool) (keys : UserKeys) : Decidable (Reaches user includeQuota keys) :=
  inferInstanceAs (Decidable (_ ∧ _))

theorem UserKeys.admits_iff (incoming : Int) (keys : UserKeys) :
    keys.Admits incoming ↔ ¬(keys.fence.getD 0 > incoming ∨ keys.version.getD 0 > incoming ∨
      hashNumber keys.hash (·.authVersion) > incoming) := by
  unfold UserKeys.Admits
  omega

variable (user : UserBase) (includeQuota : Bool)

theorem writeUserCacheScript_hash_eq (keys : UserKeys) : (writeUserCacheScript user includeQuota keys).2.hash =
      if keys.Admits user.authVersion ∧ (includeQuota = true ∨ keys.hash ≠ none) then
        some (written user includeQuota keys.hash) else keys.hash := by
  simp only [writeUserCacheScript]
  by_cases admitted : keys.Admits user.authVersion
  · rw [if_neg ((admits_iff _ _).mp admitted)]
    by_cases absent : includeQuota = false ∧ keys.hash = none
    · simp [absent]
    have there : includeQuota = true ∨ keys.hash ≠ none := by
      cases includeQuota with
      | false => exact .inr fun missing => absent ⟨rfl, missing⟩
      | true => exact .inl rfl
    rw [if_neg absent]
    exact (if_pos ⟨admitted, there⟩).symm
  · rw [if_pos (not_not.mp fun open_ => admitted ((admits_iff _ _).mpr open_)), if_neg fun both => admitted both.1]

theorem writeUserCache_keys {user : UserBase} (known : 0 < user.id) (versioned : 0 < user.authVersion)
    (includeQuota : Bool) (keys : UserKeys) :
    (writeUserCache user includeQuota keys).2 = (writeUserCacheScript user includeQuota keys).2 := by
  unfold writeUserCache
  rw [if_neg (not_le.mpr known), if_neg (not_le.mpr versioned)]
  obtain ⟨_ | _, _⟩ := writeUserCacheScript user includeQuota keys <;> rfl

theorem writeUserCache_hash_eq (keys : UserKeys) : (writeUserCache user includeQuota keys).2.hash =
      if Reaches user includeQuota keys then some (written user includeQuota keys.hash) else keys.hash := by
  by_cases known : 0 < user.id
  · by_cases versioned : 0 < user.authVersion
    · rw [writeUserCache_keys known versioned, writeUserCacheScript_hash_eq]
      simp [Reaches, known, versioned]
    · rw [if_neg fun reaches : Reaches user includeQuota keys => versioned reaches.2.1]
      simp [writeUserCache, not_le.mpr known, not_lt.mp versioned]
  · rw [if_neg fun reaches : Reaches user includeQuota keys => known reaches.1]
    simp [writeUserCache, not_lt.mp known]

variable (hash : Option UserHash)

theorem written_eq : ∃ quota, written user includeQuota hash = { stampHash user (hash.getD empty) with quota } := by
  simp only [written]
  split_ifs
  · exact ⟨some user.quota, rfl⟩
  · exact ⟨_, rfl⟩

theorem written_current : (written user includeQuota hash).current := by
  obtain ⟨_, same⟩ := written_eq user includeQuota hash
  rw [same]
  simp [current, stampHash]

theorem written_complete_iff :
    (written user includeQuota hash).Complete ↔ includeQuota = true ∨ ∃ fields ∈ hash, fields.quota ≠ none := by
  have filled : (written user includeQuota hash).quota.isSome ↔
      includeQuota = true ∨ ∃ fields ∈ hash, fields.quota ≠ none := by
    unfold written
    cases hash with
    | none => cases includeQuota <;> simp [stampHash, empty]
    | some fields => cases includeQuota <;> cases balance : fields.quota <;> simp [stampHash, balance]
  rw [← filled]
  constructor
  · exact UserHash.Complete.quota
  · intro balance
    obtain ⟨_, same⟩ := written_eq user includeQuota hash
    rw [same] at balance ⊢
    exact ⟨rfl, rfl, rfl, balance, rfl, rfl, rfl, rfl, rfl, rfl⟩

/-- A field reaches the hash: the hash is of just that version. -/
def FieldReaches (userId authVersion : Int) (keys : UserKeys) : Prop :=
  0 < userId ∧ 0 < authVersion ∧ keys.Admits authVersion ∧ hashNumber keys.hash (·.authVersion) = authVersion

instance (userId authVersion : Int) (keys : UserKeys) : Decidable (FieldReaches userId authVersion keys) :=
  inferInstanceAs (Decidable (_ ∧ _))

variable (field : CacheField)

def refreshed (value : String) (fields : UserHash) : UserHash :=
  { field.set value fields with cacheSchema := some userCacheSchemaVersion }

theorem updateUserCacheFieldScript_hash_eq (value : String) (incoming : Int) (keys : UserKeys) :
    (updateUserCacheFieldScript field value incoming keys).2.hash =
      if keys.Admits incoming ∧ hashNumber keys.hash (·.authVersion) = incoming then
        keys.hash.map (refreshed field value) else keys.hash := by
  simp only [updateUserCacheFieldScript]
  by_cases admitted : keys.Admits incoming
  · rw [if_neg ((admits_iff _ _).mp admitted)]
    simp only [admitted, true_and]
    cases present : keys.hash with
    | none => simp
    | some fields =>
      by_cases same : hashNumber (some fields) (·.authVersion) = incoming
      · simp [same, refreshed]
      · simp [same]
  · rw [if_pos (not_not.mp fun open_ => admitted ((admits_iff _ _).mpr open_)), if_neg fun both => admitted both.1]

theorem updateUserCacheFieldAtVersion_keys {userId authVersion : Int} (known : 0 < userId)
    (versioned : 0 < authVersion) (field : CacheField) (value : String) (keys : UserKeys) :
    (updateUserCacheFieldAtVersion userId field value authVersion keys).2 =
      (updateUserCacheFieldScript field value authVersion keys).2 := by
  unfold updateUserCacheFieldAtVersion
  rw [if_neg (not_or.mpr ⟨not_le.mpr known, not_le.mpr versioned⟩)]
  obtain ⟨_ | _, _⟩ := updateUserCacheFieldScript field value authVersion keys <;> rfl

theorem updateUserCacheFieldAtVersion_hash_eq (userId : Int) (field : CacheField) (value : String)
    (authVersion : Int) (keys : UserKeys) : (updateUserCacheFieldAtVersion userId field value authVersion keys).2.hash =
      if FieldReaches userId authVersion keys then keys.hash.map (refreshed field value) else keys.hash := by
  by_cases valid : 0 < userId ∧ 0 < authVersion
  · rw [updateUserCacheFieldAtVersion_keys valid.1 valid.2, updateUserCacheFieldScript_hash_eq]
    simp [FieldReaches, valid]
  rw [if_neg fun reaches : FieldReaches userId authVersion keys => valid ⟨reaches.1, reaches.2.1⟩]
  have invalid : userId ≤ 0 ∨ authVersion ≤ 0 := by omega
  unfold updateUserCacheFieldAtVersion
  rw [if_pos invalid]

inductive Operation where
  | write (snapshot : UserBase) (includeQuota : Bool)
  | updateField (field : CacheField) (value : String) (authVersion : Int)
  | quotaDelta (delta : Int)
  | quotaReserve (amount : Int)
  | fence (authVersion : Int)
  | publish (authVersion : Int)
  | expireHash | expireFence

open Operation

def Operation.apply (userId : Int) (keys : UserKeys) : Operation → UserKeys
  | .write snapshot includeQuota => (writeUserCache { snapshot with id := userId } includeQuota keys).2
  | .updateField field value authVersion => (updateUserCacheFieldAtVersion userId field value authVersion keys).2
  | .quotaDelta delta => { keys with hash := (userQuotaDeltaScript keys.hash delta userId).2 }
  | .quotaReserve amount => { keys with hash := (userQuotaReserveScript keys.hash amount userId).2 }
  | .fence authVersion => (setUserAuthVersionFence userId authVersion keys).2
  | .publish authVersion => (publishCommittedUserAuthVersion userId authVersion keys).2
  | .expireHash => { keys with hash := none }
  | .expireFence => { keys with fence := none }

abbrev Redis := Int → UserKeys
def redisMachine : Machine Redis (Int × Operation) :=
  ⟨fun redis event => some (Function.update redis event.1 (event.2.apply event.1 (redis event.1)))⟩
def Intact (redis : Redis) : Prop := ∀ userId, (redis userId).Intact

/-- A write without the balance that reaches a hash finds a balance there, and a field that
reaches a hash completes it. -/
def Operation.Safe (userId : Int) (keys : UserKeys) : Operation → Prop
  | .write snapshot includeQuota => Reaches { snapshot with id := userId } includeQuota keys →
      includeQuota = true ∨ ∃ fields ∈ keys.hash, fields.quota ≠ none
  | .updateField field value authVersion => FieldReaches userId authVersion keys →
      ∀ fields ∈ keys.hash, (refreshed field value fields).Complete
  | _ => True

def Safe (redis : Redis) (event : Int × Operation) : Prop := event.2.Safe event.1 (redis event.1)

theorem intact_of_hash_eq {keys after : UserKeys} (same : after.hash = keys.hash) : after.Intact ↔ keys.Intact := by
  unfold UserKeys.Intact
  rw [same]

theorem setQuota_intact {keys : UserKeys} (intact : keys.Intact) (quota : Int) :
    { keys with hash := setQuota keys.hash quota }.Intact := by
  rintro _ written current
  obtain ⟨fields, present, rfl⟩ := map_eq_some_iff.mp written
  have complete := intact fields present current
  exact { complete with quota := rfl }

theorem refreshed_current (value : String) (fields : UserHash) : (refreshed field value fields).current := by
  simp [refreshed, current]

theorem apply_intact_iff {userId : Int} {keys : UserKeys} (intact : keys.Intact) (operation : Operation) :
    (operation.apply userId keys).Intact ↔ operation.Safe userId keys := by
  cases operation with
  | write snapshot includeQuota =>
    have after := writeUserCache_hash_eq { snapshot with id := userId } includeQuota keys
    simp only [Operation.Safe]
    rw [← written_complete_iff { snapshot with id := userId }]
    by_cases reaches : Reaches { snapshot with id := userId } includeQuota keys
    · rw [if_pos reaches] at after
      constructor
      · exact fun kept _ => kept _ after (written_current _ _ _)
      · intro complete fields present _
        cases (some.inj (after.symm.trans present))
        exact complete reaches
    · rw [if_neg reaches] at after
      exact ⟨fun _ reached => absurd reached reaches, fun _ => (intact_of_hash_eq after).mpr intact⟩
  | updateField field value authVersion =>
    have after := updateUserCacheFieldAtVersion_hash_eq userId field value authVersion keys
    by_cases reaches : FieldReaches userId authVersion keys
    · rw [if_pos reaches] at after
      constructor
      · intro kept _ fields present
        exact kept _ (after.trans (congrArg _ present)) (refreshed_current _ _ _)
      · intro complete fields written _
        obtain ⟨old, present, rfl⟩ := map_eq_some_iff.mp (after.symm.trans written)
        exact complete reaches old present
    · rw [if_neg reaches] at after
      exact ⟨fun _ reached => absurd reached reaches, fun _ => (intact_of_hash_eq after).mpr intact⟩
  | quotaDelta =>
    refine iff_of_true ?_ trivial
    simp only [apply, userQuotaDeltaScript]
    cases guardedQuota userId keys.hash with
    | none => exact intact
    | some => exact setQuota_intact intact _
  | quotaReserve amount =>
    refine iff_of_true ?_ trivial
    simp only [apply, userQuotaReserveScript]
    cases guardedQuota userId keys.hash with
    | none => exact intact
    | some quota =>
      dsimp only
      split_ifs
      · exact intact
      · exact setQuota_intact intact _
  | fence | publish =>
    refine iff_of_true ((intact_of_hash_eq ?_).mpr intact) trivial
    simp only [apply, setUserAuthVersionFence, publishCommittedUserAuthVersion]
    split_ifs <;> rfl
  | expireHash =>
    refine iff_of_true ?_ trivial
    intro fields absent
    cases absent
  | expireFence => exact iff_of_true intact trivial

theorem step_intact_iff {redis next : Redis} {event : Int × Operation} (intact : Intact redis)
    (stepped : redisMachine.step redis event = some next) : Intact next ↔ Safe redis event := by
  cases stepped
  unfold Safe
  rw [← apply_intact_iff (intact event.1)]
  constructor
  · intro kept
    simpa using kept event.1
  · intro kept userId
    by_cases same : userId = event.1
    · subst same
      simpa using kept
    · simpa [same] using intact userId

/-- The hashes stay intact through a run exactly if every step of it is safe. -/
theorem run_intact_iff {start final : Redis} {events : List (Int × Operation)}
    (run : redisMachine.Runs unrestricted start events final) (intact : Intact start) :
    (∀ front middle, front <+: events → redisMachine.Runs unrestricted start front middle →
      Intact middle) ↔ redisMachine.Runs Safe start events final := by
  induction run with
  | nil state =>
    refine iff_of_true ?_ (.nil state)
    intro front middle within earlier
    cases List.prefix_nil.mp within
    cases earlier
    exact intact
  | @cons state next _ event rest _ stepped _ step =>
    constructor
    · intro kept
      have here : Intact next := kept [event] next ⟨rest, rfl⟩ (.cons trivial stepped (.nil next))
      have later := (step here).mp fun front middle within earlier =>
        kept (event :: front) middle (List.cons_prefix_cons.mpr ⟨rfl, within⟩) (.cons trivial stepped earlier)
      exact .cons ((step_intact_iff intact stepped).mp here) stepped later
    · intro safely front middle within earlier
      cases safely with
      | cons safe stepped' safely =>
        cases some.inj (stepped.symm.trans stepped')
        have here : Intact next := (step_intact_iff intact stepped).mpr safe
        cases earlier with
        | nil => exact intact
        | cons _ stepped'' earlier =>
          obtain ⟨rfl, later⟩ := List.cons_prefix_cons.mp within
          cases some.inj (stepped.symm.trans stepped'')
          exact (step here).mpr safely _ middle later earlier

def cachedUser : UserBase :=
  { id := 1, group := "default", email := "a@example.test", quota := 100, unlimitedQuota := true, status := 1
    role := 1, username := "a", setting := "{}", authVersion := 4 }

def emptyRedis : Redis := fun _ => ⟨none, none, none⟩

theorem emptyRedis_intact : Intact emptyRedis := by
  intro userId fields absent
  cases absent

def fillAndRefresh : List (Int × Operation) :=
  [(1, .write cachedUser true), (1, .updateField .group "vip" 4), (1, .quotaReserve 30)]

theorem run_intact_iff_filled : ∃ final, redisMachine.Runs unrestricted emptyRedis fillAndRefresh final ∧
      ∀ front middle, front <+: fillAndRefresh →
        redisMachine.Runs unrestricted emptyRedis front middle → Intact middle := by
  refine ⟨_, .cons trivial rfl (.cons trivial rfl (.cons trivial rfl (.nil _))), ?_⟩
  refine (run_intact_iff (.cons trivial rfl (.cons trivial rfl (.cons trivial rfl (.nil _)))) emptyRedis_intact).mpr ?_
  refine .cons (fun _ => .inl rfl) rfl (.cons ?_ rfl (.cons trivial rfl (.nil _)))
  intro _ fields present
  cases present
  exact ⟨rfl, rfl, rfl, rfl, rfl, rfl, rfl, rfl, rfl, rfl⟩

def olderHash : UserHash :=
  { stampHash cachedUser empty with
    quota := some 100, unlimitedQuota := none, cacheSchema := some 2 }

def olderRedis (hash : UserHash) : Redis := Function.update emptyRedis 1 ⟨some hash, none, none⟩

theorem olderRedis_intact {hash : UserHash} (older : hash.current = false) : Intact (olderRedis hash) := by
  intro userId fields present current
  by_cases same : userId = 1
  · subst same
    cases present
    exact absurd current (by simp [older])
  · simp [olderRedis, same, emptyRedis] at present

/-- Refreshing the group of an older hash makes it current without `UnlimitedQuota`, and
publishing a profile over a hash without a balance makes it current without `Quota`. -/
theorem partial_writes_stamp_older_hash : (Intact (olderRedis olderHash) ∧ ∃ next,
      redisMachine.step (olderRedis olderHash) (1, .updateField .group "vip" 4) = some next ∧ ¬Intact next) ∧
    (Intact (olderRedis { olderHash with quota := none }) ∧ ∃ next,
      redisMachine.step (olderRedis { olderHash with quota := none }) (1, .write cachedUser false) = some next ∧
        ¬Intact next) := by
  refine ⟨⟨olderRedis_intact rfl, _, rfl, fun intact => ?_⟩, ⟨olderRedis_intact rfl, _, rfl, fun intact => ?_⟩⟩
  · exact absurd (intact 1 _ rfl rfl).unlimitedQuota (by decide)
  · exact absurd (intact 1 _ rfl rfl).quota (by decide)

end FlowAPI.User
