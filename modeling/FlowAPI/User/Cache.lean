import Mathlib.Data.Int.Order.Basic

/-! The Redis image of a user: `model/user_cache.go`, `model/user_auth_cache.go` and the user scripts of
`model/quota_reserve.go`.

Three keys belong to a user: the hash with the profile and the balance, a pending authentication fence, and the
committed authentication version. Redis runs a Lua script atomically, so each is one function. Lua numbers are
doubles, exact up to `2 ^ 53`; the balances here are integers.

The fence is published before a restrictive transaction and expires; the committed version is published after it and
has no time to live. -/

set_option autoImplicit false
namespace FlowAPI.User

def userCacheSchemaVersion : Int := 3

structure UserBase where
  id : Int
  (group email : String)
  quota : Int
  unlimitedQuota : Bool
  (status role : Int)
  (username setting : String)
  authVersion : Int
  deriving DecidableEq, Repr

/-- The hash `user:%d`. Redis stores the fields that some script has set; a
field of the model is `none` until then. -/
structure UserHash where
  id : Option Int
  (group email : Option String)
  quota : Option Int
  unlimitedQuota : Option Bool
  (status role : Option Int)
  (username setting : Option String)
  (authVersion cacheSchema : Option Int)
  deriving DecidableEq, Repr

open UserHash

def UserHash.empty : UserHash := ⟨none, none, none, none, none, none, none, none, none, none, none⟩

/-- The hash, `auth:user:fence:%d` and `auth:user:version:%d`. -/
structure UserKeys where
  hash : Option UserHash
  (fence version : Option Int)
  deriving DecidableEq, Repr

variable (hash : Option UserHash)

def hashNumber (field : UserHash → Option Int) : Int := (hash.bind field).getD 0

/-- The balance the quota scripts act on. They refuse a hash that is absent,
belongs to another id, carries another schema or has no `Quota` field. -/
def guardedQuota (userId : Int) (hash : Option UserHash) : Option Int :=
  if hashNumber hash (·.id) ≠ userId ∨ hashNumber hash (·.cacheSchema) ≠ userCacheSchemaVersion then none
  else hash.bind (·.quota)

inductive CacheQuotaResult where
  | insufficient | ok | miss

def setQuota (quota : Int) : Option UserHash := hash.map fun fields => { fields with quota := some quota }

def userQuotaReserveScript (amount userId : Int) : CacheQuotaResult × Option UserHash :=
  match guardedQuota userId hash with
  | none => (.miss, hash)
  | some quota => if quota < amount then (.insufficient, hash) else (.ok, setQuota hash (quota - amount))

def userQuotaDeltaScript (delta userId : Int) : CacheQuotaResult × Option UserHash :=
  match guardedQuota userId hash with
  | none => (.miss, hash)
  | some quota => (.ok, setQuota hash (quota + delta))

variable (user : UserBase)

def stampHash (hash : UserHash) : UserHash :=
  { hash with
    id := some user.id, group := some user.group, email := some user.email, status := some user.status
    role := some user.role, username := some user.username, setting := some user.setting
    authVersion := some user.authVersion, cacheSchema := some userCacheSchemaVersion
    unlimitedQuota := some user.unlimitedQuota }

/-- The script of `writeUserCache`; `false` is its result 0, a snapshot below a
fence, the committed version or the cached one. The `Quota` field is written
only where the hash has none. -/
def writeUserCacheScript (includeQuota : Bool) (keys : UserKeys) : Bool × UserKeys :=
  let incoming := user.authVersion
  let pending := keys.fence.getD 0
  let committed := keys.version.getD 0
  let current := hashNumber keys.hash (·.authVersion)
  if pending > incoming ∨ committed > incoming ∨ current > incoming then (false, keys)
  else
    let version := if committed < incoming then some incoming else keys.version
    let fence := if pending > 0 ∧ pending ≤ incoming then none else keys.fence
    if includeQuota = false ∧ keys.hash = none then (true, { keys with version, fence })
    else
      let stamped := stampHash user (keys.hash.getD empty)
      let filled :=
        if includeQuota = true ∧ stamped.quota = none then { stamped with quota := some user.quota }
        else stamped
      (true, { hash := some filled, version, fence })

inductive CacheWrite where
  | done | invalidVersion | pending

def writeUserCache (includeQuota : Bool) (keys : UserKeys) : CacheWrite × UserKeys :=
  if user.id ≤ 0 then (.done, keys)
  else if user.authVersion ≤ 0 then (.invalidVersion, keys)
  else
    match writeUserCacheScript user includeQuota keys with
    | (true, keys') => (.done, keys')
    | (false, keys') => (.pending, keys')

def populateUserCache (keys : UserKeys) : CacheWrite × UserKeys := writeUserCache user true keys
def getUserAuthVersionFloor (keys : UserKeys) : Int := max (max 0 (keys.fence.getD 0)) (keys.version.getD 0)

/-- The first half of `cacheGetUserBase`: `HGETALL`, with Go's zero values for
missing fields, and the checks on the fields. -/
def readUserHash (userId : Int) (hash : Option UserHash) : Option UserBase :=
  hash.bind fun fields =>
    let user : UserBase :=
      { id := fields.id.getD 0, group := fields.group.getD "", email := fields.email.getD ""
        quota := fields.quota.getD 0, unlimitedQuota := fields.unlimitedQuota.getD false
        status := fields.status.getD 0, role := fields.role.getD 0, username := fields.username.getD ""
        setting := fields.setting.getD "", authVersion := fields.authVersion.getD 0 }
    if user.id ≠ userId ∨ fields.cacheSchema.getD 0 ≠ userCacheSchemaVersion ∨ user.authVersion ≤ 0 then none
    else some user

@[simp] theorem guardedQuota_none (userId : Int) : guardedQuota userId none = none := by
  unfold guardedQuota
  split <;> rfl

variable {hash : Option UserHash}

theorem guardedQuota_setQuota {userId quota : Int} (value : Int)
    (guarded : guardedQuota userId hash = some quota) : guardedQuota userId (setQuota hash value) = some value := by
  cases hash with
  | none => simp [guardedQuota] at guarded
  | some fields =>
    by_cases refused : fields.id.getD 0 ≠ userId ∨ fields.cacheSchema.getD 0 ≠ userCacheSchemaVersion
    · simp [guardedQuota, hashNumber, refused] at guarded
    · simp [guardedQuota, setQuota, hashNumber, refused]

theorem reserveScript_miss {amount userId : Int} (absent : guardedQuota userId hash = none) :
    userQuotaReserveScript hash amount userId = (.miss, hash) := by
  simp [userQuotaReserveScript, absent]

theorem reserveScript_insufficient {amount userId quota : Int}
    (guarded : guardedQuota userId hash = some quota) (short : quota < amount) :
    userQuotaReserveScript hash amount userId = (.insufficient, hash) := by
  simp [userQuotaReserveScript, guarded, short]

theorem reserveScript_ok {amount userId quota : Int}
    (guarded : guardedQuota userId hash = some quota) (enough : amount ≤ quota) :
    userQuotaReserveScript hash amount userId = (.ok, setQuota hash (quota - amount)) := by
  simp [userQuotaReserveScript, guarded, not_lt.mpr enough]

variable (user : UserBase)

theorem writeUserCacheScript_hash (keys : UserKeys) : (writeUserCacheScript user true keys).2.hash = keys.hash ∨
      ∃ quota, (writeUserCacheScript user true keys).2.hash =
        some { stampHash user (keys.hash.getD empty) with quota := some quota } := by
  simp only [writeUserCacheScript]
  split
  next _ => exact .inl rfl
  next _ =>
    right
    cases filled : (stampHash user (keys.hash.getD empty)).quota with
    | none => exact ⟨user.quota, by simp⟩
    | some quota =>
      have present : (stampHash user (keys.hash.getD empty)).quota ≠ none := by simp [filled]
      exact ⟨quota, by simp [← filled, present]⟩

theorem populateUserCache_hash (keys : UserKeys) : (populateUserCache user keys).2.hash = keys.hash ∨
      ∃ quota, (populateUserCache user keys).2.hash =
        some { stampHash user (keys.hash.getD empty) with quota := some quota } := by
  simp only [populateUserCache, writeUserCache]
  split
  · exact .inl rfl
  split
  · exact .inl rfl
  have script := writeUserCacheScript_hash user keys
  split
  next keys' written =>
    rw [written] at script
    exact script
  next _ written =>
    rw [written] at script
    exact script

theorem guardedQuota_stamped (fields : UserHash) (quota : Int) :
    guardedQuota user.id (some { stampHash user fields with quota := some quota }) = some quota := by
  simp [guardedQuota, hashNumber, stampHash]

def committedVersion (keys : UserKeys) : Int := keys.version.getD 0

variable (userId authVersion : Int) (keys : UserKeys)

def setUserAuthVersionFence : CacheWrite × UserKeys :=
  if userId ≤ 0 ∨ authVersion ≤ 0 then (.invalidVersion, keys)
  else if keys.fence.getD 0 < authVersion then (.done, { keys with fence := some authVersion })
  else (.done, keys)

def publishCommittedUserAuthVersion : CacheWrite × UserKeys :=
  if userId ≤ 0 ∨ authVersion ≤ 0 then (.invalidVersion, keys)
  else
    let pending := keys.fence.getD 0
    let version := if committedVersion keys < authVersion then some authVersion else keys.version
    let fence := if pending > 0 ∧ pending ≤ authVersion then none else keys.fence
    (.done, { keys with version, fence })

inductive CacheField where
  | group | email | username | setting

def CacheField.set (value : String) (hash : UserHash) : CacheField → UserHash
  | .group => { hash with group := some value }
  | .email => { hash with email := some value }
  | .username => { hash with username := some value }
  | .setting => { hash with setting := some value }

/-- The script of `updateUserCacheFieldAtVersion`. It promotes the committed
version like a whole write, and touches the hash only at its own version. -/
def updateUserCacheFieldScript (field : CacheField) (value : String) (incoming : Int) (keys : UserKeys) :
    Bool × UserKeys :=
  let pending := keys.fence.getD 0
  let committed := keys.version.getD 0
  let current := hashNumber keys.hash (·.authVersion)
  if pending > incoming ∨ committed > incoming ∨ current > incoming then (false, keys)
  else
    let version := if committed < incoming then some incoming else keys.version
    let fence := if pending > 0 ∧ pending ≤ incoming then none else keys.fence
    match keys.hash with
    | none => (true, { keys with version, fence })
    | some fields =>
      if current ≠ incoming then (true, { keys with version, fence })
      else (true, { hash := some { field.set value fields with cacheSchema := some userCacheSchemaVersion }
                    version, fence })

def updateUserCacheFieldAtVersion (userId : Int) (field : CacheField) (value : String) (authVersion : Int)
    (keys : UserKeys) : CacheWrite × UserKeys :=
  if userId ≤ 0 ∨ authVersion ≤ 0 then (.invalidVersion, keys)
  else
    match updateUserCacheFieldScript field value authVersion keys with
    | (true, keys') => (.done, keys')
    | (false, keys') => (.pending, keys')

/-- The version `IncrementUserAuthVersionWithTx` persists. -/
def nextAuthVersion (current : Int) : Int := max 1 current + 1

def Raises (version : Int) (keys after : UserKeys) : Prop :=
  committedVersion keys ≤ committedVersion after ∧
    committedVersion after ≤ max (committedVersion keys) version

variable {keys after : UserKeys}

theorem Raises.of_version_eq (version : Int) (same : after.version = keys.version) : Raises version keys after := by
  simp only [Raises, committedVersion, same]
  omega

theorem Raises.mono {low high : Int} (raised : Raises low keys after)
    (within : low ≤ high) : Raises high keys after := by
  obtain ⟨kept, _⟩ := raised
  exact ⟨kept, by omega⟩

theorem raises_promoted (version : Int)
    (promoted : after.version = if keys.version.getD 0 < version then some version else keys.version) :
    Raises version keys after := by
  simp only [Raises, committedVersion, promoted]
  by_cases newer : keys.version.getD 0 < version
  · simp only [newer, if_true, Option.getD_some]
    omega
  · simp only [newer, if_false]
    omega

theorem publishCommittedUserAuthVersion_raises (userId authVersion : Int) (keys : UserKeys) :
    Raises authVersion keys (publishCommittedUserAuthVersion userId authVersion keys).2 := by
  unfold publishCommittedUserAuthVersion
  split
  · exact .of_version_eq _ rfl
  · exact raises_promoted _ rfl

theorem writeUserCacheScript_raises (user : UserBase) (includeQuota : Bool) (keys : UserKeys) :
    Raises user.authVersion keys (writeUserCacheScript user includeQuota keys).2 := by
  simp only [writeUserCacheScript]
  split
  · exact .of_version_eq _ rfl
  split
  · exact raises_promoted _ rfl
  · exact raises_promoted _ rfl

theorem writeUserCache_raises (user : UserBase) (includeQuota : Bool) (keys : UserKeys) :
    Raises user.authVersion keys (writeUserCache user includeQuota keys).2 := by
  have script := writeUserCacheScript_raises user includeQuota keys
  simp only [writeUserCache]
  split
  · exact .of_version_eq _ rfl
  split
  · exact .of_version_eq _ rfl
  split
  next written => rwa [written] at script
  next written => rwa [written] at script

theorem updateUserCacheFieldScript_raises (field : CacheField) (value : String) (incoming : Int)
    (keys : UserKeys) : Raises incoming keys (updateUserCacheFieldScript field value incoming keys).2 := by
  simp only [updateUserCacheFieldScript]
  split
  · exact .of_version_eq _ rfl
  split
  · exact raises_promoted _ rfl
  split
  · exact raises_promoted _ rfl
  · exact raises_promoted _ rfl

theorem updateUserCacheFieldAtVersion_raises (userId : Int) (field : CacheField) (value : String)
    (authVersion : Int) (keys : UserKeys) :
    Raises authVersion keys (updateUserCacheFieldAtVersion userId field value authVersion keys).2 := by
  have script := updateUserCacheFieldScript_raises field value authVersion keys
  simp only [updateUserCacheFieldAtVersion]
  split
  · exact .of_version_eq _ rfl
  split
  next written => rwa [written] at script
  next written => rwa [written] at script

theorem setUserAuthVersionFence_version (userId authVersion : Int) (keys : UserKeys) :
    (setUserAuthVersionFence userId authVersion keys).2.version = keys.version := by
  unfold setUserAuthVersionFence
  split
  · rfl
  split <;> rfl

theorem writeUserCache_below {user : UserBase} {keys : UserKeys} (includeQuota : Bool)
    (below : user.authVersion < committedVersion keys) : (writeUserCache user includeQuota keys).2 = keys := by
  have refused : writeUserCacheScript user includeQuota keys = (false, keys) := by exact if_pos (.inr (.inl below))
  simp only [writeUserCache, refused]
  split
  · rfl
  split <;> rfl

theorem updateUserCacheFieldAtVersion_below {authVersion : Int} {keys : UserKeys} (userId : Int)
    (field : CacheField) (value : String) (below : authVersion < committedVersion keys) :
    (updateUserCacheFieldAtVersion userId field value authVersion keys).2 = keys := by
  have refused : updateUserCacheFieldScript field value authVersion keys = (false, keys) := by
    exact if_pos (.inr (.inl below))
  simp only [updateUserCacheFieldAtVersion, refused]
  split <;> rfl

theorem committedVersion_le_floor (keys : UserKeys) : committedVersion keys ≤ getUserAuthVersionFloor keys :=
  le_max_right _ _

end FlowAPI.User
