import FlowAPI.Wallet.Ledger

/-! The hash against the row once a wallet has come to rest.

Every operation keeps the hash in its own way: a guarded script, an increment
issued after the row, or nothing at all. A hash that is filled from a snapshot
of the right age, and left alone by the two operations that ignore it, ends
equal to the row.
-/

set_option autoImplicit false
namespace FlowAPI.Wallet
open Semantics User Option State Resume

/-- A publication shows the balance up to the increments in flight, and the two
operations that change the row without the hash find none. -/
def Job.InStep (state : State) : Job → Prop
  | .publish _ snapshot => ∀ quota ∈ state.published snapshot, quota + state.cacheInFlight = state.balance
  | .reserveRow amount => amount ≤ state.row.quota → state.cachedQuota = none
  | .transferAffQuota amount => amount ≤ state.row.affQuota → state.cachedQuota = none
  | _ => True

instance (state : State) : DecidablePred (Job.InStep state) := fun _ => by
  unfold Job.InStep
  split <;> infer_instance

def InStep (state : State) : Event → Prop
  | .run index _ => ∀ job ∈ state.jobs[index]?, job.InStep state
  | _ => True

instance : DecidableRel InStep := by
  rintro _ ⟨⟩ <;> dsimp only [InStep] <;> infer_instance

def Faultless (config : Config) (state : State) (event : Event) : Prop :=
  NoFault event ∧ NoOverflow config state event

instance (config : Config) : DecidableRel (Faultless config) := fun _ _ => inferInstanceAs (Decidable (_ ∧ _))

def Job.snapshot : Job → Option UserBase
  | .checkFloor _ snapshot | .publish _ snapshot => some snapshot
  | _ => none

/-- A hash that the quota scripts accept, or none at all. -/
def Shows (userId : Int) (hash : Option UserHash) : Prop :=
  hash = none ∨ ∃ quota, guardedQuota userId hash = some quota

structure State.Coherent (state : State) : Prop where
  shows : Shows state.row.id state.keys.hash
  balanced : ∀ quota ∈ state.cachedQuota, quota + state.cacheInFlight = state.balance
  owners : ∀ job ∈ state.jobs, ∀ snapshot ∈ job.snapshot, snapshot.id = state.row.id

section
variable {config : Config} {state next : State} {job : Job}

theorem guarded_fields {userId quota : Int} {hash : Option UserHash}
    (guarded : guardedQuota userId hash = some quota) : ∃ fields, hash = some fields ∧ fields.quota = some quota := by
  unfold guardedQuota at guarded
  split_ifs at guarded
  exact bind_eq_some_iff.mp guarded

theorem populateUserCache_shows {user : UserBase} {keys : UserKeys}
    (shows : Shows user.id keys.hash) : Shows user.id (populateUserCache user keys).2.hash := by
  rcases populateUserCache_hash user keys with same | ⟨quota, stamped⟩
  · rw [same]
    exact shows
  · rw [stamped]
    exact .inr ⟨quota, guardedQuota_stamped user _ quota⟩

attribute [local simp] Job.snapshot

theorem runJob_snapshot : ∀ pending ∈ (runJob config false state job).2, ∀ snapshot ∈ pending.snapshot,
      snapshot.id = state.row.id ∨ job.snapshot = some snapshot := by
  cases job with simp only [runJob]
  | reserve | retry =>
    simp only [tryScript, Bool.false_eq_true, if_false]
    split <;> simp
  | lookup =>
    split
    · simp
    · split <;> simp
  | lookupFloor resume =>
    split
    · simp
    · cases resume <;> simp [hydrated]
  | readRow resume =>
    simp only [Bool.false_eq_true, if_false]
    split
    · simp
    · cases resume <;> simp [hydrated]
  | checkFloor resume snapshot =>
    split
    · cases resume <;> simp [failed]
    · simp
  | publish resume snapshot =>
    simp only [Bool.false_eq_true, if_false]
    split
    · cases resume <;> simp [failed]
    · cases resume <;> simp [hydrated]
  | flush => split <;> simp
  | _ => split_ifs <;> simp

theorem Operation.start_snapshot (config : Config) (operation : Operation) :
    ∀ job ∈ operation.start config, job.snapshot = none := by
  cases operation <;> simp only [start] <;> (try split_ifs) <;> simp

theorem Shows.unguarded {userId : Int} {hash : Option UserHash} (shows : Shows userId hash)
    (unguarded : guardedQuota userId hash = none) : hash = none := by
  rcases shows with absent | ⟨_, guarded⟩
  · exact absent
  · rw [unguarded] at guarded
    cases guarded

theorem Effect.coherent (effect : Effect state job next) (coherent : state.Coherent)
    (selected : job ∈ state.jobs) (inStep : job.InStep state) :
    Shows next.row.id next.keys.hash ∧ ∀ quota ∈ next.cachedQuota, quota + next.cacheInFlight = next.balance := by
  -- the hash is untouched and both ledgers move by the same amount
  have carried {amount a : Int} (keys : next.keys = state.keys) (moves : Moves state next amount amount a) :
      Shows next.row.id next.keys.hash ∧ ∀ quota ∈ next.cachedQuota, quota + next.cacheInFlight = next.balance := by
    refine ⟨by rw [keys, moves.sameId]; exact coherent.shows, fun quota shown => ?_⟩
    rw [moves.sameCached keys] at shown
    rw [moves.balance, moves.flight]
    have agrees := coherent.balanced quota shown
    omega
  -- the row moves and there is no hash to keep
  have ignored {b f a : Int} (absent : state.cachedQuota = none) (keys : next.keys = state.keys)
      (moves : Moves state next b f a) : Shows next.row.id next.keys.hash ∧
        ∀ quota ∈ next.cachedQuota, quota + next.cacheInFlight = next.balance := by
    refine ⟨.inl ?_, ?_⟩
    · rw [keys]
      exact coherent.shows.unguarded absent
    · simp [moves.sameCached keys, absent]
  cases effect with
  | accept _ guarded _ taken moves =>
    refine ⟨.inr ⟨_, taken⟩, fun quota shown => ?_⟩
    obtain rfl := some.inj (taken.symm.trans shown)
    rw [moves.balance, moves.flight]
    have agrees := coherent.balanced _ guarded
    omega
  | apply _ missed applied moves =>
    cases guarded : state.cachedQuota with
    | none => exact ignored guarded (missed guarded) moves
    | some quota =>
      refine ⟨.inr ⟨_, applied quota guarded⟩, fun shown found => ?_⟩
      obtain rfl := some.inj ((applied quota guarded).symm.trans found)
      rw [moves.balance, moves.flight]
      have agrees := coherent.balanced quota guarded
      omega
  | deposit _ keys moves => exact carried keys moves
  | quiet keys moves => exact carried keys moves
  | reserveRow enough keys moves | transfer enough keys moves => exact ignored (inStep enough) keys moves
  | @publish resume snapshot _ keys moves =>
    have owner : snapshot.id = state.row.id := coherent.owners _ selected snapshot rfl
    refine ⟨?_, fun quota shown => ?_⟩
    · rw [keys, moves.sameId, ← owner]
      exact populateUserCache_shows (owner ▸ coherent.shows)
    · rw [cachedQuota, keys, moves.sameId, published_eq] at shown
      rw [moves.balance, moves.flight]
      have agrees := inStep quota shown
      omega

theorem State.Coherent.step_kept (redis : config.redisEnabled = true) (coherent : state.Coherent)
    {event : Event} (faultless : Faultless config state event) (inStep : InStep state event)
    (stepped : step config state event = some next) : next.Coherent := by
  cases event with
  | call operation =>
    have moves := call_moves stepped
    cases stepped
    refine ⟨coherent.shows, fun quota shown => ?_, fun job member snapshot taken => ?_⟩
    · rw [moves.balance, moves.flight]
      have agrees := coherent.balanced quota shown
      omega
    · rcases List.mem_append.mp member with old | fresh
      · exact coherent.owners job old snapshot taken
      · rw [Operation.start_snapshot config operation job fresh] at taken
        cases taken
  | run _ fault =>
    obtain ⟨rfl, fits⟩ : fault = false ∧ _ := faultless
    obtain ⟨job, selected, same⟩ := step_run stepped
    have member := List.mem_of_getElem? selected
    have effect := run_effect redis selected fits stepped
    obtain ⟨shows, balanced⟩ := effect.coherent coherent member (inStep job selected)
    refine ⟨shows, balanced, fun pending found snapshot taken => ?_⟩
    rw [effect.sameId]
    rw [same] at found
    rcases Pool.mem_of_replace found with old | fresh
    · exact coherent.owners pending old snapshot taken
    · rcases runJob_snapshot pending fresh snapshot taken with own | inherited
      · exact own
      · exact coherent.owners job member snapshot inherited
  | expire =>
    cases stepped
    exact ⟨.inl rfl, by simp [cachedQuota, setHash], coherent.owners⟩

theorem State.AtRest.coherent (rest : state.AtRest) : state.Coherent := by
  have worth := rest.balance_eq
  obtain ⟨cached, _, settled⟩ := rest
  refine ⟨?_, fun quota shown => ?_, by simp [settled]⟩
  · rcases cached with absent | synced
    · exact .inl absent
    · exact .inr ⟨_, synced⟩
  · rw [worth]
    rcases cached with absent | synced
    · simp [cachedQuota, absent] at shown
    · obtain rfl := some.inj (shown.symm.trans synced)
      simp [cacheInFlight, settled]

end

theorem cached_quota_at_rest (config : Config) (redis : config.redisEnabled = true)
    {start final : State} {events : List Event} (rest : start.AtRest)
    (run : (machine config).Runs (fun state event => Faultless config state event ∧ InStep state event)
      start events final) (settled : final.jobs = []) (flushed : final.store = none) :
    ∀ hash, final.keys.hash = some hash → hash.quota = some final.row.quota := by
  intro hash present
  have coherent : final.Coherent := run.invariant State.Coherent
    (fun _ _ _ held admitted stepped => held.step_kept redis admitted.1 admitted.2 stepped) rest.coherent
  rcases coherent.shows with absent | ⟨quota, guarded⟩
  · rw [absent] at present
    cases present
  obtain ⟨_, found, shown⟩ := guarded_fields guarded
  obtain rfl := some.inj (found.symm.trans present)
  rw [shown]
  have balanced := coherent.balanced quota guarded
  simpa [cacheInFlight, balance, pendingBatch, reservationsOwed, debitsOwed, settled, flushed] using balanced

def hydratedAndCredited : List Event :=
  [.expire, .call .getUserCache, .run 0 false, .run 0 false, .run 0 false, .run 0 false,
    .call (.creditTopUpQuota 5), .run 0 false, .run 0 false,
    .call (.decreaseUserQuota 3 true), .run 0 false, .run 0 false]

def creditedFinal : State :=
  ((machine redisBatch).exec (fun state event => Faultless redisBatch state event ∧ InStep state event)
    (.opened (sampleRow 10 0)) hydratedAndCredited).getD (.opened (sampleRow 0 0))

theorem cached_quota_at_rest_credited : creditedFinal.keys.hash ≠ none ∧
      ∀ hash, creditedFinal.keys.hash = some hash → hash.quota = some creditedFinal.row.quota := by
  have rest : (opened (sampleRow 10 0)).AtRest := ⟨.inr rfl, rfl, rfl⟩
  have run : (machine redisBatch).Runs (fun state event => Faultless redisBatch state event ∧ InStep state event)
      (.opened (sampleRow 10 0)) hydratedAndCredited creditedFinal := Machine.runs_iff_exec.mpr (by decide)
  exact ⟨by decide, cached_quota_at_rest redisBatch rfl rest run (by decide) (by decide)⟩

/-- `TransferAffQuotaToQuota` writes the row and nothing else. -/
theorem transfer_leaves_hash_behind : (opened (sampleRow 10 500000)).AtRest ∧ ∃ final hash,
      (machine redisBatch).Runs (Faultless redisBatch) (.opened (sampleRow 10 500000))
        [.call (.transferAffQuotaToQuota 500000), .run 0 false] final ∧
      final.jobs = [] ∧ final.store = none ∧ final.keys.hash = some hash ∧
      hash.quota = some 10 ∧ final.row.quota = 500010 := by
  refine ⟨⟨.inr rfl, rfl, rfl⟩, ?_⟩
  exact ⟨_, _, Machine.runs_iff_exec.mpr rfl, rfl, rfl, rfl, rfl, rfl⟩

end FlowAPI.Wallet
