import FlowAPI.Midjourney.Machine

/-! A task that fails is refunded, and once.

The compare-and-set of a pass compares statuses, so it tells a task that has been
refunded from one that has not only where the refund goes with a change to the status
of failure. Where every answer does that, and no copy is entered again after it has
failed, failure is a status no pass leaves, and the pass that reaches it refunds.
-/

set_option autoImplicit false
namespace FlowAPI.Midjourney
open Semantics List Option Machine Table State Pass Bool Pool
variable {copy : Nat} {channelId : Int}

theorem taskM_some {tasks : List Task} {mjId : String} (found : taskM tasks mjId = some copy) :
    ∃ task, tasks[copy]? = some task ∧ task.mjId = mjId := by
  refine foldlRecOn (motive := fun found => ∀ copy, found = some copy →
    ∃ task, tasks[copy]? = some task ∧ task.mjId = mjId) tasks.zipIdx _ ?_ ?_ copy found
  · exact fun _ none => nomatch none
  · intro _ known entry member copy chosen
    split at chosen
    next matched =>
      cases chosen
      exact ⟨entry.1, mem_zipIdx_iff_getElem?.mp member, matched.1⟩
    · exact known copy chosen

theorem mem_taskChannelM {tasks : List Task} {ids : List String}
    (member : (channelId, ids) ∈ taskChannelM tasks) {mjId : String} (asked : mjId ∈ ids) :
    ∃ task ∈ tasks, task.mjId = mjId ∧ task.channelId = channelId := by
  obtain ⟨_, _, same⟩ := mem_map.mp member
  cases same
  obtain ⟨task, listed, rfl⟩ := mem_map.mp asked
  obtain ⟨known, channel⟩ := mem_filter.mp listed
  exact ⟨task, (mem_filter.mp known).1, rfl, of_decide_eq_true channel⟩

section
variable (first : Task)

/-- The next item of a pass, where it is for a copy of the task, says failure exactly when
it makes the task fail, and the copy has not failed yet. -/
def Enters (now : Int) (pass : Pass) : Prop :=
  match pass.phase with
  | .answering _ (item :: _) => ∀ copy ∈ taskM pass.tasks item.mjId, ∀ task ∈ pass.tasks[copy]?, task.id = first.id →
      task.status ≠ failure ∧ ((item.timedOut task now).Fails ↔ (item.timedOut task now).status = failure)
  | _ => True

instance (now : Int) (pass : Pass) : Decidable (Enters first now pass) := by
  unfold Enters
  split <;> infer_instance

/-- What the passes may do with the task that is followed: its channel is not lost, and
answers about it come from the channel that was asked for it. -/
def Orderly (state : State) : Event → Prop
  | .scan _ channelId .channelLost => channelId ≠ first.channelId
  | .scan index channelId (.answer items) => ∀ pass ∈ state.passes[index]?, ∀ entry ∈ pass.channels,
      entry.1 = channelId → ∀ item ∈ items, item.mjId = first.mjId → first.mjId ∈ entry.2
  | .item index now => ∀ pass ∈ state.passes[index]?, Enters first now pass
  | _ => True

instance : DecidableRel (Orderly first) := fun _ _ => by
  unfold Orderly
  split <;> infer_instance

end

def refundsOf (state : State) (id : Int) : List Refund := state.refunds.filter fun refund => decide (refund.task = id)

def Pass.credits (id : Int) (pass : Pass) : Bool :=
  match pass.phase with
  | .crediting copy _ _ => (pass.tasks[copy]?).any fun task => decide (task.id = id)
  | _ => false

def Pass.clears (id : Int) (pass : Pass) : Bool :=
  match pass.phase with
  | .clearing copy _ _ => (pass.tasks[copy]?).any fun task => decide (task.id = id)
  | _ => false

def Phase.items : Phase → List (Int × MidjourneyDto)
  | .scanning => []
  | .answering channelId items | .crediting _ channelId items | .clearing _ channelId items =>
    items.map fun item => (channelId, item)

section
variable (first : Task)

structure CopyOk (task : Task) : Prop where
  mine : task.id = first.id → task.mjId = first.mjId ∧ task.channelId = first.channelId ∧ task.userId = first.userId
  quota : task.id = first.id → task.status ≠ failure → task.quota = first.quota
  named : task.mjId = first.mjId → task.id = first.id

structure PassOk (pass : Pass) : Prop where
  copies : ∀ task ∈ pass.tasks, CopyOk first task
  nulls : first.id ∉ pass.nullTaskIds
  channels : ∀ entry ∈ pass.channels, first.mjId ∈ entry.2 → entry.1 = first.channelId
  items : ∀ entry ∈ pass.phase.items, entry.2.mjId = first.mjId → entry.1 = first.channelId
  credit : ∀ {copy channelId items task},
    pass.phase = .crediting copy channelId items ∨ pass.phase = .clearing copy channelId items →
    pass.tasks[copy]? = some task → task.id = first.id → task.quota = first.quota ∧ task.status = failure

/-- How the row, the refunds and the passes that are about to refund go together. -/
inductive Standing (row : Task) (refunds : List Refund) (crediting : Nat) : Prop where
  | unfailed : row.status ≠ failure → row.quota = first.quota → refunds = [] → crediting = 0 → Standing row refunds crediting
  | failing : row.status = failure → row.progress = finished → refunds = [] → crediting = 1 → Standing row refunds crediting
  | refunded (refund : Refund) : row.status = failure → row.progress = finished → refunds = [refund] →
      refund.userId = first.userId → refund.quota = first.quota → crediting = 0 → Standing row refunds crediting

structure Followed (state : State) : Prop where
  row : ∃ row, state.tasks.find first.id = some row ∧ CopyOk first row ∧
    Standing first row (refundsOf state first.id) (state.passes.countP (credits first.id))
  named : ∀ row ∈ state.tasks.rows, row.mjId = first.mjId → row.id = first.id
  passes : ∀ pass ∈ state.passes, PassOk first pass
  cleared : ∀ pass ∈ state.passes, pass.clears first.id = true → refundsOf state first.id ≠ []
  changes : ∀ change ∈ state.changes, change.task = first.id → change.source = .answer first.channelId

end

section
variable {first : Task} {state : State}

section
variable (followed : Followed first state)
include followed

theorem Followed.row_eq {row : Task} (member : row ∈ state.tasks.rows) (same : row.id = first.id) :
    CopyOk first row ∧ Standing first row (refundsOf state first.id) (state.passes.countP (credits first.id)) := by
  obtain ⟨_, lookup, rest⟩ := followed.row
  have key := find_of_mem member
  rw [same] at key
  cases lookup.symm.trans key
  exact rest

theorem Followed.others {selects : Task → Bool} {change : Task → Task}
    (keeps : ∀ row, selects row = true → (change row).id = row.id)
    (names : ∀ row ∈ state.tasks.rows, selects row = true → (change row).mjId ≠ first.mjId)
    (apart : ∀ row ∈ state.tasks.rows, row.id = first.id → selects row = false) {changes : List Change}
    (changed : ∀ change ∈ changes, change.task = first.id → change.source = .answer first.channelId) :
    Followed first
      { state with tasks := state.tasks.modify selects change keeps, changes := state.changes ++ changes } where
  row := by
    obtain ⟨row, lookup, rest⟩ := followed.row
    obtain ⟨member, key⟩ := mem_of_find lookup
    refine ⟨row, ?_, rest⟩
    rw [find_modify, lookup, map_some, apart row member key]
    rfl
  named := by
    intro row member same
    obtain ⟨before, listed, rfl⟩ := mem_map.mp member
    split at same
    next selected => exact absurd same (names before listed selected)
    next other =>
      rw [if_neg other]
      exact followed.named before listed same
  passes := followed.passes
  cleared := followed.cleared
  changes := forall_mem_append.mpr ⟨followed.changes, changed⟩

theorem Followed.bulkUpdate {selects : Task → Bool} (failReason : Option String)
    (apart : ∀ row ∈ state.tasks.rows, row.id = first.id → selects row = false) :
    Followed first (state.bulkUpdate selects failReason) := by
  refine followed.others _ (fun row member selected same => ?_) apart fun change member same => ?_
  · rw [apart row member (followed.named row member same)] at selected
    cases selected
  · obtain ⟨row, listed, rfl⟩ := mem_map.mp member
    obtain ⟨inside, selected⟩ := mem_filter.mp listed
    rw [apart row inside same] at selected
    cases selected

end

variable {index : Nat} {pass : Pass} {task : Task} {item : MidjourneyDto} {rest : List MidjourneyDto}

section
variable (followed : Followed first state) (selected : state.passes[index]? = some pass)
include followed selected

theorem Followed.moved {after : State} {next : List Pass} (passes : after.passes = replace state.passes index next)
    (row : ∀ crediting, crediting + (if pass.credits first.id then 1 else 0) =
        state.passes.countP (credits first.id) + next.countP (credits first.id) →
      ∃ row, after.tasks.find first.id = some row ∧ CopyOk first row ∧
        Standing first row (refundsOf after first.id) crediting)
    (named : ∀ row ∈ after.tasks.rows, row.mjId = first.mjId → row.id = first.id) (ok : ∀ pass ∈ next, PassOk first pass)
    (grows : refundsOf state first.id ≠ [] → refundsOf after first.id ≠ [])
    (clears : ∀ pass ∈ next, pass.clears first.id = true → refundsOf after first.id ≠ [])
    (changes : ∀ change ∈ after.changes, change.task = first.id → change.source = .answer first.channelId) :
    Followed first after where
  row := by
    rw [passes]
    exact row _ (countP_replace selected next _)
  named := named
  passes := by
    rw [passes]
    exact forall_replace followed.passes ok
  cleared := by
    rw [passes]
    exact forall_replace (fun other old clearing => grows (followed.cleared other old clearing)) clears
  changes := changes

theorem Followed.setPass {next : Pass} (ok : PassOk first next)
    (credits : next.credits first.id = pass.credits first.id) (clears : next.clears first.id = false) :
    Followed first (state.setPass index next) := by
  refine followed.moved selected rfl (fun crediting count => ?_) followed.named (forall_mem_singleton.mpr ok) id
    (by simp [clears]) followed.changes
  rw [countP_singleton, credits] at count
  rw [Nat.add_right_cancel count]
  exact followed.row

end

theorem Followed.begun (followed : Followed first state) (known : first.mjId ≠ "") :
    PassOk first (.begun (getAllUnFinishTasks state.tasks)) := by
  have copies : ∀ task ∈ getAllUnFinishTasks state.tasks, CopyOk first task := by
    intro task member
    obtain ⟨listed, _⟩ := mem_filter.mp member
    exact ⟨fun same => (followed.row_eq listed same).1.mine same, fun same => (followed.row_eq listed same).1.quota same,
      followed.named task listed⟩
  refine ⟨copies, fun member => ?_, fun entry member asked => ?_, fun entry member => ?_, ?_⟩
  · obtain ⟨task, listed, same⟩ := mem_map.mp member
    obtain ⟨inside, blank⟩ := mem_filter.mp listed
    exact known (((copies task inside).mine same).1.symm.trans (of_decide_eq_true blank))
  · obtain ⟨task, listed, named, channel⟩ := mem_taskChannelM member asked
    have ok := copies task listed
    exact channel.symm.trans (ok.mine (ok.named named)).2.1
  · cases member
  · rintro _ _ _ _ (phase | phase) <;> cases phase

theorem CopyOk.enter (ok : CopyOk first task)
    (unfailed : task.id = first.id → task.status ≠ failure) : CopyOk first (task.enter item) :=
  ⟨ok.mine, fun same _ => ok.quota same (unfailed same), ok.named⟩

theorem PassOk.entered (ok : PassOk first pass)
    (phase : pass.phase = .answering channelId (item :: rest)) {entered : Task}
    (copyOk : CopyOk first entered) {next : Phase}
    (goesOn : next = .answering channelId rest ∨ next = .crediting copy channelId rest ∧
      (entered.id = first.id → entered.quota = first.quota ∧ entered.status = failure)) :
    PassOk first { pass with tasks := pass.tasks.set copy entered, phase := next } where
  copies := forall_set ok.copies copyOk
  nulls := ok.nulls
  channels := ok.channels
  items := by
    have fewer : next.items = rest.map fun item => (channelId, item) := by rcases goesOn with rfl | ⟨rfl, _⟩ <;> rfl
    intro entry member
    rw [fewer] at member
    refine ok.items entry ?_
    rw [phase]
    exact mem_cons_of_mem _ member
  credit := by
    intro other channelId' items task same found mine
    rcases goesOn with rfl | ⟨rfl, intact⟩
    · rcases same with same | same <;> cases same
    rcases same with same | same <;> cases same
    have here : (pass.tasks.set copy entered)[copy]? = some task := found
    rw [getElem?_set_self'] at here
    obtain ⟨_, _, rfl⟩ := map_eq_some_iff.mp here
    exact intact mine

theorem PassOk.skip (ok : PassOk first pass) (phase : pass.phase = .answering channelId (item :: rest)) :
    PassOk first { pass with phase := .answering channelId rest } where
  copies := ok.copies
  nulls := ok.nulls
  channels := ok.channels
  items := by
    intro entry member
    refine ok.items entry ?_
    rw [phase]
    exact mem_cons_of_mem _ member
  credit := by rintro _ _ _ _ (same | same) <;> cases same

theorem credits_answering {items : List MidjourneyDto} {id : Int}
    (phase : pass.phase = .answering channelId items) : pass.credits id = false := by
  unfold credits
  rw [phase]

section
variable (followed : Followed first state) (selected : state.passes[index]? = some pass)
include followed selected

theorem Followed.enterMine (charged : first.quota ≠ 0) (phase : pass.phase = .answering channelId (item :: rest))
    (found : pass.tasks[copy]? = some task) (mine : task.id = first.id) (own : channelId = first.channelId)
    {entry : MidjourneyDto} (unfailed : task.status ≠ failure) (sound : entry.Fails ↔ entry.status = failure)
    (won : state.tasks.rows.any (selects task.id task.status) = true) :
    Followed first
      { State.setPass state index
          { pass with
            tasks := pass.tasks.set copy (task.enter entry)
            phase := if task.returnsQuota entry then .crediting copy channelId rest else .answering channelId rest } with
        tasks := state.updateWithStatus (task.enter entry) task.status
        changes := state.changes ++ [⟨task.id, .answer channelId⟩] } := by
  have ok := followed.passes pass (mem_of_getElem? selected)
  have copyOk := ok.copies task (mem_of_getElem? found)
  have quota := copyOk.quota mine unfailed
  obtain ⟨row, listed, matched⟩ := any_eq_true.mp won
  obtain ⟨key, status⟩ : row.id = task.id ∧ row.status = task.status := of_decide_eq_true matched
  obtain ⟨_, standing⟩ := followed.row_eq listed (key.trans mine)
  -- while the row has not failed there is no refund and no pass that credits one
  obtain ⟨refunds, crediting⟩ : refundsOf state first.id = [] ∧ state.passes.countP (credits first.id) = 0 := by
    cases standing with
    | unfailed _ _ refunds crediting => exact ⟨refunds, crediting⟩
    | failing failed | refunded _ failed => exact absurd (status.symm.trans failed) unfailed
  have lookup : (state.updateWithStatus (task.enter entry) task.status).find first.id = some (task.enter entry) := by
    unfold updateWithStatus
    rw [find_modify, ← mine, ← key, find_of_mem listed, map_some]
    exact congrArg some (if_pos (decide_eq_true ⟨key, status⟩))
  have bound : copy < pass.tasks.length := (List.getElem?_eq_some_iff.mp found).1
  refine followed.moved selected rfl (fun crediting' count => ?_) ?_ (forall_mem_singleton.mpr ?_) id
    (forall_mem_singleton.mpr fun clearing => ?_) ?_
  · refine ⟨task.enter entry, lookup, copyOk.enter fun _ => unfailed, ?_⟩
    rw [credits_answering phase, crediting, countP_singleton] at count
    simp only [false_eq_true, if_false, Nat.add_zero, Nat.zero_add] at count
    rw [count]
    by_cases fails : entry.Fails
    · have returns : task.returnsQuota entry = true := decide_eq_true ⟨fails, quota ▸ charged⟩
      refine .failing (sound.mp fails) (if_pos fails) refunds ?_
      refine if_pos ?_
      simp only [credits, returns, if_true, List.getElem?_set_self bound, any_some]
      exact decide_eq_true mine
    · have keeps : task.returnsQuota entry = false := decide_eq_false fun both => fails both.1
      refine .unfailed (fun failed => fails (sound.mpr failed)) quota refunds ?_
      refine if_neg ?_
      simp [credits, keeps]
  · intro other member same
    obtain ⟨before, inside, rfl⟩ := mem_map.mp member
    split at same
    next selected =>
      rw [if_pos selected]
      exact mine
    next unselected =>
      rw [if_neg unselected]
      exact followed.named before inside same
  · refine ok.entered phase (copyOk.enter fun _ => unfailed) ?_
    by_cases returns : task.returnsQuota entry = true
    · refine .inr ⟨if_pos returns, fun _ => ⟨quota, ?_⟩⟩
      exact sound.mp (of_decide_eq_true returns).1
    · exact .inl (if_neg returns)
  · unfold clears at clearing
    split at clearing
    next wrong => split at wrong <;> cases wrong
    next => cases clearing
  · exact forall_mem_append.mpr ⟨followed.changes, forall_mem_singleton.mpr fun _ => congrArg _ own⟩

theorem Followed.enterItem (charged : first.quota ≠ 0) {now : Int}
    (phase : pass.phase = .answering channelId (item :: rest)) (orderly : Enters first now pass) :
    Followed first (state.enterItem index pass channelId item rest now) := by
  unfold Enters at orderly
  rw [phase] at orderly
  have ok := followed.passes pass (mem_of_getElem? selected)
  have skipped : Followed first (state.setPass index { pass with phase := .answering channelId rest }) :=
    followed.setPass selected (ok.skip phase) (credits_answering phase).symm rfl
  unfold State.enterItem
  split
  next => exact skipped
  next copy task lookup =>
    obtain ⟨_, placed, known⟩ := bind_eq_some_iff.mp lookup
    obtain ⟨_, found, same⟩ := map_eq_some_iff.mp known
    cases same
    dsimp only
    split
    next => exact skipped
    next =>
      generalize entry : item.timedOut task now = answer
      have copyOk := ok.copies task (mem_of_getElem? found)
      have unfailed (mine : task.id = first.id) : task.status ≠ failure := (orderly copy placed task found mine).1
      -- the update wins on the row of the task, or it leaves that row alone
      by_cases won : task.id = first.id ∧ state.tasks.rows.any (selects task.id task.status) = true
      · obtain ⟨mine, won⟩ := won
        have sound := (orderly copy placed task found mine).2
        rw [entry] at sound
        obtain ⟨_, named, sameName⟩ := taskM_some placed
        cases found.symm.trans named
        have own : channelId = first.channelId := by
          refine ok.items (channelId, item) ?_ (sameName.symm.trans (copyOk.mine mine).1)
          rw [phase]
          exact mem_cons_self
        rw [won]
        exact followed.enterMine selected charged phase found mine own (unfailed mine) sound won
      have apart : ∀ row ∈ state.tasks.rows, selects task.id task.status row = true → row.id ≠ first.id :=
        fun row member selected same => won
          ⟨(of_decide_eq_true selected).1.symm.trans same, any_eq_true.mpr ⟨row, member, selected⟩⟩
      have kept : Followed first
          { state with
            tasks := state.updateWithStatus (task.enter answer) task.status
            changes := state.changes ++
              if state.tasks.rows.any (selects task.id task.status) then [⟨task.id, .answer channelId⟩] else [] } := by
        refine followed.others _ (fun row member selected same => ?_) (fun row member same => ?_)
          fun change member same => ?_
        · exact apart row member selected ((of_decide_eq_true selected).1.trans (copyOk.named same))
        · exact eq_false_iff.mpr fun selected => apart row member selected same
        · split at member
          next hit =>
            rw [mem_singleton.mp member] at same
            exact absurd ⟨same, hit⟩ won
          next => cases member
      have other (hit : (state.tasks.rows.any (selects task.id task.status) && task.returnsQuota answer) = true) :
          task.id ≠ first.id := fun mine => won ⟨mine, (and_eq_true_iff.mp hit).1⟩
      refine kept.setPass selected (ok.entered phase (copyOk.enter unfailed) ?_) ?_ ?_
      · split
        next hit => exact .inr ⟨rfl, fun same => absurd same (other hit)⟩
        next => exact .inl rfl
      · rw [credits_answering phase]
        unfold credits
        split
        next _ _ _ crediting =>
          split at crediting <;> cases crediting
          next hit =>
            rw [List.getElem?_set_self (List.getElem?_eq_some_iff.mp found).1, any_some]
            exact decide_eq_false (other hit)
        next => rfl
      · unfold clears
        split
        next clearing => split at clearing <;> cases clearing
        next => rfl

theorem Followed.credit (phase : pass.phase = .crediting copy channelId rest) (found : pass.tasks[copy]? = some task) :
    Followed first { state.setPass index { pass with phase := .clearing copy channelId rest } with
        refunds := state.refunds ++ [.of task] } := by
  have ok := followed.passes pass (mem_of_getElem? selected)
  have before : pass.credits first.id = decide (task.id = first.id) := by
    unfold credits
    rw [phase]
    simp [found]
  have refunds : ∀ after : State, after.refunds = state.refunds ++ [.of task] →
      refundsOf after first.id = refundsOf state first.id ++ if task.id = first.id then [.of task] else [] := by
    intro after credited
    rw [refundsOf, credited, filter_append]
    simp [refundsOf, Refund.of, filter_cons]
  refine followed.moved selected rfl (fun crediting count => ?_) followed.named (forall_mem_singleton.mpr ?_)
    (fun refunded => ?_) (forall_mem_singleton.mpr fun clearing => ?_) followed.changes
  · obtain ⟨row, lookup, copyOk, standing⟩ := followed.row
    refine ⟨row, lookup, copyOk, ?_⟩
    rw [before, countP_singleton] at count
    rw [refunds _ rfl]
    by_cases mine : task.id = first.id
    · simp only [mine, decide_true, if_true, credits, false_eq_true, if_false] at count ⊢
      have copied := ok.copies task (mem_of_getElem? found)
      cases standing with
      | unfailed | refunded => omega
      | failing failed ended none one =>
        rw [none, show crediting = 0 by omega]
        exact .refunded (.of task) failed ended rfl (copied.mine mine).2.2 (ok.credit (.inl phase) found mine).1 rfl
    · simp only [mine, decide_false, credits, false_eq_true, if_false, Nat.add_zero] at count ⊢
      rw [append_nil, count]
      exact standing
  · refine ⟨ok.copies, ok.nulls, ok.channels, fun entry member => ok.items entry ?_, ?_⟩
    · rw [phase]
      exact member
    · rintro _ _ _ task (same | same) found mine <;> cases same
      exact ok.credit (.inl phase) found mine
  · rw [refunds _ rfl]
    exact append_ne_nil_of_left_ne_nil refunded _
  · have mine : task.id = first.id := by
      simp only [clears, found, any_some] at clearing
      exact of_decide_eq_true clearing
    rw [refunds _ rfl, if_pos mine]
    exact append_ne_nil_of_right_ne_nil _ (cons_ne_nil _ _)

theorem Followed.clear (phase : pass.phase = .clearing copy channelId rest) (found : pass.tasks[copy]? = some task) :
    Followed first { state.setPass index
          { pass with tasks := pass.tasks.set copy { task with quota := 0 }, phase := .answering channelId rest } with
        tasks := state.updateBillingState { task with quota := 0 } } := by
  have ok := followed.passes pass (mem_of_getElem? selected)
  have copied := ok.copies task (mem_of_getElem? found)
  have next : PassOk first
      { pass with tasks := pass.tasks.set copy { task with quota := 0 }, phase := .answering channelId rest } := by
    refine ⟨fun other member => ?_, ok.nulls, ok.channels, fun entry member => ok.items entry ?_, ?_⟩
    · rcases mem_or_eq_of_mem_set member with old | rfl
      · exact ok.copies other old
      · refine ⟨copied.mine, fun mine unfailed => ?_, copied.named⟩
        exact absurd (ok.credit (.inr phase) found mine).2 unfailed
    · rw [phase]
      exact member
    · rintro _ _ _ task (same | same) <;> cases same
  have uncredited : pass.credits first.id = false := by
    unfold credits
    rw [phase]
  have changed : Followed first { state with tasks := state.updateBillingState { task with quota := 0 } } := by
    by_cases mine : task.id = first.id
    · have clears : pass.clears first.id = true := by
        unfold clears
        rw [phase]
        simp only [found, any_some]
        exact decide_eq_true mine
      -- a pass clears the quota only after the refund
      have refunded := followed.cleared pass (mem_of_getElem? selected) clears
      obtain ⟨row, lookup, copyOk, standing⟩ := followed.row
      obtain ⟨_, key⟩ := mem_of_find lookup
      rcases standing with ⟨_, _, none⟩ | ⟨_, _, none⟩ | ⟨refund, failed, ended, refunds, user, quota, crediting⟩
      · exact absurd none refunded
      · exact absurd none refunded
      refine ⟨⟨{ row with
          quota := 0, tokenId := task.tokenId, billingChannelId := task.billingChannelId
          billingSource := task.billingSource }, ?_, ⟨copyOk.mine, fun _ unfailed => absurd failed unfailed, copyOk.named⟩,
        .refunded refund failed ended refunds user quota crediting⟩, ?_, followed.passes, followed.cleared, followed.changes⟩
      · unfold updateBillingState
        rw [find_modify, lookup, map_some]
        exact congrArg some (if_pos (decide_eq_true (key.trans mine.symm)))
      · intro other listed same
        obtain ⟨before, inside, rfl⟩ := mem_map.mp listed
        split at same
        all_goals
          split
          all_goals exact followed.named before inside same
    · have kept : Followed first
          { state with
            tasks := state.updateBillingState { task with quota := 0 }
            changes := state.changes ++ [] } := by
        refine followed.others _ (fun row member selected same => ?_) (fun row member same => decide_eq_false ?_)
          fun change member => by cases member
        · exact mine ((of_decide_eq_true selected).symm.trans (followed.named row member same))
        · exact fun key => mine (key.symm.trans same)
      rwa [append_nil] at kept
  exact changed.setPass selected next uncredited.symm rfl

omit selected

theorem Followed.step (charged : first.quota ≠ 0) (known : first.mjId ≠ "")
    {event : Event} (orderly : Orderly first state event) {next : State}
    (stepped : Midjourney.step state event = some next) : Followed first next := by
  cases event
  case begin =>
    cases stepped
    have ok := followed.begun known
    refine ⟨?_, followed.named, forall_mem_append.mpr ⟨followed.passes, forall_mem_singleton.mpr ok⟩,
      forall_mem_append.mpr ⟨followed.cleared, forall_mem_singleton.mpr nofun⟩, followed.changes⟩
    rw [countP_append]
    exact followed.row
  all_goals
    obtain ⟨pass, selected, guarded⟩ := bind_eq_some_iff.mp stepped
    have ok := followed.passes pass (mem_of_getElem? selected)
  case failNull =>
    split at guarded <;> cases guarded
    next scanning =>
      -- the task has an id upstream, so it is not among those without one
      refine (followed.bulkUpdate none fun row member same => decide_eq_false ?_).setPass selected
        ⟨ok.copies, not_mem_nil, ok.channels, ok.items, ok.credit⟩ rfl ?_
      · rw [same]
        exact ok.nulls
      · simp [clears, scanning.1]
  case scan _ channelId reply =>
    split_ifs at guarded with scanning
    obtain ⟨entry, found, replied⟩ := map_eq_some_iff.mp guarded
    have listed := mem_of_find?_eq_some found
    have matched := find?_some found
    have key : entry.1 = channelId := of_decide_eq_true matched
    have fewer : ∀ other ∈ pass.channels.filter (fun entry => decide (entry.1 ≠ channelId)),
        first.mjId ∈ other.2 → other.1 = first.channelId :=
      fun other member => ok.channels other (mem_filter.mp member).1
    cases reply with
    | channelLost =>
      cases replied
      -- the channel that is lost is not the task's own
      refine (followed.bulkUpdate _ fun row member same => decide_eq_false fun asked => ?_).setPass selected
        ⟨ok.copies, ok.nulls, fewer, ok.items, ok.credit⟩ rfl ?_
      · rw [((followed.row_eq member same).1.mine same).1] at asked
        exact orderly (key.symm.trans (ok.channels entry listed asked))
      · simp [clears, scanning.1]
    | noAnswer =>
      cases replied
      refine followed.setPass selected ⟨ok.copies, ok.nulls, fewer, ok.items, ok.credit⟩ rfl ?_
      simp [clears, scanning.1]
    | answer items =>
      cases replied
      refine followed.setPass selected ⟨ok.copies, ok.nulls, fewer, fun pending member same => ?_, ?_⟩ ?_ rfl
      · obtain ⟨item, inside, rfl⟩ := mem_map.mp member
        -- only a channel that was asked about the task speaks of it
        have asked := orderly pass selected entry listed key item inside same
        exact key.symm.trans (ok.channels entry listed asked)
      · rintro copy channelId items task (same | same) <;> cases same
      · simp [credits, scanning.1]
  case item =>
    have admitted := orderly pass selected
    split at guarded <;> cases guarded
    next phase =>
      refine followed.setPass selected ⟨ok.copies, ok.nulls, ok.channels, ?_, ?_⟩ (credits_answering phase).symm rfl
      · intro entry member
        cases member
      · rintro copy channelId _ task (same | same) <;> cases same
    next channelId _ rest phase => exact followed.enterItem selected charged phase admitted
  case credit =>
    split at guarded
    next copy channelId rest phase =>
      obtain ⟨task, found, rfl⟩ := map_eq_some_iff.mp guarded
      exact followed.credit selected phase found
    · cases guarded
  case clear =>
    split at guarded
    next _ _ _ phase =>
      obtain ⟨_, found, rfl⟩ := map_eq_some_iff.mp guarded
      exact followed.clear selected phase found
    · cases guarded
  case stop =>
    split at guarded <;> cases guarded
    next scanning =>
      refine followed.moved selected rfl (fun crediting count => ?_) followed.named (forall_mem_nil _) id
        (forall_mem_nil _) followed.changes
      have uncredited : pass.credits first.id = false := by simp [credits, scanning.1]
      rw [uncredited, countP_nil] at count
      obtain rfl : crediting = _ := count
      exact followed.row

end

end

/-- For a charged task with an upstream id of its own: it is refunded at most once, in
full and to its user; once it stands failed and finished and no pass is about to refund
it, it has been refunded; and only answers of its channel have changed it. -/
theorem refunded_once {tasks : Table Task.id} {first : Task} (stored : tasks.find first.id = some first)
    (charged : first.quota ≠ 0) (unfailed : first.status ≠ failure) (known : first.mjId ≠ "")
    (unique : ∀ row ∈ tasks.rows, row.mjId = first.mjId → row.id = first.id) {events : List Event} {final : State}
    (run : machine.Runs (Orderly first) (.opened tasks) events final) :
    (refundsOf final first.id).length ≤ 1 ∧
      (∀ refund ∈ refundsOf final first.id, refund.userId = first.userId ∧ refund.quota = first.quota) ∧
      (∀ row, final.tasks.find first.id = some row → row.status = failure → row.progress = finished →
        (∀ pass ∈ final.passes, pass.credits first.id = false) → refundsOf final first.id ≠ []) ∧
      ∀ change ∈ final.changes, change.task = first.id → change.source = .answer first.channelId := by
  have followed : Followed first final := by
    refine run.invariant (Followed first)
      (fun state event next kept orderly stepped => kept.step charged known orderly stepped) ?_
    refine ⟨⟨first, stored, ⟨fun _ => ⟨rfl, rfl, rfl⟩, fun _ _ => rfl, fun _ => rfl⟩, .unfailed unfailed rfl rfl rfl⟩,
      unique, fun pass member => ?_, fun pass member => ?_, fun change member => ?_⟩ <;> cases member
  obtain ⟨row, lookup, _, standing⟩ := followed.row
  have counted : (∀ pass ∈ final.passes, pass.credits first.id = false) →
      final.passes.countP (credits first.id) = 0 := by
    intro none
    rw [countP_eq_zero]
    intro pass member
    rw [none pass member]
    exact false_ne_true
  refine ⟨?_, fun refund member => ?_, fun row' lookup' failed ended none => ?_, followed.changes⟩
  · cases standing with
    | unfailed _ _ none | failing _ _ none => simp [none]
    | refunded _ _ _ one => simp [one]
  · cases standing with
    | unfailed _ _ none | failing _ _ none => rw [none] at member; cases member
    | refunded _ _ _ one user quota =>
      rw [one] at member
      rw [mem_singleton.mp member]
      exact ⟨user, quota⟩
  · cases lookup.symm.trans lookup'
    cases standing with
    | unfailed unfailed => exact absurd failed unfailed
    | failing _ _ _ crediting =>
      rw [counted none] at crediting
      cases crediting
    | refunded _ _ _ one =>
      rw [one]
      exact cons_ne_nil _ _

def drawn (id : Int) (mjId : String) (channelId : Int) : Task :=
  { id, code := 1, userId := 7, mjId, promptEn := "", state := "", submitTime := 0, startTime := 0, finishTime := 0
    imageUrl := "", videoUrl := "", videoUrls := "", status := "IN_PROGRESS", progress := "40%", failReason := ""
    channelId, quota := 10, buttons := "", properties := "", tokenId := 0, billingChannelId := 0, billingSource := "wallet" }

def answered (mjId status progress failReason : String) : MidjourneyDto :=
  { mjId, promptEn := "", state := "", submitTime := 0, startTime := 0, finishTime := 0, imageUrl := "", videoUrl := ""
    videoUrls := none, status, progress, failReason, buttons := none, properties := none }

def twoTasks : Table Task.id := ⟨[drawn 1 "a" 5, drawn 2 "b" 6], by decide⟩
def bothTold (item : MidjourneyDto) : List Event :=
  [.begin, .begin, .scan 0 5 (.answer [item]), .scan 1 5 (.answer [item]), .item 0 1, .item 1 1, .credit 0, .clear 0]

theorem refunded_once_both_told : ∃ final, machine.Runs (Orderly (drawn 1 "a" 5)) (.opened twoTasks)
        (bothTold (answered "a" "FAILURE" "50%" "rejected")) final ∧
      final.refunds = [⟨1, 7, 10, 0, 5, true⟩] ∧ (refundsOf final 1).length ≤ 1 := by
  have summary : (machine.exec (Orderly (drawn 1 "a" 5)) (.opened twoTasks)
      (bothTold (answered "a" "FAILURE" "50%" "rejected"))).map refunds = some [⟨1, 7, 10, 0, 5, true⟩] := by
    decide +kernel
  obtain ⟨final, executed, refunds⟩ := map_eq_some_iff.mp summary
  have run := runs_iff_exec.mpr executed
  exact ⟨final, run, refunds, (refunded_once (by decide) (by decide) (by decide) (by decide) (by decide) run).1⟩

/-- A failure that leaves the status as it was is refunded by both passes, a task whose channel is gone is never
refunded, and a channel answers for a task of another one. -/
theorem refunds_go_wrong :
    (machine.exec unrestricted (.opened twoTasks) (bothTold (answered "a" "IN_PROGRESS" "50%" "rejected")
        ++ [.credit 1])).map refunds = some [⟨1, 7, 10, 0, 5, true⟩, ⟨1, 7, 10, 0, 5, true⟩] ∧
      (machine.exec unrestricted (.opened twoTasks) [.begin, .scan 0 5 .channelLost, .scan 0 6 .noAnswer, .stop 0]).map
        (fun final => (final.passes, final.refunds,
          (final.tasks.find 1).map fun row => (row.status, row.progress, row.quota))) =
        some ([], [], some (failure, finished, 10)) ∧
      (machine.exec unrestricted (.opened twoTasks) [.begin, .scan 0 6 (.answer [answered "a" "SUCCESS" "100%" ""]),
        .item 0 1]).map changes = some [⟨1, .answer 6⟩] := by
  decide +kernel

end FlowAPI.Midjourney
