import FlowAPI.Polling.Machine
import FlowAPI.Semantics.Grouping

/-! Every task is polled on its own channel, unless upstream ids collide.

A pass groups what it read by platform and by channel, and resolves upstream ids through one map for all channels of a
platform. Two tasks of a platform with one upstream id share an entry: the later one is polled on both channels and
the earlier one on none. A Suno answer is resolved through the same map, whatever ids it carries. -/

set_option autoImplicit false
namespace FlowAPI.Polling
open Semantics List Grouping

structure Handover where
  channelId : Int
  taskId : String
  copy : Nat
  deriving DecidableEq, Repr

def Action.handovers (heap : List Task) : Action → List Handover
  | .channel _ channelId taskIds taskM =>
    taskIds.filterMap fun taskId => (lookup heap taskM taskId).map fun found => ⟨channelId, taskId, found.1⟩
  | _ => []

/-- The copy an answer is applied to, with the id the answer is for: a Suno item carries it, a
video answer is the answer to a request for the copy's own id. -/
def Action.delivery (heap : List Task) (channelId : Int) : Action → Option Handover
  | .sunoItem item taskM => (lookup heap taskM item.taskId).map fun found => ⟨channelId, item.taskId, found.1⟩
  | .videoTask taskId taskM =>
    (lookup heap taskM taskId).map fun found => ⟨channelId, found.2.getUpstreamTaskId, found.1⟩
  | _ => none

variable (settings : Settings)

def Action.deliveries (inputs : TaskPlatform → Int → Input) (state : State) :
    Action → List Handover
  | .channel kind channelId taskIds taskM =>
    (runAction settings (inputs kind channelId) state
      (.channel kind channelId taskIds taskM)).2.1.filterMap (Action.delivery state.heap channelId)
  | _ => []

def startedBy (input : Input) (state : State) (action : Action) : List Action :=
  (runAction settings input state action).2.2.flatten
def loadedBy (input : Input) (state : State) : State := (runAction settings input state .poll).1

/-- The poll starts its platforms, a platform goes on to its channels, and these start a call each. -/
def channelCalls (input : Input) (state : State) : List Action :=
  (startedBy settings input state .poll).flatMap fun platform =>
    (runAction settings input (loadedBy settings input state) platform).2.1.flatMap fun next =>
      startedBy settings input (loadedBy settings input state) next

def handovers (settings : Settings) (input : Input) (state : State) : List Handover :=
  (channelCalls settings input state).flatMap (Action.handovers (loadedBy settings input state).heap)

def deliveries (settings : Settings) (input : Input) (inputs : TaskPlatform → Int → Input) (state : State) :
    List Handover :=
  (channelCalls settings input state).flatMap
    (Action.deliveries settings inputs (loadedBy settings input state))

abbrev Placed := Nat × Task
def placed (base : Nat) (rows : List Task) : List Placed := (List.range' base rows.length).zip rows
def Placed.upstreamId (entry : Placed) : String := entry.2.getUpstreamTaskId

def known (platform : TaskPlatform) (entries : List Placed) : List Placed :=
  entries.filter fun entry => entry.2.platform = platform ∧ entry.upstreamId ≠ ""

def taskMap (platform : TaskPlatform) (entries : List Placed) : List (String × Nat) :=
  written Placed.upstreamId Prod.fst (known platform entries)

section
variable {earlier rows : List Task}

theorem mem_placed {base copy : Nat} {task : Task} :
    (copy, task) ∈ placed base rows ↔ ∃ index, copy = base + index ∧ rows[index]? = some task := by
  unfold placed
  simp only [mem_iff_getElem?, List.getElem?_zip_eq_some]
  constructor
  · rintro ⟨index, position, here⟩
    obtain ⟨_, same⟩ := List.getElem?_eq_some_iff.mp position
    exact ⟨index, by simpa using same.symm, here⟩
  · rintro ⟨index, rfl, here⟩
    have bound : index < rows.length := (List.getElem?_eq_some_iff.mp here).1
    exact ⟨index, by simp [bound], here⟩

theorem placed_heap {copy : Nat} {task : Task} (member : (copy, task) ∈ placed earlier.length rows) :
    (earlier ++ rows)[copy]? = some task := by
  obtain ⟨_, rfl, here⟩ := mem_placed.mp member
  rw [getElem?_append_right (by omega)]
  simpa using here

theorem placed_nodup (base : Nat) (rows : List Task) : ((placed base rows).map Prod.fst).Nodup := by
  unfold placed
  rw [map_fst_zip (by simp)]
  exact nodup_range'

theorem read_placed {entries : List Placed} (within : entries ⊆ placed earlier.length rows) :
    ((entries.map Prod.fst).filterMap fun copy =>
      ((earlier ++ rows)[copy]?).map fun task => (copy, task)) = entries := by
  rw [filterMap_map]
  induction entries with
  | nil => rfl
  | cons entry _ step =>
    have here : (earlier ++ rows)[entry.1]? = some entry.2 := placed_heap (within mem_cons_self)
    rw [filterMap_cons]
    simp only [Function.comp, here, Option.map_some, Prod.mk.eta]
    exact congrArg _ (step fun other member => within (mem_cons_of_mem entry member))

theorem groupTasks_placed (platform : TaskPlatform) (earlier rows : List Task) :
    (groupTasks (earlier ++ rows) (((placed earlier.length rows).filter
      fun entry => entry.2.platform = platform).map Prod.fst)).2 =
      (((known platform (placed earlier.length rows)).map (·.2.channelId)).dedup.map fun channelId =>
        (channelId, ((known platform (placed earlier.length rows)).filter
          fun entry => entry.2.channelId = channelId).map Placed.upstreamId),
        taskMap platform (placed earlier.length rows)) := by
  have selected : ((placed earlier.length rows).filter fun entry => entry.2.platform = platform).filter
      (fun entry => entry.2.getUpstreamTaskId ≠ "") = known platform (placed earlier.length rows) := by
    rw [filter_filter]
    refine filter_congr fun entry _ => ?_
    by_cases here : entry.2.platform = platform <;> simp [Placed.upstreamId, here]
  unfold groupTasks
  simp only [read_placed filter_sublist.subset, selected]
  rfl

end

def batch (state : State) : List Placed :=
  placed state.heap.length (state.tasks.getAllUnFinishSyncTasks settings.taskQueryLimit)

def platformCalls (entries : List Placed) (platform : TaskPlatform) : List Action :=
  if platform = .midjourney then []
  else ((known platform entries).map (·.2.channelId)).dedup.map fun channelId =>
    .channel platform channelId
      (((known platform entries).filter fun entry => entry.2.channelId = channelId).map Placed.upstreamId)
      (taskMap platform entries)

section
variable (settings : Settings) {input : Input} (state : State)

theorem loadedBy_heap (readable : input.fault = false) : (loadedBy settings input state).heap =
      state.heap ++ state.tasks.getAllUnFinishSyncTasks settings.taskQueryLimit := by
  simp [loadedBy, runAction, readable, State.load]

theorem startedBy_bulkUpdate (loaded : State) (ids : List Int) (failReason : Option String) :
    startedBy settings input loaded (.bulkUpdate ids failReason) = [] := by
  simp only [startedBy, runAction]
  split_ifs <;> rfl

theorem platform_continues (loaded : State) (platform : TaskPlatform) {entries : List Placed}
    {earlier rows : List Task} (heap : loaded.heap = earlier ++ rows) (read : entries = placed earlier.length rows) :
    ((runAction settings input loaded (.platform platform
      ((entries.filter fun entry => entry.2.platform = platform).map Prod.fst))).2.1.flatMap
        fun next => startedBy settings input loaded next) = platformCalls entries platform := by
  subst read
  have grouped := groupTasks_placed platform earlier rows
  rw [Prod.ext_iff] at grouped
  unfold platformCalls
  simp only [runAction, heap, grouped.1, grouped.2, flatMap_append]
  have failed : ∀ ids : List Int, (if ids = [] then [] else [Action.bulkUpdate ids none]).flatMap
      (fun next => startedBy settings input loaded next) = [] := by
    intro ids
    split_ifs <;> simp [startedBy_bulkUpdate]
  rw [failed, nil_append]
  split_ifs
  · rfl
  · simp [startedBy, runAction, ← flatMap_def, ← map_eq_flatMap, Function.comp_def]

theorem channelCalls_eq (readable : input.fault = false) : channelCalls settings input state =
      ((batch settings state).map (·.2.platform)).dedup.flatMap (platformCalls (batch settings state)) := by
  have platforms : (batch settings state).map (·.2.platform) =
      (state.tasks.getAllUnFinishSyncTasks settings.taskQueryLimit).map Task.platform := by
    have seconds : (batch settings state).map Prod.snd =
        state.tasks.getAllUnFinishSyncTasks settings.taskQueryLimit := map_snd_zip (by simp)
    rw [← seconds, map_map]
    rfl
  have begun : startedBy settings input state .poll =
      ((batch settings state).map (·.2.platform)).dedup.map fun platform => .platform platform
        (((batch settings state).filter fun entry => entry.2.platform = platform).map Prod.fst) := by
    rw [platforms]
    unfold startedBy
    simp only [runAction, readable, State.load, batch, placed]
    exact map_eq_flatMap.symm
  unfold channelCalls
  rw [begun, flatMap_map]
  refine flatMap_congr fun platform _ => ?_
  exact platform_continues settings _ platform (loadedBy_heap settings state readable) rfl

end

def polled (entries : List Placed) : List Placed :=
  entries.filter fun entry => entry.2.platform ≠ .midjourney ∧ entry.upstreamId ≠ ""

variable {entry : Placed}

theorem mem_known {platform : TaskPlatform} {entries : List Placed} :
    entry ∈ known platform entries ↔ entry ∈ entries ∧ entry.2.platform = platform ∧ entry.upstreamId ≠ "" := by
  simp [known]

theorem mem_polled {entries : List Placed} :
    entry ∈ polled entries ↔ entry ∈ entries ∧ entry.2.platform ≠ .midjourney ∧ entry.upstreamId ≠ "" := by
  simp [polled]

def Held (heap : List Task) (entries : List Placed) : Prop := ∀ entry ∈ entries, heap[entry.1]? = some entry.2

section
variable {heap : List Task} {entries : List Placed} {platform : TaskPlatform}

theorem lookup_known (held : Held heap entries) {taskId : String} {found : Placed}
    (here : lookup heap (taskMap platform entries) taskId = some found) :
    found ∈ known platform entries ∧ found.upstreamId = taskId := by
  obtain ⟨_, looked, read⟩ := Option.bind_eq_some_iff.mp here
  obtain ⟨entry, member, sameId, rfl⟩ := written_lookup _ _ looked
  have there := held entry (mem_known.mp member).1
  rw [there, Option.map_some] at read
  cases read
  exact ⟨member, sameId⟩

theorem lookup_isSome (held : Held heap entries) (member : entry ∈ known platform entries) :
    ∃ found, lookup heap (taskMap platform entries) entry.upstreamId = some found := by
  obtain ⟨_, looked⟩ := written_holds Placed.upstreamId Prod.fst member
  obtain ⟨other, known, -, rfl⟩ := written_lookup _ _ looked
  refine ⟨(other.1, other.2), ?_⟩
  unfold lookup taskMap
  rw [looked, Option.bind_some, held other (mem_known.mp known).1]
  rfl

def Resolves (heap : List Task) (entries : List Placed) (entry : Placed) : Prop :=
  lookup heap (taskMap entry.2.platform entries) entry.upstreamId = some entry

def handoverOf (heap : List Task) (entries : List Placed) (entry : Placed) : Handover :=
  { channelId := entry.2.channelId, taskId := entry.upstreamId
    copy := ((lookup heap (taskMap entry.2.platform entries) entry.upstreamId).map Prod.fst).getD 0 }

def ownHandover (entry : Placed) : Handover := ⟨entry.2.channelId, entry.upstreamId, entry.1⟩

theorem handoverOf_of_resolves (resolves : Resolves heap entries entry) :
    handoverOf heap entries entry = ownHandover entry := by
  unfold handoverOf
  rw [show lookup heap (taskMap entry.2.platform entries) entry.upstreamId = some entry from resolves]
  rfl

theorem known_eq (noMidjourney : platform ≠ .midjourney) :
    known platform entries = (polled entries).filter fun entry => entry.2.platform = platform := by
  unfold known polled
  rw [filter_filter]
  refine filter_congr fun entry _ => ?_
  by_cases here : entry.2.platform = platform
  · simp [here, noMidjourney]
  · simp [here]

theorem channel_handovers (held : Held heap entries) (channelId : Int) :
    Action.handovers heap (.channel platform channelId
        (((known platform entries).filter fun entry => entry.2.channelId = channelId).map Placed.upstreamId)
        (taskMap platform entries)) = ((known platform entries).filter fun entry => entry.2.channelId = channelId).map
        (handoverOf heap entries) := by
  simp only [Action.handovers]
  rw [filterMap_map, ← filterMap_eq_map]
  refine filterMap_congr fun entry within => ?_
  obtain ⟨member, onChannel⟩ := mem_filter.mp within
  have onChannel : entry.2.channelId = channelId := by simpa using onChannel
  have onPlatform : entry.2.platform = platform := (mem_known.mp member).2.1
  obtain ⟨_, here⟩ := lookup_isSome held member
  simp [here, handoverOf, onPlatform, onChannel]

theorem platformCalls_handovers (held : Held heap entries) (platform : TaskPlatform) :
    ((platformCalls entries platform).flatMap (Action.handovers heap)).Perm
      (((polled entries).filter fun entry => entry.2.platform = platform).map (handoverOf heap entries)) := by
  unfold platformCalls
  split_ifs with isMidjourney
  · have none : ((polled entries).filter fun entry => entry.2.platform = platform) = [] := by
      rw [filter_eq_nil_iff]
      intro entry within onPlatform
      exact (mem_polled.mp within).2.1 (isMidjourney ▸ of_decide_eq_true onPlatform)
    rw [none]
    exact .nil
  · rw [← known_eq isMidjourney, flatMap_map]
    simp only [channel_handovers held]
    rw [← map_flatMap]
    exact (grouped_perm (fun entry : Placed => entry.2.channelId) _).map _

end

section
variable (settings : Settings) {input : Input} (state : State)

theorem batch_held (readable : input.fault = false) :
    Held (loadedBy settings input state).heap (batch settings state) := by
  intro entry member
  rw [loadedBy_heap settings state readable]
  exact placed_heap member

theorem handovers_perm (readable : input.fault = false) :
    (handovers settings input state).Perm ((polled (batch settings state)).map
      (handoverOf (loadedBy settings input state).heap (batch settings state))) := by
  unfold handovers
  rw [channelCalls_eq settings state readable, flatMap_assoc]
  have perPlatform := List.Perm.flatMap_left ((batch settings state).map (·.2.platform)).dedup
    fun platform _ => platformCalls_handovers (batch_held settings state readable) platform
  refine perPlatform.trans ?_
  rw [← map_flatMap]
  refine (flatMap_filter_perm (fun entry : Placed => entry.2.platform) (nodup_dedup _)
    fun entry member => ?_).map _
  exact mem_dedup.mpr (mem_map_of_mem (mem_polled.mp member).1)

end

open Polling.Action

section
variable (settings : Settings) {input : Input} (state : State)

def answeredIds (input : Input) : List String :=
  if input.channelFound = false ∨ input.adaptorFound = false then []
  else (input.items.getD []).map SunoItem.taskId

theorem suno_deliveries (inputs : TaskPlatform → Int → Input) (loaded : State) (channelId : Int)
    (taskIds : List String) (taskM : List (String × Nat)) :
    Action.deliveries settings inputs loaded (.channel .suno channelId taskIds taskM) =
      (answeredIds (inputs .suno channelId)).filterMap fun taskId =>
        (lookup loaded.heap taskM taskId).map fun found => ⟨channelId, taskId, found.1⟩ := by
  simp only [Action.deliveries, runAction, answeredIds]
  split_ifs with missing unadapted absent <;> simp_all [delivery, filterMap_map, Function.comp_def]

variable {delivery : Handover}

theorem video_deliveries {inputs : TaskPlatform → Int → Input} {loaded : State} {platform : TaskPlatform}
    (video : platform ≠ .suno) {channelId : Int} {taskIds : List String} {taskM : List (String × Nat)}
    (applied : delivery ∈ Action.deliveries settings inputs loaded (.channel platform channelId taskIds taskM)) :
    ∃ taskId ∈ taskIds, ∃ found, lookup loaded.heap taskM taskId = some found ∧
      delivery = ⟨channelId, found.2.getUpstreamTaskId, found.1⟩ := by
  simp only [Action.deliveries, runAction] at applied
  split_ifs at applied
  · simp [Action.delivery] at applied
  · simp at applied
  · cases platform with
    | suno => exact absurd rfl video
    | midjourney | video =>
      simp only [filterMap_map, mem_filterMap, Function.comp, Action.delivery, Option.map_eq_some_iff] at applied
      obtain ⟨taskId, asked, found, here, rfl⟩ := applied
      exact ⟨taskId, asked, found, here, rfl⟩

/-- Every task with an upstream id is handed over once, to its own channel under its own id, and
every answer that is applied to it comes from that channel and is for that id. -/
structure PolledOwn (input : Input) (inputs : TaskPlatform → Int → Input) : Prop where
  once : ∀ entry ∈ batch settings state, entry.upstreamId ≠ "" →
    ((handovers settings input state).filter fun handover => handover.copy = entry.1) = [ownHandover entry]
  own : ∀ entry ∈ batch settings state, entry.upstreamId ≠ "" →
    ∀ delivery ∈ deliveries settings input inputs state, delivery.copy = entry.1 → delivery = ownHandover entry

/-- No two tasks of a platform share an upstream id, and no Suno channel answers for a task of
another one. Midjourney is polled elsewhere. -/
structure Separate (inputs : TaskPlatform → Int → Input) : Prop where
  elsewhere : ∀ entry ∈ batch settings state, entry.upstreamId ≠ "" → entry.2.platform ≠ .midjourney
  distinct : ∀ first ∈ batch settings state, ∀ second ∈ batch settings state,
    first.2.platform = second.2.platform → first.upstreamId = second.upstreamId → first.upstreamId ≠ "" →
    first = second
  answered : ∀ asked ∈ known .suno (batch settings state), ∀ entry ∈ known .suno (batch settings state),
    entry.upstreamId ∈ answeredIds (inputs .suno asked.2.channelId) → entry.2.channelId = asked.2.channelId

variable {settings} {state} {inputs : TaskPlatform → Int → Input}

theorem batch_unique {first second : Placed} (left : first ∈ batch settings state)
    (right : second ∈ batch settings state) (same : first.1 = second.1) : first = second :=
  inj_on_of_nodup_map (placed_nodup _ _) left right same

variable {entry : Placed} (readable : input.fault = false)
include readable

section
variable (separate : Separate settings state inputs) (member : entry ∈ batch settings state)
  (named : entry.upstreamId ≠ "")
include separate member named

theorem Separate.resolves : Resolves (loadedBy settings input state).heap (batch settings state) entry := by
  have held := batch_held settings state readable
  have known : entry ∈ known entry.2.platform (batch settings state) := mem_known.mpr ⟨member, rfl, named⟩
  obtain ⟨found, here⟩ := lookup_isSome held known
  obtain ⟨there, sameId⟩ := lookup_known held here
  obtain ⟨foundMember, samePlatform, foundNamed⟩ := mem_known.mp there
  have same : found = entry := separate.distinct found foundMember entry member samePlatform sameId foundNamed
  unfold Resolves
  rw [here, same]

theorem Separate.once :
    ((handovers settings input state).filter fun handover => handover.copy = entry.1) = [ownHandover entry] := by
  have owned : (polled (batch settings state)).map (handoverOf (loadedBy settings input state).heap
      (batch settings state)) = (polled (batch settings state)).map ownHandover := by
    refine map_congr_left fun other within => ?_
    obtain ⟨otherMember, _, otherNamed⟩ := mem_polled.mp within
    exact handoverOf_of_resolves (separate.resolves readable otherMember otherNamed)
  have rearranged := (handovers_perm settings state readable).filter fun handover => handover.copy = entry.1
  rw [owned, filter_map] at rearranged
  have distinct : ((polled (batch settings state)).map Prod.fst).Nodup :=
    (placed_nodup _ _).sublist (filter_sublist.map _)
  have alone := filter_key_eq Prod.fst distinct
    (mem_polled.mpr ⟨member, separate.elsewhere entry member named, named⟩)
  have selected : (polled (batch settings state)).filter
      ((fun handover : Handover => decide (handover.copy = entry.1)) ∘ ownHandover) = [entry] := alone
  rw [selected] at rearranged
  exact perm_singleton.mp rearranged
end

theorem mem_deliveries (applied : delivery ∈ deliveries settings input inputs state) :
    ∃ asked ∈ batch settings state, asked.upstreamId ≠ "" ∧ ∃ found,
      found ∈ known asked.2.platform (batch settings state) ∧
      delivery = ⟨asked.2.channelId, found.upstreamId, found.1⟩ ∧
      (if asked.2.platform = .suno then found.upstreamId ∈ answeredIds (inputs .suno asked.2.channelId)
        else ∃ other ∈ known asked.2.platform (batch settings state),
          other.2.channelId = asked.2.channelId ∧ other.upstreamId = found.upstreamId) := by
  have held := batch_held settings state readable
  unfold deliveries at applied
  rw [channelCalls_eq settings state readable, flatMap_assoc] at applied
  obtain ⟨platform, _, within⟩ := mem_flatMap.mp applied
  obtain ⟨_, called, within⟩ := mem_flatMap.mp within
  unfold platformCalls at called
  split_ifs at called with isMidjourney
  · exact absurd called not_mem_nil
  obtain ⟨_, onChannel, rfl⟩ := mem_map.mp called
  obtain ⟨asked, member, rfl⟩ := mem_map.mp (mem_dedup.mp onChannel)
  obtain ⟨askedMember, rfl, askedNamed⟩ := mem_known.mp member
  refine ⟨asked, askedMember, askedNamed, ?_⟩
  by_cases suno : asked.2.platform = .suno
  · rw [suno, suno_deliveries] at within
    obtain ⟨taskId, answered, looked⟩ := mem_filterMap.mp within
    obtain ⟨found, here, rfl⟩ := Option.map_eq_some_iff.mp looked
    obtain ⟨there, rfl⟩ := lookup_known held here
    exact ⟨found, suno ▸ there, rfl, by rw [if_pos suno]; exact answered⟩
  obtain ⟨_, listed, found, here, rfl⟩ := video_deliveries settings suno within
  obtain ⟨there, rfl⟩ := lookup_known held here
  obtain ⟨other, otherWithin, sameId⟩ := mem_map.mp listed
  obtain ⟨otherKnown, sameChannel⟩ := mem_filter.mp otherWithin
  exact ⟨found, there, rfl, by
    rw [if_neg suno]
    exact ⟨other, otherKnown, of_decide_eq_true sameChannel, sameId⟩⟩

theorem Separate.own (separate : Separate settings state inputs) (member : entry ∈ batch settings state)
    (applied : delivery ∈ deliveries settings input inputs state) (here : delivery.copy = entry.1) :
    delivery = ownHandover entry := by
  obtain ⟨asked, askedMember, askedNamed, found, there, rfl, origin⟩ := mem_deliveries readable applied
  obtain ⟨foundMember, samePlatform, foundNamed⟩ := mem_known.mp there
  have same : found = entry := batch_unique foundMember member here
  subst same
  have onChannel : found.2.channelId = asked.2.channelId := by
    split_ifs at origin with suno
    · exact separate.answered asked (mem_known.mpr ⟨askedMember, suno, askedNamed⟩) found
        (mem_known.mpr ⟨foundMember, samePlatform.trans suno, foundNamed⟩) origin
    obtain ⟨other, otherKnown, otherChannel, otherId⟩ := origin
    obtain ⟨otherMember, otherPlatform, otherNamed⟩ := mem_known.mp otherKnown
    have one : other = found := separate.distinct other otherMember found foundMember
      (otherPlatform.trans samePlatform.symm) otherId otherNamed
    exact one ▸ otherChannel
  unfold ownHandover
  rw [onChannel]

theorem PolledOwn.resolves (owned : PolledOwn settings state input inputs) (member : entry ∈ batch settings state)
    (named : entry.upstreamId ≠ "") :
    entry.2.platform ≠ .midjourney ∧ Resolves (loadedBy settings input state).heap (batch settings state) entry := by
  have held := batch_held settings state readable
  have handed : ownHandover entry ∈ handovers settings input state := by
    have selected : ownHandover entry ∈ (handovers settings input state).filter
        fun handover => handover.copy = entry.1 := by
      rw [owned.once entry member named]
      exact mem_singleton_self _
    exact mem_of_mem_filter selected
  obtain ⟨_, within, same⟩ := mem_map.mp ((handovers_perm settings state readable).mem_iff.mp handed)
  obtain ⟨otherMember, notMidjourney, otherNamed⟩ := mem_polled.mp within
  obtain ⟨found, here⟩ := lookup_isSome held (mem_known.mpr ⟨otherMember, rfl, otherNamed⟩)
  obtain ⟨there, sameId⟩ := lookup_known held here
  obtain ⟨foundMember, samePlatform, -⟩ := mem_known.mp there
  have samePlace : found.1 = entry.1 := by
    have copies := congrArg Handover.copy same
    simpa [handoverOf, here, ownHandover] using copies
  have one : found = entry := batch_unique foundMember member samePlace
  subst one
  refine ⟨samePlatform ▸ notMidjourney, ?_⟩
  unfold Resolves
  rw [samePlatform, sameId, here]

theorem PolledOwn.separate (owned : PolledOwn settings state input inputs) : Separate settings state inputs where
  elsewhere := fun _ member named => (owned.resolves readable member named).1
  distinct := by
    intro first firstMember second secondMember samePlatform sameId named
    have left := (owned.resolves readable firstMember named).2
    have right := (owned.resolves readable secondMember (sameId ▸ named)).2
    unfold Resolves at left right
    rw [samePlatform, sameId, right] at left
    exact (Option.some.inj left).symm
  answered := by
    intro asked askedKnown entry entryKnown answered
    obtain ⟨member, suno, named⟩ := mem_known.mp entryKnown
    have resolves := (owned.resolves readable member named).2
    unfold Resolves at resolves
    rw [suno] at resolves
    -- the channel's call is among the calls, and its answer reaches the entry
    have delivered : (⟨asked.2.channelId, entry.upstreamId, entry.1⟩ : Handover) ∈
        deliveries settings input inputs state := by
      unfold deliveries
      rw [channelCalls_eq settings state readable, flatMap_assoc]
      have called := mem_map_of_mem (f := fun channelId => channel .suno channelId
        (((known .suno (batch settings state)).filter fun entry => entry.2.channelId = channelId).map
          Placed.upstreamId) (taskMap .suno (batch settings state)))
        (mem_dedup.mpr (mem_map_of_mem (f := fun asked : Placed => asked.2.channelId) askedKnown))
      refine mem_flatMap.mpr ⟨.suno, ?_, mem_flatMap.mpr ⟨_, called, ?_⟩⟩
      · exact mem_dedup.mpr (mem_map.mpr ⟨entry, member, suno⟩)
      · rw [suno_deliveries]
        exact mem_filterMap.mpr ⟨entry.upstreamId, answered, by rw [resolves]; rfl⟩
    exact (congrArg Handover.channelId (owned.own entry member named _ delivered rfl)).symm

omit readable

/-- A pass polls every task on its own channel and applies only its own answers exactly if no
two tasks of a platform share an upstream id and Suno channels answer for their own tasks. -/
theorem polled_own_iff (settings : Settings) (state : State) (input : Input)
    (inputs : TaskPlatform → Int → Input) (readable : input.fault = false) :
    PolledOwn settings state input inputs ↔ Separate settings state inputs :=
  ⟨fun owned => owned.separate readable, fun separate =>
    { once := fun _ member named => separate.once readable member named
      own := fun _ member _ _ applied here => separate.own readable member applied here }⟩

end

def onChannel (channelId : Int) (task : Task) : Task := { task with channelId }

def twoVideos (first second : String) : State :=
  .opened
    { rows := [onChannel 7 (sampleTask 1 (.video "kling") first), onChannel 8 (sampleTask 2 (.video "kling") second)]
      unique := by simp [onChannel, sampleTask] }

theorem polled_own_two_channels : PolledOwn pollOnly (twoVideos "up-1" "up-2") quietInput (fun _ _ => quietInput) :=
  (polled_own_iff pollOnly (twoVideos "up-1" "up-2") quietInput (fun _ _ => quietInput) rfl).mpr
    ⟨by decide, by decide, by decide⟩

/-- Both channels are given the second task, and the first one is polled by nobody. -/
theorem equal_ids_share_a_task : handovers pollOnly quietInput (twoVideos "up" "up") = [⟨7, "up", 1⟩, ⟨8, "up", 1⟩] ∧
      ¬PolledOwn pollOnly (twoVideos "up" "up") quietInput (fun _ _ => quietInput) := by
  have handed : handovers pollOnly quietInput (twoVideos "up" "up") = [⟨7, "up", 1⟩, ⟨8, "up", 1⟩] := by decide
  refine ⟨handed, fun owned => ?_⟩
  have once := owned.once (0, onChannel 7 (sampleTask 1 (.video "kling") "up")) (by decide) (by decide)
  revert once
  decide

end FlowAPI.Polling
