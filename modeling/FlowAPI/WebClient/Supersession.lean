import FlowAPI.WebClient.Refresh

/-! What a refresh may do to a tab in which other things happen meanwhile.

A run looks at the epoch whenever it goes on, so it changes the tab only while nobody has signed
in, signed out or rotated the token since it began. It sends at most eight requests: four before
the one retry after a mismatch and four after it.
-/

set_option autoImplicit false
namespace FlowAPI.WebClient
open Semantics List Option Machine Event Stage Auth Nat

theorem Auth.clear_authEpoch (synchronizeTabs : Bool) (bootstrapState : Option BootstrapState) (auth : Auth) :
    auth.authEpoch ≤ (auth.clear synchronizeTabs bootstrapState).authEpoch := by
  unfold clear
  split_ifs
  · exact le_rfl
  · rw [clearAuthentication_authEpoch]
    exact le_succ _

namespace Stage

def remaining : Stage → Nat
  | .locked => 8
  | .requested raceAttempt allowMismatchRetry => 3 - raceAttempt + if allowMismatchRetry then 4 else 0
  | .delayed _ raceAttempt allowMismatchRetry => 3 - raceAttempt + 1 + if allowMismatchRetry then 4 else 0
  | .settled _ | .rejected => 0

def wakes : Stage → Nat
  | .locked => 15
  | .requested raceAttempt allowMismatchRetry => 2 * (3 - raceAttempt) + 1 + if allowMismatchRetry then 7 else 0
  | .delayed _ raceAttempt allowMismatchRetry => 2 * (3 - raceAttempt) + 2 + if allowMismatchRetry then 7 else 0
  | .settled _ | .rejected => 0

theorem wakes_le (stage : Stage) : stage.wakes ≤ 15 := by
  cases stage with
  | locked | settled | rejected => simp [wakes]
  | requested | delayed =>
    simp only [wakes]
    split_ifs <;> omega

end Stage

structure Resumption (auth : Auth) (refresh : Refresh) (next : Auth × Refresh) : Prop where
  guarded : next.1 = auth ∨ auth.authEpoch = refresh.refreshEpoch
  forward : auth.authEpoch ≤ next.1.authEpoch
  same : next.2.refreshEpoch = refresh.refreshEpoch
  sends : next.2.requests.length + next.2.stage.remaining ≤ refresh.requests.length + refresh.stage.remaining
  wakes : next.2.stage.wakes < refresh.stage.wakes
  pending : refresh.inFlight = true

open Resumption hiding wakes
variable {refresh : Refresh} {tab next : Tab} {event : Event}

section
variable {auth next : Auth}

theorem Resumption.ends (outcome : Stage) (ended : outcome = .rejected ∨ ∃ value, outcome = .settled value)
    (guarded : next = auth ∨ auth.authEpoch = refresh.refreshEpoch)
    (forward : auth.authEpoch ≤ next.authEpoch) (waits : 0 < refresh.stage.wakes)
    (pending : refresh.inFlight = true) : Resumption auth refresh (next, { refresh with stage := outcome }) := by
  have spent : outcome.remaining = 0 ∧ outcome.wakes = 0 := by rcases ended with rfl | ⟨_, rfl⟩ <;> exact ⟨rfl, rfl⟩
  refine ⟨guarded, forward, rfl, ?_, ?_, pending⟩
  · simp only [spent.1]
    omega
  · simpa only [spent.2] using waits

theorem Resumption.run {raceAttempt : Nat} {allowMismatchRetry : Bool}
    (guarded : next = auth ∨ auth.authEpoch = refresh.refreshEpoch) (forward : auth.authEpoch ≤ next.authEpoch)
    (sends : (requested raceAttempt allowMismatchRetry).remaining < refresh.stage.remaining)
    (wakes : (requested raceAttempt allowMismatchRetry).wakes < refresh.stage.wakes)
    (pending : refresh.inFlight = true) :
    Resumption auth refresh (next, refresh.run next raceAttempt allowMismatchRetry) := by
  unfold Refresh.run
  split_ifs
  · refine ⟨guarded, forward, rfl, ?_, wakes, pending⟩
    simp only [length_append, length_singleton]
    omega
  · exact ends _ (.inr ⟨_, rfl⟩) guarded forward (by omega) pending

end

theorem answer_resumption {auth : Auth} {raceAttempt : Nat} {allowMismatchRetry : Bool}
    (here : refresh.stage = .requested raceAttempt allowMismatchRetry) (response : RefreshResponse) :
    Resumption auth refresh (refresh.answer auth raceAttempt allowMismatchRetry response) := by
  have pending : refresh.inFlight = true := by simp [Refresh.inFlight, here]
  have waits : 0 < refresh.stage.wakes := by
    rw [here]
    simp only [wakes]
    omega
  simp only [Refresh.answer]
  split
  next current =>
    have epoch : auth.authEpoch = refresh.refreshEpoch := of_decide_eq_true current
    have ended (next : Auth) (outcome : RefreshOutcome) (forward : auth.authEpoch ≤ next.authEpoch) :
        Resumption auth refresh (next, refresh.settle outcome) :=
      ends _ (.inr ⟨_, rfl⟩) (.inr epoch) forward waits pending
    split
    · exact ended _ _ (by simp)
    split_ifs with race mismatch allowed unauthorized transient
    · split
      next _ found =>
        have bound : _ < 3 := (List.getElem?_eq_some_iff.mp found).1
        refine ⟨.inl rfl, le_rfl, rfl, ?_, ?_, pending⟩
        · simp only [here, remaining]
          omega
        · simp only [here, wakes]
          omega
      · exact ended _ _ (clear_authEpoch _ _ _)
    · refine run (.inr epoch) (clear_authEpoch _ _ _) ?_ ?_ pending
      · simp [here, remaining, allowed]
      · simp [here, wakes, allowed]
    · exact ended _ _ (clear_authEpoch _ _ _)
    · exact ended _ _ (clear_authEpoch _ _ _)
    · exact ended _ _ le_rfl
    · exact ended _ _ (clear_authEpoch _ _ _)
  · exact ends _ (.inr ⟨_, rfl⟩) (.inl rfl) le_rfl waits pending

theorem resume_resumption {auth : Auth} {wake : Wake} {next : Auth × Refresh}
    (resumed : refresh.resume auth wake = some next) : Resumption auth refresh next := by
  cases wake with simp only [Refresh.resume] at resumed
  | granted =>
    split at resumed <;> cases resumed
    next here =>
      refine run (.inl rfl) le_rfl ?_ ?_ (by simp [Refresh.inFlight, here])
      · simp [here, remaining]
      · simp [here, wakes]
  | refused =>
    split at resumed <;> cases resumed
    next here =>
      refine ends _ (.inl rfl) (.inl rfl) le_rfl ?_ (by simp [Refresh.inFlight, here])
      simp [here, wakes]
  | answered response =>
    split at resumed <;> cases resumed
    next raceAttempt allowMismatchRetry here => exact answer_resumption here response
  | elapsed =>
    split at resumed <;> cases resumed
    next _ _ _ here =>
      refine run (.inl rfl) le_rfl ?_ ?_ (by simp [Refresh.inFlight, here])
      · simp only [here, remaining]
        omega
      · simp only [here, wakes]
        omega

def Event.resumes (index : Nat) : Event → Bool
  | .resume other _ => other = index
  | _ => false

inductive Tab.Move (tab : Tab) : Event → Tab → Prop where
  | stays {event : Event} {next : Tab} (runs : next.runs = tab.runs)
      (promise : next.refreshPromise = tab.refreshPromise)
      (forward : tab.auth.authEpoch ≤ next.auth.authEpoch)
      (changed : next.changes = tab.changes ∨ tab.auth.authEpoch < next.auth.authEpoch)
      (elsewhere : ∀ index, event.resumes index = false) : Tab.Move tab event next
  | begins {event : Event} {next : Tab} (refresh : Refresh) (runs : next.runs = tab.runs ++ [refresh])
      (idle : tab.refreshPromise = none) (promise : next.refreshPromise = some tab.runs.length)
      (epoch : next.auth.authEpoch = tab.auth.authEpoch) (changes : next.changes = tab.changes)
      (current : refresh.refreshEpoch = tab.auth.authEpoch)
      (bounded : refresh.requests.length + refresh.stage.remaining ≤ 8)
      (elsewhere : ∀ index, event.resumes index = false) : Tab.Move tab event next
  | resumes (index : Nat) (wake : Wake) {refresh : Refresh} {resumed : Auth × Refresh}
      (here : tab.runs[index]? = some refresh) (resumption : Resumption tab.auth refresh resumed) :
      Tab.Move tab (.resume index wake) { tab with auth := resumed.1, runs := tab.runs.set index resumed.2 }
  | finalizes (index : Nat) {refresh : Refresh} (here : tab.runs[index]? = some refresh)
      (ended : refresh.inFlight = false) (promise : tab.refreshPromise = some index) :
      Tab.Move tab (.finalize index) { tab with refreshPromise := none }

theorem performRefresh_begins (auth : Auth) (locks : Locks) :
    (performRefreshWithBrowserLock auth auth.authEpoch locks).1.authEpoch = auth.authEpoch ∧
      (performRefreshWithBrowserLock auth auth.authEpoch locks).2.refreshEpoch = auth.authEpoch ∧
      (performRefreshWithBrowserLock auth auth.authEpoch locks).2.requests.length +
        (performRefreshWithBrowserLock auth auth.authEpoch locks).2.stage.remaining ≤ 8 := by
  cases locks with
  | absent => simp [performRefreshWithBrowserLock, Refresh.run, isCurrent, remaining]
  | present => simp [performRefreshWithBrowserLock, remaining]
  | throws => simp [performRefreshWithBrowserLock, markTransient, remaining]

section

theorem refreshAuthentication_move {called : Tab} (locks : Locks)
    (runs : called.runs = tab.runs) (promise : called.refreshPromise = tab.refreshPromise)
    (epoch : called.auth.authEpoch = tab.auth.authEpoch) (changes : called.changes = tab.changes)
    (elsewhere : ∀ index, event.resumes index = false) : tab.Move event (called.refreshAuthentication locks) := by
  obtain ⟨same, current, bounded⟩ := performRefresh_begins called.auth locks
  unfold Tab.refreshAuthentication
  split
  · exact .stays runs promise epoch.ge (.inl changes) elsewhere
  next idle =>
    refine .begins _ ?_ (promise ▸ idle) ?_ (same.trans epoch) changes (current.trans epoch) bounded elsewhere
    · simp [runs]
    · simp [runs]

theorem step_move (stepped : tab.step event = some next) : tab.Move event next := by
  cases event with simp only [Tab.step] at stepped
  | refresh locks =>
    cases stepped
    exact refreshAuthentication_move locks rfl rfl rfl rfl fun _ => rfl
  | bootstrap _ locks =>
    cases stepped
    unfold Tab.bootstrapAuthentication
    split
    · exact .stays rfl rfl le_rfl (.inl rfl) fun _ => rfl
    simp only
    split_ifs
    · exact .stays rfl rfl le_rfl (.inl rfl) fun _ => rfl
    · exact refreshAuthentication_move locks rfl rfl rfl rfl fun _ => rfl
  | resume index wake =>
    simp only [bind_eq_bind, bind_eq_some_iff] at stepped
    obtain ⟨refresh, here, _, woken, same⟩ := stepped
    cases same
    exact .resumes index wake here (resume_resumption woken)
  | finalize index =>
    simp only [bind_eq_bind, bind_eq_some_iff] at stepped
    obtain ⟨refresh, here, _, allowed, same⟩ := stepped
    cases same
    obtain ⟨ended, promise⟩ : refresh.inFlight = false ∧ tab.refreshPromise = some index := by simpa using allowed
    exact .finalizes index here ended promise
  | signIn | signOut =>
    cases stepped
    refine .stays rfl rfl ?_ (.inr ?_) fun _ => rfl <;> simp
  | rotate =>
    split at stepped <;> cases stepped
    next _ applied =>
      have epoch := applyAuthRotation_authEpoch applied
      exact .stays rfl rfl (by simp [epoch]) (.inr (by simp [epoch])) fun _ => rfl
    · exact .stays rfl rfl le_rfl (.inl rfl) fun _ => rfl

end

structure Tab.Sound (tab : Tab) : Prop where
  bounded : ∀ refresh ∈ tab.runs, refresh.requests.length + refresh.stage.remaining ≤ 8
  promised : ∀ index refresh, tab.runs[index]? = some refresh → refresh.inFlight = true →
    tab.refreshPromise = some index

/-- Since an earlier moment the epoch has not gone back, and where it is the same nobody has
signed in, signed out or rotated the token. -/
structure Tab.Since (earlier tab : Tab) : Prop where
  forward : earlier.auth.authEpoch ≤ tab.auth.authEpoch
  unchanged : tab.auth.authEpoch = earlier.auth.authEpoch → tab.changes = earlier.changes

section

theorem Tab.Move.sound (move : tab.Move event next) (sound : tab.Sound) : next.Sound := by
  cases move with
  | stays runs promise =>
    constructor
    · rw [runs]
      exact sound.bounded
    · rw [runs, promise]
      exact sound.promised
  | begins _ runs idle promise _ _ _ bounded =>
    constructor
    · intro refresh member
      rw [runs] at member
      rcases mem_append.mp member with earlier | last
      · exact sound.bounded refresh earlier
      · exact mem_singleton.mp last ▸ bounded
    · intro index refresh found pending
      rw [runs] at found
      rcases lt_or_ge index tab.runs.length with earlier | late
      · -- no earlier run is in flight, since the promise was free
        rw [List.getElem?_append_left earlier] at found
        have taken := sound.promised index refresh found pending
        rw [idle] at taken
        cases taken
      · have bound := (List.getElem?_eq_some_iff.mp found).1
        rw [length_append, length_singleton] at bound
        rw [promise, le_antisymm (le_of_lt_succ bound) late]
  | @resumes index wake refresh resumed here resumption =>
    constructor
    · intro other member
      rcases mem_or_eq_of_mem_set member with earlier | same
      · exact sound.bounded other earlier
      · rw [same]
        exact resumption.sends.trans (sound.bounded refresh (mem_of_getElem? here))
    · intro position other found pending
      by_cases same : index = position
      · exact same ▸ sound.promised index refresh here resumption.pending
      · rw [List.getElem?_set_ne same] at found
        exact sound.promised position other found pending
  | @finalizes index refresh here ended promise =>
    refine ⟨sound.bounded, fun position other found pending => ?_⟩
    -- the promise is that of a run that has ended, so no other is pending
    have taken := sound.promised position other found pending
    rw [promise] at taken
    cases taken
    rw [here] at found
    cases found
    rw [ended] at pending
    cases pending

theorem Tab.Move.since {earlier : Tab} (move : tab.Move event next) (since : earlier.Since tab) :
    earlier.Since next := by
  have forward : tab.auth.authEpoch ≤ next.auth.authEpoch := by
    cases move with
    | stays _ _ forward => exact forward
    | begins _ _ _ _ epoch => exact epoch.ge
    | resumes _ _ _ resumption => exact resumption.forward
    | finalizes => exact le_rfl
  have changed : next.changes = tab.changes ∨ tab.auth.authEpoch < next.auth.authEpoch := by
    cases move with
    | stays _ _ _ changed => exact changed
    | begins _ _ _ _ _ changes => exact .inl changes
    | resumes | finalizes => exact .inl rfl
  refine ⟨since.forward.trans forward, fun same => ?_⟩
  have before := since.forward
  rcases changed with kept | _
  · exact kept.trans (since.unchanged (by omega))
  · omega

theorem Tab.Move.epoch {index epoch : Nat} (move : tab.Move event next)
    (begun : ∃ refresh, tab.runs[index]? = some refresh ∧ refresh.refreshEpoch = epoch) :
    ∃ refresh, next.runs[index]? = some refresh ∧ refresh.refreshEpoch = epoch := by
  obtain ⟨refresh, found, same⟩ := begun
  cases move with
  | stays runs => exact ⟨refresh, runs ▸ found, same⟩
  | begins _ runs =>
    refine ⟨refresh, ?_, same⟩
    rw [runs, List.getElem?_append_left (List.getElem?_eq_some_iff.mp found).1]
    exact found
  | @resumes position wake running resumed here resumption =>
    by_cases equal : position = index
    · subst equal
      rw [found] at here
      cases here
      refine ⟨resumed.2, ?_, resumption.same.trans same⟩
      simp [(List.getElem?_eq_some_iff.mp found).1]
    · exact ⟨refresh, (List.getElem?_set_ne equal).trans found, same⟩
  | finalizes => exact ⟨refresh, found, same⟩

/-- How many more times the run at a position can be woken up; one still to begin has them all. -/
def Tab.wakes (index : Nat) (tab : Tab) : Nat :=
  match tab.runs[index]? with
  | some refresh => refresh.stage.wakes
  | none => 15

theorem Tab.Move.wakes (index : Nat) (move : tab.Move event next) :
    next.wakes index + (if event.resumes index then 1 else 0) ≤ tab.wakes index := by
  cases move with
  | stays runs _ _ _ elsewhere => simp [Tab.wakes, runs, elsewhere index]
  | begins _ runs _ _ _ _ _ _ elsewhere =>
    simp only [elsewhere index, Tab.wakes, runs]
    rcases lt_or_ge index tab.runs.length with earlier | late
    · simp [List.getElem?_append_left earlier]
    rw [List.getElem?_eq_none late]
    split
    · simpa using wakes_le _
    · simp
  | @resumes position wake running resumed here resumption =>
    by_cases equal : position = index
    · subst equal
      have bound := (List.getElem?_eq_some_iff.mp here).1
      have fewer := resumption.wakes
      simp only [Tab.wakes, Event.resumes, List.getElem?_set_self bound, here, decide_true, if_true]
      omega
    · simp [Tab.wakes, Event.resumes, equal, List.getElem?_set_ne equal]
  | finalizes => simp [Tab.wakes, Event.resumes]

end

section
variable {start tab : Tab} {events : List Event}

theorem run_sound (run : Tab.machine.Runs unrestricted .loaded events tab) : tab.Sound := by
  refine run.invariant Tab.Sound ?_ ⟨fun refresh member => ?_, fun index refresh found => ?_⟩
  · intro tab event next sound _ stepped
    exact (step_move stepped).sound sound
  · cases member
  · cases found

theorem run_wakes (index : Nat) (run : Tab.machine.Runs unrestricted start events tab) :
    events.countP (resumes index) ≤ start.wakes index := by
  -- every wake-up takes one of those that are left
  induction run with
  | nil => exact zero_le _
  | cons _ stepped =>
    have spent := (step_move stepped).wakes index
    rw [countP_cons]
    omega

theorem run_since {begun : Tab} {index : Nat} (fresh : index = start.runs.length)
    (began : ∃ event, start.step event = some begun) (longer : begun.runs.length = start.runs.length + 1)
    (run : Tab.machine.Runs unrestricted begun events tab) :
    start.Since tab ∧ ∃ refresh, tab.runs[index]? = some refresh ∧ refresh.refreshEpoch = start.auth.authEpoch := by
  obtain ⟨event, stepped⟩ := began
  have move := step_move stepped
  refine run.invariant (fun tab => start.Since tab ∧ ∃ refresh, tab.runs[index]? = some refresh ∧
    refresh.refreshEpoch = start.auth.authEpoch) ?_ ⟨move.since ⟨le_rfl, fun _ => rfl⟩, ?_⟩
  · rintro _ _ _ ⟨since, begun⟩ _ stepped
    exact ⟨(step_move stepped).since since, (step_move stepped).epoch begun⟩
  · cases move with
    | begins refresh runs _ _ _ _ current => exact ⟨refresh, by simp [runs, fresh], current⟩
    | stays runs => simp [runs] at longer
    | resumes | finalizes => simp at longer

end

theorem resumption_guarded {tab next : Tab} {index : Nat} {wake : Wake}
    (here : tab.runs[index]? = some refresh) (stepped : tab.step (.resume index wake) = some next) :
    next.auth = tab.auth ∨ tab.auth.authEpoch = refresh.refreshEpoch := by
  cases step_move stepped with
  | stays _ _ _ _ elsewhere | begins _ _ _ _ _ _ _ _ elsewhere => simpa [resumes] using elsewhere index
  | resumes _ _ found resumption =>
    rw [here] at found
    cases found
    exact resumption.guarded

/-- In every tab a refresh ends after at most eight requests, one refresh is in flight at a time,
and a refresh touches the tab only while nobody has signed in, signed out or rotated the token
since it began. -/
theorem refresh_superseded {events : List Event} {tab : Tab} (run : Tab.machine.Runs unrestricted .loaded events tab) :
    (∀ refresh ∈ tab.runs, refresh.requests.length ≤ 8) ∧ (∀ index, events.countP (resumes index) ≤ 15) ∧
      (∀ (first second : Nat) (earlier later : Refresh), tab.runs[first]? = some earlier →
        tab.runs[second]? = some later → earlier.inFlight = true → later.inFlight = true → first = second) ∧
      ∀ (begins : Event) (between : List Event) (wake : Wake) (begun now next : Tab),
        tab.step begins = some begun → begun.runs.length = tab.runs.length + 1 →
        Tab.machine.Runs unrestricted begun between now →
        now.step (.resume tab.runs.length wake) = some next →
        next.auth = now.auth ∨ now.changes = tab.changes := by
  have sound := run_sound run
  refine ⟨fun refresh member => ?_, fun index => ?_, ?_, ?_⟩
  · exact (le_add_right _ _).trans (sound.bounded refresh member)
  · simpa [Tab.wakes, Tab.loaded] using run_wakes index run
  · intro first second earlier later atFirst atSecond pending other
    have promised := sound.promised first earlier atFirst pending
    rw [sound.promised second later atSecond other] at promised
    exact (some.inj promised).symm
  · intro begins between wake begun now next began longer meanwhile stepped
    obtain ⟨since, _, here, epoch⟩ := run_since rfl ⟨begins, began⟩ longer meanwhile
    rcases resumption_guarded here stepped with untouched | current
    · exact .inl untouched
    · exact .inr (since.unchanged (current.trans epoch))

/-- A bundle that arrives after the sign-out leaves the tab signed out. -/
theorem refresh_superseded_signed_out : ∃ (bundle : AuthBundle) (body : Value) (tab begun now next : Tab),
      isAuthBundle body = some bundle ∧
      Tab.machine.Runs unrestricted .loaded [.signIn bundle true] tab ∧
      tab.step (.refresh .absent) = some begun ∧
      Tab.machine.Runs unrestricted begun [.signOut true .complete] now ∧
      now.step (.resume tab.runs.length
        (.answered ⟨200, some (.object [("success", .bool true), ("data", body)])⟩)) = some next ∧
      now.changes ≠ tab.changes ∧ (next.auth = now.auth ∨ now.changes = tab.changes) := by
  let one : Number := .finite 1
  let session : LoginSession := ⟨"s", true, "password", "", "", one, one, one⟩
  let bundle : AuthBundle := ⟨"token", "Bearer", 1, ⟨1, "root", one⟩, session⟩
  let body : Value := .object [("access_token", .string "token"), ("token_type", .string "Bearer"),
    ("access_expires_at", .number one),
    ("user", .object [("id", .number one), ("username", .string "root"), ("role", .number one)]),
    ("session", .object [("sid", .string "s"), ("current", .bool true),
      ("login_method", .string "password"), ("ip", .string ""), ("user_agent", .string ""),
      ("created_at", .number one), ("last_active_at", .number one), ("expires_at", .number one)])]
  let signedIn : Tab := ⟨initial.applyAuthBundle bundle true, none, [], 1⟩
  let begun : Tab := signedIn.refreshAuthentication .absent
  let now : Tab := ⟨begun.auth.clearAuthentication true .complete, begun.refreshPromise, begun.runs, 2⟩
  let next : Tab := { now with
    runs := [⟨1, [some "s"], .settled (.transientError .superseded)⟩] }
  have first : Tab.machine.Runs unrestricted .loaded [.signIn bundle true] signedIn := .cons trivial rfl (.nil _)
  have second : Tab.machine.Runs unrestricted begun [.signOut true .complete] now := .cons trivial rfl (.nil _)
  have answered : now.step (.resume signedIn.runs.length
      (.answered ⟨200, some (.object [("success", .bool true), ("data", body)])⟩)) = some next := rfl
  refine ⟨bundle, body, signedIn, begun, now, next, rfl, first, rfl, second, answered, by decide, ?_⟩
  exact (refresh_superseded first).2.2.2 (.refresh .absent) _ _ begun now next rfl rfl second answered

end FlowAPI.WebClient
