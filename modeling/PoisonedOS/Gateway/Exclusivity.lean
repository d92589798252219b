import PoisonedOS.Gateway.ControlPlane

/-!
# One session and one connection for each board

A session that is not released is the owner of its board. Where a board is released before its
connection is closed, another session may come while the old connection still closes; and where
no connection could be created, the board stays owned by a session that does not exist.
-/

namespace PoisonedOS.Gateway

/-- The session has not released its board. -/
def Phase.unreleased : Phase → Bool
  | .connecting | .inUse | .closing => true
  | _ => false

/-- The board is released, and the connection is not closed. -/
def Phase.lingering : Phase → Bool
  | .refusing | .dropped | .abandoned => true
  | _ => false

/-- The connection has started connecting and is not closed. -/
def Phase.live (phase : Phase) : Bool := phase.unreleased || phase.lingering

namespace ControlPlane

/-! ## One session for a board -/

/-- There is no session on the board that has not released it. -/
def Unused (plane : ControlPlane) (board : BoardId) : Prop :=
  ∀ client session, plane.sessions client = some session → session.board = board →
    session.phase.unreleased = false

/-- Boards are used by one session at a time, through one connection. -/
structure Exclusive (plane : ControlPlane) : Prop where
  oneSession : ∀ client other session second, plane.sessions client = some session →
    plane.sessions other = some second → session.board = second.board →
    session.phase.unreleased = true → second.phase.unreleased = true → client = other
  oneConnection : ∀ client other session second, plane.sessions client = some session →
    plane.sessions other = some second → session.board = second.board →
    session.phase.live = true → second.phase.live = true → client = other
  /-- No session that ends takes its board from another. -/
  owned : ∀ client session, plane.sessions client = some session →
    session.phase.unreleased = true →
    ∃ state, plane.owners session.board = some (client, state)
  /-- A board that no session uses can be opened. -/
  free : ∀ board client, plane.boards.contains board = true →
    1 ≤ (Unicode.utf16 client).length → (Unicode.utf16 client).length ≤ 128 →
    plane.Unused board → plane.opens board client = true

/-! ## The invariant -/

/-- The owners are the sessions that have not released their boards, and no other connection of
such a board is left. -/
structure Balanced (plane : ControlPlane) : Prop where
  owned : ∀ client session, plane.sessions client = some session →
    session.phase.unreleased = true →
    ∃ state, plane.owners session.board = some (client, state)
  owner : ∀ board client state, plane.owners board = some (client, state) →
    ∃ phase : Phase, plane.sessions client = some ⟨board, phase⟩ ∧ phase.unreleased = true
  single : ∀ client other session second, plane.sessions client = some session →
    plane.sessions other = some second → session.board = second.board →
    session.phase.live = true → second.phase.live = true → client = other

theorem live_of_unreleased {phase : Phase} (unreleased : phase.unreleased = true) :
    phase.live = true := by
  rw [Phase.live, unreleased, Bool.true_or]

theorem opens_iff {plane : ControlPlane} {board : BoardId} {client : ClientId} :
    plane.opens board client = true ↔
      plane.boards.contains board = true ∧ plane.owners board = none ∧
        1 ≤ (Unicode.utf16 client).length ∧ (Unicode.utf16 client).length ≤ 128 := by
  rw [opens, Bool.and_eq_true, Bool.and_eq_true, Bool.and_eq_true, decide_eq_true_iff,
    decide_eq_true_iff, Option.isNone_iff_eq_none, and_assoc, and_assoc]

theorem Balanced.exclusive {plane : ControlPlane} (balanced : plane.Balanced) :
    plane.Exclusive where
  oneSession client other session second stored storedOther same unreleased unreleasedOther :=
    balanced.single client other session second stored storedOther same
      (live_of_unreleased unreleased) (live_of_unreleased unreleasedOther)
  oneConnection := balanced.single
  owned := balanced.owned
  free board client known shortest longest unused := by
    refine opens_iff.mpr ⟨known, ?_, shortest, longest⟩
    cases held : plane.owners board with
    | none => rfl
    | some owner =>
      obtain ⟨phase, stored, unreleased⟩ := balanced.owner board owner.1 owner.2 held
      have released := unused owner.1 _ stored rfl
      rw [unreleased] at released
      cases released

theorem start_balanced (boards : List BoardId) : (start boards).Balanced where
  owned _ _ stored := nomatch stored
  owner _ _ _ held := nomatch held
  single _ _ _ _ stored := nomatch stored

variable {plane : ControlPlane} {board : BoardId} {client : ClientId} {phase : Phase}

theorem Balanced.moved (balanced : plane.Balanced)
    (stored : plane.sessions client = some ⟨board, phase⟩) (live : phase.live = true)
    {next : Phase} {owners : BoardId → Option (ClientId × OwnerState)}
    (elsewhere : ∀ other, other ≠ board → owners other = plane.owners other)
    (holds : next.unreleased = true → ∃ state, owners board = some (client, state))
    (released : next.unreleased = false → owners board = none ∨
      phase.unreleased = false ∧ owners board = plane.owners board) :
    ({ plane with
      owners := owners
      sessions := Function.update plane.sessions client (some ⟨board, next⟩) } :
      ControlPlane).Balanced := by
  have before : ∀ other session, Function.update plane.sessions client (some ⟨board, next⟩) other =
      some session → ∃ former : Session, plane.sessions other = some former ∧
        former.board = session.board ∧
        (session.phase.live = true → former.phase.live = true) := by
    intro other session storedOther
    by_cases same : other = client
    · subst same
      rw [Function.update_self] at storedOther
      cases storedOther
      exact ⟨⟨board, phase⟩, stored, rfl, fun _ => live⟩
    · rw [Function.update_of_ne same] at storedOther
      exact ⟨session, storedOther, rfl, id⟩
  refine ⟨?_, ?_, ?_⟩
  · intro other session storedOther unreleased
    dsimp only at storedOther ⊢
    by_cases same : other = client
    · subst same
      rw [Function.update_self] at storedOther
      cases storedOther
      exact holds unreleased
    · rw [Function.update_of_ne same] at storedOther
      by_cases here : session.board = board
      · exact absurd (balanced.single other client session ⟨board, phase⟩ storedOther stored here
          (live_of_unreleased unreleased) live) same
      · rw [elsewhere session.board here]
        exact balanced.owned other session storedOther unreleased
  · intro place owner state held
    dsimp only at held ⊢
    by_cases here : place = board
    · subst here
      cases unreleased : next.unreleased with
      | true =>
        obtain ⟨given, owned⟩ := holds unreleased
        rw [owned] at held
        cases held
        exact ⟨next, Function.update_self _ _ _, unreleased⟩
      | false =>
        rcases released unreleased with none | ⟨was, kept⟩
        · rw [none] at held
          cases held
        · rw [kept] at held
          obtain ⟨held, storedOwner, unreleasedOwner⟩ := balanced.owner place owner state held
          have different : owner ≠ client := by
            rintro rfl
            rw [stored] at storedOwner
            cases storedOwner
            rw [was] at unreleasedOwner
            cases unreleasedOwner
          exact ⟨held, by rw [Function.update_of_ne different]; exact storedOwner,
            unreleasedOwner⟩
    · rw [elsewhere place here] at held
      obtain ⟨held, storedOwner, unreleasedOwner⟩ := balanced.owner place owner state held
      have different : owner ≠ client := by
        rintro rfl
        rw [stored] at storedOwner
        cases storedOwner
        exact here rfl
      exact ⟨held, by rw [Function.update_of_ne different]; exact storedOwner, unreleasedOwner⟩
  · intro first second session other storedFirst storedSecond same liveFirst liveSecond
    obtain ⟨formerFirst, beforeFirst, boardFirst, wasFirst⟩ := before first session storedFirst
    obtain ⟨formerSecond, beforeSecond, boardSecond, wasSecond⟩ :=
      before second other storedSecond
    exact balanced.single first second formerFirst formerSecond beforeFirst beforeSecond
      (by rw [boardFirst, boardSecond, same]) (wasFirst liveFirst) (wasSecond liveSecond)

theorem Balanced.releaseOwner (balanced : plane.Balanced)
    (stored : plane.sessions client = some ⟨board, phase⟩)
    (unreleased : phase.unreleased = true) :
    plane.releaseOwner board client =
      { plane with owners := Function.update plane.owners board none } := by
  obtain ⟨state, held⟩ := balanced.owned client ⟨board, phase⟩ stored unreleased
  rw [ControlPlane.releaseOwner, held]
  exact if_pos rfl

/-- A session ends or lingers, and its board is released. -/
theorem Balanced.release (balanced : plane.Balanced)
    (stored : plane.sessions client = some ⟨board, phase⟩)
    (unreleased : phase.unreleased = true) {next : Phase} (released : next.unreleased = false) :
    ((plane.releaseOwner board client).move client ⟨board, phase⟩ next).Balanced := by
  rw [balanced.releaseOwner stored unreleased]
  refine balanced.moved stored (live_of_unreleased unreleased) ?_ ?_ ?_
  · exact fun other different => Function.update_of_ne different _ _
  · intro kept
    rw [released] at kept
    cases kept
  · exact fun _ => .inl (Function.update_self _ _ _)

/-- The connection of a session that has released its board is closed. -/
theorem Balanced.finish (balanced : plane.Balanced)
    (stored : plane.sessions client = some ⟨board, phase⟩)
    (lingering : phase.lingering = true) (was : phase.unreleased = false) {next : Phase}
    (released : next.unreleased = false) :
    (plane.move client ⟨board, phase⟩ next).Balanced := by
  refine balanced.moved stored ?_ (fun _ _ => rfl) ?_ fun _ => .inr ⟨was, rfl⟩
  · rw [Phase.live, lingering, Bool.or_true]
  · intro kept
    rw [released] at kept
    cases kept

/-! ## One event -/

/-- An event opens no session where `createConnection` throws, or where a connection of the
board is left. -/
def Orderly (plane : ControlPlane) : Event → Prop
  | .openSession board client created =>
    plane.opens board client = true →
      created = true ∧ ∀ other session, plane.sessions other = some session →
        session.board = board → session.phase.lingering = false
  | _ => True

/-- The client that an event opens a session for. -/
def opened : Event → Option ClientId
  | .openSession _ client _ => some client
  | _ => none

theorem Balanced.openSession (balanced : plane.Balanced) {created : Bool}
    (orderly : plane.Orderly (.openSession board client created))
    (fresh : plane.sessions client = none) :
    (plane.openSession board client created).Balanced := by
  rw [ControlPlane.openSession]
  cases opens : plane.opens board client with
  | false => exact balanced
  | true =>
    obtain ⟨rfl, nothing⟩ := orderly opens
    have unowned := (opens_iff.mp opens).2.1
    have unused : ∀ other session, plane.sessions other = some session →
        session.board = board → session.phase.live = false := by
      intro other session stored same
      cases unreleased : session.phase.unreleased with
      | true =>
        obtain ⟨state, held⟩ := balanced.owned other session stored unreleased
        rw [same, unowned] at held
        cases held
      | false => rw [Phase.live, unreleased, nothing other session stored same, Bool.or_self]
    simp only [Bool.not_true, Bool.false_eq_true, if_false, if_true]
    refine ⟨?_, ?_, ?_⟩
    · intro other session stored unreleased
      dsimp only at stored ⊢
      by_cases same : other = client
      · subst same
        rw [Function.update_self] at stored
        cases stored
        exact ⟨.connecting, Function.update_self _ _ _⟩
      · rw [Function.update_of_ne same] at stored
        have different : session.board ≠ board := by
          intro here
          have quiet := unused other session stored here
          rw [live_of_unreleased unreleased] at quiet
          cases quiet
        rw [Function.update_of_ne different]
        exact balanced.owned other session stored unreleased
    · intro place owner state held
      dsimp only at held ⊢
      by_cases here : place = board
      · subst here
        rw [Function.update_self] at held
        cases held
        exact ⟨.connecting, Function.update_self _ _ _, rfl⟩
      · rw [Function.update_of_ne here] at held
        obtain ⟨phase, stored, unreleased⟩ := balanced.owner place owner state held
        have different : owner ≠ client := by
          rintro rfl
          rw [fresh] at stored
          cases stored
        exact ⟨phase, by rw [Function.update_of_ne different]; exact stored, unreleased⟩
    · intro first second session other storedFirst storedSecond same liveFirst liveSecond
      dsimp only at storedFirst storedSecond
      by_cases one : first = client
      · by_cases two : second = client
        · rw [one, two]
        · subst one
          rw [Function.update_self] at storedFirst
          rw [Function.update_of_ne two] at storedSecond
          cases storedFirst
          rw [unused second other storedSecond same.symm] at liveSecond
          cases liveSecond
      · rw [Function.update_of_ne one] at storedFirst
        by_cases two : second = client
        · subst two
          rw [Function.update_self] at storedSecond
          cases storedSecond
          rw [unused first session storedFirst same] at liveFirst
          cases liveFirst
        · rw [Function.update_of_ne two] at storedSecond
          exact balanced.single first second session other storedFirst storedSecond same liveFirst
            liveSecond

/-- **One event keeps the invariant**, where it is orderly and its client is new. -/
theorem Balanced.step (balanced : plane.Balanced) {event : Event} (orderly : plane.Orderly event)
    (fresh : ∀ client, opened event = some client → plane.sessions client = none) :
    (ControlPlane.step event plane).Balanced := by
  cases event with
  | openSession board client created => exact balanced.openSession orderly (fresh client rfl)
  | connectFailed client =>
    rw [ControlPlane.step, ControlPlane.connectFailed]
    split
    · rename_i board stored
      exact balanced.release stored rfl rfl
    · exact balanced
  | connected client ready =>
    rw [ControlPlane.step, ControlPlane.connected]
    split
    · rename_i board stored
      cases ready with
      | false => exact balanced.release stored rfl rfl
      | true =>
        refine balanced.moved stored rfl
          (fun other different => Function.update_of_ne different _ _) ?_ nofun
        exact fun _ => ⟨.inUse, Function.update_self _ _ _⟩
    · exact balanced
  | disconnected client listenersReturn =>
    rw [ControlPlane.step, ControlPlane.disconnected]
    split
    · rename_i board stored
      refine balanced.release stored rfl ?_
      cases listenersReturn <;> rfl
    · exact balanced
  | closeSession client =>
    rw [ControlPlane.step, ControlPlane.closeSession]
    split
    · rename_i board stored
      refine balanced.moved stored rfl (fun _ _ => rfl) (fun _ => ?_) nofun
      exact balanced.owned client _ stored rfl
    · exact balanced
  | closeFinished client =>
    rw [ControlPlane.step, ControlPlane.closeFinished]
    split
    · rename_i board stored
      exact balanced.finish stored rfl rfl rfl
    · rename_i board stored
      exact balanced.finish stored rfl rfl rfl
    · rename_i board stored
      exact balanced.release stored rfl rfl
    · exact balanced

/-! ## A run -/

/-- The control plane after the first events. -/
def reached (boards : List BoardId) (events : List Event) (index : Nat) : ControlPlane :=
  Runs.reached step (start boards) events index

theorem step_sessions (plane : ControlPlane) (event : Event) (client : ClientId)
    (known : (step event plane).sessions client ≠ none) :
    plane.sessions client ≠ none ∨ opened event = some client := by
  have moved (plane : ControlPlane) (mover : ClientId) (session : Session) (phase : Phase)
      (stored : plane.sessions mover = some session)
      (known : (plane.move mover session phase).sessions client ≠ none) :
      plane.sessions client ≠ none := by
    by_cases same : client = mover
    · subst same
      rw [stored]
      exact Option.some_ne_none _
    · rw [move] at known
      dsimp only at known
      rwa [Function.update_of_ne same] at known
  have released (plane : ControlPlane) (board : BoardId) (mover : ClientId) :
      (plane.releaseOwner board mover).sessions = plane.sessions := by
    rw [releaseOwner]
    split
    · split <;> rfl
    · rfl
  cases event with
  | openSession board other created =>
    rw [step, openSession] at known
    split at known
    · exact .inl known
    · by_cases same : client = other
      · subst same
        exact .inr rfl
      · dsimp only at known
        rw [Function.update_of_ne same] at known
        exact .inl known
  | connectFailed mover =>
    rw [step, connectFailed] at known
    split at known
    · rename_i board stored
      have kept := moved _ mover _ _ (by rw [released]; exact stored) known
      rw [released] at kept
      exact .inl kept
    · exact .inl known
  | connected mover ready =>
    rw [step, connected] at known
    split at known
    · rename_i board stored
      split at known
      · have kept := moved _ mover _ _ (by rw [released]; exact stored) known
        rw [released] at kept
        exact .inl kept
      · exact .inl (moved _ mover _ _ stored known)
    · exact .inl known
  | disconnected mover listenersReturn =>
    rw [step, disconnected] at known
    split at known
    · rename_i board stored
      have kept := moved _ mover _ _ (by rw [released]; exact stored) known
      rw [released] at kept
      exact .inl kept
    · exact .inl known
  | closeSession mover =>
    rw [step, closeSession] at known
    split at known
    · rename_i board stored
      exact .inl (moved _ mover _ _ stored known)
    · exact .inl known
  | closeFinished mover =>
    rw [step, closeFinished] at known
    split at known
    · rename_i board stored
      exact .inl (moved _ mover _ _ stored known)
    · rename_i board stored
      exact .inl (moved _ mover _ _ stored known)
    · rename_i board stored
      have kept := moved _ mover _ _ (by rw [released]; exact stored) known
      rw [released] at kept
      exact .inl kept
    · exact .inl known

variable {boards : List BoardId} {events : List Event} {index : Nat} {event : Event}

theorem sessions_opened (client : ClientId)
    (known : (reached boards events index).sessions client ≠ none) :
    client ∈ (events.take index).filterMap opened := by
  induction index with
  | zero => exact absurd rfl known
  | succ index ih =>
    cases taken : events[index]? with
    | none =>
      rw [reached, Runs.reached_end taken] at known
      rw [List.take_add_one, taken, Option.toList_none, List.append_nil]
      exact ih known
    | some event =>
      rw [reached, Runs.reached_succ taken] at known
      rw [List.take_add_one, taken, Option.toList_some, List.filterMap_append, List.mem_append]
      rcases step_sessions _ event client known with before | opens
      · exact .inl (ih before)
      · refine .inr (List.mem_filterMap.mpr ⟨event, List.mem_singleton_self event, opens⟩)

theorem opened_fresh (distinct : (events.filterMap opened).Nodup)
    (taken : events[index]? = some event) {client : ClientId} (opens : opened event = some client) :
    (reached boards events index).sessions client = none := by
  by_contra known
  have inside := sessions_opened client known
  obtain ⟨bound, same⟩ := List.getElem?_eq_some_iff.mp taken
  have split : events = events.take index ++ event :: events.drop (index + 1) := by
    rw [← same, ← List.drop_eq_getElem_cons bound, List.take_append_drop]
  rw [split, List.filterMap_append, List.filterMap_cons_some opens] at distinct
  exact (List.nodup_append.mp distinct).2.2 client inside client List.mem_cons_self rfl

/-- All events of a run are orderly. -/
def OrderlyRun (boards : List BoardId) (events : List Event) : Prop :=
  ∀ index event, events[index]? = some event → (reached boards events index).Orderly event

theorem OrderlyRun.balanced (distinct : (events.filterMap opened).Nodup)
    (orderly : OrderlyRun boards events) (index : Nat) :
    (reached boards events index).Balanced := by
  refine Runs.always (motive := Balanced) (start_balanced boards) ?_ index
  intro index event taken balanced
  exact balanced.step (orderly index event taken) fun client opens =>
    opened_fresh distinct taken opens

/-- An event after which boards are still used exclusively was orderly. -/
theorem orderly_of_exclusive {plane : ControlPlane} (exclusive : plane.Exclusive)
    (fresh : ∀ client, opened event = some client → plane.sessions client = none)
    (next : (step event plane).Exclusive) : plane.Orderly event := by
  cases event with
  | openSession board client created =>
    intro opens
    have fresh := fresh client rfl
    obtain ⟨known, unowned, shortest, longest⟩ := opens_iff.mp opens
    have notOpens : (!plane.opens board client) = false := by rw [opens]; rfl
    rw [step, openSession, notOpens] at next
    simp only [Bool.false_eq_true, if_false] at next
    have different : ∀ other session, plane.sessions other = some session → other ≠ client := by
      rintro other session stored rfl
      rw [fresh] at stored
      cases stored
    cases created with
    | false =>
      refine absurd (next.free board client known shortest longest ?_) ?_
      · intro other session stored same
        dsimp only at stored
        cases unreleased : session.phase.unreleased with
        | false => rfl
        | true =>
          by_cases here : other = client
          · subst here
            rw [Function.update_self] at stored
            cases stored
            cases unreleased
          · rw [Function.update_of_ne here] at stored
            obtain ⟨state, held⟩ := exclusive.owned other session stored unreleased
            rw [same, unowned] at held
            cases held
      · intro reopens
        have held := (opens_iff.mp reopens).2.1
        dsimp only at held
        rw [Function.update_self] at held
        cases held
    | true =>
      refine ⟨rfl, fun other session stored same => ?_⟩
      cases lingering : session.phase.lingering with
      | false => rfl
      | true =>
        have apart := different other session stored
        have live : session.phase.live = true := by rw [Phase.live, lingering, Bool.or_true]
        refine absurd (next.oneConnection other client session ⟨board, .connecting⟩ ?_ ?_ same live
          rfl) apart
        · dsimp only
          rw [Function.update_of_ne apart]
          exact stored
        · exact Function.update_self _ _ _
  | _ => trivial

/-- **Boards are used exclusively in every state of a run, exactly when the run is orderly.** -/
theorem exclusive_iff (boards : List BoardId) (events : List Event)
    (distinct : (events.filterMap opened).Nodup) :
    (∀ index, (reached boards events index).Exclusive) ↔ OrderlyRun boards events := by
  constructor
  · intro exclusive index event taken
    refine orderly_of_exclusive (exclusive index) (fun client opens =>
      opened_fresh distinct taken opens) ?_
    have next := exclusive (index + 1)
    rw [reached, Runs.reached_succ taken] at next
    exact next
  · exact fun orderly index => (orderly.balanced distinct index).exclusive

def lostSession : List Event :=
  [.openSession ['b'] ['1'] true, .connected ['1'] true, .disconnected ['1'] true,
    .closeFinished ['1'], .openSession ['b'] ['2'] true]

/-- The connection of the first session is lost and closed before a second session opens. -/
theorem exclusive_lostSession : OrderlyRun [['b']] lostSession ∧
    ∀ index, (reached [['b']] lostSession index).Exclusive := by
  have orderly_iff := exclusive_iff [['b']] lostSession (by decide)
  refine ⟨?orderly, orderly_iff.mpr ?orderly⟩
  intro index event taken
  have bounded := (List.getElem?_eq_some_iff.mp taken).1
  obtain rfl | rfl | rfl | rfl | rfl :
      index = 0 ∨ index = 1 ∨ index = 2 ∨ index = 3 ∨ index = 4 := by
    change index < 5 at bounded
    omega
  · obtain rfl := Option.some.inj taken
    intro _
    exact ⟨rfl, fun other session stored => by cases stored⟩
  · obtain rfl := Option.some.inj taken
    trivial
  · obtain rfl := Option.some.inj taken
    trivial
  · obtain rfl := Option.some.inj taken
    trivial
  · obtain rfl := Option.some.inj taken
    intro _
    refine ⟨rfl, fun other session stored _ => ?_⟩
    have opener := sessions_opened other (by rw [stored]; exact Option.some_ne_none _)
    obtain rfl : other = ['1'] := by simpa [lostSession, opened] using opener
    have closed : (reached [['b']] lostSession 4).sessions ['1'] = some ⟨['b'], .ended⟩ := by
      decide
    obtain rfl := Option.some.inj (closed.symm.trans stored)
    rfl

/-- A second connection is made before the first, which was lost, is closed; and a board whose
connection could not be created is never free again. -/
theorem second_connection :
    ¬ (reached [['b']] [.openSession ['b'] ['1'] true, .connected ['1'] true,
        .disconnected ['1'] true, .openSession ['b'] ['2'] true] 4).Exclusive ∧
      ¬ (reached [['b']] [.openSession ['b'] ['1'] false] 1).Exclusive := by
  refine ⟨fun exclusive => ?_, fun exclusive => ?_⟩
  · have same := exclusive.oneConnection ['1'] ['2'] ⟨['b'], .dropped⟩ ⟨['b'], .connecting⟩
      (by decide) (by decide) rfl rfl rfl
    cases same
  · have opens := exclusive.free ['b'] ['2'] (by decide) (by decide) (by decide) ?_
    · cases (opens_iff.mp opens).2.1
    · intro client session stored same
      by_cases here : client = ['1']
      · subst here
        cases stored
        rfl
      · have none : (reached [['b']] [.openSession ['b'] ['1'] false] 1).sessions client = none :=
          Function.update_of_ne here _ _
        rw [none] at stored
        cases stored

end ControlPlane

end PoisonedOS.Gateway
