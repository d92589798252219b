import Mathlib.Data.List.Nodup
import PoisonedOS.Library.Runs

/-!
# Sessions of the bridge

The bridge lends its devices to clients. A client opens a session on a device and then
upgrades a request for that session to a websocket, which streams to the device until one
side ends it; the end removes the session. The table of sessions is behind a lock, and each
use of it is one step; between two steps any number of other clients may take theirs.

The table allows one session for a device, but nothing records that a session is being
streamed: an upgrade only looks the session up.
-/

namespace PoisonedOS.Bridge

/-- `DeviceError`. -/
inductive DeviceError where
  | notFound
  | sessionNotFound
  | capacity
  | busy
deriving DecidableEq, Repr

/-- `Session`; the identifiers are numbers. -/
structure Session where
  id : Nat
  deviceId : List Char
deriving DecidableEq, Repr

/-- `DeviceRegistry`, with the identifiers of its devices. -/
structure DeviceRegistry where
  devices : List (List Char)
  sessions : List Session
  maxSessions : Nat
deriving DecidableEq

namespace DeviceRegistry

/-- `sessions.insert`: the entry replaces one with the same identifier. -/
def insert (registry : DeviceRegistry) (session : Session) : DeviceRegistry :=
  { registry with
    sessions := registry.sessions.filter (fun other => other.id != session.id) ++ [session] }

/-- `open_session`, with the identifier `Uuid::new_v4` yields. -/
def openSession (registry : DeviceRegistry) (deviceId : List Char) (newId : Nat) :
    Except DeviceError (Session × DeviceRegistry) :=
  if !registry.devices.contains deviceId then .error .notFound
  else if registry.maxSessions ≤ registry.sessions.length then .error .capacity
  else if registry.sessions.any fun session => session.deviceId == deviceId then .error .busy
  else .ok (⟨newId, deviceId⟩, registry.insert ⟨newId, deviceId⟩)

/-- `session`. -/
def session (registry : DeviceRegistry) (id : Nat) : Option Session :=
  registry.sessions.find? fun session => session.id == id

/-- `close_session`. -/
def closeSession (registry : DeviceRegistry) (id : Nat) : Except DeviceError DeviceRegistry :=
  if registry.sessions.any fun session => session.id == id then
    .ok { registry with sessions := registry.sessions.filter fun session => session.id != id }
  else .error .sessionNotFound

end DeviceRegistry

/-- How far a websocket has come: upgraded, streaming to the device, done with that, and
done with closing its session. -/
inductive Phase where
  | upgraded
  | streaming
  | ended
  | closed
deriving DecidableEq, Repr

/-- A websocket that was upgraded, and the session it was upgraded for. -/
structure Socket where
  session : Session
  phase : Phase
deriving DecidableEq, Repr

/-- The registry and all websockets, in the order they were upgraded. -/
structure Server where
  registry : DeviceRegistry
  sockets : List Socket
deriving DecidableEq

/-- A step: an authorised request to open a session or to upgrade, `stream_socket` opening
the device's stream with or without success, its loop ending, and its closing the session.
Websockets are named by their position. -/
inductive Event where
  | openSession (deviceId : List Char) (newId : Nat)
  | upgrade (id : Nat)
  | openStream (socket : Nat) (succeeds : Bool)
  | endStream (socket : Nat)
  | closeSession (socket : Nat)
deriving DecidableEq, Repr

namespace Server

/-- A websocket moves on to another phase. -/
def move (server : Server) (socket : Nat) (phase : Phase) : Server :=
  { server with sockets := server.sockets.modify socket fun moved => { moved with phase } }

def step (event : Event) (server : Server) : Server :=
  match event with
  | .openSession deviceId newId =>
    match server.registry.openSession deviceId newId with
    | .ok (_, registry) => { server with registry }
    | .error _ => server
  | .upgrade id =>
    match server.registry.session id with
    | some session => { server with sockets := server.sockets ++ [⟨session, .upgraded⟩] }
    | none => server
  | .openStream socket succeeds =>
    match server.sockets[socket]? with
    | some ⟨session, .upgraded⟩ =>
      if server.registry.devices.contains session.deviceId && succeeds then
        server.move socket .streaming
      else server.move socket .ended
    | _ => server
  | .endStream socket =>
    match server.sockets[socket]? with
    | some ⟨_, .streaming⟩ => server.move socket .ended
    | _ => server
  | .closeSession socket =>
    match server.sockets[socket]? with
    | some ⟨session, .ended⟩ =>
      let moved := server.move socket .closed
      match server.registry.closeSession session.id with
      | .ok registry => { moved with registry }
      | .error _ => moved
    | _ => server

/-- No session and no websocket. -/
def start (devices : List (List Char)) (maxSessions : Nat) : Server :=
  ⟨⟨devices, [], maxSessions⟩, []⟩

/-- Some session on a device is open: it is in the table, or it is being streamed. -/
def Engaged (server : Server) (deviceId : List Char) : Prop :=
  (∃ session ∈ server.registry.sessions, session.deviceId = deviceId) ∨
    ∃ socket ∈ server.sockets, socket.phase = .streaming ∧ socket.session.deviceId = deviceId

/-- One websocket at most streams to a device. -/
def Exclusive (server : Server) : Prop :=
  ∀ (first second : Nat) (left right : Socket), server.sockets[first]? = some left →
    server.sockets[second]? = some right → left.phase = .streaming → right.phase = .streaming →
    left.session.deviceId = right.session.deviceId → first = second

/-- What the table keeps: its size, and one session for a device. -/
structure Tabled (server : Server) : Prop where
  size : server.registry.sessions.length ≤ server.registry.maxSessions
  ids : (server.registry.sessions.map Session.id).Nodup
  devices : (server.registry.sessions.map Session.deviceId).Nodup

/-- All that a step can do. -/
inductive Transition (server : Server) : Event → Server → Prop where
  | unchanged (event : Event) : Transition server event server
  | opened {deviceId : List Char} {newId : Nat}
      (known : server.registry.devices.contains deviceId = true)
      (room : server.registry.sessions.length < server.registry.maxSessions)
      (free : ∀ session ∈ server.registry.sessions, session.deviceId ≠ deviceId) :
      Transition server (.openSession deviceId newId)
        { server with registry := server.registry.insert ⟨newId, deviceId⟩ }
  | upgraded {session : Session} (stored : session ∈ server.registry.sessions) :
      Transition server (.upgrade session.id)
        { server with sockets := server.sockets ++ [⟨session, .upgraded⟩] }
  | moved {event : Event} {socket : Nat} {entry : Socket} {phase : Phase}
      (stored : server.sockets[socket]? = some entry) (live : entry.phase ≠ .closed)
      (remains : phase ≠ .closed) : Transition server event (server.move socket phase)
  | closed {socket : Nat} {entry : Socket} (stored : server.sockets[socket]? = some entry)
      (ended : entry.phase = .ended) :
      Transition server (.closeSession socket)
        { server.move socket .closed with registry := { server.registry with
          sessions := server.registry.sessions.filter fun session =>
            session.id != entry.session.id } }

/-- Every step is one of these. -/
theorem step_transition (event : Event) (server : Server) :
    Transition server event (step event server) := by
  cases event with
  | openSession deviceId newId =>
    simp only [step, DeviceRegistry.openSession]
    split
    · rename_i registry opened
      split at opened
      · cases opened
      split at opened
      · cases opened
      split at opened
      · cases opened
      rename_i known room free
      cases opened
      refine .opened (by simpa using known) (Nat.not_le.mp room) ?_
      intro session stored same
      refine free (List.any_eq_true.mpr ⟨session, stored, ?_⟩)
      rw [same, beq_self_eq_true]
    · exact .unchanged _
  | upgrade id =>
    simp only [step]
    split
    · rename_i session found
      have same : session.id = id := by simpa using List.find?_some found
      subst same
      exact .upgraded (List.mem_of_find?_eq_some found)
    · exact .unchanged _
  | openStream socket succeeds =>
    simp only [step]
    split
    · rename_i session stored
      split
      · exact .moved stored (by simp) (by simp)
      · exact .moved stored (by simp) (by simp)
    · exact .unchanged _
  | endStream socket =>
    simp only [step]
    split
    · rename_i session stored
      exact .moved stored (by simp) (by simp)
    · exact .unchanged _
  | closeSession socket =>
    simp only [step]
    split
    · rename_i session stored
      simp only [DeviceRegistry.closeSession]
      have stepped := Transition.closed stored rfl
      by_cases present : server.registry.sessions.any fun other => other.id == session.id
      · rw [if_pos present]
        exact stepped
      · have absent : server.registry.sessions.filter (fun other => other.id != session.id) =
            server.registry.sessions := by
          refine List.filter_eq_self.mpr ?_
          intro other inside
          rw [bne_iff_ne]
          intro same
          exact present (List.any_eq_true.mpr ⟨other, inside, by rw [same, beq_self_eq_true]⟩)
        rw [if_neg present]
        simp only [absent] at stepped
        exact stepped
    · exact .unchanged _

variable {server : Server}

/-- Where a websocket moves on, every websocket keeps its session. -/
theorem move_stored {socket index : Nat} {phase : Phase} {entry : Socket}
    (stored : (server.move socket phase).sockets[index]? = some entry) :
    ∃ before, server.sockets[index]? = some before ∧ before.session = entry.session ∧
      entry.phase = if socket = index then phase else before.phase := by
  rw [move, List.getElem?_modify, Option.map_eq_map, Option.map_eq_some_iff] at stored
  obtain ⟨before, found, moved⟩ := stored
  refine ⟨before, found, ?_⟩
  by_cases same : socket = index
  · rw [if_pos same] at moved ⊢
    cases moved
    exact ⟨rfl, rfl⟩
  · rw [if_neg same] at moved ⊢
    cases moved
    exact ⟨rfl, rfl⟩

/-- The sessions of the websockets stay the same when one moves on. -/
@[simp] theorem move_sessions (server : Server) (socket : Nat) (phase : Phase) :
    (server.move socket phase).sockets.map Socket.session =
      server.sockets.map Socket.session := by
  refine List.ext_getElem? ?_
  intro index
  rw [move, List.getElem?_map, List.getElem?_map, List.getElem?_modify]
  cases server.sockets[index]? with
  | none => rfl
  | some entry =>
    by_cases same : socket = index
    · simp [same]
    · simp [same]

/-- The sessions that an insertion leaves beside the new one. -/
theorem insert_sessions (registry : DeviceRegistry) (session : Session) :
    ∃ others : List Session, others.Sublist registry.sessions ∧
      (∀ other ∈ others, other.id ≠ session.id) ∧
      (registry.insert session).sessions = others ++ [session] := by
  refine ⟨registry.sessions.filter fun other => other.id != session.id,
    List.filter_sublist, ?_, rfl⟩
  intro other inside
  exact bne_iff_ne.mp (List.mem_filter.mp inside).2

/-- What every step keeps of the table. -/
theorem Transition.tabled {event : Event} {before after : Server}
    (transition : Transition before event after) (tabled : Tabled before) : Tabled after := by
  cases transition with
  | unchanged => exact tabled
  | @opened deviceId newId known room free =>
    obtain ⟨others, sublist, distinct, inserted⟩ :=
      insert_sessions before.registry ⟨newId, deviceId⟩
    have shorter := sublist.length_le
    have ids := tabled.ids.sublist (sublist.map _)
    have devices := tabled.devices.sublist (sublist.map _)
    refine ⟨?_, ?_, ?_⟩
    · rw [inserted, List.length_append, List.length_singleton]
      exact Nat.lt_of_le_of_lt shorter room
    · rw [inserted, List.map_append, List.map_singleton, ← List.concat_eq_append]
      refine ids.concat ?_
      intro inside
      obtain ⟨other, stored, same⟩ := List.mem_map.mp inside
      exact distinct other stored same
    · rw [inserted, List.map_append, List.map_singleton, ← List.concat_eq_append]
      refine devices.concat ?_
      intro inside
      obtain ⟨other, stored, same⟩ := List.mem_map.mp inside
      exact free other (sublist.subset stored) same
  | upgraded => exact ⟨tabled.size, tabled.ids, tabled.devices⟩
  | moved => exact ⟨tabled.size, tabled.ids, tabled.devices⟩
  | @closed socket entry stored ended =>
    have kept : (before.registry.sessions.filter fun other =>
        other.id != entry.session.id).Sublist before.registry.sessions := List.filter_sublist
    exact ⟨Nat.le_trans kept.length_le tabled.size, tabled.ids.sublist (kept.map _),
      tabled.devices.sublist (kept.map _)⟩

/-- `Uuid::new_v4` yields an identifier that no session in the table and no websocket has. -/
def Fresh (server : Server) : Event → Prop
  | .openSession _ newId =>
    (∀ session ∈ server.registry.sessions, session.id ≠ newId) ∧
      ∀ socket ∈ server.sockets, socket.session.id ≠ newId
  | _ => True

/-- A step that leaves the sessions apart: no session in the table is upgraded again, and no
client asks for a device in use while the table is full. -/
def Considerate (server : Server) : Event → Prop
  | .openSession deviceId _ =>
    server.registry.maxSessions ≤ server.registry.sessions.length →
      ∀ session ∈ server.registry.sessions, session.deviceId ≠ deviceId
  | .upgrade id =>
    (∀ session ∈ server.registry.sessions, session.id ≠ id) ∨
      ∀ socket ∈ server.sockets, socket.session.id ≠ id
  | _ => True

/-- What considerate steps keep: a session was upgraded once at most, and it is in the table
until its websocket closes it. -/
structure Sound (server : Server) : Prop where
  tabled : Tabled server
  known : ∀ session ∈ server.registry.sessions,
    server.registry.devices.contains session.deviceId = true
  single : ((server.sockets.map Socket.session).map Session.id).Nodup
  held : ∀ (index : Nat) (socket : Socket), server.sockets[index]? = some socket →
    socket.phase ≠ .closed → socket.session ∈ server.registry.sessions

theorem start_sound (devices : List (List Char)) (maxSessions : Nat) :
    Sound (start devices maxSessions) := by
  refine ⟨⟨Nat.zero_le _, List.nodup_nil, List.nodup_nil⟩, ?_, List.nodup_nil, ?_⟩
  · intro session inside
    cases inside
  · intro index socket stored
    cases stored

/-- A session in the table stays there when one with a new identifier is inserted. -/
theorem insert_keeps {registry : DeviceRegistry} {session other : Session}
    (stored : other ∈ registry.sessions) (distinct : other.id ≠ session.id) :
    other ∈ (registry.insert session).sessions := by
  refine List.mem_append_left _ (List.mem_filter.mpr ⟨stored, ?_⟩)
  exact bne_iff_ne.mpr distinct

/-- Websockets of one session are one. -/
theorem Sound.same_socket (sound : Sound server) {first second : Nat} {left right : Socket}
    (one : server.sockets[first]? = some left) (two : server.sockets[second]? = some right)
    (same : left.session.id = right.session.id) :
    first = second := by
  have within : first < ((server.sockets.map Socket.session).map Session.id).length := by
    obtain ⟨bound, _⟩ := List.getElem?_eq_some_iff.mp one
    simpa using bound
  refine (List.getElem?_inj within sound.single).mp ?_
  simp only [List.getElem?_map, one, two, Option.map_some, same]

/-- Each step of a considerate client keeps the sessions apart. -/
theorem Transition.sound {event : Event} {before after : Server}
    (transition : Transition before event after) (fresh : Fresh before event)
    (considerate : Considerate before event) (sound : Sound before) : Sound after := by
  have tabled := transition.tabled sound.tabled
  cases transition with
  | unchanged => exact sound
  | @opened deviceId newId known room free =>
    refine ⟨tabled, ?_, sound.single, ?_⟩
    · intro session inside
      obtain ⟨others, sublist, distinct, inserted⟩ :=
        insert_sessions before.registry ⟨newId, deviceId⟩
      rw [inserted] at inside
      cases List.mem_append.mp inside with
      | inl old => exact sound.known session (sublist.subset old)
      | inr new =>
        rw [List.mem_singleton.mp new]
        exact known
    · intro index socket stored live
      have old := sound.held index socket stored live
      exact insert_keeps old (fresh.1 _ old)
  | @upgraded session stored =>
    have unused : ∀ socket ∈ before.sockets, socket.session.id ≠ session.id := by
      cases considerate with
      | inl absent => exact absurd rfl (absent session stored)
      | inr unused => exact unused
    refine ⟨tabled, sound.known, ?_, ?_⟩
    · rw [List.map_append, List.map_append, List.map_singleton, List.map_singleton,
        ← List.concat_eq_append]
      refine sound.single.concat ?_
      intro inside
      rw [List.map_map] at inside
      obtain ⟨socket, old, same⟩ := List.mem_map.mp inside
      exact unused socket old same
    · intro index socket found live
      rw [List.getElem?_append] at found
      split at found
      · exact sound.held index socket found live
      · have new := List.mem_of_getElem? found
        rw [List.mem_singleton.mp new]
        exact stored
  | @moved _ socket entry phase stored live remains =>
    refine ⟨tabled, sound.known, ?_, ?_⟩
    · rw [move_sessions]
      exact sound.single
    · intro index other found alive
      obtain ⟨old, was, same, become⟩ := move_stored found
      rw [← same]
      refine sound.held index old was ?_
      intro finished
      by_cases here : socket = index
      · subst here
        rw [stored] at was
        cases was
        exact live finished
      · rw [if_neg here] at become
        exact alive (become.trans finished)
  | @closed socket entry stored ended =>
    refine ⟨tabled, ?_, ?_, ?_⟩
    · intro session inside
      exact sound.known session (List.mem_filter.mp inside).1
    · rw [move_sessions]
      exact sound.single
    · intro index other found alive
      obtain ⟨old, was, same, become⟩ := move_stored found
      have elsewhere : socket ≠ index := by
        intro here
        rw [if_pos here] at become
        exact alive become
      rw [if_neg elsewhere] at become
      refine List.mem_filter.mpr ⟨?_, bne_iff_ne.mpr ?_⟩
      · rw [← same]
        exact sound.held index old was fun finished => alive (become.trans finished)
      · intro shared
        rw [← same] at shared
        exact elsewhere (sound.same_socket stored was shared.symm)

/-- Two sessions of the table on one device are one. -/
theorem Tabled.same_session (tabled : Tabled server) {left right : Session}
    (one : left ∈ server.registry.sessions) (two : right ∈ server.registry.sessions)
    (same : left.deviceId = right.deviceId) : left = right :=
  List.inj_on_of_nodup_map tabled.devices one two same

/-- Sound sessions are exclusive. -/
theorem Sound.exclusive (sound : Sound server) : Exclusive server := by
  intro first second left right one two leftStreams rightStreams device
  have leftHeld := sound.held first left one (by simp [leftStreams])
  have rightHeld := sound.held second right two (by simp [rightStreams])
  have same := sound.tabled.same_session leftHeld rightHeld device
  exact sound.same_socket one two (congrArg Session.id same)

theorem Sound.busy_iff (sound : Sound server) {deviceId : List Char} {newId : Nat}
    (considerate : Considerate server (.openSession deviceId newId)) :
    server.registry.openSession deviceId newId = .error .busy ↔ Engaged server deviceId := by
  have tabled : Engaged server deviceId ↔
      ∃ session ∈ server.registry.sessions, session.deviceId = deviceId := by
    constructor
    · intro engaged
      cases engaged with
      | inl stored => exact stored
      | inr streamed =>
        obtain ⟨socket, inside, streams, device⟩ := streamed
        obtain ⟨index, stored⟩ := List.getElem?_of_mem inside
        exact ⟨socket.session, sound.held index socket stored (by simp [streams]), device⟩
    · exact Or.inl
  rw [tabled]
  constructor
  · intro busy
    unfold DeviceRegistry.openSession at busy
    split at busy
    · cases busy
    split at busy
    · cases busy
    split at busy
    · rename_i taken
      obtain ⟨session, stored, same⟩ := List.any_eq_true.mp taken
      exact ⟨session, stored, by simpa using same⟩
    · cases busy
  · rintro ⟨session, stored, device⟩
    have known := sound.known session stored
    rw [device, List.contains_iff_mem] at known
    have room : ¬server.registry.maxSessions ≤ server.registry.sessions.length := by
      intro full
      exact considerate full session stored device
    have taken : (server.registry.sessions.any fun session => session.deviceId == deviceId) =
        true := List.any_eq_true.mpr ⟨session, stored, by simp [device]⟩
    simp [DeviceRegistry.openSession, known, room, taken]

/-- No step takes a websocket away or gives it another session. -/
theorem Transition.sessions {event : Event} {before after : Server}
    (transition : Transition before event after) :
    before.sockets.map Socket.session <+: after.sockets.map Socket.session := by
  cases transition with
  | unchanged => exact List.prefix_rfl
  | opened => exact List.prefix_rfl
  | upgraded =>
    rw [List.map_append]
    exact List.prefix_append _ _
  | moved => exact ⟨[], by rw [move_sessions, List.append_nil]⟩
  | closed => exact ⟨[], by rw [move_sessions, List.append_nil]⟩

section Runs

variable {devices : List (List Char)} {maxSessions : Nat} {events : List Event}

/-- The table keeps its size and one session for a device along every run. -/
theorem run_tabled (index : Nat) :
    Tabled (Runs.reached step (start devices maxSessions) events index) := by
  refine Runs.always (motive := Tabled) (start_sound devices maxSessions).tabled ?_ index
  intro index event _ tabled
  exact (step_transition event _).tabled tabled

/-- The sessions stay apart along a run of considerate clients. -/
theorem run_sound
    (fresh : ∀ (index : Nat) (event : Event), events[index]? = some event →
      Fresh (Runs.reached step (start devices maxSessions) events index) event)
    (considerate : ∀ (index : Nat) (event : Event), events[index]? = some event →
      Considerate (Runs.reached step (start devices maxSessions) events index) event)
    (index : Nat) : Sound (Runs.reached step (start devices maxSessions) events index) := by
  refine Runs.always (motive := Sound) (start_sound devices maxSessions) ?_ index
  intro index event taken sound
  exact (step_transition event _).sound (fresh index event taken)
    (considerate index event taken) sound

/-- A websocket keeps its position and its session to the end of a run. -/
theorem run_sessions {earlier later : Nat} (order : earlier ≤ later) :
    (Runs.reached step (start devices maxSessions) events earlier).sockets.map Socket.session <+:
      (Runs.reached step (start devices maxSessions) events later).sockets.map
        Socket.session := by
  refine Runs.onward (motive := fun (server : Server) => _ <+: server.sockets.map Socket.session)
    order List.prefix_rfl ?_
  intro index event _ _ before
  exact before.trans (step_transition event _).sessions

/-- The session of a websocket, read off any later state. -/
theorem run_session {earlier later index : Nat} {socket : Socket} (order : earlier ≤ later)
    (stored : (Runs.reached step (start devices maxSessions) events earlier).sockets[index]? =
      some socket) :
    ((Runs.reached step (start devices maxSessions) events later).sockets.map
      Socket.session)[index]? = some socket.session := by
  have before : ((Runs.reached step (start devices maxSessions) events earlier).sockets.map
      Socket.session)[index]? = some socket.session := by
    rw [List.getElem?_map, stored, Option.map_some]
  obtain ⟨bound, _⟩ := List.getElem?_eq_some_iff.mp before
  obtain ⟨added, whole⟩ := run_sessions order
  rw [← whole, List.getElem?_append_left bound]
  exact before

/-- One websocket at most ever streams a session of considerate clients. -/
theorem run_streamed_once
    (fresh : ∀ (index : Nat) (event : Event), events[index]? = some event →
      Fresh (Runs.reached step (start devices maxSessions) events index) event)
    (considerate : ∀ (index : Nat) (event : Event), events[index]? = some event →
      Considerate (Runs.reached step (start devices maxSessions) events index) event)
    {earlier later first second : Nat} {left right : Socket}
    (one : (Runs.reached step (start devices maxSessions) events earlier).sockets[first]? =
      some left)
    (two : (Runs.reached step (start devices maxSessions) events later).sockets[second]? =
      some right)
    (same : left.session.id = right.session.id) : first = second := by
  have sound := run_sound fresh considerate (max earlier later)
  have leftSession := run_session (Nat.le_max_left earlier later) one
  have rightSession := run_session (Nat.le_max_right earlier later) two
  have within : first < ((Runs.reached step (start devices maxSessions) events
      (max earlier later)).sockets.map Socket.session).length :=
    (List.getElem?_eq_some_iff.mp leftSession).1
  refine (List.getElem?_inj (by simpa using within) sound.single).mp ?_
  rw [List.getElem?_map (f := Session.id), leftSession]
  rw [List.getElem?_map (f := Session.id), rightSession]
  exact congrArg some same

/-- **Sessions of the bridge.** Along every run the table holds `max_sessions` sessions at most
and one for a device. Where each session is upgraded once while it is in the table, and no
client asks for a device in use while the table is full, one websocket at most streams to a
device at any time, one at most ever streams a session, and a device is answered busy exactly
while a session on it is open. `Uuid::new_v4` is relied on for new identifiers. -/
theorem sessions_exclusive (devices : List (List Char)) (maxSessions : Nat)
    (events : List Event) :
    (∀ index, Tabled (Runs.reached step (start devices maxSessions) events index)) ∧
      ((∀ (index : Nat) (event : Event), events[index]? = some event →
          Fresh (Runs.reached step (start devices maxSessions) events index) event) →
        (∀ (index : Nat) (event : Event), events[index]? = some event →
          Considerate (Runs.reached step (start devices maxSessions) events index) event) →
        (∀ index, Exclusive (Runs.reached step (start devices maxSessions) events index)) ∧
          (∀ (earlier later first second : Nat) (left right : Socket),
            (Runs.reached step (start devices maxSessions) events earlier).sockets[first]? =
              some left →
            (Runs.reached step (start devices maxSessions) events later).sockets[second]? =
              some right →
            left.phase = .streaming → right.phase = .streaming →
            left.session.id = right.session.id → first = second) ∧
          ∀ (index : Nat) (deviceId : List Char) (newId : Nat),
            events[index]? = some (.openSession deviceId newId) →
            ((Runs.reached step (start devices maxSessions) events index).registry.openSession
                deviceId newId = .error .busy ↔
              Engaged (Runs.reached step (start devices maxSessions) events index)
                deviceId)) := by
  refine ⟨run_tabled, ?_⟩
  intro fresh considerate
  refine ⟨?_, ?_, ?_⟩
  · intro index
    exact (run_sound fresh considerate index).exclusive
  · intro earlier later first second left right one two _ _ same
    exact run_streamed_once fresh considerate one two same
  · intro index deviceId newId taken
    exact (run_sound fresh considerate index).busy_iff (considerate index _ taken)

end Runs

instance (server : Server) (event : Event) : Decidable (Fresh server event) :=
  match event with
  | .openSession _ _ => inferInstanceAs (Decidable (_ ∧ _))
  | .upgrade _ => isTrue trivial
  | .openStream _ _ => isTrue trivial
  | .endStream _ => isTrue trivial
  | .closeSession _ => isTrue trivial

instance (server : Server) (event : Event) : Decidable (Considerate server event) :=
  match event with
  | .openSession _ _ => inferInstanceAs (Decidable (_ → _))
  | .upgrade _ => inferInstanceAs (Decidable (_ ∨ _))
  | .openStream _ _ => isTrue trivial
  | .endStream _ => isTrue trivial
  | .closeSession _ => isTrue trivial

/-- A condition on every step of a run, as one on its positions. -/
theorem every_step {events : List Event} {condition : Server → Event → Prop}
    (holds : ∀ index : Fin events.length,
      condition (Runs.reached step server events index) (events.get index)) (index : Nat)
    (event : Event) (taken : events[index]? = some event) :
    condition (Runs.reached step server events index) event := by
  obtain ⟨bound, rfl⟩ := List.getElem?_eq_some_iff.mp taken
  exact holds ⟨index, bound⟩

/-- Two clients use a device one after the other; the second is answered busy first. -/
def turns : List Event :=
  [.openSession ['a'] 0, .upgrade 0, .openStream 0 true, .openSession ['a'] 1, .endStream 0,
    .closeSession 0, .openSession ['a'] 2, .upgrade 2, .openStream 1 true]

theorem sessions_exclusive_turns :
    Exclusive (Runs.reached step (start [['a']] 4) turns 9) ∧
      (Runs.reached step (start [['a']] 4) turns 3).registry.openSession ['a'] 1 =
        .error .busy := by
  have sound := (sessions_exclusive [['a']] 4 turns).2
    (every_step (by decide)) (every_step (by decide))
  refine ⟨sound.1 9, (sound.2.2 3 ['a'] 1 rfl).mpr ?_⟩
  exact .inl (by decide)

/-- A session is upgraded twice and both websockets stream; the first ends, and the device is
opened again while the second streams on. -/
def upgradedTwice : List Event :=
  [.openSession ['a'] 0, .upgrade 0, .upgrade 0, .openStream 0 true, .openStream 1 true,
    .endStream 0, .closeSession 0, .openSession ['a'] 1]

/-- Two websockets stream one session of one device, and later the device is lent out though
it is being streamed. -/
theorem upgraded_twice_streams :
    (∀ (index : Nat) (event : Event), upgradedTwice[index]? = some event →
        Fresh (Runs.reached step (start [['a']] 4) upgradedTwice index) event) ∧
      ¬ Exclusive (Runs.reached step (start [['a']] 4) upgradedTwice 5) ∧
      ¬ ((Runs.reached step (start [['a']] 4) upgradedTwice 7).registry.openSession ['a'] 1 =
          .error .busy ↔
        Engaged (Runs.reached step (start [['a']] 4) upgradedTwice 7) ['a']) := by
  refine ⟨every_step (by decide), ?_, ?_⟩
  · intro exclusive
    have same := exclusive 0 1 ⟨⟨0, ['a']⟩, .streaming⟩ ⟨⟨0, ['a']⟩, .streaming⟩
      (by decide) (by decide) rfl rfl rfl
    cases same
  · intro answered
    have busy := answered.mpr (.inr ⟨⟨⟨0, ['a']⟩, .streaming⟩, by decide, rfl, rfl⟩)
    cases busy

end Server

end PoisonedOS.Bridge
