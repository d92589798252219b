import PoisonedOS.Library.Unicode
import PoisonedOS.Library.Runs
import Mathlib.Logic.Function.Basic

/-!
# Sessions on the Wi-Fi boards

The gateway keeps an owner for each board while a client opens a session on it and while the
session is in use. Each session has a connection of its own; connecting and closing it take
time, and the board may disconnect it.

A connection that fails to connect has closed its socket before it says so.
-/

namespace PoisonedOS.Gateway

/-- The identifier of a board. -/
abbrev BoardId := List Char

/-- The identifier of a client. -/
abbrev ClientId := List Char

/-- The state of an owner. -/
inductive OwnerState where
  | connecting
  | inUse
deriving DecidableEq

/-- Where the session of a client and its connection are. -/
inductive Phase where
  /-- `connection.connect` is awaited. -/
  | connecting
  /-- The connection did not reach the ready state and is closed. -/
  | refusing
  /-- `openSession` threw, and there is no connection. -/
  | failed
  | inUse
  /-- The connection was lost and is closed. -/
  | dropped
  /-- The connection was lost and a listener threw before it could be closed. -/
  | abandoned
  /-- `close` of the session waits for that of the connection. -/
  | closing
  | ended
deriving DecidableEq

/-- The session of a client. -/
structure Session where
  board : BoardId
  phase : Phase
deriving DecidableEq

/-- `WifiControlPlane` and the sessions it has opened. -/
structure ControlPlane where
  boards : List BoardId
  owners : BoardId → Option (ClientId × OwnerState)
  sessions : ClientId → Option Session

/-- What happens to the control plane. -/
inductive Event where
  /-- `openSession`, and whether `createConnection` returns. -/
  | openSession (board : BoardId) (client : ClientId) (created : Bool)
  | connectFailed (client : ClientId)
  /-- The connection is made, and whether its state is still ready. -/
  | connected (client : ClientId) (ready : Bool)
  /-- The connection is lost, and whether all listeners of the session return. -/
  | disconnected (client : ClientId) (listenersReturn : Bool)
  | closeSession (client : ClientId)
  /-- `connection.close` is settled. -/
  | closeFinished (client : ClientId)

namespace ControlPlane

/-- A control plane for these boards. -/
def start (boards : List BoardId) : ControlPlane where
  boards := boards
  owners _ := none
  sessions _ := none

/-- `releaseOwner`. -/
def releaseOwner (plane : ControlPlane) (board : BoardId) (client : ClientId) : ControlPlane :=
  match plane.owners board with
  | some owner =>
    if owner.1 = client then { plane with owners := Function.update plane.owners board none }
    else plane
  | none => plane

/-- Take the session of a client to its next phase. -/
def move (plane : ControlPlane) (client : ClientId) (session : Session) (phase : Phase) :
    ControlPlane :=
  { plane with
    sessions := Function.update plane.sessions client (some { session with phase := phase }) }

/-- The checks at the head of `openSession`. -/
def opens (plane : ControlPlane) (board : BoardId) (client : ClientId) : Bool :=
  plane.boards.contains board && (plane.owners board).isNone &&
    decide (1 ≤ (Unicode.utf16 client).length) && decide ((Unicode.utf16 client).length ≤ 128)

/-- `openSession` as far as the call of `connect`. -/
def openSession (plane : ControlPlane) (board : BoardId) (client : ClientId) (created : Bool) :
    ControlPlane :=
  if !plane.opens board client then plane
  else
    { plane with
      owners := Function.update plane.owners board (some (client, .connecting))
      sessions := Function.update plane.sessions client
        (some { board := board, phase := if created then .connecting else .failed }) }

/-- `openSession` after `connect` threw. -/
def connectFailed (plane : ControlPlane) (client : ClientId) : ControlPlane :=
  match plane.sessions client with
  | some ⟨board, .connecting⟩ =>
    (plane.releaseOwner board client).move client ⟨board, .connecting⟩ .failed
  | _ => plane

/-- `openSession` after `connect`. -/
def connected (plane : ControlPlane) (client : ClientId) (ready : Bool) : ControlPlane :=
  match plane.sessions client with
  | some ⟨board, .connecting⟩ =>
    if !ready then (plane.releaseOwner board client).move client ⟨board, .connecting⟩ .refusing
    else
      { plane with
        owners := Function.update plane.owners board (some (client, .inUse)) }.move client
        ⟨board, .connecting⟩ .inUse
  | _ => plane

/-- The session's listener of the connection. -/
def disconnected (plane : ControlPlane) (client : ClientId) (listenersReturn : Bool) :
    ControlPlane :=
  match plane.sessions client with
  | some ⟨board, .inUse⟩ =>
    (plane.releaseOwner board client).move client ⟨board, .inUse⟩
      (if listenersReturn then .dropped else .abandoned)
  | _ => plane

/-- `close` of a session as far as that of its connection. -/
def closeSession (plane : ControlPlane) (client : ClientId) : ControlPlane :=
  match plane.sessions client with
  | some ⟨board, .inUse⟩ => plane.move client ⟨board, .inUse⟩ .closing
  | _ => plane

/-- The connection is closed. -/
def closeFinished (plane : ControlPlane) (client : ClientId) : ControlPlane :=
  match plane.sessions client with
  | some ⟨board, .refusing⟩ => plane.move client ⟨board, .refusing⟩ .failed
  | some ⟨board, .dropped⟩ => plane.move client ⟨board, .dropped⟩ .ended
  | some ⟨board, .closing⟩ =>
    (plane.releaseOwner board client).move client ⟨board, .closing⟩ .ended
  | _ => plane

/-- One event. -/
def step : Event → ControlPlane → ControlPlane
  | .openSession board client created, plane => plane.openSession board client created
  | .connectFailed client, plane => plane.connectFailed client
  | .connected client ready, plane => plane.connected client ready
  | .disconnected client listenersReturn, plane => plane.disconnected client listenersReturn
  | .closeSession client, plane => plane.closeSession client
  | .closeFinished client, plane => plane.closeFinished client

end ControlPlane

end PoisonedOS.Gateway
