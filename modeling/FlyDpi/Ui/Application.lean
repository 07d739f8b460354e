import FlyDpi.Orchestrator.BackendRuns
import FlyDpi.Ui.MainWindow
import FlyDpi.Ui.Wire

/-!
# Application — the user interface and the backend together

The main window with its client, the backend with all its connections, and the bytes on their way
from one to the other.  Connections are lost at any moment, with what was on its way, and the next
one starts with an empty stream, but not with an empty buffer.  A response of which a part arrives
counts as written, whatever becomes of the rest.

The backend is one process that listens.  It closes its manager when it ends, so its runtime is
enabled all the time or never.  What the client reads is within the limits of Qt and of its own loop
(`Readable`).
-/

namespace FlyDpi
namespace Ui

open Lib FlyDpi.Orchestrator FlyDpi.Orchestrator.GoJson

namespace Application

/-- The connection that the client's socket has. -/
structure Link where
  /-- Its index in the backend. -/
  connection : Nat
  /-- How many requests had been written before. -/
  first : Nat
  /-- The bytes that have arrived. -/
  got : Bytes

/-- The requests written on the connection. -/
def Link.sent (link : Link) (client : RpcClient) : List Request :=
  client.written.drop link.first

/-- How many responses have arrived with their newline. -/
def Link.heard (link : Link) : Nat :=
  (Framing.cut 0x0a link.got).1.length

end Application

structure Application where
  backend : Backend
  window : MainWindow
  link : Option Application.Link

namespace Application

def start : Application :=
  { backend := Backend.start
    window := MainWindow.start
    link := none }

/-- What is outside of the program, and how Qt writes the parameters of a request. -/
structure World where
  setup : Backend.Setup
  times : Times
  qt : Qt
  toJson : JsonObject → Bytes

/-- A request as the server decodes it. -/
def decoded (world : World) (request : Request) : Rpc.Request :=
  { jsonrpc := lit "2.0"
    id := request.id
    method := lit request.method
    params := world.toJson request.params }

/-- What a connection of the backend writes while everything is decoded. -/
def responses (conn : Backend.Connection) : List Rpc.Response :=
  conn.answers.map Backend.Answer.response

/-- On the client's connection the server decodes what the client has written, in this order, and
nothing of it fails to decode: the requests are well formed as long as their IDs have no sign. -/
def Decodes (world : World) (app : Application) (backend : Backend) : Prop :=
  ∀ link ∈ app.link, ∀ conn ∈ backend.connections[link.connection]?,
    conn.requests <+: (link.sent app.window.client).map (decoded world) ∧ conn.parting = none

/-- Qt can read the responses of the connection, and no line of what the client finds in its buffer
reaches 2^31 bytes. -/
structure Readable (world : World) (client : RpcClient) (conn : Backend.Connection) (chunk : Bytes) :
    Prop where
  portable : ∀ response ∈ responses conn, Portable world.times response
  fit : RpcClient.LinesFit (client.buffer ++ chunk)

/-- The events that do not concern the connection, and the actions of the user. -/
def Local : Input → Prop
  | .socket .telemetryTimeout => True
  | .socket .reconnectTimeout => True
  | .socket _ => False
  | _ => True

variable (world : World)

inductive Step : Application → Application → Prop
  | backend {app : Application} {backend : Backend} :
      Backend.Step world.setup app.backend backend → Decodes world app backend →
      Step app { app with backend := backend }
  | connected {app : Application} : app.link = none →
      Step app
        { backend :=
            { app.backend with
              connections := app.backend.connections ++ [Backend.Connection.new] }
          window := app.window.handle world.qt (.socket .connected)
          link := some
            { connection := app.backend.connections.length
              first := app.window.client.written.length
              got := [] } }
  | readyRead {app : Application} {link : Link} {conn : Backend.Connection} {chunk : Bytes} :
      app.link = some link → app.backend.connections[link.connection]? = some conn →
      link.got ++ chunk <+: streamOf world.times (responses conn) →
      Readable world app.window.client conn chunk →
      Step app
        { app with
          window := app.window.handle world.qt (.socket (.readyRead chunk))
          link := some { link with got := link.got ++ chunk } }
  | disconnected {app : Application} : app.link.isSome = true →
      Step app
        { app with
          window := app.window.handle world.qt (.socket .disconnected)
          link := none }
  | errorOccurred {app : Application} {connected : Bool} {errorString : Bytes} :
      (connected = true → app.link.isSome = true) →
      Step app
        { app with
          window := app.window.handle world.qt
            (.socket (.errorOccurred connected errorString))
          link := if connected then app.link else none }
  | acts {app : Application} {input : Input} : Local input →
      Step app { app with window := app.window.handle world.qt input }

def Reachable (app : Application) : Prop :=
  Relation.ReflTransGen (Step world) start app

end Application

end Ui
end FlyDpi
