import Tabletop.Service.Request
import Tabletop.Settings

/-!
# The service

The HTTP surface (specification, 10.6): requests to a room, one after the other. A fault without a
response ends the service.
-/
namespace Tabletop.Service

variable {σ : Type} [DrawSource σ]

/-- A service does not start with a log level that there is not. -/
def start (settings : Settings) (source : σ) (sinks : List Sink) : Except Fault (Room σ) := do
  let _ ← settings.level
  return Room.start (settings.tableDefaults source) (Channel.ofSinks true sinks)

def respond (call : Call) (answer : Except Fault Answer) : Except Fault Response :=
  match answer with
  | .ok answer => Response.ofAnswer call.isPlain answer
  | .error fault => Response.ofFault fault

/-- A response to a request for the head alone is sent without its body. -/
def send (request : Request) (response : Response) : Except Fault Response :=
  response.sendable.map fun response =>
    if request.methodName = "HEAD" then response.withoutBody else response

def handle (request : Request) (room : Room σ) : Except Fault Response × Room σ :=
  match request.action room.registry with
  | .error response => (send request response, room)
  | .ok (call, action) =>
    let (answer, room) := room.perform action
    (respond call answer >>= send request, room)

end Tabletop.Service
