import Tabletop.Form.Records
import Tabletop.Room.Action

/-!
# Responses

The responses of the HTTP surface (specification, 10.6): what the service sends back for the answers
of a room, for faults of rolling and for forms that do not pass. Some faults are not the roller's
and have no response, and some values cannot be sent.
-/
namespace Tabletop

namespace Form

def Step.document : Step → Document
  | .key name => .text name
  | .index place => .integer place

/-- A complaint without the value at fault. -/
def Complaint.document (complaint : Complaint) : Document :=
  .object [("type", .text complaint.flaw.code),
    ("loc", .list (complaint.path.map Step.document)),
    ("msg", .text complaint.flaw.message)]

end Form

inductive ResponseBody where
  | empty
  | plain (text : Text)
  | json (value : Document)
  /-- Each complaint goes out with the value at fault. -/
  | refusal (complaints : List Form.Complaint)
  deriving Repr

structure Response where
  status : Nat
  body : ResponseBody
  deriving Repr

def TableSummary.document (table : TableSummary) : Document :=
  .object [("id", asText table.id), ("name", asText table.name),
    ("historyCapacity", .integer table.capacity), ("historySize", .integer table.size)]

def Reply.document (reply : Reply) : Document :=
  .object [("reply", asText reply.text), ("result", orNull (Roll.document .camel) reply.roll)]

namespace Response

def json (status : Nat) (value : Document) : Response := ⟨status, .json value⟩

def bare (status : Nat) : Response := ⟨status, .empty⟩

def withDetail (status : Nat) (detail : String) : Response :=
  json status (.object [("detail", .text detail)])

def notFound : Response := withDetail 404 "Not Found"
def noTable : Response := withDetail 404 "Table not found"
def noRolls : Response := withDetail 404 "No rolls yet"
def wrongMethod : Response := withDetail 405 "Method Not Allowed"
def unreadBody : Response := withDetail 400 "There was an error parsing the body"
def elsewhere : Response := bare 307

def ofComplaints (complaints : List Form.Complaint) : Response :=
  ⟨422, .refusal complaints⟩

/-- A draw source that misbehaves is no fault of the roller. -/
def ofFault (fault : Fault) : Except Fault Response :=
  match fault with
  | .noTable => .ok noTable
  | .refusedDraw .. => .ok (withDetail 500 "Dice engine failure")
  | .unreadable .. | .nothingToRoll _ | .burstTooOften .. | .notACommand .. | .unknownCommand _ =>
    .ok (json 422 (.object [("detail", asText fault.message),
      ("fragment", orNull asText fault.fragment)]))
  | .numeral _ | .capacity _ | .oversized | .unknownLevel _ | .notFinite | .tooDeep => .error fault

/-- The latest roll is written as a line where plain text is asked for. -/
def ofLatest (plain : Bool) : Option Roll → Except Fault Response
  | none => .ok noRolls
  | some roll =>
    if plain then roll.line.map fun line => ⟨200, .plain line⟩
    else .ok (json 200 (roll.document .camel))

def ofAnswer (plain : Bool) : Answer → Except Fault Response
  | .created table => .ok (json 201 table.document)
  | .found (some table) => .ok (json 200 table.document)
  | .found none => .ok noTable
  | .tables list => .ok (json 200 (.list (list.map TableSummary.document)))
  | .rolled roll => .ok (json 201 (roll.document .camel))
  | .replied reply => .ok (json 200 reply.document)
  | .recalled rolls => .ok (json 200 (.list (rolls.map (Roll.document .camel))))
  | .latest roll => ofLatest plain roll
  | .deleted _ | .cleared | .subscribed _ | .drained _ => .ok (bare 204)

/-- A body with a number that has no numeral cannot be sent, and a value at fault has to be finite
all through. -/
def sendable (response : Response) : Except Fault Response :=
  match response.body with
  | .json value =>
    if value.isWritable then .ok response else .error (.numeral .tooLongToWrite)
  | .refusal complaints =>
    if complaints.all (·.value.isFinite) then .ok response else .error .notFinite
  | .plain _ | .empty => .ok response

def withoutBody (response : Response) : Response := { response with body := .empty }

end Response

end Tabletop
