import Tabletop.Document.Json
import Tabletop.Service.Path
import Tabletop.Service.Response
import Tabletop.Text.Case
import Tabletop.Text.Encoding

/-!
# Requests

The requests of the HTTP surface (specification, 10.6). A request names a resource and a method, and
may bring a query and a body. It is turned down in this order: a path that names nothing, a method
that the resource does not have, a body that is no JSON, a table that is not there, a query or a
body that does not pass. What is left is an action.
-/
namespace Tabletop

open Form

/-- The body is sent as the UTF-8 bytes of a text. -/
structure Request where
  method : Text
  path : Text
  query : Query
  body : Text
  deriving Repr

/-- What is asked of one table. -/
inductive TableCall where
  | read | close | roll | check | command | recent | latest | latestText | clear
  deriving DecidableEq, Repr

/-- What is asked of the service, before tables and forms are looked at. -/
inductive Call where
  | openTable
  | listTables
  | ofTable (id : Text) (call : TableCall)
  deriving DecidableEq, Repr

namespace Call

/-- What a method asks of a resource, if it has the method. -/
def of? (resource : Resource) (method : String) : Option Call :=
  match resource, method with
  | .tables, "POST" => some .openTable
  | .tables, "GET" => some .listTables
  | .table id, "GET" => some (.ofTable id .read)
  | .table id, "DELETE" => some (.ofTable id .close)
  | .rolls id, "POST" => some (.ofTable id .roll)
  | .rolls id, "GET" => some (.ofTable id .recent)
  | .rolls id, "DELETE" => some (.ofTable id .clear)
  | .latest id, "GET" => some (.ofTable id .latest)
  | .latestText id, "GET" => some (.ofTable id .latestText)
  | .checks id, "POST" => some (.ofTable id .check)
  | .commands id, "POST" => some (.ofTable id .command)
  | _, _ => none

def hasBody : Call → Bool
  | openTable | ofTable _ .roll | ofTable _ .check | ofTable _ .command => true
  | _ => false

def isPlain : Call → Bool
  | ofTable _ .latestText => true
  | _ => false

end Call

namespace Request

def methodName (request : Request) : String := String.ofList (Text.upper request.method)

/-- A path that only its last slashes keep from naming something is sent elsewhere. -/
def call (request : Request) : Except Response Call :=
  let path := Path.unescaped request.path
  match Resource.ofPath? path with
  | none => .error (if Resource.isMisspelled path then .elsewhere else .notFound)
  | some resource =>
    match Call.of? resource request.methodName with
    | none => .error .wrongMethod
    | some call => .ok call

/-- The most lists and objects inside one another that a body may hold. -/
def maxLevels : Nat := 960

/-- The document in a body, if there is one. -/
def document? (body : Text) : Except Response (Option Document) :=
  if body.isEmpty then .ok none
  else
    match body.guessed?.map (Json.read maxLevels) with
    | some (.ok value) => .ok (some value)
    | some (.error .malformed) =>
      .error (.ofComplaints [⟨[.key "body"], .notJson, .object []⟩])
    | some (.error .tooDeep) | some (.error (.numeral _)) | none => .error .unreadBody

end Request

/-- A body must be there and must be an object. -/
def Form.bodyOf {α : Type} (read : Document.Fields → Checked α) : Option Document → Checked α
  | none => (Checked.refuse .null .missing).below (.key "body")
  | some (.object fields) => (read fields).below (.key "body")
  | some value => (Checked.refuse value .notBody).below (.key "body")

namespace Action

def textWithin (least most : Nat) : Reader Text := fun value =>
  (textBetween least most value).map String.toList

def speakerOf (fields : Document.Fields) : Checked (Option Document.Fields) :=
  optional fields (.word "speaker") (nullable object) none

def sendOf (fields : Document.Fields) : Checked Bool := optional fields sendName truth true

def create? (fields : Document.Fields) : Checked Action :=
  (fun name capacity => .create name capacity none)
    <$> required fields (.word "name") (textWithin 1 100)
    <*> optional fields ⟨"historyCapacity", "history_capacity"⟩
      (nullable (wholeBetween (some 1) (some 1000))) none

def roll? (table : Nat) (fields : Document.Fields) : Checked Action :=
  (fun expression send flavor speaker => .roll table expression ⟨send, flavor, speaker⟩)
    <$> required fields (.word "expression") (textWithin 0 500)
    <*> sendOf fields
    <*> optional fields flavorName (nullable textField) none
    <*> speakerOf fields

def check? (table : Nat) (fields : Document.Fields) : Checked Action :=
  (fun ability bonus advantage disadvantage send speaker =>
    .check table ⟨ability, bonus, Edge.ofFlags advantage disadvantage⟩ ⟨send, none, speaker⟩)
    <$> required fields (.word "attribute") (textWithin 1 50)
    <*> optional fields (.word "bonus") whole 0
    <*> optional fields (.word "advantage") truth false
    <*> optional fields (.word "disadvantage") truth false
    <*> sendOf fields
    <*> speakerOf fields

def command? (table : Nat) (fields : Document.Fields) : Checked Action :=
  (fun text speaker => .command table text ⟨true, none, speaker⟩)
    <$> required fields (.word "text") (textWithin 1 500)
    <*> speakerOf fields

/-- Of several limits the last one counts. -/
def recent? (table : Nat) (query : Query) : Checked Action :=
  match query.reverse.lookup "limit" with
  | none => .good (.recent table 10)
  | some value =>
    let limit := (wholeBetween (some 1) (some 1000) (.text value)).below (.key "limit")
    (limit.below (.key "query")).map (.recent table)

/-- The action of a call at the table with an id and a place. -/
def ofTableCall (id : Text) (table : Nat) (query : Query)
    (document : Option Document) : TableCall → Checked Action
  | .read => .good (.find id)
  | .close => .good (.delete id)
  | .roll => bodyOf (roll? table) document
  | .check => bodyOf (check? table) document
  | .command => bodyOf (command? table) document
  | .recent => recent? table query
  | .latest | .latestText => .good (.last table)
  | .clear => .good (.clear table)

end Action

def Response.unlessGood : Checked Action → Except Response Action
  | .good action => .ok action
  | .bad complaints => .error (.ofComplaints complaints)

namespace Request

variable {σ : Type}

def actionOf (call : Call) (query : Query) (document : Option Document)
    (registry : Registry σ) : Except Response Action :=
  match call with
  | .openTable => Response.unlessGood (bodyOf Action.create? document)
  | .listTables => .ok .all
  | .ofTable id call =>
    match registry.placeOf? id with
    | none => .error .noTable
    | some place => Response.unlessGood (Action.ofTableCall id place query document call)

/-- The call of a request and its action, or the response that turns it down. -/
def action (request : Request) (registry : Registry σ) : Except Response (Call × Action) := do
  let call ← request.call
  let document ← if call.hasBody then document? request.body else .ok none
  let action ← actionOf call request.query document registry
  return (call, action)

end Request

end Tabletop
