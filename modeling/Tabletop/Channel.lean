import Tabletop.Form.Records

/-!
# Channels

The result channel and its sinks (specification, 10.5). A channel hands each event to its subscribed
sinks in turn. What goes wrong at a sink is a notice in the channel's log and reaches neither the
other sinks nor the one who published. Webhooks post only while the channel is running, and they
post after every sink has been visited. An event that cannot be made a document is not posted, and
nobody notices.
-/
namespace Tabletop

/-- What comes back for a posted event. -/
inductive Receipt where
  | status (code : Int)
  | unreachable
  | crash
  deriving DecidableEq, Repr

namespace Receipt

def isSuccess : Receipt → Bool
  | status code => decide (200 ≤ code ∧ code < 300)
  | _ => false

end Receipt

inductive Severity where
  | info | warning | error
  deriving DecidableEq, Repr

/-- One entry of a channel's log. -/
inductive Notice where
  | announced (roller breakdown : Text) (flavor : Option Text)
  | queueFull (expression : Text)
  | sinkBroken (expression : Text)
  | notRunning (url : Text)
  | refused (url : Text)
  | unreachable (url : Text)
  | crashed (url : Text)
  /-- The event holds a number that has no numeral. -/
  | unwritable (url : Text)
  deriving DecidableEq, Repr

namespace Notice

def severity : Notice → Severity
  | announced .. => .info
  | notRunning _ | refused _ | unreachable _ => .warning
  | queueFull _ | sinkBroken _ | crashed _ | unwritable _ => .error

/-- An empty flavor is not shown. -/
def flavorText : Option Text → Text
  | none | some [] => []
  | some flavor => [' ', '('] ++ flavor ++ [')']

def failureText (sink : String) (expression : Text) : Text :=
  "Roll sink <".toList ++ sink.toList ++ "> failed for ".toList ++ Text.quoted expression

def deliveryText (url : Text) (outcome : String) : Text :=
  "Webhook delivery to ".toList ++ url ++ outcome.toList

def text : Notice → Text
  | announced roller breakdown flavor =>
    roller ++ " rolled ".toList ++ breakdown ++ flavorText flavor
  | queueFull expression => failureText "QueueSink" expression
  | sinkBroken expression => failureText "BrokenSink" expression
  | notRunning url => "No running event loop, dropping webhook delivery to ".toList ++ url
  | refused url | unreachable url => deliveryText url " failed"
  | crashed url | unwritable url => deliveryText url " crashed"

/-- The log line of an event. A roller without a name is someone. -/
def ofEvent (event : Event) : Notice :=
  let name := (event.speaker.getD []).lookup "alias"
  .announced ((name.map Document.shown).getD "someone".toList) event.breakdown event.flavor

/-- What is logged about an event that was posted. -/
def ofReceipt? (url : Text) (receipt : Receipt) : Option Notice :=
  match receipt with
  | .status _ => if receipt.isSuccess then none else some (.refused url)
  | .unreachable => some (.unreachable url)
  | .crash => some (.crashed url)

end Notice

inductive Sink where
  /-- Holds events until they are taken, at most `bound` of them if the bound is positive. -/
  | queue (bound : Int) (held : List Event)
  | journal
  | broken
  /-- Gets the receipts in turn, from the front again after the last. -/
  | webhook (url : Text) (receipts : List Receipt) (attempts : Nat) (posted : List Event)
  deriving Repr

namespace Sink

def isFull (bound : Int) (held : List Event) : Bool := 0 < bound && bound ≤ held.length

/-- A queue without a positive bound is never full. -/
theorem isFull_iff {bound : Int} {held : List Event} :
    isFull bound held = true ↔ 0 < bound ∧ bound ≤ held.length := by
  simp [isFull]

/-- The receipt for an attempt. Nobody answers where there are no receipts. -/
def receiptFor (receipts : List Receipt) (attempt : Nat) : Receipt :=
  (receipts[attempt % receipts.length]?).getD .unreachable

/-- The sink is offered an event. A webhook of a running channel only takes note of it. -/
def visit (running : Bool) (event : Event) : Sink → Sink × Option Notice
  | queue bound held =>
    if isFull bound held then (queue bound held, some (.queueFull event.roll.expression))
    else (queue bound (held ++ [event]), none)
  | journal => (journal, some (.ofEvent event))
  | broken => (broken, some (.sinkBroken event.roll.expression))
  | webhook url receipts attempts posted =>
    (webhook url receipts attempts posted, if running then none else some (.notRunning url))

/-- A webhook posts an event that it took note of. One that it cannot write out never leaves, and
one that does not even become a document is gone without a notice. -/
def post (event : Event) : Sink → Sink × Option Notice
  | webhook url receipts attempts posted =>
    match event.sent with
    | .error _ => (webhook url receipts attempts posted, none)
    | .ok document =>
      if document.isWritable then
        (webhook url receipts (attempts + 1) (posted ++ [event]),
          Notice.ofReceipt? url (receiptFor receipts attempts))
      else (webhook url receipts attempts posted, some (.unwritable url))
  | sink => (sink, none)

/-- The events that the sink took and that nobody has fetched. -/
def taken : Sink → List Event
  | queue _ held => held
  | webhook _ _ _ posted => posted
  | journal | broken => []

def emptied : Sink → Sink
  | queue bound _ => queue bound []
  | webhook url receipts attempts _ => webhook url receipts attempts []
  | sink => sink

end Sink

/-- Every sink there ever was, the places of the subscribed ones in order, and the log. -/
structure Channel where
  running : Bool
  sinks : List Sink
  subscribers : List Nat
  log : List Notice
  deriving Repr

namespace Channel

def start (running : Bool) : Channel := ⟨running, [], [], []⟩

/-- One action on the sinks at the places in turn, and what they have to say. -/
def pass (act : Sink → Sink × Option Notice) : List Nat → List Sink → List Sink × List Notice
  | [], sinks => (sinks, [])
  | place :: rest, sinks =>
    match sinks[place]? with
    | none => pass act rest sinks
    | some sink =>
      let (sink, notice) := act sink
      let (sinks, notices) := pass act rest (sinks.set place sink)
      (sinks, notice.toList ++ notices)

def passed (act : Sink → Sink × Option Notice) (channel : Channel) : Channel :=
  let (sinks, notices) := pass act channel.subscribers channel.sinks
  { channel with sinks := sinks, log := channel.log ++ notices }

def publish (event : Event) (channel : Channel) : Channel :=
  let visited := channel.passed (Sink.visit channel.running event)
  if channel.running then visited.passed (Sink.post event) else visited

/-- A sink may be subscribed several times. -/
def subscribe (place : Nat) (channel : Channel) : Channel :=
  { channel with subscribers := channel.subscribers ++ [place] }

/-- The earliest subscription of the sink ends, if there is one. -/
def unsubscribe (place : Nat) (channel : Channel) : Channel :=
  { channel with subscribers := channel.subscribers.erase place }

/-- A new sink joins, and is subscribed. -/
def join (sink : Sink) (channel : Channel) : Channel :=
  { channel with
    sinks := channel.sinks ++ [sink]
    subscribers := channel.subscribers ++ [channel.sinks.length] }

def ofSinks (running : Bool) (sinks : List Sink) : Channel :=
  sinks.foldl (fun channel sink => channel.join sink) (start running)

/-- What every sink holds. -/
def taken (channel : Channel) : List (List Event) := channel.sinks.map Sink.taken

def emptied (channel : Channel) : Channel :=
  { channel with sinks := channel.sinks.map Sink.emptied }

/-- What the sink at a place holds. -/
def takenAt (place : Nat) (channel : Channel) : List Event :=
  (channel.sinks[place]?).elim [] Sink.taken

def emptiedAt (place : Nat) (channel : Channel) : Channel :=
  { channel with sinks := channel.sinks.modify place Sink.emptied }

def withoutLog (channel : Channel) : Channel := { channel with log := [] }

/-- The sinks that a service announces to: its journal, and a webhook if one is set. -/
def standardSinks (url : Text) : List Sink :=
  .journal :: if url.isEmpty then [] else [.webhook url [] 0 []]

end Channel

end Tabletop
