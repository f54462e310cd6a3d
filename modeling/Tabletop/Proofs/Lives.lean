import Tabletop.Proofs.Course
import Tabletop.Proofs.Offers

/-!
# The life of a sink

A sink lives through a session by turns: it is offered what is heard of the rolls made while it is
subscribed, and what it holds is fetched. The turns settle what becomes of it, what is fetched from
it and what it has to say, and the log of the channel is all that the sinks have to say.
-/
namespace Tabletop

/-- What happens to a sink. An event is offered to it for each of its subscriptions. -/
inductive Turn where
  | offer (event : Event) (times : Nat)
  | fetch
  deriving Repr

/-- A sink after some turns, what was fetched from it in them, and what it had to say. -/
structure Life where
  sink : Sink
  fetched : List Event
  notices : List Notice
  deriving Repr

namespace Life

/-- The events that the sink took, whether they were fetched or not. -/
def received (life : Life) : List Event := life.fetched ++ life.sink.taken

end Life

namespace Sink

def turned (running : Bool) (turn : Turn) (sink : Sink) : Life :=
  match turn with
  | .offer event times =>
    ⟨(sink.offered running event times).1, [], (sink.offered running event times).2⟩
  | .fetch => ⟨sink.emptied, sink.taken, []⟩

/-- What a step makes of the sink in which it may have a turn. -/
def turned? (running : Bool) (turn? : Option Turn) (sink : Sink) : Life :=
  turn?.elim ⟨sink, [], []⟩ fun turn => sink.turned running turn

def live (running : Bool) : List Turn → Sink → Life
  | [], sink => ⟨sink, [], []⟩
  | turn :: rest, sink =>
    let first := sink.turned running turn
    let last := live running rest first.sink
    ⟨last.sink, first.fetched ++ last.fetched, first.notices ++ last.notices⟩

end Sink

namespace Action

def isFetch : Action → Bool
  | .drain | .fetch _ => true
  | _ => false

theorem isFetch_of_not_isOfSinks {action : Action} (apart : action.isOfSinks = false) :
    action.isFetch = false := by
  cases action with
  | drain | fetch => exact Bool.noConfusion apart
  | _ => rfl

end Action

namespace Step

variable {σ : Type}

/-- What the sink at the place hears of the step. -/
def heard? (place : Nat) (step : Step σ) : Option Event :=
  if place ∈ step.before.channel.subscribers then step.event? else none

def turn? (place : Nat) (step : Step σ) : Option Turn :=
  match step.action with
  | .drain => some .fetch
  | .fetch sink => if sink = place then some .fetch else none
  | _ =>
    (step.heard? place).map fun event =>
      .offer event (step.before.channel.subscribers.count place)

/-- What the step answers with that the sink at the place held. -/
def fetched (place : Nat) (step : Step σ) : List Event :=
  match step.action, step.answer with
  | .drain, .ok (.drained held) => held[place]?.getD []
  | .fetch sink, .ok (.drained held) => if sink = place then held.flatten else []
  | _, _ => []

/-- What the sinks have to say of the step, with their places. -/
def report (step : Step σ) : List (Nat × Notice) :=
  step.event?.elim [] fun event => step.before.channel.report event

def notices (place : Nat) (step : Step σ) : List Notice := Channel.toldBy place step.report

variable {step : Step σ}

theorem heard?_of_silent (place : Nat) (silent : step.event? = none) :
    step.heard? place = none := by
  rw [heard?, silent, ite_self]

theorem notices_of_event (place : Nat) {event : Event} (told : step.event? = some event) :
    step.notices place = Channel.toldBy place (step.before.channel.report event) := by
  rw [notices, report, told]
  rfl

theorem notices_of_silent (place : Nat) (silent : step.event? = none) :
    step.notices place = [] := by
  rw [notices, report, silent]
  rfl

end Step

namespace Room

variable {σ : Type} [DrawSource σ]

/-- The life that the sink at the place has led in some steps, from the room after them. -/
structure Lived (place : Nat) (steps : List (Step σ)) (after : Room σ) (life : Life) : Prop where
  sink : after.channel.sinks[place]? = some life.sink
  fetched : steps.flatMap (Step.fetched place) = life.fetched
  notices : steps.flatMap (Step.notices place) = life.notices

omit [DrawSource σ] in
theorem Lived.single {place : Nat} {step : Step σ} {after : Room σ} {life : Life}
    (sink : after.channel.sinks[place]? = some life.sink)
    (fetched : step.fetched place = life.fetched) (notices : step.notices place = life.notices) :
    Lived place [step] after life where
  sink := sink
  fetched := by simpa using fetched
  notices := by simpa using notices

omit [DrawSource σ] in
theorem Lived.cons {place : Nat} {step : Step σ} {rest : List (Step σ)} {between after : Room σ}
    {first last : Life} (here : Lived place [step] between first)
    (onward : Lived place rest after last) :
    Lived place (step :: rest) after
      ⟨last.sink, first.fetched ++ last.fetched, first.notices ++ last.notices⟩ where
  sink := onward.sink
  fetched := by
    rw [← here.fetched, ← onward.fetched, ← List.flatMap_append]
    rfl
  notices := by
    rw [← here.notices, ← onward.notices, ← List.flatMap_append]
    rfl

variable {place : Nat} {room : Room σ} {sink : Sink} {action : Action}

theorem turn?_of_not_isFetch (place : Nat) (keeps : action.isFetch = false) (room : Room σ) :
    (room.step action).turn? place = ((room.step action).heard? place).map fun event =>
      .offer event (room.channel.subscribers.count place) := by
  cases action with
  | drain | fetch => exact Bool.noConfusion keeps
  | _ => rfl

theorem fetched_of_not_isFetch (place : Nat) (keeps : action.isFetch = false) (room : Room σ) :
    (room.step action).fetched place = [] := by
  cases action with
  | drain | fetch => exact Bool.noConfusion keeps
  | _ => rfl

theorem lived_of_not_isOfSinks (found : room.channel.sinks[place]? = some sink)
    (apart : action.isOfSinks = false) :
    Lived place [room.step action] (room.perform action).2
      (sink.turned? room.channel.running ((room.step action).turn? place)) := by
  have keeps := Action.isFetch_of_not_isOfSinks apart
  have fetched := fetched_of_not_isFetch place keeps room
  have channel := channel_perform apart room
  rw [turn?_of_not_isFetch place keeps]
  cases told : (room.step action).event? with
  | none =>
    rw [told] at channel
    rw [Step.heard?_of_silent place told]
    exact .single ((congrArg (·.sinks[place]?) channel).trans found) fetched
      (Step.notices_of_silent place told)
  | some event =>
    rw [told] at channel
    obtain ⟨becomes, answers⟩ := Channel.publish_at event found
    have after : (room.perform action).2.channel.sinks[place]? = _ :=
      (congrArg (·.sinks[place]?) channel).trans becomes
    have notices := (Step.notices_of_event place told).trans answers
    by_cases subscribed : place ∈ room.channel.subscribers
    · have heard : (room.step action).heard? place = some event := (if_pos subscribed).trans told
      rw [heard]
      exact .single after fetched notices
    · have unheard : (room.step action).heard? place = none := if_neg subscribed
      rw [List.count_eq_zero.mpr subscribed, Sink.offered_zero] at after notices
      rw [unheard]
      exact .single after fetched notices

theorem lived_of_isOfSinks (found : room.channel.sinks[place]? = some sink)
    (onSinks : action.isOfSinks = true) :
    Lived place [room.step action] (room.perform action).2
      (sink.turned? room.channel.running ((room.step action).turn? place)) := by
  have silent := event?_of_isOfSinks onSinks room
  have notices := Step.notices_of_silent place silent
  have unheard := Step.heard?_of_silent place silent
  cases action with
  | join joined =>
    have inside := (List.getElem?_eq_some_iff.mp found).1
    rw [turn?_of_not_isFetch place rfl, unheard]
    exact .single ((List.getElem?_append_left inside).trans found) rfl notices
  | subscribe | unsubscribe =>
    rw [turn?_of_not_isFetch place rfl, unheard]
    exact .single found rfl notices
  | drain =>
    refine .single ?_ ?_ notices
    · exact (List.getElem?_map ..).trans (congrArg (Option.map Sink.emptied) found)
    · simp only [Step.fetched, step, perform, Channel.taken]
      rw [List.getElem?_map, found]
      rfl
  | fetch asked =>
    by_cases same : asked = place
    · subst same
      have turn : (room.step (.fetch asked)).turn? asked = some .fetch := if_pos rfl
      rw [turn]
      refine .single ?_ ?_ notices
      · exact (List.getElem?_modify_eq ..).trans (congrArg (Option.map Sink.emptied) found)
      · have taken : (room.step (.fetch asked)).fetched asked =
            [room.channel.takenAt asked].flatten := if_pos rfl
        rw [taken, Channel.takenAt, found]
        exact List.append_nil _
    · have unturned : (room.step (.fetch asked)).turn? place = none := if_neg same
      rw [unturned]
      refine .single ?_ (if_neg same) notices
      exact (List.getElem?_modify_ne _ _ same).trans found
  | _ => exact Bool.noConfusion onSinks

theorem lived_step (found : room.channel.sinks[place]? = some sink) (action : Action) :
    Lived place [room.step action] (room.perform action).2
      (sink.turned? room.channel.running ((room.step action).turn? place)) := by
  cases onSinks : action.isOfSinks with
  | true => exact lived_of_isOfSinks found onSinks
  | false => exact lived_of_not_isOfSinks found onSinks

theorem running_perform (action : Action) (room : Room σ) :
    (room.perform action).2.channel.running = room.channel.running := by
  cases onSinks : action.isOfSinks with
  | true =>
    cases action with
    | join | subscribe | unsubscribe | drain | fetch => rfl
    | _ => exact Bool.noConfusion onSinks
  | false =>
    rw [channel_perform onSinks]
    cases (room.step action).event? with
    | none => rfl
    | some event => exact Channel.running_publish

/-- A sink leads the life of its turns. -/
theorem lived (actions : List Action) {room : Room σ} {sink : Sink}
    (found : room.channel.sinks[place]? = some sink) :
    Lived place (course actions room) (play actions room).2
      (sink.live room.channel.running ((course actions room).filterMap (Step.turn? place))) := by
  induction actions generalizing room sink with
  | nil => exact ⟨found, rfl, rfl⟩
  | cons action rest ih =>
    have here := lived_step found action
    have onward := ih here.sink
    -- Whether webhooks post is settled by the room at the start.
    rw [running_perform] at onward
    rw [course, List.filterMap_cons]
    cases taken : (room.step action).turn? place with
    | none =>
      rw [taken] at here onward
      exact here.cons onward
    | some turn =>
      rw [taken] at here onward
      exact here.cons onward

theorem log_perform (action : Action) (room : Room σ) :
    (room.perform action).2.channel.log =
      room.channel.log ++ (room.step action).report.map Prod.snd := by
  cases onSinks : action.isOfSinks with
  | true =>
    rw [Step.report, event?_of_isOfSinks onSinks]
    cases action with
    | join | subscribe | unsubscribe | drain | fetch => exact (List.append_nil _).symm
    | _ => exact Bool.noConfusion onSinks
  | false =>
    rw [Step.report, channel_perform onSinks]
    cases (room.step action).event? with
    | none => exact (List.append_nil _).symm
    | some event => exact Channel.log_publish

/-- The log is all that the sinks have to say. -/
theorem log_play (actions : List Action) (room : Room σ) :
    (play actions room).2.channel.log =
      room.channel.log ++ ((course actions room).flatMap Step.report).map Prod.snd := by
  induction actions generalizing room with
  | nil => exact (List.append_nil _).symm
  | cons action rest ih =>
    have onward : (play (action :: rest) room).2 = (play rest (room.perform action).2).2 := rfl
    rw [onward, ih, log_perform, course, List.flatMap_cons, List.map_append, List.append_assoc]

end Room

end Tabletop
