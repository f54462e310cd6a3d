import Mathlib.Data.List.Basic
import Tabletop.Channel

/-!
# Offers

What an event that is published does to one sink. The sink is offered the event once for each of
its subscriptions, and what becomes of it and what it has to say depends on nothing else: not on
the other sinks, and not on what went wrong at them.
-/
namespace Tabletop

namespace Sink

/-- The sink acts as often as that. -/
def repeated (act : Sink → Sink × Option Notice) : Nat → Sink → Sink × List Notice
  | 0, sink => (sink, [])
  | times + 1, sink =>
    let last := repeated act times (act sink).1
    (last.1, (act sink).2.toList ++ last.2)

/-- The sink is offered an event for so many subscriptions. -/
def offered (running : Bool) (event : Event) (times : Nat) (sink : Sink) : Sink × List Notice :=
  let visited := sink.repeated (visit running event) times
  if running then
    let posted := visited.1.repeated (post event) times
    (posted.1, visited.2 ++ posted.2)
  else visited

variable {act : Sink → Sink × Option Notice}

@[simp] theorem repeated_zero (sink : Sink) : sink.repeated act 0 = (sink, []) := rfl

/-- A sink that is not subscribed notices nothing. -/
theorem offered_zero (running : Bool) (event : Event) (sink : Sink) :
    sink.offered running event 0 = (sink, []) := by
  cases running <;> rfl

/-- A queue takes the event if there is room for it, and complains if there is none. -/
theorem offered_queue (running : Bool) (event : Event) (bound : Int) (held : List Event) :
    (queue bound held).offered running event 1 =
      if isFull bound held then (queue bound held, [.queueFull event.roll.expression])
      else (queue bound (held ++ [event]), []) := by
  cases running <;> cases full : isFull bound held <;> simp [offered, repeated, visit, post, full]

end Sink

namespace Channel

variable {act : Sink → Sink × Option Notice}

/-- What the sinks at the places have to say in turn, each with its place. -/
def told (act : Sink → Sink × Option Notice) : List Nat → List Sink → List (Nat × Notice)
  | [], _ => []
  | place :: rest, sinks =>
    match sinks[place]? with
    | none => told act rest sinks
    | some sink =>
      (act sink).2.toList.map (Prod.mk place) ++ told act rest (sinks.set place (act sink).1)

/-- Of what was told, that of one place. -/
def toldBy (place : Nat) (notices : List (Nat × Notice)) : List Notice :=
  (notices.filter fun told => told.1 == place).map Prod.snd

@[simp] theorem toldBy_append (place : Nat) (first second : List (Nat × Notice)) :
    toldBy place (first ++ second) = toldBy place first ++ toldBy place second := by
  simp [toldBy]

theorem toldBy_map (place speaker : Nat) (notices : List Notice) :
    toldBy place (notices.map (Prod.mk speaker)) = if speaker = place then notices else [] := by
  by_cases same : speaker = place <;> simp [toldBy, List.filter_map, Function.comp_def, same]

theorem pass_cons_none {place : Nat} {sinks : List Sink} (missing : sinks[place]? = none)
    (rest : List Nat) : pass act (place :: rest) sinks = pass act rest sinks := by
  rw [pass, missing]

theorem pass_cons_some {place : Nat} {sinks : List Sink} {sink : Sink}
    (found : sinks[place]? = some sink) (rest : List Nat) :
    pass act (place :: rest) sinks = ((pass act rest (sinks.set place (act sink).1)).1,
      (act sink).2.toList ++ (pass act rest (sinks.set place (act sink).1)).2) := by
  rw [pass, found]

/-- The notices of a pass are what is told in it. -/
theorem map_told (places : List Nat) (sinks : List Sink) :
    (told act places sinks).map Prod.snd = (pass act places sinks).2 := by
  induction places generalizing sinks with
  | nil => rfl
  | cons place rest ih =>
    cases found : sinks[place]? with
    | none =>
      rw [told, found, pass_cons_none found]
      exact ih sinks
    | some sink =>
      rw [told, found, pass_cons_some found]
      simp only [List.map_append, List.map_map, Function.comp_def, List.map_id', ih]

/-- What one sink becomes in a pass, and what it has to say, is its own doing. -/
theorem pass_at (place : Nat) (places : List Nat) (sinks : List Sink) :
    (pass act places sinks).1[place]? =
        sinks[place]?.map (fun sink => (sink.repeated act (places.count place)).1) ∧
      toldBy place (told act places sinks) =
        sinks[place]?.elim [] fun sink => (sink.repeated act (places.count place)).2 := by
  -- The sinks change along the way, but the one at the place only when it is visited.
  induction places generalizing sinks with
  | nil =>
    cases found : sinks[place]? with
    | none => exact ⟨found, rfl⟩
    | some sink => exact ⟨found, rfl⟩
  | cons visited rest ih =>
    cases found : sinks[visited]? with
    | none =>
      rw [told, found, pass_cons_none found]
      by_cases same : visited = place
      · subst same
        simpa [found] using ih sinks
      · rw [List.count_cons_of_ne same]
        exact ih sinks
    | some sink =>
      rw [told, found, pass_cons_some found]
      obtain ⟨state, notices⟩ := ih (sinks.set visited (act sink).1)
      simp only [toldBy_append, toldBy_map, state, notices]
      by_cases same : visited = place
      · subst same
        have inside := (List.getElem?_eq_some_iff.mp found).1
        rw [List.getElem?_set_self inside, found, List.count_cons_self, if_pos rfl]
        exact ⟨rfl, rfl⟩
      · rw [List.getElem?_set_ne same, List.count_cons_of_ne same, if_neg same]
        exact ⟨rfl, rfl⟩

/-- What the sinks have to say of an event. -/
def report (event : Event) (channel : Channel) : List (Nat × Notice) :=
  let visit := Sink.visit channel.running event
  let visits := told visit channel.subscribers channel.sinks
  if channel.running then
    visits ++ told (Sink.post event) channel.subscribers (channel.passed visit).sinks
  else visits

variable {place : Nat} {event : Event} {channel : Channel} {sink : Sink}

@[simp] theorem running_publish : (channel.publish event).running = channel.running := by
  rw [publish]
  split <;> rfl

@[simp] theorem subscribers_publish :
    (channel.publish event).subscribers = channel.subscribers := by
  rw [publish]
  split <;> rfl

theorem log_publish :
    (channel.publish event).log = channel.log ++ (channel.report event).map Prod.snd := by
  cases running : channel.running with
  | false => simp [publish, report, running, passed, map_told]
  | true => simp [publish, report, running, passed, map_told]

/-- What a sink becomes by an event, and what it has to say of it, is its own doing. -/
theorem publish_at (event : Event) (found : channel.sinks[place]? = some sink) :
    (channel.publish event).sinks[place]? =
        some (sink.offered channel.running event (channel.subscribers.count place)).1 ∧
      toldBy place (channel.report event) =
        (sink.offered channel.running event (channel.subscribers.count place)).2 := by
  cases running : channel.running with
  | false => simp [publish, report, running, passed, pass_at, Sink.offered, found]
  | true => simp [publish, report, running, passed, pass_at, Sink.offered, found]

end Channel

end Tabletop
