import Tabletop.Proofs.Lives

/-!
# The event log

A queue that is subscribed at most once at a time is a log of the rolls: what is fetched from it is
what was rolled and sent while it was subscribed, in order and each roll once, but for the rolls
that were made while it was full. The channel has complained of each of those.
-/
namespace Tabletop

namespace Step

variable {σ : Type}

/-- What the queue with the bound keeps of the step, unless it is full before. -/
def kept? (place : Nat) (bound : Int) (step : Step σ) : Option Event :=
  if 0 < bound ∧ bound ≤ (step.before.channel.takenAt place).length then none
  else step.heard? place

/-- What the queue with the bound has no room for. -/
def lost? (place : Nat) (bound : Int) (step : Step σ) : Option Event :=
  if 0 < bound ∧ bound ≤ (step.before.channel.takenAt place).length then step.heard? place
  else none

/-- The step is a request that is answered with a roll, and the roller wants it sent. -/
def Sends (step : Step σ) (event : Event) : Prop :=
  ∃ (request : RollRequest) (table : Nat) (options : RollOptions) (answer : Answer) (roll : Roll),
    step.action = request.action table options ∧ options.send = true ∧
    step.answer = .ok answer ∧ answer.roll? = some roll ∧ event = request.event options roll

theorem request?_action (request : RollRequest) (table : Nat) (options : RollOptions) :
    (request.action table options).request? = some (request, table, options) := by
  cases request <;> rfl

theorem event?_eq_some_iff {step : Step σ} {event : Event} :
    step.event? = some event ↔ step.Sends event := by
  constructor
  · intro told
    cases asked : step.action.request? with
    | none => simp [event?, asked] at told
    | some found =>
      obtain ⟨request, table, options⟩ := found
      rw [event?_of_request asked] at told
      cases answered : step.answer with
      | error fault =>
        rw [answered] at told
        cases told
      | ok answer =>
        cases send : options.send with
        | false =>
          rw [RollRequest.announcement_unsent send] at told
          cases told
        | true =>
          rw [answered, RollRequest.announcement, if_pos send] at told
          obtain ⟨roll, about, rfl⟩ := Option.map_eq_some_iff.mp told
          exact ⟨request, table, options, answer, roll, Action.eq_of_request? asked, send, answered,
            about, rfl⟩
  · rintro ⟨request, table, options, answer, roll, asked, send, answered, about, rfl⟩
    have found : step.action.request? = some (request, table, options) :=
      asked ▸ request?_action request table options
    rw [event?_of_request found, answered, RollRequest.announcement, if_pos send, about]
    rfl

end Step

namespace Event

/-- The complaint of a full queue. -/
def complaint (event : Event) : Notice := .queueFull event.roll.expression

theorem severity_complaint (event : Event) : event.complaint.severity = .error := rfl

end Event

namespace Room

variable {σ : Type} [DrawSource σ] {place : Nat} {room : Room σ} {action : Action} {bound : Int}
  {held : List Event}

/-- A sink hears of nothing while it is fetched from. -/
theorem turn?_cases (place : Nat) (action : Action) (room : Room σ) :
    (room.step action).heard? place = none ∧
        ((room.step action).turn? place = none ∨ (room.step action).turn? place = some .fetch) ∨
      ∃ event, place ∈ room.channel.subscribers ∧ (room.step action).heard? place = some event ∧
        (room.step action).turn? place =
          some (.offer event (room.channel.subscribers.count place)) := by
  cases fetch : action.isFetch with
  | true =>
    left
    cases action with
    | drain => exact ⟨Step.heard?_of_silent place rfl, .inr rfl⟩
    | fetch asked =>
      refine ⟨Step.heard?_of_silent place rfl, ?_⟩
      by_cases same : asked = place
      · exact .inr (if_pos same)
      · exact .inl (if_neg same)
    | _ => exact Bool.noConfusion fetch
  | false =>
    have turn := turn?_of_not_isFetch place fetch room
    cases heard : (room.step action).heard? place with
    | none => exact .inl ⟨rfl, .inl (by rw [turn, heard]; rfl)⟩
    | some event =>
      refine .inr ⟨event, ?_, rfl, by rw [turn, heard]; rfl⟩
      by_contra unsubscribed
      have unheard : (room.step action).heard? place = none := if_neg unsubscribed
      rw [unheard] at heard
      cases heard

/-- What one step does to a queue that is subscribed at most once. -/
theorem queue_step (found : room.channel.sinks[place]? = some (.queue bound held))
    (once : room.channel.subscribers.count place ≤ 1) (action : Action) :
    ∃ left, (room.perform action).2.channel.sinks[place]? = some (.queue bound left) ∧
      (room.step action).fetched place ++ left =
        held ++ ((room.step action).kept? place bound).toList ∧
      (room.step action).notices place =
        ((room.step action).lost? place bound).toList.map Event.complaint := by
  have holds : (room.step action).before.channel.takenAt place = held :=
    congrArg (Option.elim · [] Sink.taken) found
  obtain ⟨sink, fetched, notices⟩ := lived_step found action
  simp only [List.flatMap_singleton] at fetched notices
  rw [fetched, notices, Step.kept?, Step.lost?, holds]
  rcases turn?_cases place action room with
    ⟨unheard, turn | turn⟩ | ⟨event, subscribed, heard, turn⟩
  · rw [turn] at sink
    rw [turn, unheard, ite_self]
    exact ⟨held, sink, (List.append_nil held).symm, rfl⟩
  · rw [turn] at sink
    rw [turn, unheard, ite_self]
    exact ⟨[], sink, rfl, rfl⟩
  · have single : room.channel.subscribers.count place = 1 :=
      Nat.le_antisymm once (List.count_pos_iff.mpr subscribed)
    rw [turn, single] at sink
    rw [turn, single, heard]
    simp only [Sink.turned?, Sink.turned, Option.elim_some, Sink.offered_queue] at sink ⊢
    by_cases full : 0 < bound ∧ bound ≤ held.length
    · have filled : Sink.isFull bound held = true := Sink.isFull_iff.mpr full
      rw [filled] at sink ⊢
      exact ⟨held, sink, by simp [full], by simp [full, Event.complaint]⟩
    · have free : Sink.isFull bound held = false := by
        rwa [← Bool.not_eq_true, Sink.isFull_iff]
      rw [free] at sink ⊢
      exact ⟨held ++ [event], sink, by simp [full], by simp [full]⟩

theorem queue_course (actions : List Action) {room : Room σ} {held : List Event}
    (found : room.channel.sinks[place]? = some (.queue bound held))
    (once : ∀ step ∈ course actions room, step.before.channel.subscribers.count place ≤ 1) :
    ∃ left, (play actions room).2.channel.sinks[place]? = some (.queue bound left) ∧
      (course actions room).flatMap (Step.fetched place) ++ left =
        held ++ (course actions room).filterMap (Step.kept? place bound) ∧
      (course actions room).flatMap (Step.notices place) =
        ((course actions room).filterMap (Step.lost? place bound)).map Event.complaint := by
  -- What one step leaves in the queue is what the rest of the session starts with.
  induction actions generalizing room held with
  | nil => exact ⟨held, found, (List.append_nil held).symm, rfl⟩
  | cons action rest ih =>
    rw [course] at once ⊢
    obtain ⟨now, here, taken, told⟩ := queue_step found (once _ List.mem_cons_self) action
    obtain ⟨left, there, takes, tells⟩ := ih here fun step member =>
      once step (List.mem_cons_of_mem _ member)
    simp only [List.filterMap_eq_flatMap_toList, List.flatMap_cons] at takes tells ⊢
    refine ⟨left, there, ?_, ?_⟩
    · rw [List.append_assoc, takes, ← List.append_assoc, taken, List.append_assoc]
    · rw [told, tells, List.map_append]

/-- A sink that nobody subscribes again is subscribed no more often than before. -/
theorem count_subscribers_perform {sink : Sink} (found : room.channel.sinks[place]? = some sink)
    (other : action ≠ .subscribe place) :
    (room.perform action).2.channel.subscribers.count place ≤
      room.channel.subscribers.count place := by
  cases onSinks : action.isOfSinks with
  | true =>
    cases action with
    | join joined =>
      have inside := (List.getElem?_eq_some_iff.mp found).1
      simp [perform, withChannel, Channel.join, List.count_append, Nat.ne_of_gt inside]
    | subscribe asked =>
      have apart : asked ≠ place := fun same => other (congrArg Action.subscribe same)
      simp [perform, withChannel, Channel.subscribe, List.count_append, apart]
    | unsubscribe => exact List.erase_sublist.count_le place
    | drain | fetch => exact Nat.le_refl _
    | _ => exact Bool.noConfusion onSinks
  | false =>
    rw [channel_perform onSinks]
    cases (room.step action).event? with
    | none => exact Nat.le_refl _
    | some event => exact Nat.le_of_eq (congrArg (List.count place) Channel.subscribers_publish)

theorem count_subscribers_course (actions : List Action) {room : Room σ} {sink : Sink}
    (found : room.channel.sinks[place]? = some sink)
    (quiet : ∀ action ∈ actions, action ≠ .subscribe place) :
    ∀ step ∈ course actions room,
      step.before.channel.subscribers.count place ≤ room.channel.subscribers.count place := by
  induction actions generalizing room sink with
  | nil => exact fun _ member => absurd member List.not_mem_nil
  | cons action rest ih =>
    obtain ⟨other, quiet⟩ := List.forall_mem_cons.mp quiet
    have onward := ih (lived_step found action).sink quiet
    have first := count_subscribers_perform found other
    intro step member
    rcases List.mem_cons.mp member with rfl | member
    · exact Nat.le_refl _
    · exact Nat.le_trans (onward step member) first

/-- A queue that is subscribed at most once at a time takes in order what was sent while it was
subscribed and had room, and the channel complains once of each roll that it had no room for. What
is sent is the roll that a request is answered with, as it can be written, under the flavor of the
request, and everything else is as the options have it. -/
theorem queue_takes_sent_rolls {actions : List Action}
    (found : room.channel.sinks[place]? = some (.queue bound held))
    (once : ∀ step ∈ course actions room, step.before.channel.subscribers.count place ≤ 1) :
    let steps := course actions room
    (∃ left, (play actions room).2.channel.sinks[place]? = some (.queue bound left) ∧
      steps.flatMap (Step.fetched place) ++ left =
        held ++ steps.filterMap (Step.kept? place bound)) ∧
    steps.flatMap (Step.notices place) =
      (steps.filterMap (Step.lost? place bound)).map Event.complaint ∧
    (∀ notice ∈ steps.flatMap (Step.notices place), notice.severity = .error) ∧
    (play actions room).2.channel.log =
      room.channel.log ++ (steps.flatMap Step.report).map Prod.snd ∧
    (∀ step ∈ steps, ∀ event, step.event? = some event ↔ step.Sends event) ∧
    (∀ step ∈ steps, ∀ event, step.Sends event → event.roll.line = .ok event.breakdown) ∧
    ∀ (request : RollRequest) (options : RollOptions) (order : Order),
      request.order? = .ok (some order) →
      options.under order = { options with flavor := request.flavor options } := by
  obtain ⟨left, there, taken, complaints⟩ := queue_course actions found once
  refine ⟨⟨left, there, taken⟩, complaints, ?_, log_play actions room, ?_, ?_, ?_⟩
  · intro notice member
    rw [complaints] at member
    obtain ⟨event, _, rfl⟩ := List.mem_map.mp member
    exact Event.severity_complaint event
  · intro step _ event
    exact Step.event?_eq_some_iff
  · intro step member event sent
    obtain ⟨before, action, rfl⟩ := exists_of_mem_course member
    exact line_of_event? (Step.event?_eq_some_iff.mpr sent)
  · intro request options order ordered
    exact RollRequest.under_eq ordered

def crowdedRoom : Room Supply :=
  start ⟨50, ⟨100, 1000, 50⟩, fun _ => .highest⟩ (Channel.ofSinks false [.queue 1 [], .broken])

def crowdedSession : List Action :=
  [.create [] none none, .roll 0 "d6".toList {}, .check 0 ⟨"Stealth".toList, 2, .advantage⟩ {},
    .fetch 0, .damage 0 "2d8".toList "fire".toList {}, .unsubscribe 0, .roll 0 "d6".toList {}]

/-- A queue with room for one event, in a session that rolls more often than it is fetched from. -/
theorem queue_takes_sent_rolls_crowdedSession :
    (∀ step ∈ course crowdedSession crowdedRoom,
      step.before.channel.subscribers.count 0 ≤ 1) ∧
    ∃ left, (play crowdedSession crowdedRoom).2.channel.sinks[0]? = some (.queue 1 left) ∧
      (course crowdedSession crowdedRoom).flatMap (Step.fetched 0) ++ left =
        (course crowdedSession crowdedRoom).filterMap (Step.kept? 0 1) := by
  have found : crowdedRoom.channel.sinks[0]? = some (.queue 1 []) := rfl
  have quiet : ∀ action ∈ crowdedSession, action ≠ .subscribe 0 := by
    simp [crowdedSession]
  have once := count_subscribers_course crowdedSession found quiet
  obtain ⟨log, _⟩ := queue_takes_sent_rolls found once
  exact ⟨once, log⟩

end Room

end Tabletop
