import Tabletop.Proofs.Serving

/-!
# The course of a session

A session step by step: the room before each step, what was asked for, and the answer. A step on
the sinks leaves the registry alone, and any other step leaves the channel alone but for the event
that its answer gives rise to.
-/
namespace Tabletop

structure Step (σ : Type) where
  before : Room σ
  action : Action
  answer : Except Fault Answer

namespace Action

/-- The request for a roll that the action is, the place it is addressed to, and its options. -/
def request? : Action → Option (RollRequest × Nat × RollOptions)
  | .roll place expression options => some (.roll expression, place, options)
  | .check place given options => some (.check given, place, options)
  | .damage place expression kind options => some (.damage expression kind, place, options)
  | .command place text options => some (.command text, place, options)
  | _ => none

/-- The action is about the sinks and not about tables. -/
def isOfSinks : Action → Bool
  | .join _ | .subscribe _ | .unsubscribe _ | .drain | .fetch _ => true
  | _ => false

theorem eq_of_request? {action : Action} {request : RollRequest} {place : Nat}
    {options : RollOptions} (h : action.request? = some (request, place, options)) :
    action = request.action place options := by
  cases action with
  | roll | check | damage | command =>
    cases h
    rfl
  | _ => exact absurd h.symm (Option.some_ne_none _)

end Action

namespace Step

variable {σ : Type}

/-- What is to be heard of the step. -/
def event? (step : Step σ) : Option Event :=
  step.action.request?.bind fun (request, _, options) => request.announcement options step.answer

theorem event?_of_request {step : Step σ} {request : RollRequest} {place : Nat}
    {options : RollOptions} (asked : step.action.request? = some (request, place, options)) :
    step.event? = request.announcement options step.answer := by
  rw [event?, asked]
  rfl

end Step

namespace Room

variable {σ : Type} [DrawSource σ]

def step (action : Action) (room : Room σ) : Step σ := ⟨room, action, (room.perform action).1⟩

def course : List Action → Room σ → List (Step σ)
  | [], _ => []
  | action :: rest, room => room.step action :: course rest (room.perform action).2

/-- Every step of a course is made in some room of it. -/
theorem exists_of_mem_course {actions : List Action} {room : Room σ} {step : Step σ}
    (member : step ∈ course actions room) :
    ∃ before action, step = Room.step (σ := σ) action before := by
  induction actions generalizing room with
  | nil => exact absurd member List.not_mem_nil
  | cons action rest ih =>
    rcases List.mem_cons.mp member with rfl | member
    · exact ⟨room, action, rfl⟩
    · exact ih member

omit [DrawSource σ] in
@[simp] theorem channel_publish? (event? : Option Event) (room : Room σ) :
    (room.publish? event?).channel = event?.elim room.channel room.channel.publish := by
  cases event? <;> rfl

omit [DrawSource σ] in
@[simp] theorem registry_publish? (event? : Option Event) (room : Room σ) :
    (room.publish? event?).registry = room.registry := by
  cases event? <;> rfl

omit [DrawSource σ] in
theorem channel_clear (place : Nat) (room : Room σ) :
    (room.clear place).channel = room.channel := by
  rw [clear]
  split <;> rfl

theorem channel_request (request : RollRequest) (place : Nat) (options : RollOptions)
    (room : Room σ) :
    (room.perform (request.action place options)).2.channel =
      (request.announcement options (room.perform (request.action place options)).1).elim
        room.channel room.channel.publish := by
  obtain ⟨absent, serve, serves⟩ := exists_serves (σ := σ) options request
  cases found : room.table? place with
  | none =>
    rw [serves.missing place room found, serves.silent]
    rfl
  | some table =>
    rw [serves.found place room table found]
    exact channel_publish? _ _

/-- A step that is not on the sinks changes the channel by what is heard of it. -/
theorem channel_perform {action : Action} (apart : action.isOfSinks = false) (room : Room σ) :
    (room.perform action).2.channel =
      (room.step action).event?.elim room.channel room.channel.publish := by
  cases asked : action.request? with
  | some found =>
    obtain ⟨request, place, options⟩ := found
    have told : (room.step action).event? = _ := Step.event?_of_request asked
    rw [told, Action.eq_of_request? asked]
    exact channel_request request place options room
  | none =>
    cases action with
    | roll | check | damage | command => exact absurd asked (Option.some_ne_none _)
    | join | subscribe | unsubscribe | drain | fetch => exact Bool.noConfusion apart
    | clear place => exact channel_clear place room
    | create | find | all | delete | recent | last => rfl

theorem event?_of_isOfSinks {action : Action} (onSinks : action.isOfSinks = true) (room : Room σ) :
    (room.step action).event? = none := by
  cases action with
  | join | subscribe | unsubscribe | drain | fetch => rfl
  | _ => exact Bool.noConfusion onSinks

theorem registry_of_isOfSinks {action : Action} (onSinks : action.isOfSinks = true)
    (room : Room σ) : (room.perform action).2.registry = room.registry := by
  cases action with
  | join | subscribe | unsubscribe | drain | fetch => rfl
  | _ => exact Bool.noConfusion onSinks

/-- What is heard of a step can be written. -/
theorem line_of_event? {action : Action} {room : Room σ} {event : Event}
    (told : (room.step action).event? = some event) : event.roll.line = .ok event.breakdown := by
  cases asked : action.request? with
  | none => simp [Step.event?, step, asked] at told
  | some found =>
    obtain ⟨request, place, options⟩ := found
    rw [Step.event?_of_request asked, step, Action.eq_of_request? asked] at told
    obtain ⟨absent, serve, serves⟩ := exists_serves (σ := σ) options request
    cases found : room.table? place with
    | none =>
      rw [serves.missing place room found, serves.silent] at told
      cases told
    | some table =>
      rw [serves.found place room table found] at told
      exact serves.written table event told

end Room

end Tabletop
