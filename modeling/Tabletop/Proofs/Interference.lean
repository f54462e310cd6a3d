import Tabletop.Proofs.Lives

/-!
# Sinks do not interfere

Which sinks there are, when they are subscribed and what is fetched from them changes nothing of
what is rolled. Neither does one sink change anything for another: a sink hears of the rolls made
while it is subscribed, and only a queue with a bound cares what is fetched from it.
-/
namespace Tabletop

namespace Turn

def isFetch : Turn → Bool
  | .fetch => true
  | .offer .. => false

end Turn

namespace Sink

/-- The sink can be full. -/
def isBounded : Sink → Bool
  | queue bound _ => 0 < bound
  | _ => false

@[simp] theorem taken_emptied (sink : Sink) : sink.emptied.taken = [] := by
  cases sink <;> rfl

@[simp] theorem emptied_emptied (sink : Sink) : sink.emptied.emptied = sink.emptied := by
  cases sink <;> rfl

@[simp] theorem isBounded_emptied (sink : Sink) : sink.emptied.isBounded = sink.isBounded := by
  cases sink <;> rfl

theorem isFull_eq_false {bound : Int} {held : List Event}
    (unbounded : (queue bound held).isBounded = false) (others : List Event) :
    isFull bound others = false := by
  have never : ¬0 < bound := of_decide_eq_false unbounded
  exact Bool.eq_false_iff.mpr fun full => never (isFull_iff.mp full).1

/-- A sink without a bound does the same whatever it holds. -/
structure Heedless (act : Sink → Sink × List Notice) : Prop where
  alike : ∀ sink : Sink, sink.isBounded = false →
    (act sink).1.taken = sink.taken ++ (act sink.emptied).1.taken ∧
    (act sink).1.emptied = (act sink.emptied).1.emptied ∧
    (act sink).2 = (act sink.emptied).2
  isBounded : ∀ sink : Sink, (act sink).1.isBounded = sink.isBounded

namespace Heedless

variable {act next : Sink → Sink × List Notice}

theorem idle : Heedless fun sink => (sink, []) where
  alike := by simp
  isBounded := fun _ => rfl

theorem andThen (first : Heedless act) (second : Heedless next) :
    Heedless fun sink => ((next (act sink).1).1, (act sink).2 ++ (next (act sink).1).2) where
  alike := by
    intro sink unbounded
    have after : (act sink).1.isBounded = false := (first.isBounded sink).trans unbounded
    have bare : (act sink.emptied).1.isBounded = false := by
      rw [first.isBounded, isBounded_emptied, unbounded]
    obtain ⟨taken, emptied, notices⟩ := first.alike sink unbounded
    obtain ⟨takes, empties, notes⟩ := second.alike _ after
    obtain ⟨bareTakes, bareEmpties, bareNotes⟩ := second.alike _ bare
    refine ⟨?_, ?_, ?_⟩
    · rw [takes, bareTakes, taken, emptied, List.append_assoc]
    · rw [empties, bareEmpties, emptied]
    · rw [notes, bareNotes, notices, emptied]
  isBounded := by
    intro sink
    rw [second.isBounded, first.isBounded]

theorem visit (running : Bool) (event : Event) :
    Heedless fun sink => ((sink.visit running event).1, (sink.visit running event).2.toList) where
  alike := by
    intro sink unbounded
    cases sink with
    | queue bound held =>
      have room := isFull_eq_false unbounded
      simp [Sink.visit, Sink.emptied, Sink.taken, room]
    | journal | broken => exact ⟨rfl, rfl, rfl⟩
    | webhook => exact ⟨(List.append_nil _).symm, rfl, rfl⟩
  isBounded := by
    intro sink
    cases sink with
    | queue bound held =>
      simp only [Sink.visit]
      split <;> rfl
    | _ => rfl

theorem post (event : Event) :
    Heedless fun sink => ((sink.post event).1, (sink.post event).2.toList) where
  alike := by
    intro sink _
    cases sink with
    | queue => exact ⟨(List.append_nil _).symm, rfl, rfl⟩
    | journal | broken => exact ⟨rfl, rfl, rfl⟩
    | webhook =>
      cases sent : event.sent with
      | error => simp [Sink.post, Sink.emptied, Sink.taken, sent]
      | ok document =>
        cases written : document.isWritable <;>
          simp [Sink.post, Sink.emptied, Sink.taken, sent, written]
  isBounded := by
    intro sink
    cases sink with
    | webhook =>
      simp only [Sink.post]
      split
      · rfl
      · split <;> rfl
    | _ => rfl

theorem repeated {act : Sink → Sink × Option Notice}
    (once : Heedless fun sink => ((act sink).1, (act sink).2.toList)) (times : Nat) :
    Heedless (Sink.repeated act times) := by
  induction times with
  | zero => exact idle
  | succ times ih => exact once.andThen ih

theorem offered (running : Bool) (event : Event) (times : Nat) :
    Heedless (Sink.offered running event times) := by
  cases running with
  | false => exact (visit false event).repeated times
  | true => exact ((visit true event).repeated times).andThen ((post event).repeated times)

end Heedless

/-- What an unbounded sink holds at first is received beside the rest. -/
theorem live_emptied (running : Bool) (turns : List Turn) {sink : Sink}
    (unbounded : sink.isBounded = false) :
    (sink.live running turns).received =
        sink.taken ++ (sink.emptied.live running turns).received ∧
      (sink.live running turns).notices = (sink.emptied.live running turns).notices := by
  induction turns generalizing sink with
  | nil => simp [live, Life.received]
  | cons turn rest ih =>
    cases turn with
    | offer event times =>
      -- Both after the offer and after an offer to the emptied sink the rest starts from the same
      -- emptied sink.
      have heedless := Heedless.offered running event times
      obtain ⟨taken, emptied, notices⟩ := heedless.alike sink unbounded
      obtain ⟨received, told⟩ := ih ((heedless.isBounded sink).trans unbounded)
      have bare : (sink.emptied.offered running event times).1.isBounded = false := by
        rw [heedless.isBounded, isBounded_emptied, unbounded]
      obtain ⟨bareReceived, bareTold⟩ := ih bare
      simp only [Life.received] at received bareReceived
      simp only [live, turned, Life.received, List.nil_append]
      rw [received, bareReceived, told, bareTold, taken, emptied, notices, List.append_assoc]
      exact ⟨rfl, rfl⟩
    | fetch => simp [live, turned, Life.received]

/-- An unbounded sink receives the same and says the same whatever is fetched from it. -/
theorem live_unfetched (running : Bool) (turns : List Turn) {sink : Sink}
    (unbounded : sink.isBounded = false) :
    (sink.live running (turns.filter fun turn => !turn.isFetch)).received =
        (sink.live running turns).received ∧
      (sink.live running (turns.filter fun turn => !turn.isFetch)).notices =
        (sink.live running turns).notices := by
  induction turns generalizing sink with
  | nil => exact ⟨rfl, rfl⟩
  | cons turn rest ih =>
    cases turn with
    | offer event times =>
      have after : (sink.offered running event times).1.isBounded = false :=
        ((Heedless.offered running event times).isBounded sink).trans unbounded
      obtain ⟨received, told⟩ := ih after
      have kept : (Turn.offer event times :: rest).filter (fun turn => !turn.isFetch) =
          .offer event times :: rest.filter fun turn => !turn.isFetch := rfl
      rw [kept]
      simp only [Life.received] at received
      simp only [live, turned, Life.received, List.nil_append]
      rw [received, told]
      exact ⟨rfl, rfl⟩
    | fetch =>
      have dropped : (Turn.fetch :: rest).filter (fun turn => !turn.isFetch) =
          rest.filter fun turn => !turn.isFetch := rfl
      obtain ⟨received, told⟩ := live_emptied running rest unbounded
      rw [dropped, (ih unbounded).1, (ih unbounded).2, received, told]
      simp [live, turned, Life.received]

end Sink

namespace Room

variable {σ : Type} [DrawSource σ]

/-- What a step answers that is not about the sinks, and the tables after it, do not depend on the
channel. -/
theorem perform_apart {action : Action} (apart : action.isOfSinks = false) {one other : Room σ}
    (same : one.registry = other.registry) :
    (one.perform action).1 = (other.perform action).1 ∧
      (one.perform action).2.registry = (other.perform action).2.registry := by
  obtain ⟨registry, channel⟩ := one
  obtain ⟨_, second⟩ := other
  cases same
  cases asked : action.request? with
  | some found =>
    obtain ⟨request, place, options⟩ := found
    rw [Action.eq_of_request? asked]
    obtain ⟨absent, serve, serves⟩ := exists_serves (σ := σ) options request
    cases found : registry.tables[place]? with
    | none =>
      rw [serves.missing place ⟨registry, channel⟩ found,
        serves.missing place ⟨registry, second⟩ found]
      exact ⟨rfl, rfl⟩
    | some table =>
      rw [serves.found place ⟨registry, channel⟩ table found,
        serves.found place ⟨registry, second⟩ table found, registry_publish?, registry_publish?]
      exact ⟨rfl, rfl⟩
  | none =>
    cases action with
    | roll | check | damage | command => exact absurd asked (Option.some_ne_none _)
    | join | subscribe | unsubscribe | drain | fetch => exact Bool.noConfusion apart
    | create name capacity limits => exact ⟨rfl, rfl⟩
    | clear place =>
      refine ⟨rfl, ?_⟩
      simp only [perform, clear, table?]
      split <;> rfl
    | find | all | delete | recent | last => exact ⟨rfl, rfl⟩

/-- The answers of the steps that are not on the sinks. -/
def tableAnswers (steps : List (Step σ)) : List (Except Fault Answer) :=
  (steps.filter fun step => !step.action.isOfSinks).map Step.answer

omit [DrawSource σ] in
theorem tableAnswers_cons (step : Step σ) (rest : List (Step σ)) :
    tableAnswers (step :: rest) =
      if step.action.isOfSinks then tableAnswers rest else step.answer :: tableAnswers rest := by
  cases onSinks : step.action.isOfSinks <;> simp [tableAnswers, onSinks]

/-- A session answers as it does without its steps on the sinks. -/
theorem play_apart (actions : List Action) {one other : Room σ}
    (same : one.registry = other.registry) :
    tableAnswers (course actions one) =
        (play (actions.filter fun action => !action.isOfSinks) other).1 ∧
      (play actions one).2.registry =
        (play (actions.filter fun action => !action.isOfSinks) other).2.registry := by
  -- Only the registries are kept equal: the channels part at the first step on the sinks.
  induction actions generalizing one other with
  | nil => exact ⟨rfl, same⟩
  | cons action rest ih =>
    rw [course, tableAnswers_cons, List.filter_cons]
    cases onSinks : action.isOfSinks with
    | true =>
      have kept := (registry_of_isOfSinks onSinks one).trans same
      simp only [step, onSinks, if_true, Bool.not_true, Bool.false_eq_true, if_false]
      exact ih kept
    | false =>
      obtain ⟨answer, after⟩ := perform_apart onSinks same
      obtain ⟨answers, final⟩ := ih after
      simp only [step, onSinks, Bool.false_eq_true, if_false, Bool.not_false, if_true]
      exact ⟨congrArg₂ List.cons answer answers, final⟩

/-- Sessions that differ in what is done with the sinks answer alike and leave the same tables, with
the same histories and sources. Each sink leads a life of its own: it is a matter of the rolls that
are heard while it is subscribed and of what is fetched from it, and of nothing else, and what is
fetched makes a difference only to a queue with a bound. The log is what the sinks have to say.
A sink that joins during a session lives from the room after that. -/
theorem noninterference {one other : Room σ} (tables : one.registry = other.registry)
    {firsts seconds : List Action}
    (same : firsts.filter (fun action => !action.isOfSinks) =
      seconds.filter fun action => !action.isOfSinks) :
    tableAnswers (course firsts one) = tableAnswers (course seconds other) ∧
    (play firsts one).2.registry = (play seconds other).2.registry ∧
    (play firsts one).2.channel.log =
      one.channel.log ++ ((course firsts one).flatMap Step.report).map Prod.snd ∧
    ∀ place sink, one.channel.sinks[place]? = some sink →
      let turns := (course firsts one).filterMap (Step.turn? place)
      let life := sink.live one.channel.running turns
      let unfetched := sink.live one.channel.running (turns.filter fun turn => !turn.isFetch)
      Lived place (course firsts one) (play firsts one).2 life ∧
      (sink.isBounded = false →
        life.received = unfetched.received ∧ life.notices = unfetched.notices) := by
  obtain ⟨answers, registry⟩ := play_apart firsts tables
  obtain ⟨otherAnswers, otherRegistry⟩ := play_apart seconds (Eq.refl other.registry)
  rw [← same] at otherAnswers otherRegistry
  refine ⟨answers.trans otherAnswers.symm, registry.trans otherRegistry.symm,
    log_play firsts one, ?_⟩
  intro place sink found
  refine ⟨lived firsts found, fun unbounded => ?_⟩
  obtain ⟨received, notices⟩ := Sink.live_unfetched one.channel.running
    ((course firsts one).filterMap (Step.turn? place)) unbounded
  exact ⟨received.symm, notices.symm⟩

def quietRoom : Room Supply := start ⟨50, ⟨100, 1000, 50⟩, fun _ => .highest⟩ (Channel.start false)

def loudRoom : Room Supply := { quietRoom with channel := Channel.ofSinks false [.queue 0 []] }

def quietSession : List Action :=
  [.create [] none none, .roll 0 "d6".toList {}, .roll 0 "2d6".toList {}, .last 0]

def loudSession : List Action :=
  [.join .broken, .create [] none none, .roll 0 "d6".toList {}, .subscribe 0, .fetch 0,
    .roll 0 "2d6".toList {}, .unsubscribe 1, .last 0]

/-- A queue and a broken sink, of which the tables know nothing. -/
theorem noninterference_loudSession :
    tableAnswers (course loudSession loudRoom) = tableAnswers (course quietSession quietRoom) ∧
    (play loudSession loudRoom).2.registry = (play quietSession quietRoom).2.registry ∧
    let turns := (course loudSession loudRoom).filterMap (Step.turn? 0)
    let life := Sink.live false turns (.queue 0 [])
    Lived 0 (course loudSession loudRoom) (play loudSession loudRoom).2 life ∧
    life.received =
      (Sink.live false (turns.filter fun turn => !turn.isFetch) (.queue 0 [])).received := by
  have tables : loudRoom.registry = quietRoom.registry := rfl
  have same : loudSession.filter (fun action => !action.isOfSinks) =
      quietSession.filter fun action => !action.isOfSinks := rfl
  obtain ⟨answers, registry, _, lives⟩ := noninterference tables same
  obtain ⟨life, unfetched⟩ := lives 0 (.queue 0 []) rfl
  exact ⟨answers, registry, life, (unfetched rfl).1⟩

end Room

end Tabletop
