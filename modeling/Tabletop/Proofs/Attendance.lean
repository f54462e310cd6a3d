import Tabletop.Proofs.Offers

/-!
# What becomes of an event

An event is published in up to two passes over the subscribers, and the webhooks of a running
channel act in the second one only. What the sinks do is told here as one round of visits, one for
each subscription in order. It is said of each visit whether the sink did what is expected of its
kind, and this fails in one case: a webhook lets an event that is no document fall without a word.
-/
namespace Tabletop

/-- A sink is visited for one subscription. -/
structure Visit where
  place : Nat
  before : Sink
  after : Sink
  entry : Option Notice

namespace Sink

def isWebhook : Sink → Bool
  | webhook .. => true
  | _ => false

/-- The sink acts after all sinks have been visited. -/
def isLate (running : Bool) (sink : Sink) : Bool := running && sink.isWebhook

/-- Whatever the sink does about an event, in the one pass or in the other. -/
def attend (running : Bool) (event : Event) (sink : Sink) : Sink × Option Notice :=
  if sink.isLate running then sink.post event else sink.visit running event

theorem isWebhook_visit (running : Bool) (event : Event) (sink : Sink) :
    (sink.visit running event).1.isWebhook = sink.isWebhook := by
  cases sink with
  | queue bound held =>
    simp only [visit]
    split <;> rfl
  | journal | broken | webhook => rfl

theorem isWebhook_post (event : Event) (sink : Sink) :
    (sink.post event).1.isWebhook = sink.isWebhook := by
  cases sink with
  | webhook =>
    simp only [post]
    split
    · rfl
    · split <;> rfl
  | queue | journal | broken => rfl

theorem isLate_attend (running : Bool) (event : Event) (sink : Sink) :
    (sink.attend running event).1.isLate running = sink.isLate running := by
  rw [attend]
  split
  · rw [isLate, isWebhook_post, isLate]
  · rw [isLate, isWebhook_visit, isLate]

end Sink

namespace Visit

/-- One entry of this severity is logged. -/
def Notes (visit : Visit) (severity : Severity) : Prop :=
  ∃ notice, visit.entry = some notice ∧ notice.severity = severity

/-- An event was sent, and the receipt is as good as this entry says. -/
def Answers (receipt : Receipt) (visit : Visit) : Prop :=
  match receipt with
  | .status code => if 200 ≤ code ∧ code < 300 then visit.entry = none else visit.Notes .warning
  | .unreachable => visit.Notes .warning
  | .crash => visit.Notes .error

variable {running : Bool} {event : Event}

end Visit

namespace Channel

/-- The visits of a pass over the places. -/
def visits (act : Sink → Sink × Option Notice) : List Nat → List Sink → List Visit
  | [], _ => []
  | place :: rest, sinks =>
    match sinks[place]? with
    | none => visits act rest sinks
    | some sink =>
      ⟨place, sink, (act sink).1, (act sink).2⟩ :: visits act rest (sinks.set place (act sink).1)

/-- What the visits to sinks of one kind leave in the log. -/
def entries (kind : Sink → Bool) (visits : List Visit) : List Notice :=
  (visits.filter fun visit => kind visit.before).filterMap Visit.entry

theorem entries_cons_own {kind : Sink → Bool} {visit : Visit} (own : kind visit.before = true)
    (rest : List Visit) :
    entries kind (visit :: rest) = visit.entry.toList ++ entries kind rest := by
  cases said : visit.entry <;> simp [entries, own, said]

theorem entries_cons_other {kind : Sink → Bool} {visit : Visit}
    (other : kind visit.before = false) (rest : List Visit) :
    entries kind (visit :: rest) = entries kind rest := by
  simp [entries, other]

section Pass

variable {act : Sink → Sink × Option Notice} {place : Nat} {sinks : List Sink} {sink : Sink}

theorem visits_cons_none (missing : sinks[place]? = none) (rest : List Nat) :
    visits act (place :: rest) sinks = visits act rest sinks := by
  rw [visits, missing]

theorem visits_cons_some (found : sinks[place]? = some sink) (rest : List Nat) :
    visits act (place :: rest) sinks =
      ⟨place, sink, (act sink).1, (act sink).2⟩ ::
        visits act rest (sinks.set place (act sink).1) := by
  rw [visits, found]

end Pass

/-! ### Two passes as one round -/

/-- Of the sinks only those of one kind. -/
def restricted (kind : Sink → Bool) (sinks : List Sink) : List (Option Sink) :=
  sinks.map (Option.guard kind)

section Restricted

variable {kind : Sink → Bool} {sinks others : List Sink} {sink other : Sink}

theorem kind_of_guard (alike : Option.guard kind sink = Option.guard kind other) :
    kind sink = kind other := by
  cases mine : kind sink <;> cases its : kind other <;> simp_all [Option.guard]

theorem eq_of_guard (alike : Option.guard kind sink = Option.guard kind other)
    (own : kind sink = true) : sink = other := by
  have its : kind other = true := (kind_of_guard alike).symm.trans own
  rwa [Option.guard_pos own, Option.guard_pos its, Option.some.injEq] at alike

theorem restricted_set (place : Nat) (same : restricted kind sinks = restricted kind others)
    (alike : Option.guard kind sink = Option.guard kind other) :
    restricted kind (sinks.set place sink) = restricted kind (others.set place other) := by
  rw [restricted, restricted, List.map_set, List.map_set, ← restricted, ← restricted, same, alike]

theorem getElem?_of_restricted {place : Nat} (same : restricted kind sinks = restricted kind others)
    (found : sinks[place]? = some sink) :
    ∃ other, others[place]? = some other ∧ Option.guard kind sink = Option.guard kind other := by
  have there := congrArg (fun list => list[place]?) same
  simp only [restricted, List.getElem?_map, found, Option.map_some] at there
  obtain ⟨other, inside, alike⟩ := Option.map_eq_some_iff.mp there.symm
  exact ⟨other, inside, alike.symm⟩

theorem getElem?_eq_none_of_restricted {place : Nat}
    (same : restricted kind sinks = restricted kind others) (missing : sinks[place]? = none) :
    others[place]? = none := by
  have there := congrArg (fun list => list[place]?) same
  simpa [restricted, missing] using there.symm

/-- Sinks that are the same of the one kind and of the other are the same. -/
theorem eq_of_restricted (own : restricted kind sinks = restricted kind others)
    (rest : restricted (fun sink => !kind sink) sinks =
      restricted (fun sink => !kind sink) others) : sinks = others := by
  apply List.ext_getElem?
  intro place
  cases found : sinks[place]? with
  | none => exact (getElem?_eq_none_of_restricted own found).symm
  | some sink =>
    obtain ⟨other, inside, alike⟩ := getElem?_of_restricted own found
    obtain ⟨twin, again, differ⟩ := getElem?_of_restricted rest found
    obtain rfl : other = twin := Option.some.inj (inside.symm.trans again)
    rw [inside]
    cases mine : kind sink with
    | true => exact congrArg some (eq_of_guard alike mine)
    | false => exact congrArg some (eq_of_guard differ (by simp [mine]))

end Restricted

/-- The one act is what the other does of it to the sinks of one kind. -/
structure Minds (kind : Sink → Bool) (act whole : Sink → Sink × Option Notice) : Prop where
  own : ∀ sink, kind sink = true → act sink = whole sink
  other : ∀ sink, kind sink = false → act sink = (sink, none)
  keeps : ∀ sink, kind (whole sink).1 = kind sink

namespace Minds

variable {kind : Sink → Bool} {act whole : Sink → Sink × Option Notice}

/-- A pass of it does what the whole round does to the sinks of its kind, and says so. -/
theorem pass_own (minds : Minds kind act whole) (places : List Nat) {sinks others : List Sink}
    (same : restricted kind sinks = restricted kind others) :
    restricted kind (pass act places sinks).1 = restricted kind (pass whole places others).1 ∧
      (pass act places sinks).2 = entries kind (visits whole places others) := by
  induction places generalizing sinks others with
  | nil => exact ⟨same, rfl⟩
  | cons place rest ih =>
    cases found : sinks[place]? with
    | none =>
      have missing := getElem?_eq_none_of_restricted same found
      rw [pass_cons_none found, pass_cons_none missing, visits_cons_none missing]
      exact ih same
    | some sink =>
      obtain ⟨other, inside, alike⟩ := getElem?_of_restricted same found
      rw [pass_cons_some found, pass_cons_some inside, visits_cons_some inside]
      -- at one place the two lists need to agree only if the sink is of the kind
      cases mine : kind sink with
      | true =>
        obtain rfl : sink = other := eq_of_guard alike mine
        rw [minds.own sink mine, entries_cons_own mine]
        obtain ⟨state, said⟩ := ih (restricted_set place same rfl)
        exact ⟨state, congrArg _ said⟩
      | false =>
        have its : kind other = false := (kind_of_guard alike).symm.trans mine
        have after : kind (whole other).1 = false := (minds.keeps other).trans its
        rw [minds.other sink mine, entries_cons_other its]
        exact ih (restricted_set place same (by simp [Option.guard, mine, after]))

/-- A pass of it leaves sinks of other kinds alone. -/
theorem pass_other (minds : Minds kind act whole) (places : List Nat) (sinks : List Sink) :
    restricted (fun sink => !kind sink) (pass act places sinks).1 =
      restricted (fun sink => !kind sink) sinks := by
  induction places generalizing sinks with
  | nil => rfl
  | cons place rest ih =>
    cases found : sinks[place]? with
    | none =>
      rw [pass_cons_none found]
      exact ih sinks
    | some sink =>
      rw [pass_cons_some found]
      refine (ih _).trans ?_
      have kept : kind (act sink).1 = kind sink := by
        cases mine : kind sink with
        | true => rw [minds.own sink mine, minds.keeps, mine]
        | false => rw [minds.other sink mine, mine]
      have unchanged : sinks.set place sink = sinks := by
        obtain ⟨inside, rfl⟩ := List.getElem?_eq_some_iff.mp found
        exact List.set_getElem_self inside
      conv_rhs => rw [← unchanged]
      refine restricted_set place rfl ?_
      cases mine : kind sink with
      | true => simp [Option.guard, kept, mine]
      | false => rw [minds.other sink mine]

end Minds

/-! ### Publishing -/

theorem minds_visit (running : Bool) (event : Event) :
    Minds (fun sink => !sink.isLate running) (Sink.visit running event)
      (Sink.attend running event) where
  own := by
    intro sink early
    rw [Sink.attend, if_neg (by simpa using early)]
  other := by
    intro sink late
    cases sink with
    | webhook =>
      have goes : running = true := by simpa [Sink.isLate, Sink.isWebhook] using late
      simp [Sink.visit, goes]
    | _ => simp [Sink.isLate, Sink.isWebhook] at late
  keeps := fun sink => by rw [Sink.isLate_attend]

theorem minds_post (event : Event) :
    Minds (Sink.isLate true) (Sink.post event) (Sink.attend true event) where
  own := fun sink late => (if_pos late).symm
  other := by
    intro sink early
    cases sink with
    | webhook => simp [Sink.isLate, Sink.isWebhook] at early
    | _ => rfl
  keeps := Sink.isLate_attend true event

/-- The visits of a channel for an event. -/
def round (event : Event) (channel : Channel) : List Visit :=
  visits (Sink.attend channel.running event) channel.subscribers channel.sinks

/-- Publishing is one round of visits. What the late sinks have to say is logged last. -/
theorem publish_eq_round (event : Event) (channel : Channel) :
    channel.publish event =
      { channel with
        sinks := (pass (Sink.attend channel.running event) channel.subscribers channel.sinks).1
        log := channel.log ++
          entries (fun sink => !sink.isLate channel.running) (channel.round event) ++
          entries (Sink.isLate channel.running) (channel.round event) } := by
  obtain ⟨running, sinks, subscribers, log⟩ := channel
  obtain ⟨early, said⟩ :=
    (minds_visit running event).pass_own subscribers (rfl : _ = restricted _ sinks)
  cases running with
  | false =>
    have same : Sink.attend false event = Sink.visit false event := rfl
    have silent : ∀ visits, entries (Sink.isLate false) visits = [] := by
      intro visits
      simp [entries, Sink.isLate]
    simp only [publish, passed, round, silent, List.append_nil, ← said]
    rfl
  | true =>
    -- the second pass finds the late sinks as the first one found them
    have left := (minds_visit true event).pass_other subscribers sinks
    simp only [Bool.not_not] at left
    obtain ⟨late, added⟩ := (minds_post event).pass_own subscribers left
    have kept := (minds_post event).pass_other subscribers
      (pass (Sink.visit true event) subscribers sinks).1
    simp only [publish, passed, round, if_true, said, added,
      eq_of_restricted late (kept.trans early)]

/-! ### Any sequence of operations -/

/-- What is done with a channel of so many sinks. The channel may be running for one event and not
for the next. -/
inductive Operation (count : Nat) where
  | subscribe (place : Fin count)
  | unsubscribe (place : Fin count)
  | publish (running : Bool) (event : Event)

/-- The channel, running from now on or not. -/
def under (running : Bool) (channel : Channel) : Channel := { channel with running }

def perform {count : Nat} (channel : Channel) : Operation count → Channel
  | .subscribe place => channel.subscribe place
  | .unsubscribe place => channel.unsubscribe place
  | .publish running event => (channel.under running).publish event

def performed {count : Nat} (operations : List (Operation count)) (channel : Channel) : Channel :=
  operations.foldl perform channel

/-- The subscriptions that stand after an operation, in order. The earliest one of a sink is the
first to go, and where there is none nothing goes. -/
def subscribed {count : Nat} (standing : List (Fin count)) : Operation count → List (Fin count)
  | .subscribe place => standing ++ [place]
  | .unsubscribe place => standing.erase place
  | .publish .. => standing

theorem length_pass (act : Sink → Sink × Option Notice) (places : List Nat) (sinks : List Sink) :
    (pass act places sinks).1.length = sinks.length := by
  induction places generalizing sinks with
  | nil => rfl
  | cons place rest ih =>
    cases found : sinks[place]? with
    | none =>
      rw [pass_cons_none found]
      exact ih sinks
    | some sink =>
      rw [pass_cons_some found]
      exact (ih _).trans List.length_set

/-- The channel has so many sinks, and these are subscribed. -/
structure Stands {count : Nat} (standing : List (Fin count)) (channel : Channel) : Prop where
  count : channel.sinks.length = count
  subscribers : channel.subscribers = standing.map Fin.val

namespace Stands

variable {count : Nat} {standing : List (Fin count)} {channel : Channel}

theorem under (stands : channel.Stands standing) (running : Bool) :
    (channel.under running).Stands standing := ⟨stands.count, stands.subscribers⟩

theorem perform (stands : channel.Stands standing) (operation : Operation count) :
    (channel.perform operation).Stands (subscribed standing operation) := by
  cases operation with
  | subscribe place =>
    refine ⟨stands.count, ?_⟩
    rw [Channel.perform, Channel.subscribe, stands.subscribers, subscribed, List.map_append]
    rfl
  | unsubscribe place =>
    refine ⟨stands.count, ?_⟩
    rw [Channel.perform, Channel.unsubscribe, stands.subscribers, subscribed,
      List.map_erase fun _ _ => Fin.ext]
  | publish running event =>
    refine ⟨?_, (subscribers_publish ..).trans stands.subscribers⟩
    rw [Channel.perform, publish_eq_round, length_pass]
    exact stands.count

theorem performed (operations : List (Operation count)) {standing : List (Fin count)}
    {channel : Channel} (stands : channel.Stands standing) :
    (channel.performed operations).Stands (operations.foldl subscribed standing) := by
  induction operations generalizing standing channel with
  | nil => exact stands
  | cons operation rest ih => exact ih (stands.perform operation)

/-- All subscribers are sinks of the channel. -/
theorem known (stands : channel.Stands standing) :
    ∀ place ∈ channel.subscribers, place < channel.sinks.length := by
  intro place member
  rw [stands.subscribers] at member
  obtain ⟨seat, -, rfl⟩ := List.mem_map.mp member
  exact stands.count ▸ seat.isLt

end Stands

end Channel

end Tabletop
