import Duplex.Proofs.Settling
import Mathlib.Data.List.Induction

/-! # What a listener sees of its host

  Everybody on a host moves by its steps, and most of them mean nothing to a given listener.
  `ListenerStep` lists those that do, with what becomes of the listener in each and of which
  connection it tells what, and `step_listener` says that there are no others. Whatever is to be
  shown of a listener and its connections follows from that list.
-/

namespace Duplex

/-- The connection that an accept stream is about to have tracked. -/
def Accept.tracking? (a : Accept) : Option Nat :=
  match a.state with
  | .tracking c => some c
  | .idle | .accepting _ | .refusing _ | .exhausted | .dropped => none

theorem Accept.tracking?_conclude (a : Accept) (answer : Polled Nat ConnectionError) :
    (a.conclude answer).tracking? = none := by
  cases answer <;> rfl

namespace Host

/-! ### What becomes of connections -/

/-- What a listener does with a connection. -/
inductive Fate where
  | accepted
  | registered
  | refused
  /-- An accept stream hands it out. -/
  | yielded
  deriving DecidableEq

/-- A listener does something with a connection. -/
structure Event where
  listener : Nat
  fate : Fate
  connection : Nat

/-- What an effect tells of the connections of a listener. -/
def Effect.event? : Effect → Option Event
  | .accepted l c => some ⟨l, .accepted, c⟩
  | .registered l c => some ⟨l, .registered, c⟩
  | .refused l c => some ⟨l, .refused, c⟩
  | .answered l _ (.next c) => some ⟨l, .yielded, c⟩
  | .answered _ _ _ | .panicked _ _ | .connection _ _ | .recorded _ _ => none

/-- What some effects tell of the connections of listeners. -/
def events (effects : List Effect) : List Event := effects.filterMap Effect.event?

/-- The connections to which listener `l` did this, in the order in which it did. -/
def met (fate : Fate) (l : Nat) (effects : List Effect) : List Nat :=
  (events effects).filterMap fun e =>
    if e.listener = l ∧ e.fate = fate then some e.connection else none

theorem events_append (effects more : List Effect) :
    events (effects ++ more) = events effects ++ events more := List.filterMap_append

theorem met_append (fate : Fate) (l : Nat) (effects more : List Effect) :
    met fate l (effects ++ more) = met fate l effects ++ met fate l more := by
  unfold met
  rw [events_append, List.filterMap_append]

theorem events_connection (c : Nat) (effects : List Connection.Effect) :
    events (effects.map (.connection c)) = [] := by
  induction effects with
  | nil => rfl
  | cons effect effects ih => exact ih

theorem events_recorded (l : Nat) (records : List LogRecord) :
    events (records.map (.recorded l)) = [] := by
  induction records with
  | nil => rfl
  | cons record records ih => exact ih

/-- The connections in the news of one listener of which it tells this. -/
def told (fate : Fate) (news : List (Fate × Nat)) : List Nat :=
  news.filterMap fun (fate', c) => if fate' = fate then some c else none

@[simp]
theorem told_nil (fate : Fate) : told fate [] = [] := rfl

@[simp]
theorem told_cons (fate fate' : Fate) (c : Nat) (news : List (Fate × Nat)) :
    told fate ((fate', c) :: news) =
      if fate' = fate then c :: told fate news else told fate news := by
  unfold told
  by_cases hfate : fate' = fate <;> simp [hfate]

theorem met_of_events_nil {effects : List Effect} (h : events effects = []) {fate : Fate}
    {l : Nat} : met fate l effects = [] := by
  unfold met
  rw [h]
  rfl

section met

variable {l : Nat} {effects : List Effect} {news : List (Fate × Nat)}

theorem met_of_events (h : events effects = news.map fun (fate, c) => ⟨l, fate, c⟩) (fate : Fate) :
    met fate l effects = told fate news := by
  unfold met told
  rw [h, List.filterMap_map]
  congr 1
  funext e
  simp

theorem met_of_events_of_ne (h : events effects = news.map fun (fate, c) => ⟨l, fate, c⟩)
    (fate : Fate) {m : Nat} (hm : m ≠ l) : met fate m effects = [] := by
  unfold met
  rw [h, List.filterMap_map, List.filterMap_eq_nil_iff]
  intro e _
  simp [Ne.symm hm]

end met

/-! ### Connections that are about to be tracked -/

/-- The connections that accept streams are about to have tracked. -/
def inFlight (accepts : List Accept) : List Nat := accepts.filterMap Accept.tracking?

theorem inFlight_append (accepts more : List Accept) :
    inFlight (accepts ++ more) = inFlight accepts ++ inFlight more := List.filterMap_append

section inFlight

variable {accepts : List Accept} {i : Nat} {a : Accept} {f : Accept → Accept}

/-- A change of one stream changes its own part of the connections in flight. -/
theorem inFlight_modify (ha : accepts[i]? = some a) (f : Accept → Accept) :
    ∃ before after, inFlight accepts = before ++ (a.tracking?.toList ++ after) ∧
      inFlight (accepts.modify i f) = before ++ ((f a).tracking?.toList ++ after) := by
  have hcons (b : Accept) (rest : List Accept) :
      inFlight (b :: rest) = b.tracking?.toList ++ inFlight rest := by
    unfold inFlight
    cases hb : b.tracking? with
    | none => exact List.filterMap_cons_none hb
    | some c => exact List.filterMap_cons_some hb
  induction accepts generalizing i with
  | nil => simp at ha
  | cons b rest ih =>
    cases i with
    | zero =>
      cases ha
      exact ⟨[], inFlight rest, hcons a rest, hcons (f a) rest⟩
    | succ i =>
      obtain ⟨before, after, hbefore, hafter⟩ := ih ha
      refine ⟨b.tracking?.toList ++ before, after, ?_, ?_⟩
      · rw [hcons, hbefore, List.append_assoc]
      · rw [List.modify_succ_cons, hcons, hafter, List.append_assoc]

theorem inFlight_modify_of_none (ha : accepts[i]? = some a) (hfrom : a.tracking? = none)
    (hto : (f a).tracking? = none) : inFlight (accepts.modify i f) = inFlight accepts := by
  obtain ⟨before, after, hbefore, hafter⟩ := inFlight_modify ha f
  rw [hbefore, hafter, hfrom, hto]

theorem inFlight_modify_of_some {c : Nat} (ha : accepts[i]? = some a) (hfrom : a.tracking? = none)
    (hto : (f a).tracking? = some c) :
    (inFlight (accepts.modify i f)).Perm (c :: inFlight accepts) := by
  obtain ⟨before, after, hbefore, hafter⟩ := inFlight_modify ha f
  rw [hbefore, hafter, hfrom, hto]
  exact List.perm_middle

theorem inFlight_of_modify {c : Nat} (ha : accepts[i]? = some a) (hfrom : a.tracking? = some c)
    (hto : (f a).tracking? = none) :
    (inFlight accepts).Perm (c :: inFlight (accepts.modify i f)) := by
  obtain ⟨before, after, hbefore, hafter⟩ := inFlight_modify ha f
  rw [hbefore, hafter, hfrom, hto]
  exact List.perm_middle

theorem inFlight_modify_of_same (hf : ∀ a, (f a).tracking? = a.tracking?) :
    inFlight (accepts.modify i f) = inFlight accepts := by
  cases ha : accepts[i]? with
  | none => rw [List.modify_eq_self (List.getElem?_eq_none_iff.1 ha)]
  | some a =>
    obtain ⟨before, after, hbefore, hafter⟩ := inFlight_modify ha f
    rw [hbefore, hafter, hf]

/-- A connection in flight belongs to a stream. -/
theorem mem_inFlight {c : Nat} :
    c ∈ inFlight accepts ↔
      ∃ (i : Nat) (a : Accept), accepts[i]? = some a ∧ a.state = .tracking c := by
  have hstate (a : Accept) : a.tracking? = some c ↔ a.state = .tracking c := by
    unfold Accept.tracking?
    split <;> simp_all
  simp only [inFlight, List.mem_filterMap, hstate]
  constructor
  · rintro ⟨a, ha, htracking⟩
    obtain ⟨i, hi⟩ := List.mem_iff_getElem?.1 ha
    exact ⟨i, a, hi, htracking⟩
  · rintro ⟨i, a, hi, htracking⟩
    exact ⟨a, List.mem_of_getElem? hi, htracking⟩

end inFlight

/-! ### Steps -/

/-- `ListenerStep h h' l x label y news`: a step from `h` to `h'` with this label makes listener
    `l`, which was `x`, into `y`, and this is what it tells of its connections. -/
inductive ListenerStep (h h' : Host) (l : Nat) (x : Listener) :
    Label → Listener → List (Fate × Nat) → Prop where
  /-- Nothing that concerns its connections or its disposal. -/
  | aside {label : Label} (accepts : List Accept)
      (hflight : inFlight accepts = inFlight x.accepts) :
      ListenerStep h h' l x label { x with accepts } []
  /-- The socket gives it a peer. -/
  | accepted {i : Nat} {answer : AcceptAnswer} (accepts : List Accept)
      (hflight : (inFlight accepts).Perm (h.connections.length :: inFlight x.accepts))
      (hnew : ∃ connection, h'.connections[h.connections.length]? = some connection ∧
        connection.coordinator = {}) :
      ListenerStep h h' l x (.accept l i answer) { x with accepts }
        [(.accepted, h.connections.length)]
  /-- It tracks a connection and hands it out. -/
  | registered {i : Nat} (c : Nat) (accepts : List Accept) (htoken : x.coordinator.token = false)
      (hflight : (inFlight x.accepts).Perm (c :: inFlight accepts)) :
      ListenerStep h h' l x (.track l i) { x with accepts, tracked := h.trackWith x c }
        [(.registered, c), (.yielded, c)]
  /-- It disposes of a connection that came too late. -/
  | refused {i : Nat} (c : Nat) (accepts : List Accept) (htoken : x.coordinator.token = true)
      (hflight : (inFlight x.accepts).Perm (c :: inFlight accepts))
      (hdisposed : c < h.connections.length → h'.isDisposed c = true) :
      ListenerStep h h' l x (.track l i) { x with accepts } [(.refused, c)]
  | disposed : ListenerStep h h' l x (.dispose l) x.dispose []
  /-- The teardown gives up the socket. -/
  | deafened (hteardown : x.teardown = .requested) :
      ListenerStep h h' l x (.cascade l) { x with listening := false, teardown := .deaf } []
  /-- The teardown takes the tracked connections. -/
  | taken (hteardown : x.teardown = .deaf) :
      ListenerStep h h' l x (.cascade l)
        { x with tracked := [], teardown := .cascading x.tracked x.tracked } []
  /-- The teardown disposes of a connection. -/
  | disposes {c : Nat} {rest taken : List Nat}
      (hteardown : x.teardown = .cascading (c :: rest) taken)
      (hdisposed : c < h.connections.length → h'.isDisposed c = true) :
      ListenerStep h h' l x (.cascade l) { x with teardown := .cascading rest taken } []
  /-- The teardown has seen the outcome of each connection that it took. -/
  | joined {taken : List Nat} {outcomes : List DisposeOutcome}
      (hteardown : x.teardown = .cascading [] taken)
      (houtcomes : taken.mapM h.outcome = some outcomes) :
      ListenerStep h h' l x (.cascade l)
        { x with teardown := .closing (cascadeOutcome outcomes) } []
  | published {o : DisposeOutcome} (hteardown : x.teardown = .closing o) :
      ListenerStep h h' l x (.cascade l)
        { x with coordinator := x.coordinator.publish o, teardown := .finished } []
  | aborted (hteardown : x.teardown = .requested ∨ x.teardown = .deaf ∨
        ∃ rest taken, x.teardown = .cascading rest taken) :
      ListenerStep h h' l x (.abort l) { x with teardown := .closing .aborted } []

/-- The host after a step in which listener `l` has become `y` and has told this, and which means
    nothing to other listeners. -/
structure Touched (h : Host) (l : Nat) (y : Listener) (news : List (Fate × Nat))
    (stepped : Stepped) : Prop where
  self : stepped.1.listeners[l]? = some y
  others : ∀ m, m ≠ l → stepped.1.listeners[m]? = h.listeners[m]?
  events : events stepped.2 = news.map fun (fate, c) => ⟨l, fate, c⟩
  forward : h.Forward stepped.1

/-- The step is one of listener `l`, which was `x`. -/
def Means (h : Host) (l : Nat) (x : Listener) (label : Label) (stepped : Stepped) : Prop :=
  ∃ y news, ListenerStep h stepped.1 l x label y news ∧ h.Touched l y news stepped

section steps

variable {h : Host} {l i : Nat} {x : Listener} {a : Accept} {label : Label} {effects : List Effect}

theorem touched_modifyListener {h₁ : Host} {f : Listener → Listener} {y : Listener}
    {news : List (Fate × Nat)} (hx : h.listeners[l]? = some x)
    (hlisteners : h₁.listeners = h.listeners) (hforward : h.Forward h₁) (hy : y = f x)
    (hevents : events effects = news.map fun (fate, c) => ⟨l, fate, c⟩) :
    h.Touched l y news (h₁.modifyListener l f, effects) where
  self := by simp [modifyListener, hlisteners, hx, hy]
  others m hm := by simp [modifyListener, hlisteners, Ne.symm hm]
  events := hevents
  forward := hforward

theorem forward_refl (h : Host) : h.Forward h := forward_of_eq rfl

/-- A stream goes on, and has no connection to be tracked before or after. -/
theorem means_modifyAccept (hx : h.listeners[l]? = some x) (ha : x.accepts[i]? = some a)
    (hfrom : a.tracking? = none) {f : Accept → Accept} (hto : (f a).tracking? = none)
    (hevents : events effects = []) :
    h.Means l x label
      (h.modifyListener l fun y => { y with accepts := y.accepts.modify i f }, effects) :=
  ⟨_, [], .aside _ (inFlight_modify_of_none ha hfrom hto),
    touched_modifyListener hx rfl h.forward_refl rfl hevents⟩

theorem means_endAccept {answer : Polled Nat ConnectionError} (hx : h.listeners[l]? = some x)
    (ha : x.accepts[i]? = some a) (hfrom : a.tracking? = none) (records : List LogRecord)
    (hanswer : ∀ c, answer ≠ .next c) : h.Means l x label (h.endAccept l i records answer) := by
  have hevents : events (records.map (.recorded l) ++ [.answered l i answer]) = [] := by
    rw [events_append, events_recorded]
    cases answer with
    | next c => exact absurd rfl (hanswer c)
    | pending | ended | failed _ => rfl
  exact means_modifyAccept hx ha hfrom (a.tracking?_conclude answer) hevents

theorem means_seekPeer (hx : h.listeners[l]? = some x) (ha : x.accepts[i]? = some a)
    (hfrom : a.tracking? = none) : h.Means l x label (h.seekPeer l i x a) := by
  unfold seekPeer
  split
  · exact means_modifyAccept (f := fun a => { a with state := .accepting true }) hx ha hfrom rfl rfl
  · exact means_endAccept hx ha hfrom [] (by simp)

/-- A report with a step means nothing more. -/
theorem Means.recorded {stepped : Stepped} (hmeans : h.Means l x label stepped)
    (record : LogRecord) : h.Means l x label (stepped.1, .recorded l record :: stepped.2) := by
  obtain ⟨y, news, hstep, htouched⟩ := hmeans
  exact ⟨y, news, hstep, htouched.self, htouched.others, htouched.events, htouched.forward⟩

theorem means_pollAccept (hx : h.listeners[l]? = some x) (ha : x.accepts[i]? = some a)
    {stepped : Stepped} (hstep : h.pollAccept l i x a = some stepped) :
    h.Means l x label stepped := by
  unfold pollAccept at hstep
  split at hstep
  · next hstate =>
    have hfrom : a.tracking? = none := by simp [Accept.tracking?, hstate]
    split at hstep
    · cases hstep
      exact means_modifyAccept (f := fun a => { a with state := .exhausted }) hx ha hfrom rfl rfl
    · cases hstep
      exact means_seekPeer hx ha hfrom
  · next hstate =>
    have hfrom : a.tracking? = none := by simp [Accept.tracking?, hstate]
    split at hstep
    · cases hstep
      exact means_endAccept hx ha hfrom [] (by simp)
    · cases hstep
      exact means_modifyAccept (f := fun a => { a with state := .accepting true }) hx ha hfrom rfl
        rfl
  · next hstate =>
    have hfrom : a.tracking? = none := by simp [Accept.tracking?, hstate]
    split at hstep
    · cases hstep
      exact means_endAccept hx ha hfrom [] (by simp)
    · cases hstep
      exact ⟨x, [], .aside x.accepts rfl, hx, fun _ _ => rfl, rfl, h.forward_refl⟩
  · cases hstep
    exact ⟨x, [], .aside x.accepts rfl, hx, fun _ _ => rfl, rfl, h.forward_refl⟩
  all_goals cases hstep

theorem means_accept (hx : h.listeners[l]? = some x) (ha : x.accepts[i]? = some a)
    {answer : AcceptAnswer} {stepped : Stepped} (hstep : h.accept l i x a answer = some stepped) :
    h.Means l x (.accept l i answer) stepped := by
  have hfrom (hstate : a.state = .accepting true) : a.tracking? = none := by
    simp [Accept.tracking?, hstate]
  unfold accept at hstep
  split at hstep
  · next hstate =>
    cases hstep
    exact means_modifyAccept (f := fun a => { a with state := .accepting false }) hx ha
      (hfrom hstate) rfl rfl
  · next localAddress peerAddress hstate =>
    cases hstep
    let accepts := x.accepts.modify i fun a => { a with state := .tracking h.connections.length }
    refine ⟨{ x with accepts }, [(.accepted, h.connections.length)], .accepted accepts ?_ ?_, ?_⟩
    · exact inFlight_modify_of_some ha (hfrom hstate) rfl
    · exact ⟨_, List.getElem?_concat_length, rfl⟩
    · exact touched_modifyListener hx rfl (forward_of_append rfl) rfl rfl
  · next peerAddress e hstate =>
    cases hstep
    exact (means_seekPeer hx ha (hfrom hstate)).recorded _
  · next e hstate =>
    split at hstep
    · cases hstep
      exact means_endAccept hx ha (hfrom hstate) [] (by simp)
    · cases hstep
      exact means_endAccept hx ha (hfrom hstate) _ (by simp)
  · cases hstep

theorem means_track (hx : h.listeners[l]? = some x) (ha : x.accepts[i]? = some a)
    {stepped : Stepped} (hstep : h.track l i x a = some stepped) :
    h.Means l x (.track l i) stepped := by
  unfold track at hstep
  split at hstep
  · next c hstate =>
    have hfrom : a.tracking? = some c := by simp [Accept.tracking?, hstate]
    split at hstep
    · next htoken =>
      cases hstep
      let accepts := x.accepts.modify i fun a => { a with state := .refusing c }
      refine ⟨{ x with accepts }, [(.refused, c)],
        .refused c accepts htoken ?_ isDisposed_modifyConnection, ?_⟩
      · exact inFlight_of_modify ha hfrom rfl
      · exact touched_modifyListener hx rfl (h.forward_dispose c) rfl rfl
    · next htoken =>
      cases hstep
      have htoken : x.coordinator.token = false := by simpa using htoken
      let accepts := x.accepts.modify i fun a => { a with state := .idle }
      refine ⟨{ x with accepts, tracked := h.trackWith x c }, [(.registered, c), (.yielded, c)],
        .registered c accepts htoken ?_, ?_⟩
      · exact inFlight_of_modify ha hfrom rfl
      · exact touched_modifyListener hx rfl h.forward_refl rfl rfl
  · cases hstep

theorem means_dropAccept (hx : h.listeners[l]? = some x) (ha : x.accepts[i]? = some a)
    {stepped : Stepped} (hstep : h.dropAccept l i a = some stepped) :
    h.Means l x label stepped := by
  unfold dropAccept at hstep
  split at hstep
  case h_1 hstate | h_2 hstate | h_3 hstate | h_4 hstate =>
    have hfrom : a.tracking? = none := by simp [Accept.tracking?, hstate]
    cases hstep
    exact means_modifyAccept (f := fun a => { a with state := .dropped }) hx ha hfrom rfl rfl
  all_goals cases hstep

theorem means_runCascade (hx : h.listeners[l]? = some x) {stepped : Stepped}
    (hstep : h.runCascade l x = some stepped) : h.Means l x (.cascade l) stepped := by
  unfold runCascade at hstep
  split at hstep
  · next hteardown =>
    cases hstep
    exact ⟨_, [], .deafened hteardown, touched_modifyListener hx rfl h.forward_refl rfl rfl⟩
  · next hteardown =>
    cases hstep
    exact ⟨_, [], .taken hteardown, touched_modifyListener hx rfl h.forward_refl rfl rfl⟩
  · next c rest taken hteardown =>
    cases hstep
    refine ⟨_, [], .disposes hteardown isDisposed_modifyConnection, ?_⟩
    exact touched_modifyListener hx rfl (h.forward_dispose c) rfl rfl
  · next taken hteardown =>
    split at hstep
    · cases hstep
    · next outcomes houtcomes =>
      cases hstep
      exact ⟨_, [], .joined hteardown houtcomes,
        touched_modifyListener hx rfl h.forward_refl rfl rfl⟩
  · next o hteardown =>
    cases hstep
    exact ⟨_, [], .published hteardown, touched_modifyListener hx rfl h.forward_refl rfl rfl⟩
  all_goals cases hstep

theorem means_abortCascade (hx : h.listeners[l]? = some x) {stepped : Stepped}
    (hstep : h.abortCascade l x = some stepped) : h.Means l x (.abort l) stepped := by
  have haborted (hteardown : x.teardown = .requested ∨ x.teardown = .deaf ∨
      ∃ rest taken, x.teardown = .cascading rest taken) :
      h.Means l x (.abort l) (h.modifyListener l ({ · with teardown := .closing .aborted }), []) :=
    ⟨_, [], .aborted hteardown, touched_modifyListener hx rfl h.forward_refl rfl rfl⟩
  unfold abortCascade at hstep
  split at hstep
  case h_4 hteardown =>
    cases hstep
    exact haborted (.inl hteardown)
  case h_5 hteardown =>
    cases hstep
    exact haborted (.inr (.inl hteardown))
  case h_6 rest taken hteardown =>
    cases hstep
    exact haborted (.inr (.inr ⟨rest, taken, hteardown⟩))
  all_goals cases hstep

end steps

/-- What a step means to the listeners. -/
inductive StepKind (h : Host) (label : Label) (stepped : Stepped) : Prop where
  /-- Nothing. -/
  | aside (hlisteners : stepped.1.listeners = h.listeners) (hevents : events stepped.2 = [])
      (hforward : h.Forward stepped.1)
  /-- There is a new listener. -/
  | new (config : SocketConfig) (localAddress : String)
      (hnew : stepped = ({ h with listeners := h.listeners ++ [{ config, localAddress }] }, []))
  /-- Listener `l` moves. -/
  | listener (l : Nat) (x : Listener) (hx : h.listeners[l]? = some x)
      (hmeans : h.Means l x label stepped)

section kinds

variable {h h' : Host} {label : Label} {effects : List Effect}

theorem withAccept_eq_some {l i : Nat} {f : Listener → Accept → Option Stepped}
    {stepped : Stepped} : h.withAccept l i f = some stepped ↔ ∃ x a, h.listeners[l]? = some x ∧
      x.accepts[i]? = some a ∧ f x a = some stepped := by
  simp only [withAccept, Option.bind_eq_bind, Option.bind_eq_some_iff]
  constructor
  · rintro ⟨x, hx, a, ha, hf⟩
    exact ⟨x, a, hx, ha, hf⟩
  · rintro ⟨x, a, hx, ha, hf⟩
    exact ⟨x, hx, a, ha, hf⟩

/-- A change of a listener that is always possible. -/
theorem stepKind_modifyListener {l : Nat} (f : Listener → Listener)
    (hf : ∀ x, ∃ y, f x = y ∧ ListenerStep h (h.modifyListener l f) l x label y []) :
    StepKind h label (h.modifyListener l f, []) := by
  cases hx : h.listeners[l]? with
  | none =>
    -- there is no such listener
    have hsame : (h.modifyListener l f).listeners = h.listeners :=
      List.modify_eq_self (List.getElem?_eq_none_iff.1 hx)
    exact .aside hsame rfl h.forward_refl
  | some x =>
    obtain ⟨y, rfl, hstep⟩ := hf x
    exact .listener l x hx
      ⟨_, [], hstep, touched_modifyListener hx rfl h.forward_refl rfl rfl⟩

theorem step_kind {stepped : Stepped} (hstep : h.step? label = some stepped) :
    StepKind h label stepped := by
  cases label with
  | connection c label =>
    simp only [step?, Option.bind_eq_bind, Option.bind_eq_some_iff, Option.pure_def,
      Option.some.injEq] at hstep
    obtain ⟨connection, hc, ⟨connection', effects⟩, hmove, rfl⟩ := hstep
    refine .aside rfl (events_connection c effects) (forward_modifyConnection ?_)
    intro x hx
    rw [hc] at hx
    cases hx
    exact Connection.coordinator_step hmove
  | adopt connection =>
    cases hstep
    exact .aside rfl rfl (forward_of_append rfl)
  | listen config localAddress =>
    cases hstep
    exact .new config localAddress rfl
  | acceptAll l cancelled =>
    cases hstep
    refine stepKind_modifyListener _ fun x => ⟨_, rfl, .aside _ ?_⟩
    rw [inFlight_append]
    exact List.append_nil _
  | pollAccept l i =>
    obtain ⟨x, a, hx, ha, hpoll⟩ := withAccept_eq_some.1 hstep
    exact .listener l x hx (means_pollAccept hx ha hpoll)
  | accept l i answer =>
    obtain ⟨x, a, hx, ha, haccept⟩ := withAccept_eq_some.1 hstep
    exact .listener l x hx (means_accept hx ha haccept)
  | track l i =>
    obtain ⟨x, a, hx, ha, htrack⟩ := withAccept_eq_some.1 hstep
    exact .listener l x hx (means_track hx ha htrack)
  | dropAccept l i =>
    obtain ⟨x, a, hx, ha, hdrop⟩ := withAccept_eq_some.1 hstep
    exact .listener l x hx (means_dropAccept hx ha hdrop)
  | cancelAccept l i =>
    cases hstep
    exact stepKind_modifyListener _ fun x =>
      ⟨_, rfl, .aside _ (inFlight_modify_of_same fun _ => rfl)⟩
  | dispose l =>
    cases hstep
    exact stepKind_modifyListener _ fun x => ⟨_, rfl, .disposed⟩
  | cascade l =>
    obtain ⟨x, hx, hcascade⟩ := Option.bind_eq_some_iff.1 hstep
    exact .listener l x hx (means_runCascade hx hcascade)
  | abort l =>
    obtain ⟨x, hx, habort⟩ := Option.bind_eq_some_iff.1 hstep
    exact .listener l x hx (means_abortCascade hx habort)

theorem forward_step (hstep : h.step? label = some (h', effects)) : h.Forward h' := by
  cases step_kind hstep with
  | aside _ _ hforward => exact hforward
  | new _ _ hnew =>
    cases hnew
    exact forward_of_eq rfl
  | listener _ _ _ hmeans =>
    obtain ⟨_, _, _, htouched⟩ := hmeans
    exact htouched.forward

/-- What a step means to a listener. -/
theorem step_listener (hstep : h.step? label = some (h', effects)) {l : Nat} {x : Listener}
    (hx : h.listeners[l]? = some x) :
    ∃ y news, h'.listeners[l]? = some y ∧ ListenerStep h h' l x label y news ∧
      ∀ fate, met fate l effects = told fate news := by
  have hrests (hsame : h'.listeners[l]? = h.listeners[l]?)
      (hnone : ∀ fate, met fate l effects = []) :
      ∃ y news, h'.listeners[l]? = some y ∧ ListenerStep h h' l x label y news ∧
        ∀ fate, met fate l effects = told fate news :=
    ⟨x, [], hsame.trans hx, .aside x.accepts rfl, hnone⟩
  cases step_kind hstep with
  | aside hlisteners hevents _ =>
    exact hrests (congrArg (·[l]?) hlisteners) (fun _ => met_of_events_nil hevents)
  | new _ _ hnew =>
    cases hnew
    exact hrests (List.getElem?_append_left (List.getElem?_eq_some_iff.1 hx).1) fun _ => rfl
  | listener m x₀ hx₀ hmeans =>
    obtain ⟨y, news, hmove, htouched⟩ := hmeans
    by_cases hml : l = m
    · subst hml
      rw [hx] at hx₀
      cases hx₀
      exact ⟨y, news, htouched.self, hmove, met_of_events htouched.events⟩
    · exact hrests (htouched.others l hml) fun fate => met_of_events_of_ne htouched.events fate hml

/-- A listener that is not there yet tells nothing, and is new if it comes. -/
theorem step_unlistened (hstep : h.step? label = some (h', effects)) {l : Nat}
    (hl : h.listeners[l]? = none) :
    (∀ fate, met fate l effects = []) ∧
      ∀ y, h'.listeners[l]? = some y → ∃ config localAddress, y = { config, localAddress } := by
  have habsent (hsame : h'.listeners[l]? = h.listeners[l]?) :
      ∀ y, h'.listeners[l]? = some y → ∃ config localAddress, y = { config, localAddress } := by
    intro y hy
    rw [hsame, hl] at hy
    cases hy
  cases step_kind hstep with
  | aside hlisteners hevents _ =>
    exact ⟨fun _ => met_of_events_nil hevents, habsent (congrArg (·[l]?) hlisteners)⟩
  | new config localAddress hnew =>
    cases hnew
    refine ⟨fun _ => rfl, ?_⟩
    intro y hy
    rw [List.getElem?_append_right (List.getElem?_eq_none_iff.1 hl)] at hy
    exact ⟨config, localAddress, List.mem_singleton.1 (List.mem_of_getElem? hy)⟩
  | listener m x hx hmeans =>
    obtain ⟨y, news, -, htouched⟩ := hmeans
    have hml : l ≠ m := by
      intro hlm
      rw [← hlm, hl] at hx
      cases hx
    exact ⟨fun fate => met_of_events_of_ne htouched.events fate hml,
      habsent (htouched.others l hml)⟩

end kinds

/-! ### Runs -/

section runs

variable {h h' : Host} {effects : List Effect}

theorem run?_cons_eq_some {label : Label} {rest : List Label} :
    h.run? (label :: rest) = some (h', effects) ↔
      ∃ h₁ first others, h.step? label = some (h₁, first) ∧ h₁.run? rest = some (h', others) ∧
        effects = first ++ others := by
  simp only [run?, Option.bind_eq_bind, Option.bind_eq_some_iff, Option.pure_def,
    Option.some.injEq, Prod.mk.injEq, Prod.exists]
  constructor
  · rintro ⟨h₁, first, hstep, h₂, others, hrest, rfl, rfl⟩
    exact ⟨h₁, first, others, hstep, hrest, rfl⟩
  · rintro ⟨h₁, first, others, hstep, hrest, rfl⟩
    exact ⟨h₁, first, hstep, h', others, hrest, rfl, rfl⟩

theorem run?_append_eq_some {before after : List Label} :
    h.run? (before ++ after) = some (h', effects) ↔
      ∃ h₁ first others, h.run? before = some (h₁, first) ∧ h₁.run? after = some (h', others) ∧
        effects = first ++ others := by
  induction before generalizing h effects with
  | nil =>
    constructor
    · intro hrun
      exact ⟨h, [], effects, rfl, hrun, rfl⟩
    · rintro ⟨h₁, first, others, hbefore, hafter, rfl⟩
      cases hbefore
      exact hafter
  | cons label before ih =>
    rw [List.cons_append, run?_cons_eq_some]
    constructor
    · rintro ⟨h₁, first, rest, hstep, hrest, rfl⟩
      obtain ⟨h₂, second, others, hbefore, hafter, rfl⟩ := ih.1 hrest
      refine ⟨h₂, first ++ second, others, ?_, hafter, (List.append_assoc ..).symm⟩
      exact run?_cons_eq_some.2 ⟨h₁, first, second, hstep, hbefore, rfl⟩
    · rintro ⟨h₂, most, others, hmost, hafter, rfl⟩
      obtain ⟨h₁, first, second, hstep, hbefore, rfl⟩ := run?_cons_eq_some.1 hmost
      refine ⟨h₁, first, second ++ others, hstep, ?_, List.append_assoc ..⟩
      exact ih.2 ⟨h₂, second, others, hbefore, hafter, rfl⟩

theorem run?_singleton_eq_some {label : Label} :
    h.run? [label] = some (h', effects) ↔ h.step? label = some (h', effects) := by
  rw [run?_cons_eq_some]
  constructor
  · rintro ⟨h₁, first, others, hstep, hrest, rfl⟩
    cases hrest
    rw [List.append_nil]
    exact hstep
  · intro hstep
    exact ⟨h', effects, [], hstep, rfl, (List.append_nil _).symm⟩

/-- What is true at the start and kept by each step of a run is true wherever a run leads. -/
theorem run_induction {P : List Label → Host → List Effect → Prop} (hstart : P [] h [])
    (hstep : ∀ labels h₁ first label h₂ others, h.run? labels = some (h₁, first) →
      P labels h₁ first → h₁.step? label = some (h₂, others) →
      P (labels ++ [label]) h₂ (first ++ others))
    {labels : List Label} (hrun : h.run? labels = some (h', effects)) : P labels h' effects := by
  induction labels using List.reverseRecOn generalizing h' effects with
  | nil =>
    cases hrun
    exact hstart
  | append_singleton labels label ih =>
    obtain ⟨h₁, first, others, hbefore, hlast, rfl⟩ := run?_append_eq_some.1 hrun
    exact hstep _ _ _ _ _ _ hbefore (ih hbefore) (run?_singleton_eq_some.1 hlast)

end runs

end Host

end Duplex
