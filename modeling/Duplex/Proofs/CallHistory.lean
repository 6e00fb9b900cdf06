import Duplex.Cancellation.Registry

/-! # What a program has called

  What a program may be told about its tokens is determined by the calls that it has made, latest
  first. Each new token opens a class, and a child joins the class of its parent (`classOf`). A
  class is cancelled by the first cancel of one of its tokens, or of a side of a link that is one of
  them (`cancelled`). A wait goes by the moments at which it was polled: before its class was
  cancelled (`early`) or after that (`late`).

  `reply` says what each call is told, from nothing but the calls before it.
-/

namespace Duplex.Cancellation

/-! ### Names -/

/-- How many classes there are: each new token has opened one. -/
def classes : List Call → Nat
  | [] => 0
  | .token _ :: past => classes past + 1
  | _ :: past => classes past

/-- The class of a token. A child joins the class of its parent; where there is no such parent,
    no child is made. -/
def classOf : List Call → String → Option Nat
  | [], _ => none
  | .token made :: past, name => if name = made then some (classes past) else classOf past name
  | .child made parent :: past, name =>
    if name = made then (classOf past parent).or (classOf past name) else classOf past name
  | _ :: past, name => classOf past name

/-- The classes of the two sides of a link, if there are both. -/
def linkOf (past : List Call) (disposal external : String) : Option Link :=
  match classOf past disposal, classOf past external with
  | some d, some e => some ⟨d, e⟩
  | _, _ => none

/-- The classes of the two sides of the link with a name. -/
def sidesOf : List Call → String → Option Link
  | [], _ => none
  | .link made disposal external :: past, name =>
    if name = made then (linkOf past disposal external).or (sidesOf past name)
    else sidesOf past name
  | _ :: past, name => sidesOf past name

/-- The class that a wait watches. -/
def watched : List Call → String → Option Nat
  | [], _ => none
  | .wait made token :: past, name =>
    if name = made then (classOf past token).or (watched past name) else watched past name
  | _ :: past, name => watched past name

/-! ### Cancels -/

/-- The class that a call cancels, through a token or through a side of a link. -/
def cancels (past : List Call) : Call → Option Nat
  | .cancel token => classOf past token
  | .cancelDisposal link => (sidesOf past link).map (·.disposal)
  | .cancelExternal link => (sidesOf past link).map (·.external)
  | _ => none

/-- Whether some call has cancelled a class. -/
def cancelled : List Call → Nat → Bool
  | [], _ => false
  | call :: past, k => cancels past call = some k || cancelled past k

/-- Which side of a link has fired. -/
def firedSide (past : List Call) (sides : Link) : Option CancelSource :=
  CancelSource.fired (cancelled past sides.disposal) (cancelled past sides.external)

/-! ### Polls -/

/-- The moments at which a wait was polled: what had been called before each poll. A wait that is
    made anew was not polled. -/
def polls : List Call → String → List (List Call)
  | [], _ => []
  | .wait made token :: past, name =>
    if name = made ∧ (classOf past token).isSome then [] else polls past name
  | .poll polled :: past, name => if name = polled then past :: polls past name else polls past name
  | _ :: past, name => polls past name

/-- Whether a wait was polled before class `k` was cancelled. -/
def early (past : List Call) (wait : String) (k : Nat) : Bool :=
  (polls past wait).any fun moment => !cancelled moment k

/-- Whether a wait was polled after class `k` was cancelled. -/
def late (past : List Call) (wait : String) (k : Nat) : Bool :=
  (polls past wait).any fun moment => cancelled moment k

/-- What a wait on class `k` answers when it is polled: it is pending before the class is cancelled,
    ready at the first poll after that, and done then. -/
def pollAnswer (past : List Call) (wait : String) (k : Nat) : Registry.WaitPoll :=
  if !cancelled past k then .pending else if late past wait k then .done else .ready

/-! ### Answers -/

/-- The answer about something that was made. -/
def about {α : Type} (made : Option α) (answer : α → Reply) : Reply :=
  made.elim .unknown answer

theorem about_congr {α : Type} {made : Option α} {answer other : α → Reply}
    (h : ∀ a, made = some a → answer a = other a) : about made answer = about made other := by
  cases made with
  | none => rfl
  | some a => exact h a rfl

/-- What a call is told, from the calls before it. -/
def reply (past : List Call) : Call → Reply
  | .token _ => .created
  | .child _ parent => about (classOf past parent) fun _ => .created
  | .link _ disposal external => about (linkOf past disposal external) fun _ => .created
  | .wait _ token => about (classOf past token) fun _ => .created
  | .isCancelled token => about (classOf past token) fun k => .flag (cancelled past k)
  | .fired link => about (sidesOf past link) fun sides => .fired (firedSide past sides)
  | .poll wait => about (watched past wait) fun k => .poll (pollAnswer past wait k)
  -- the cancel wakes those that were polled before it
  | .woken wait => about (watched past wait) fun k => .flag (cancelled past k && early past wait k)
  -- a cancel is the first one if there was none before it
  | call => about (cancels past call) fun k => .flag (!cancelled past k)

/-- What the calls of a program are told, one after the other. -/
def replies (past : List Call) : List Call → List Reply
  | [] => []
  | call :: rest => reply past call :: replies (call :: past) rest

/-- The classes that the answer of a call is about. -/
def observes (past : List Call) : Call → List Nat
  | .isCancelled token => (classOf past token).toList
  | .fired link => ((sidesOf past link).map fun sides => [sides.disposal, sides.external]).getD []
  | .poll wait | .woken wait => (watched past wait).toList
  | call => (cancels past call).toList

/-! ### Classes -/

variable {past : List Call} {call : Call} {name wait : String} {k : Nat}

theorem classOf_lt (h : classOf past name = some k) : k < classes past := by
  induction past generalizing name with
  | nil => cases h
  | cons call past ih =>
    cases call with
    | token made =>
      simp only [classOf, classes] at h ⊢
      split at h
      · cases h
        exact Nat.lt_succ_self _
      · exact Nat.lt_succ_of_lt (ih h)
    | child made parent =>
      simp only [classOf, classes] at h ⊢
      split at h
      · rcases Option.or_eq_some_iff.1 h with hparent | ⟨-, hold⟩
        · exact ih hparent
        · exact ih hold
      · exact ih h
    | _ => exact ih h

theorem linkOf_lt {disposal external : String} {sides : Link}
    (h : linkOf past disposal external = some sides) :
    sides.disposal < classes past ∧ sides.external < classes past := by
  unfold linkOf at h
  split at h
  next d e hd he =>
    cases h
    exact ⟨classOf_lt hd, classOf_lt he⟩
  next => cases h

theorem classes_le_cons (call : Call) (past : List Call) :
    classes past ≤ classes (call :: past) := by
  cases call with
  | token => exact Nat.le_succ _
  | _ => exact Nat.le_refl _

theorem sidesOf_lt {sides : Link} (h : sidesOf past name = some sides) :
    sides.disposal < classes past ∧ sides.external < classes past := by
  induction past with
  | nil => cases h
  | cons call past ih =>
    have hgrow (h : sidesOf past name = some sides) :
        sides.disposal < classes (call :: past) ∧ sides.external < classes (call :: past) :=
      (ih h).imp (Nat.lt_of_lt_of_le · (classes_le_cons call past))
        (Nat.lt_of_lt_of_le · (classes_le_cons call past))
    cases call with
    | link made disposal external =>
      simp only [sidesOf] at h
      split at h
      · rcases Option.or_eq_some_iff.1 h with hnew | ⟨-, hold⟩
        · exact linkOf_lt hnew
        · exact hgrow hold
      · exact hgrow h
    | _ => exact hgrow h

theorem cancels_lt (h : cancels past call = some k) : k < classes past := by
  cases call with
  | cancel token => exact classOf_lt h
  | cancelDisposal link =>
    obtain ⟨sides, hsides, rfl⟩ := Option.map_eq_some_iff.1 h
    exact (sidesOf_lt hsides).1
  | cancelExternal link =>
    obtain ⟨sides, hsides, rfl⟩ := Option.map_eq_some_iff.1 h
    exact (sidesOf_lt hsides).2
  | _ => cases h

/-! ### Cancelled once, cancelled for good -/

theorem cancelled_cons_of_cancels (h : cancels past call = some k) :
    cancelled (call :: past) k = true := by
  simp [cancelled, h]

theorem cancelled_cons_of_ne (h : cancels past call ≠ some k) :
    cancelled (call :: past) k = cancelled past k := by
  simp [cancelled, h]

theorem cancelled_append (h : cancelled past k = true) (more : List Call) :
    cancelled (more ++ past) k = true := by
  induction more with
  | nil => exact h
  | cons call more ih => simp [cancelled, ih]

/-- A cancel of one class is none of another. -/
theorem cancelled_cons_of_other {k' : Nat} (h : cancels past call = some k) (hk : k' ≠ k) :
    cancelled (call :: past) k' = cancelled past k' :=
  cancelled_cons_of_ne fun h' => hk (Option.some.inj (h'.symm.trans h))

/-- A wait that was polled late is one whose class is cancelled. -/
theorem cancelled_of_late (h : late past wait k = true) : cancelled past k = true := by
  induction past with
  | nil => simp [late, polls] at h
  | cons call past ih =>
    have hgrow (h : late past wait k = true) : cancelled (call :: past) k = true :=
      cancelled_append (ih h) [call]
    cases call with
    | wait made token =>
      simp only [late, polls] at h
      split at h
      · simp at h
      · exact hgrow h
    | poll polled =>
      simp only [late, polls] at h
      split at h
      · rcases Bool.or_eq_true_iff.1 (List.any_cons ▸ h) with hnow | hbefore
        · exact cancelled_append hnow [_]
        · exact hgrow hbefore
      · exact hgrow h
    | _ => exact hgrow h

theorem not_late_of_not_cancelled (h : cancelled past k = false) : late past wait k = false :=
  Bool.eq_false_iff.2 fun hlate => Bool.eq_false_iff.1 h (cancelled_of_late hlate)

/-- While its class is not cancelled, a wait that was polled at all was polled early. -/
theorem early_iff_of_not_cancelled (h : cancelled past k = false) :
    early past wait k = true ↔ polls past wait ≠ [] := by
  have hlate : late past wait k = false := not_late_of_not_cancelled h
  unfold early
  unfold late at hlate
  cases hpolls : polls past wait with
  | nil => simp
  | cons moment moments =>
    rw [hpolls, List.any_cons, Bool.or_eq_false_iff] at hlate
    simp [hlate.1]

/-! ### Calls that make nothing -/

/-- A call that made nothing and polled nothing: all names stand for what they stood for. -/
structure Passive (past : List Call) (call : Call) : Prop where
  classes : classes (call :: past) = classes past
  classOf : ∀ name, classOf (call :: past) name = classOf past name
  sidesOf : ∀ name, sidesOf (call :: past) name = sidesOf past name
  watched : ∀ name, watched (call :: past) name = watched past name
  polls : ∀ name, polls (call :: past) name = polls past name

/-- A call that cancels or asks, but does not poll. -/
def Call.Quiet : Call → Prop
  | .token _ | .child .. | .link .. | .wait .. | .poll _ => False
  | _ => True

theorem Call.Quiet.passive (h : call.Quiet) (past : List Call) : Passive past call := by
  cases call with
  | token | child | link | wait | poll => exact h.elim
  | _ => exact ⟨rfl, fun _ => rfl, fun _ => rfl, fun _ => rfl, fun _ => rfl⟩

theorem passive_of_cancels (h : cancels past call = some k) : Passive past call := by
  cases call with
  | cancel | cancelDisposal | cancelExternal => exact Call.Quiet.passive (by trivial) past
  | _ => cases h

theorem passive_child {parent : String} (h : classOf past parent = none) :
    Passive past (.child name parent) where
  classes := rfl
  classOf other := by simp [classOf, h]
  sidesOf _ := rfl
  watched _ := rfl
  polls _ := rfl

theorem passive_link {disposal external : String} (h : linkOf past disposal external = none) :
    Passive past (.link name disposal external) where
  classes := rfl
  classOf _ := rfl
  sidesOf other := by simp [sidesOf, h]
  watched _ := rfl
  polls _ := rfl

theorem passive_wait {token : String} (h : classOf past token = none) :
    Passive past (.wait name token) where
  classes := rfl
  classOf _ := rfl
  sidesOf _ := rfl
  watched other := by simp [watched, h]
  polls other := by simp [polls, h]

/-! ### Polls of a wait -/

section

variable (hpolls : polls (call :: past) name = polls past name)

include hpolls

theorem late_cons (k : Nat) : late (call :: past) name k = late past name k := by
  rw [late, hpolls, late]

theorem early_cons (k : Nat) : early (call :: past) name k = early past name k := by
  rw [early, hpolls, early]

end

theorem late_poll (past : List Call) (wait : String) (k : Nat) :
    late (.poll wait :: past) wait k = (cancelled past k || late past wait k) := by
  simp [late, polls]

theorem early_poll (past : List Call) (wait : String) (k : Nat) :
    early (.poll wait :: past) wait k = (!cancelled past k || early past wait k) := by
  simp [early, polls]

/-- A call makes a wait anew, so that it was not polled, or leaves it to what it watches. -/
theorem watched_cons (h : watched past wait = some k) (call : Call) :
    watched (call :: past) wait = some k ∨ polls (call :: past) wait = [] := by
  cases call with
  | wait made token =>
    by_cases hmade : wait = made ∧ (classOf past token).isSome
    · exact .inr (if_pos hmade)
    · refine .inl ?_
      rw [watched]
      split
      next hname =>
        have hnone : classOf past token = none := by simpa [hname] using hmade
        rw [hnone, h, Option.none_or]
      next => exact h
  | _ => exact .inl h

/-- After its class was cancelled, a wait that was not polled early will not have been. -/
theorem early_of_early_cons (hcancelled : cancelled past k = true) (call : Call)
    (h : early (call :: past) wait k = true) : early past wait k = true := by
  cases call with
  | wait made token =>
    rw [early, polls] at h
    split at h
    · cases h
    · exact h
  | poll polled =>
    by_cases hname : wait = polled
    · subst hname
      rw [early_poll, hcancelled] at h
      exact h
    · rw [early, polls, if_neg hname] at h
      exact h
  | _ => exact h

theorem reply_woken (h : watched past wait = some k) :
    reply past (.woken wait) = .flag (cancelled past k && early past wait k) := by
  rw [reply, h]
  rfl

theorem reply_woken_of_polls_nil (h : polls past wait = []) :
    reply past (.woken wait) ≠ .flag true := by
  intro hwoken
  cases hwatched : watched past wait with
  | none =>
    rw [reply, hwatched] at hwoken
    cases hwoken
  | some k =>
    have hearly : early past wait k = false := by rw [early, h]; rfl
    rw [reply_woken hwatched, hearly, Bool.and_false] at hwoken
    cases hwoken

/-- A wait that is woken after a call that did not cancel its class was woken before. -/
theorem reply_woken_of_cons (hwatched : watched past wait = some k)
    (hcancels : cancels past call ≠ some k)
    (hwoken : reply (call :: past) (.woken wait) = .flag true) :
    reply past (.woken wait) = .flag true := by
  rcases watched_cons hwatched call with hwatched' | hpolls
  · rw [reply_woken hwatched', Reply.flag.injEq, Bool.and_eq_true,
      cancelled_cons_of_ne hcancels] at hwoken
    obtain ⟨hcancelled, hearly⟩ := hwoken
    rw [reply_woken hwatched, hcancelled, early_of_early_cons hcancelled call hearly]
    rfl
  · exact absurd hwoken (reply_woken_of_polls_nil hpolls)

/-- **A wait is woken by the first cancel of its class, if it was polled before, and by nothing
    else.** -/
theorem woken_by_iff (hwatched : watched past wait = some k) (call : Call) :
    reply past (.woken wait) = .flag false ∧ reply (call :: past) (.woken wait) = .flag true ↔
      cancels past call = some k ∧ cancelled past k = false ∧ polls past wait ≠ [] := by
  by_cases hcancels : cancels past call = some k
  · have hpassive := passive_of_cancels hcancels
    have hafter : watched (call :: past) wait = some k := by rw [hpassive.watched, hwatched]
    rw [reply_woken hwatched, reply_woken hafter, cancelled_cons_of_cancels hcancels,
      early_cons (hpassive.polls wait)]
    cases hcancelled : cancelled past k with
    | true => cases early past wait k <;> simp
    | false => simp [hcancels, early_iff_of_not_cancelled hcancelled]
  · refine iff_of_false ?_ fun h => hcancels h.1
    rintro ⟨hnot, hwoken⟩
    rw [reply_woken_of_cons hwatched hcancels hwoken] at hnot
    cases hnot

/-! ### Bystanders -/

/-- Two histories that differ only in what they say of class `k`. -/
structure Alike (k : Nat) (past other : List Call) : Prop where
  classes : classes past = classes other
  classOf : ∀ name, classOf past name = classOf other name
  sidesOf : ∀ name, sidesOf past name = sidesOf other name
  watched : ∀ name, watched past name = watched other name
  polls : ∀ wait k', k' ≠ k →
    (polls past wait).map (cancelled · k') = (polls other wait).map (cancelled · k')
  cancelled : ∀ k', k' ≠ k → cancelled past k' = cancelled other k'

/-- A cancel says nothing of other classes. -/
theorem alike_of_cancels (h : cancels past call = some k) : Alike k (call :: past) past := by
  have hpassive := passive_of_cancels h
  refine ⟨hpassive.classes, hpassive.classOf, hpassive.sidesOf, hpassive.watched, ?_, ?_⟩
  · intro wait k' _
    rw [hpassive.polls]
  · intro k' hk
    exact cancelled_cons_of_other h hk

namespace Alike

variable {other : List Call}

theorem linkOf (h : Alike k past other) (disposal external : String) :
    linkOf past disposal external = linkOf other disposal external := by
  rw [Cancellation.linkOf, h.classOf, h.classOf, Cancellation.linkOf]

theorem cancels (h : Alike k past other) (call : Call) :
    cancels past call = cancels other call := by
  cases call with
  | cancel token => exact h.classOf token
  | cancelDisposal link | cancelExternal link => exact congrArg (Option.map _) (h.sidesOf link)
  | _ => rfl

/-- One more call leaves them alike. -/
theorem cons (h : Alike k past other) (call : Call) : Alike k (call :: past) (call :: other) where
  classes := by cases call <;> simp only [Cancellation.classes, h.classes]
  classOf name := by cases call <;> simp only [Cancellation.classOf, h.classes, h.classOf]
  sidesOf name := by cases call <;> simp only [Cancellation.sidesOf, h.linkOf, h.sidesOf]
  watched name := by cases call <;> simp only [Cancellation.watched, h.classOf, h.watched]
  cancelled k' hk := by simp only [Cancellation.cancelled, h.cancels, h.cancelled k' hk]
  polls wait k' hk := by
    have hold := h.polls wait k' hk
    cases call with
    | wait made token =>
      simp only [Cancellation.polls, h.classOf]
      split
      · rfl
      · exact hold
    | poll polled =>
      simp only [Cancellation.polls]
      split
      · rw [List.map_cons, List.map_cons, h.cancelled k' hk, hold]
      · exact hold
    | _ => exact hold

theorem append (h : Alike k past other) (more : List Call) :
    Alike k (more ++ past) (more ++ other) := by
  induction more with
  | nil => exact h
  | cons call more ih => exact ih.cons call

theorem early {k' : Nat} (h : Alike k past other) (hk : k' ≠ k) (wait : String) :
    early past wait k' = early other wait k' := by
  have hpolls := congrArg (List.any · not) (h.polls wait k' hk)
  simp only [List.any_map] at hpolls
  exact hpolls

theorem late {k' : Nat} (h : Alike k past other) (hk : k' ≠ k) (wait : String) :
    late past wait k' = late other wait k' := by
  have hpolls := congrArg (List.any · id) (h.polls wait k' hk)
  simp only [List.any_map] at hpolls
  exact hpolls

/-- A call that does not observe the class is told the same. -/
theorem reply (h : Alike k past other) {call : Call} (hk : k ∉ observes other call) :
    reply past call = reply other call := by
  cases call with
  | token name => rfl
  | child name parent => simp only [Cancellation.reply, h.classOf]
  | link name disposal external => simp only [Cancellation.reply, h.linkOf]
  | wait name token => simp only [Cancellation.reply, h.classOf]
  | isCancelled token =>
    simp only [Cancellation.reply, h.classOf]
    refine about_congr fun k' htoken => ?_
    have hne : k' ≠ k := by simpa [observes, htoken, eq_comm] using hk
    rw [h.cancelled k' hne]
  | fired link =>
    simp only [Cancellation.reply, h.sidesOf]
    refine about_congr fun sides hlink => ?_
    obtain ⟨hd, he⟩ : sides.disposal ≠ k ∧ sides.external ≠ k := by
      simpa [observes, hlink, eq_comm] using hk
    rw [firedSide, h.cancelled _ hd, h.cancelled _ he, firedSide]
  | poll wait =>
    simp only [Cancellation.reply, h.watched]
    refine about_congr fun k' hwait => ?_
    have hne : k' ≠ k := by simpa [observes, hwait, eq_comm] using hk
    rw [pollAnswer, h.cancelled k' hne, h.late hne, pollAnswer]
  | woken wait =>
    simp only [Cancellation.reply, h.watched]
    refine about_congr fun k' hwait => ?_
    have hne : k' ≠ k := by simpa [observes, hwait, eq_comm] using hk
    rw [h.cancelled k' hne, h.early hne]
  | cancel | cancelDisposal | cancelExternal =>
    simp only [Cancellation.reply, h.cancels]
    refine about_congr fun k' hcancels => ?_
    have hne : k' ≠ k := by simpa [observes, hcancels, eq_comm] using hk
    rw [h.cancelled k' hne]

end Alike

end Duplex.Cancellation
