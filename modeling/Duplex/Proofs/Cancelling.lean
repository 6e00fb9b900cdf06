import Duplex.Proofs.CallHistory

/-! # What tokens, links and waits tell

  The registry holds what the calls so far have determined (`Tracks`): each name stands for its
  class, flag and signal of a class are both raised or neither is, and a wait has come as far as the
  moments of its polls say. Each call is told what the calls before it determine and keeps it so
  (`Tracks.call`), hence so do whole programs.

  A cancel leaves no trace outside its class: with it or without it, all later calls that do not
  observe the class are told the same (`Alike`).
-/

namespace Duplex.Cancellation

/-! ### Names -/

namespace Names

variable {α : Type}

theorem get?_cons (made : String) (a : α) (names : Names α) (name : String) :
    Names.get? ((made, a) :: names) name = if name = made then some a else names.get? name := by
  rw [Names.get?, List.lookup_cons]
  by_cases h : name = made
  · rw [if_pos h, beq_iff_eq.2 h]
  · rw [if_neg h, beq_false_of_ne h]
    rfl

theorem get?_map (f : α → α) (names : Names α) (name : String) :
    Names.get? (names.map fun (n, a) => (n, f a)) name = (names.get? name).map f := by
  induction names with
  | nil => rfl
  | cons entry names ih =>
    rw [List.map_cons, get?_cons, get?_cons, ih]
    split <;> rfl

theorem get?_filter_ne {name other : String} (h : name ≠ other) (names : Names α) :
    Names.get? (names.filter (·.1 ≠ other)) name = names.get? name := by
  induction names with
  | nil => rfl
  | cons entry names ih =>
    by_cases hentry : entry.1 = other
    · rw [List.filter_cons_of_neg (by simpa using hentry), ih, get?_cons,
        if_neg (hentry ▸ h)]
    · rw [List.filter_cons_of_pos (by simpa using hentry), get?_cons, get?_cons, ih]

end Names

/-! ### Cells -/

namespace Registry

/-- A new cell is like no cell: nothing is raised in it. -/
theorem cell_newToken (r : Registry) (name : String) (k : Nat) :
    (r.newToken name).cell k = r.cell k := by
  simp only [newToken, cell, List.getD_eq_getElem?_getD]
  rcases Nat.lt_or_ge k r.cells.length with h | h
  · rw [List.getElem?_append_left h]
  · rw [List.getElem?_append_right h, List.getElem?_eq_none h]
    cases k - r.cells.length <;> rfl

/-- The first cancel raises the flag and the signal of its cell, and nothing else. -/
theorem cell_cancel {r : Registry} {k : Nat} (hk : k < r.cells.length)
    (hbefore : r.isCancelled k = false) (k' : Nat) :
    (r.cancel k).2.cell k' = if k' = k then ⟨true, true⟩ else r.cell k' := by
  simp only [cancel, hbefore, signal, cell, List.getD_eq_getElem?_getD, Bool.false_eq_true,
    if_false, List.getElem?_modify]
  by_cases h : k' = k
  · subst h
    rw [if_pos rfl, List.getElem?_eq_getElem hk]
    simp
  · have hne : k ≠ k' := fun h' => h h'.symm
    simp [h, hne]

theorem waits_cancel {r : Registry} {k : Nat} (hbefore : r.isCancelled k = false) (name : String) :
    (r.cancel k).2.waits.get? name = (r.waits.get? name).map (Wait.wake k) := by
  simp only [cancel, hbefore, signal, Bool.false_eq_true, if_false]
  exact Names.get?_map (Wait.wake k) r.waits name

theorem tokens_cancel (r : Registry) (k : Nat) : (r.cancel k).2.tokens = r.tokens := by
  unfold cancel
  split <;> rfl

theorem links_cancel (r : Registry) (k : Nat) : (r.cancel k).2.links = r.links := by
  unfold cancel
  split <;> rfl

theorem length_cancel (r : Registry) (k : Nat) :
    (r.cancel k).2.cells.length = r.cells.length := by
  unfold cancel
  split
  · rfl
  · simp [signal]

theorem cancel_of_cancelled {r : Registry} {k : Nat} (h : r.isCancelled k = true) :
    r.cancel k = (false, r) := if_pos h

end Registry

/-! ### Waits -/

/-- What a wait on class `k` has come to. -/
def waitOf (past : List Call) (name : String) (k : Nat) : Wait where
  cell := k
  state := if late past name k then .finished else if early past name k then .parked else .idle
  woken := cancelled past k && early past name k

theorem waitOf_cons {past : List Call} {call : Call} {name : String} {k : Nat}
    (hpolls : polls (call :: past) name = polls past name)
    (hcancelled : cancelled (call :: past) k = cancelled past k) :
    waitOf (call :: past) name k = waitOf past name k := by
  simp only [waitOf, late_cons hpolls, early_cons hpolls, hcancelled]

/-- The first cancel of a class wakes the waits that were polled before it, and no others. -/
theorem wake_waitOf {past : List Call} {call : Call} {name : String} {k : Nat}
    (hcancels : cancels past call = some k) (hbefore : cancelled past k = false) (k' : Nat) :
    (waitOf past name k').wake k = waitOf (call :: past) name k' := by
  have hpolls := (passive_of_cancels hcancels).polls name
  by_cases hk : k' = k
  · subst hk
    have hlate : late past name k' = false := not_late_of_not_cancelled hbefore
    have hafter := cancelled_cons_of_cancels hcancels
    cases hearly : early past name k' <;>
      simp [waitOf, Wait.wake, late_cons hpolls, early_cons hpolls, hlate, hearly, hbefore, hafter]
  · rw [waitOf_cons hpolls (cancelled_cons_of_other hcancels hk), Wait.wake, if_neg fun h => hk h.2]

/-! ### What the registry holds -/

/-- The registry holds what the calls so far have determined. -/
structure Tracks (past : List Call) (r : Registry) : Prop where
  /-- Flag and signal of a class agree: both are raised once it is cancelled. -/
  cells : ∀ k, r.cell k = ⟨cancelled past k, cancelled past k⟩
  /-- There is a cell for each class. -/
  count : r.cells.length = classes past
  tokens : ∀ name, r.tokens.get? name = classOf past name
  links : ∀ name, r.links.get? name = sidesOf past name
  waits : ∀ name, r.waits.get? name = (watched past name).map (waitOf past name)

theorem tracks_nil : Tracks [] {} := ⟨fun _ => rfl, rfl, fun _ => rfl, fun _ => rfl, fun _ => rfl⟩

namespace Tracks

variable {past : List Call} {r : Registry}

theorem isCancelled (h : Tracks past r) (k : Nat) : r.isCancelled k = cancelled past k := by
  rw [Registry.isCancelled, h.cells]

theorem fired (h : Tracks past r) (sides : Link) : r.fired sides = firedSide past sides := by
  rw [Registry.fired, h.isCancelled, h.isCancelled, firedSide]

/-! ### Calls that cancel nothing -/

section

variable {call : Call} (hsame : ∀ k, cancelled (call :: past) k = cancelled past k)

include hsame

theorem cells_cons (h : Tracks past r) (k : Nat) :
    r.cell k = ⟨cancelled (call :: past) k, cancelled (call :: past) k⟩ := by
  rw [hsame, h.cells]

/-- A wait that the call neither makes nor polls stays as it is. -/
theorem waits_cons (h : Tracks past r) {name : String}
    (hwatched : watched (call :: past) name = watched past name)
    (hpolls : polls (call :: past) name = polls past name) :
    r.waits.get? name = (watched (call :: past) name).map (waitOf (call :: past) name) := by
  rw [h.waits, hwatched]
  exact Option.map_congr fun k _ => (waitOf_cons hpolls (hsame k)).symm

theorem passive (h : Tracks past r) (hpassive : Passive past call) : Tracks (call :: past) r where
  cells := h.cells_cons hsame
  count := by rw [h.count, hpassive.classes]
  tokens name := by rw [h.tokens, hpassive.classOf]
  links name := by rw [h.links, hpassive.sidesOf]
  waits name := h.waits_cons hsame (hpassive.watched name) (hpassive.polls name)

end

theorem newToken (h : Tracks past r) (name : String) :
    Tracks (.token name :: past) (r.newToken name) where
  cells k := by
    rw [Registry.cell_newToken]
    exact h.cells_cons (fun _ => rfl) k
  count := by simp [Registry.newToken, classes, h.count]
  tokens other := by
    rw [Registry.newToken, Names.get?_cons, h.tokens, h.count]
    rfl
  links := h.links
  waits _ := h.waits_cons (fun _ => rfl) rfl rfl

theorem child (h : Tracks past r) {name parent : String} {k : Nat}
    (hparent : classOf past parent = some k) :
    Tracks (.child name parent :: past) { r with tokens := (name, k) :: r.tokens } where
  cells k' := h.cells_cons (fun _ => rfl) k'
  count := h.count
  tokens other := by
    rw [Names.get?_cons, h.tokens, classOf, hparent]
    rfl
  links := h.links
  waits _ := h.waits_cons (fun _ => rfl) rfl rfl

theorem link (h : Tracks past r) {name disposal external : String} {sides : Link}
    (hsides : linkOf past disposal external = some sides) :
    Tracks (.link name disposal external :: past) { r with links := (name, sides) :: r.links } where
  cells k' := h.cells_cons (fun _ => rfl) k'
  count := h.count
  tokens := h.tokens
  links other := by
    rw [Names.get?_cons, h.links, sidesOf, hsides]
    rfl
  waits _ := h.waits_cons (fun _ => rfl) rfl rfl

theorem wait (h : Tracks past r) {name token : String} {k : Nat}
    (htoken : classOf past token = some k) :
    Tracks (.wait name token :: past)
      { r with waits := (name, { cell := k }) :: r.waits } where
  cells k' := h.cells_cons (fun _ => rfl) k'
  count := h.count
  tokens := h.tokens
  links := h.links
  waits other := by
    rw [Names.get?_cons]
    by_cases hother : other = name
    · have hpolls : polls (.wait name token :: past) other = [] := by simp [polls, hother, htoken]
      rw [if_pos hother, watched, if_pos hother, htoken]
      simp [waitOf, late, early, hpolls]
    · rw [if_neg hother]
      exact h.waits_cons (fun _ => rfl) (by rw [watched, if_neg hother])
        (by rw [polls, if_neg fun h' => hother h'.1])

/-! ### Cancels -/

theorem cancel (h : Tracks past r) {call : Call} {k : Nat} (hcancels : cancels past call = some k) :
    (r.cancel k).1 = !cancelled past k ∧ Tracks (call :: past) (r.cancel k).2 := by
  have hpassive := passive_of_cancels hcancels
  cases hbefore : cancelled past k with
  | true =>
    rw [Registry.cancel_of_cancelled (by rw [h.isCancelled, hbefore])]
    refine ⟨rfl, h.passive (fun k' => ?_) hpassive⟩
    by_cases hk : k' = k
    · rw [hk, cancelled_cons_of_cancels hcancels, hbefore]
    · exact cancelled_cons_of_other hcancels hk
  | false =>
    have hflag : r.isCancelled k = false := by rw [h.isCancelled, hbefore]
    have hk : k < r.cells.length := h.count ▸ cancels_lt hcancels
    refine ⟨by rw [Registry.cancel, hflag]; rfl, ?_, ?_, ?_, ?_, ?_⟩
    · intro k'
      rw [Registry.cell_cancel hk hflag]
      split
      next heq => rw [heq, cancelled_cons_of_cancels hcancels]
      next hne => rw [cancelled_cons_of_other hcancels hne, h.cells]
    · rw [Registry.length_cancel, h.count, hpassive.classes]
    · intro name
      rw [Registry.tokens_cancel, h.tokens, hpassive.classOf]
    · intro name
      rw [Registry.links_cancel, h.links, hpassive.sidesOf]
    · intro name
      rw [Registry.waits_cancel hflag, h.waits, hpassive.watched, Option.map_map]
      exact Option.map_congr fun k' _ => wake_waitOf hcancels hbefore k'

/-- A cancel of a class, or of none where its name stands for nothing. -/
theorem cancelCell (h : Tracks past r) {call : Call} (hpassive : Passive past call) :
    (r.cancelCell (cancels past call)).1 =
        about (cancels past call) (fun k => .flag (!cancelled past k)) ∧
      Tracks (call :: past) (r.cancelCell (cancels past call)).2 := by
  cases hcancels : cancels past call with
  | none =>
    have hne (k : Nat) : cancels past call ≠ some k := by simp [hcancels]
    exact ⟨rfl, h.passive (fun k => cancelled_cons_of_ne (hne k)) hpassive⟩
  | some k =>
    obtain ⟨hfirst, htracks⟩ := h.cancel hcancels
    exact ⟨congrArg Reply.flag hfirst, htracks⟩

/-! ### Polls -/

/-- What a poll answers and leaves is determined by the moments of the polls before it. -/
theorem pollWait_waitOf (h : Tracks past r) (wait : String) (k : Nat) :
    r.pollWait (waitOf past wait k) =
      (pollAnswer past wait k, waitOf (.poll wait :: past) wait k) := by
  have hsame : cancelled (.poll wait :: past) k = cancelled past k := rfl
  cases hcancelled : cancelled past k with
  | false =>
    have hlate : late past wait k = false := not_late_of_not_cancelled hcancelled
    cases hearly : early past wait k <;>
      simp [Registry.pollWait, waitOf, pollAnswer, h.cells, late_poll, early_poll, hsame,
        hcancelled, hlate, hearly]
  | true =>
    cases hlate : late past wait k <;> cases hearly : early past wait k <;>
      simp [Registry.pollWait, waitOf, pollAnswer, h.cells, late_poll, early_poll, hsame,
        hcancelled, hlate, hearly]

theorem poll (h : Tracks past r) (wait : String) :
    (r.call (.poll wait)).1 = reply past (.poll wait) ∧
      Tracks (.poll wait :: past) (r.call (.poll wait)).2 := by
  have hother {name : String} (hname : name ≠ wait) :
      polls (.poll wait :: past) name = polls past name := by rw [polls, if_neg hname]
  have hwait := h.waits wait
  simp only [Registry.call, reply]
  cases hwatched : watched past wait with
  | none =>
    rw [hwatched, Option.map_none] at hwait
    rw [hwait]
    refine ⟨rfl, h.cells_cons (fun _ => rfl), h.count, h.tokens, h.links, fun name => ?_⟩
    by_cases hname : name = wait
    · rw [hname, hwait]
      exact (congrArg (Option.map _) hwatched).symm
    · exact h.waits_cons (fun _ => rfl) rfl (hother hname)
  | some k =>
    rw [hwatched, Option.map_some] at hwait
    rw [hwait]
    simp only [h.pollWait_waitOf]
    refine ⟨rfl, fun k' => h.cells_cons (fun _ => rfl) k', h.count, h.tokens, h.links,
      fun name => ?_⟩
    rw [Names.get?_cons]
    by_cases hname : name = wait
    · rw [if_pos hname, hname]
      exact (congrArg (Option.map _) hwatched).symm
    · rw [if_neg hname, Names.get?_filter_ne hname]
      exact h.waits_cons (fun _ => rfl) rfl (hother hname)

/-! ### Programs -/

/-- **Each call is told what the calls before it determine**, and keeps it so. -/
theorem call (h : Tracks past r) (call : Call) :
    (r.call call).1 = reply past call ∧ Tracks (call :: past) (r.call call).2 := by
  cases call with
  | token name => exact ⟨rfl, h.newToken name⟩
  | child name parent =>
    simp only [Registry.call, reply, h.tokens]
    cases hparent : classOf past parent with
    | none => exact ⟨rfl, h.passive (fun _ => rfl) (passive_child hparent)⟩
    | some k => exact ⟨rfl, h.child hparent⟩
  | link name disposal external =>
    have hcall : r.call (.link name disposal external) =
        (linkOf past disposal external).elim (.unknown, r)
          fun sides => (.created, { r with links := (name, sides) :: r.links }) := by
      simp only [Registry.call, h.tokens, linkOf]
      cases classOf past disposal <;> cases classOf past external <;> rfl
    rw [hcall, reply]
    cases hsides : linkOf past disposal external with
    | none => exact ⟨rfl, h.passive (fun _ => rfl) (passive_link hsides)⟩
    | some sides => exact ⟨rfl, h.link hsides⟩
  | wait name token =>
    simp only [Registry.call, reply, h.tokens]
    cases htoken : classOf past token with
    | none => exact ⟨rfl, h.passive (fun _ => rfl) (passive_wait htoken)⟩
    | some k => exact ⟨rfl, h.wait htoken⟩
  | cancel token =>
    have hcall : r.call (.cancel token) = r.cancelCell (cancels past (.cancel token)) :=
      congrArg r.cancelCell (h.tokens token)
    rw [hcall]
    exact h.cancelCell (Call.Quiet.passive (by trivial) past)
  | cancelDisposal link =>
    have hcall : r.call (.cancelDisposal link) =
        r.cancelCell (cancels past (.cancelDisposal link)) :=
      congrArg (fun sides => r.cancelCell (Option.map _ sides)) (h.links link)
    rw [hcall]
    exact h.cancelCell (Call.Quiet.passive (by trivial) past)
  | cancelExternal link =>
    have hcall : r.call (.cancelExternal link) =
        r.cancelCell (cancels past (.cancelExternal link)) :=
      congrArg (fun sides => r.cancelCell (Option.map _ sides)) (h.links link)
    rw [hcall]
    exact h.cancelCell (Call.Quiet.passive (by trivial) past)
  | isCancelled token =>
    have hpassive : Passive past (.isCancelled token) := Call.Quiet.passive (by trivial) past
    simp only [Registry.call, reply, h.tokens]
    cases classOf past token with
    | none => exact ⟨rfl, h.passive (fun _ => rfl) hpassive⟩
    | some k => exact ⟨congrArg Reply.flag (h.isCancelled k), h.passive (fun _ => rfl) hpassive⟩
  | fired link =>
    have hpassive : Passive past (.fired link) := Call.Quiet.passive (by trivial) past
    simp only [Registry.call, reply, h.links]
    cases sidesOf past link with
    | none => exact ⟨rfl, h.passive (fun _ => rfl) hpassive⟩
    | some sides =>
      exact ⟨congrArg Reply.fired (h.fired sides), h.passive (fun _ => rfl) hpassive⟩
  | poll wait => exact h.poll wait
  | woken wait =>
    have hpassive : Passive past (.woken wait) := Call.Quiet.passive (by trivial) past
    simp only [Registry.call, reply, h.waits]
    cases watched past wait with
    | none => exact ⟨rfl, h.passive (fun _ => rfl) hpassive⟩
    | some k => exact ⟨rfl, h.passive (fun _ => rfl) hpassive⟩

/-- So are all calls of a program, one after the other. -/
theorem run (h : Tracks past r) (calls : List Call) :
    (r.run calls).1 = replies past calls ∧ Tracks (calls.reverse ++ past) (r.run calls).2 := by
  induction calls generalizing past r with
  | nil => exact ⟨rfl, h⟩
  | cons call rest ih =>
    obtain ⟨hreply, htracks⟩ := h.call call
    obtain ⟨hreplies, hrest⟩ := ih htracks
    refine ⟨?_, ?_⟩
    · rw [Registry.run, replies, ← hreply, ← hreplies]
    · rw [List.reverse_cons, List.append_assoc]
      exact hrest

end Tracks

/-! ### What is observed -/

/-- How the answer about a link moves: from neither side to the caller's, and from either of these
    to disposal. -/
inductive Moves : Option CancelSource → Option CancelSource → Prop where
  | stays (side : Option CancelSource) : Moves side side
  | external : Moves none (some .external)
  | disposal (side : Option CancelSource) : Moves side (some .disposal)

/-- Each side stays cancelled, so the answer moves forward. -/
theorem moves_append (past more : List Call) (sides : Link) :
    Moves (firedSide past sides) (firedSide (more ++ past) sides) := by
  have hdisposal : cancelled past sides.disposal = true →
      cancelled (more ++ past) sides.disposal = true := fun h => cancelled_append h more
  have hexternal : cancelled past sides.external = true →
      cancelled (more ++ past) sides.external = true := fun h => cancelled_append h more
  unfold firedSide
  cases hd : cancelled (more ++ past) sides.disposal with
  | true => exact .disposal _
  | false =>
    -- the disposal side was not cancelled before, so the caller's side decides both answers
    rw [Bool.eq_false_iff.2 fun h => Bool.eq_false_iff.1 hd (hdisposal h)]
    cases he : cancelled past sides.external with
    | true =>
      rw [hexternal he]
      exact .stays _
    | false =>
      cases cancelled (more ++ past) sides.external with
      | true => exact .external
      | false => exact .stays _

/-- What a program observes, and what it leaves. -/
structure Observed (calls : List Call) (outcome : List Reply × Registry) : Prop where
  /-- Each call is told what the calls before it determine. -/
  replies : outcome.1 = replies [] calls
  /-- Flag and signal of a class agree. -/
  cells : ∀ k, outcome.2.cell k = ⟨cancelled calls.reverse k, cancelled calls.reverse k⟩
  /-- What is cancelled stays cancelled, whatever is called. -/
  stays : ∀ k more, outcome.2.isCancelled k = true → (outcome.2.run more).2.isCancelled k = true
  /-- The answer about a link only moves forward, whatever is called. -/
  moves : ∀ sides more, Moves (outcome.2.fired sides) ((outcome.2.run more).2.fired sides)
  /-- The call after which a wait is woken, and was not before, is the first cancel of its class,
      and the wait was polled before it. -/
  wakes : ∀ wait k call, watched calls.reverse wait = some k →
    ((outcome.2.call (.woken wait)).1 = .flag false ∧
        ((outcome.2.call call).2.call (.woken wait)).1 = .flag true ↔
      cancels calls.reverse call = some k ∧ cancelled calls.reverse k = false ∧
        polls calls.reverse wait ≠ [])
  /-- A cancel of a class changes no later answer that is about other classes. -/
  apart : ∀ cancel k more call, cancels calls.reverse cancel = some k →
    k ∉ observes (more.reverse ++ calls.reverse) call →
    ((((outcome.2.call cancel).2.run more).2.call call).1 = ((outcome.2.run more).2.call call).1)

/-- **Tokens, links and waits of any program.** Tokens are cancelled by class: the first cancel
    through any alias says so and all others do not. A class that is cancelled stays so, the answer
    about a link only moves forward, a wait that was polled early is woken by the first cancel of
    its class and by nothing else, and a cancel shows in its own class only. -/
theorem Registry.run_observed (calls : List Call) : Observed calls (Registry.run {} calls) := by
  obtain ⟨hreplies, htracks⟩ := tracks_nil.run calls
  rw [List.append_nil] at htracks
  refine ⟨hreplies, htracks.cells, ?_, ?_, ?_, ?_⟩
  · intro k more h
    rw [htracks.isCancelled] at h
    rw [(htracks.run more).2.isCancelled]
    exact cancelled_append h more.reverse
  · intro sides more
    rw [htracks.fired, (htracks.run more).2.fired]
    exact moves_append calls.reverse more.reverse sides
  · intro wait k call hwatched
    rw [(htracks.call _).1, ((htracks.call call).2.call _).1]
    exact woken_by_iff hwatched call
  · intro cancel k more call hcancels hobserves
    rw [(((htracks.call cancel).2.run more).2.call call).1, ((htracks.run more).2.call call).1]
    exact ((alike_of_cancels hcancels).append more.reverse).reply hobserves

/-- A link over a child of one token and another token: its sides are cancelled one after the other,
    and a wait on the parent is woken by the cancel of its disposal side. -/
example :
    (Registry.run {} [.token "a", .child "b" "a", .token "c", .link "l" "b" "c", .wait "w" "a",
      .poll "w", .cancelExternal "l", .woken "w", .fired "l", .cancelDisposal "l", .cancel "a",
      .woken "w", .fired "l", .poll "w"]).1 =
    [.created, .created, .created, .created, .created,
      .poll .pending, .flag true, .flag false, .fired (some .external), .flag true, .flag false,
      .flag true, .fired (some .disposal), .poll .ready] := by
  decide +kernel

end Duplex.Cancellation
