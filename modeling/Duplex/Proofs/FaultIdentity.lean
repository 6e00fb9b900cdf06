import Duplex.Socket.ConnectionError

/-! # Errors keep their identity

  An error that is handed to the layer above becomes a fault there, and a fault can be the cause of
  another one. Code, category and text come through as they were, and what lies beneath is one text
  longer at each level: a framing error is the same fault by either way (`sameIdentity_frame`), a
  connection error stands on top of its own sources (`carries_toFault`), and the report of the
  operating system stays in the chain unless it was a timeout (`chain_ofIo`).

  A `Build` is a fault as its maker wrote it down: a code and a message, then categories and causes
  in any order and number, where a cause may be a build again. What counts of it in the end is the
  last category and the last cause (`Build.built`).
-/

namespace Duplex

/-! ### Chains -/

/-- An error on top of a source has the texts of the source below its own. -/
theorem Cause.chain_ofText (text : String) (source : Option Cause) :
    (Cause.ofText text source).chain = text :: (source.map Cause.chain).getD [] := by
  cases source <;> rfl

theorem Cause.text_mem_chain (c : Cause) : c.text ∈ c.chain := by
  cases c <;> exact List.mem_cons_self

/-- A fault on top of which another one is built adds one text. -/
theorem Fault.chain_asCause (f : Fault) : f.asCause.chain = f.display :: f.chain :=
  Cause.chain_ofText f.display f.cause

/-! ### Framing errors -/

/-- Two faults are the same to a caller who does not look at what lies beneath. -/
structure Fault.SameIdentity (f g : Fault) : Prop where
  code : f.code = g.code
  message : f.message = g.message
  category : f.category = g.category
  display : f.display = g.display

/-- A framing error is the same fault whether or not it was a connection error in between. -/
theorem FrameError.sameIdentity_frame (e : FrameError) :
    e.toFault.SameIdentity (FromFrame.ofFrame e : ConnectionError).toFault where
  code := rfl
  message := rfl
  category := rfl
  display := rfl

/-! ### Connection errors -/

namespace ConnectionError

/-- What a fault has of the connection error that it was made from. -/
structure Carries (e : ConnectionError) (f : Fault) : Prop where
  code : f.code = e.code
  category : f.category = e.category
  message : f.message = e.message
  /-- The error itself lies beneath the fault, and its own sources lie beneath the error. -/
  chain : f.chain = e.message :: e.chain

theorem carries_toFault (e : ConnectionError) : e.Carries e.toFault where
  code := rfl
  category := rfl
  message := rfl
  chain := Cause.chain_ofText e.message e.source

/-- Of all reports only that of a timeout is dropped, for the operation that timed out. -/
theorem source_ofIo (operation : String) (x : IoError) :
    (ofIo operation x).source = if x.kind = .timedOut then none else some x.asCause := by
  unfold ofIo
  -- the kinds that have a case of their own, and the others
  split <;> simp_all [source]

theorem chain_ofIo (operation : String) (x : IoError) :
    (ofIo operation x).chain = if x.kind = .timedOut then [] else x.asCause.chain := by
  rw [chain, source_ofIo]
  split <;> rfl

/-- What becomes of the report `x` when it is a fault in the end. -/
structure Reports (operation : String) (x : IoError) (f : Fault) : Prop where
  /-- The text of the report is among those beneath the fault, unless it was a timeout. -/
  text : x.kind = .timedOut ∨ x.text ∈ f.chain
  /-- Only the connection error is nearer, and what lies beneath the report is there as well. -/
  chain : f.chain =
    (ofIo operation x).message :: if x.kind = .timedOut then [] else x.asCause.chain

theorem reports_ofIo (operation : String) (x : IoError) :
    Reports operation x (ofIo operation x).toFault := by
  have hchain := (carries_toFault (ofIo operation x)).chain
  rw [chain_ofIo] at hchain
  refine ⟨?_, hchain⟩
  by_cases hkind : x.kind = .timedOut
  · exact .inl hkind
  · right
    rw [hchain, if_neg hkind]
    exact List.mem_cons_of_mem _ x.asCause.text_mem_chain

end ConnectionError

/-! ### Faults that are built -/

/-- A fault as it was built. -/
inductive Build where
  /-- A new fault. -/
  | new (code : FaultCode) (message : String)
  /-- The fault is given a category. -/
  | withCategory (b : Build) (category : Category)
  /-- The fault is given another fault as its cause. -/
  | withFault (b : Build) (cause : Build)
  /-- The fault is given an error of another kind as its cause. -/
  | withCause (b : Build) (cause : Cause)

namespace Build

/-- The fault that was built. -/
def fault : Build → Fault
  | new code message => .ofCode code message
  | withCategory b category => b.fault.withCategory category
  | withFault b cause => b.fault.withCause cause.fault.asCause
  | withCause b cause => b.fault.withCause cause

/-! What was written down: the code and the message at the start, and all categories and causes in
the order in which they were given. -/

/-- The code at the start. -/
def code : Build → FaultCode
  | new code _ => code
  | withCategory b _ | withFault b _ | withCause b _ => b.code

/-- The message at the start. -/
def message : Build → String
  | new _ message => message
  | withCategory b _ | withFault b _ | withCause b _ => b.message

/-- The full text. -/
def display (b : Build) : String := s!"[{b.code.text}] {b.message}"

/-- The categories. -/
def categories : Build → List Category
  | new .. => []
  | withCategory b category => b.categories ++ [category]
  | withFault b _ | withCause b _ => b.categories

/-- The causes, faults and errors of other kinds. -/
def causes : Build → List (Build ⊕ Cause)
  | new .. => []
  | withCategory b _ => b.causes
  | withFault b cause => b.causes ++ [.inl cause]
  | withCause b cause => b.causes ++ [.inr cause]

/-- `b.Beneath below last`: with the last cause counting at each level, the faults `below` lie
    beneath, nearest first, and beneath all of them the error `last`, if it is no fault. -/
inductive Beneath : Build → List Build → Option Cause → Prop where
  /-- No cause was given. -/
  | bare {b : Build} (hcauses : b.causes.getLast? = none) : Beneath b [] none
  /-- The last cause is an error of another kind. -/
  | other {b : Build} {cause : Cause} (hcauses : b.causes.getLast? = some (.inr cause)) :
      Beneath b [] (some cause)
  /-- The last cause is a fault, with more beneath it. -/
  | fault {b cause : Build} {below : List Build} {last : Option Cause}
      (hcauses : b.causes.getLast? = some (.inl cause)) (hbelow : Beneath cause below last) :
      Beneath b (cause :: below) last

/-- Only the causes matter. -/
theorem Beneath.of_causes_eq {b b' : Build} {below : List Build} {last : Option Cause}
    (h : b.Beneath below last) (hcauses : b'.causes = b.causes) : b'.Beneath below last := by
  cases h with
  | bare hlast => exact .bare (hcauses ▸ hlast)
  | other hlast => exact .other (hcauses ▸ hlast)
  | fault hlast hbelow => exact .fault (hcauses ▸ hlast) hbelow

/-- Faults are nested to some depth, and no further. -/
theorem exists_beneath (b : Build) : ∃ below last, b.Beneath below last := by
  induction b with
  | new code message => exact ⟨[], none, .bare rfl⟩
  | withCategory b category ih =>
    obtain ⟨below, last, h⟩ := ih
    exact ⟨below, last, h.of_causes_eq rfl⟩
  | withFault b cause _ ih =>
    obtain ⟨below, last, h⟩ := ih
    exact ⟨cause :: below, last, .fault List.getLast?_concat h⟩
  | withCause b cause _ => exact ⟨[], some cause, .other List.getLast?_concat⟩

/-! What the fault has of it. -/

theorem code_fault (b : Build) : b.fault.code = b.code := by
  induction b with
  | new => rfl
  | withCategory _ _ ih => exact ih
  | withFault _ _ ih _ => exact ih
  | withCause _ _ ih => exact ih

theorem message_fault (b : Build) : b.fault.message = b.message := by
  induction b with
  | new => rfl
  | withCategory _ _ ih => exact ih
  | withFault _ _ ih _ => exact ih
  | withCause _ _ ih => exact ih

theorem display_fault (b : Build) : b.fault.display = b.display := by
  rw [Fault.display, code_fault, message_fault, display]

theorem category_fault (b : Build) : b.fault.category? = b.categories.getLast? := by
  induction b with
  | new => rfl
  | withCategory _ _ _ => exact List.getLast?_concat.symm
  | withFault _ _ ih _ => exact ih
  | withCause _ _ ih => exact ih

theorem cause_fault (b : Build) :
    b.fault.cause = b.causes.getLast?.map (Sum.elim (fun cause => cause.fault.asCause) id) := by
  induction b with
  | new => rfl
  | withCategory _ _ ih => exact ih
  | withFault _ _ _ _ => rw [causes, List.getLast?_concat]; rfl
  | withCause _ _ _ => rw [causes, List.getLast?_concat]; rfl

/-- The chain goes down along the last causes, one text for each. -/
theorem Beneath.chain_fault {b : Build} {below : List Build} {last : Option Cause}
    (h : b.Beneath below last) :
    b.fault.chain = below.map display ++ (last.map Cause.chain).getD [] := by
  induction h with
  | bare hlast => rw [Fault.chain, cause_fault, hlast]; rfl
  | other hlast => rw [Fault.chain, cause_fault, hlast]; rfl
  | @fault b cause below last hlast _ ih =>
    rw [Fault.chain, cause_fault, hlast, List.map_cons, List.cons_append, ← ih, ← display_fault]
    exact cause.fault.chain_asCause

/-- What a fault has of what was written down. -/
structure Built (b : Build) (f : Fault) : Prop where
  code : f.code = b.code
  message : f.message = b.message
  display : f.display = b.display
  /-- The last category counts; without one there is nothing to retry. -/
  category : f.category = b.categories.getLast?.getD .nonRetryable
  /-- Each fault beneath has one text in the chain. -/
  chain : ∃ below last, b.Beneath below last ∧
    f.chain = below.map Build.display ++ (last.map Cause.chain).getD []

theorem built (b : Build) : b.Built b.fault where
  code := code_fault b
  message := message_fault b
  display := display_fault b
  category := by rw [Fault.category, category_fault]
  chain := by
    obtain ⟨below, last, h⟩ := exists_beneath b
    exact ⟨below, last, h, h.chain_fault⟩

end Build

/-- **Errors keep their identity from layer to layer.**

    - A framing error is the same fault directly and by way of a connection error.
    - A connection error becomes a fault with its code, category and text, on top of itself and of
      its own sources.
    - The report of the operating system is in the chain of the fault, unless it was a timeout.
    - However a fault was built, and however deep its causes are nested, its code and message are
      those at the start, its category is the last one, and its chain goes down along the last
      causes. -/
theorem identity_kept :
    (∀ e : FrameError, e.toFault.SameIdentity (FromFrame.ofFrame e : ConnectionError).toFault) ∧
    (∀ e : ConnectionError, e.Carries e.toFault) ∧
    (∀ (operation : String) (x : IoError),
      ConnectionError.Reports operation x (ConnectionError.ofIo operation x).toFault) ∧
    ∀ b : Build, b.Built b.fault := by
  refine ⟨?_, ?_, ?_, ?_⟩
  · exact FrameError.sameIdentity_frame
  · exact ConnectionError.carries_toFault
  · exact ConnectionError.reports_ofIo
  · exact Build.built

/-- The cause and the category that were given first leave no trace, at either level. -/
example :
    let reset : ConnectionError := .remoteClosed (some ⟨.connectionReset, some "boom"⟩)
    let inner := Build.withCause (.withCause (.new .timeout "late") (.plain "first")) reset.asCause
    let outer := Build.withCategory (.withFault (.withFault (.withCategory (.new .io "tcp read")
      .timeout) (.new .io "dropped")) inner) .peerClosed
    outer.fault.category = .peerClosed ∧
    outer.fault.chain =
      ["[spark.socket.timeout] late", "connection closed by remote peer", "boom"] := by
  decide

end Duplex
