import Duplex.Disposal.Callers

/-! # Programs with disposals

  A program that disposes of one resource after another. Its callers are tasks with names;
  a teardown may be made to wait for a gate, which all teardowns of the program share. After
  each step everybody runs until nobody can go on.
-/

namespace Duplex.Disposal

/-- A task of a program: the resource it is about, and its number among that one's callers. -/
structure TaskRef where
  site : Nat
  caller : Nat
  deriving DecidableEq, Repr

/-- A program with disposals. -/
structure Scenario where
  /-- One system for each resource, in the order in which the program came to them. -/
  sites : List System := [{}]
  /-- The latest task of each name, in the order of their creation. -/
  tasks : List (String × TaskRef) := []
  /-- The last result under each name. It stays there until another task of the name has one. -/
  results : List (String × Progress) := []
  /-- The tasks whose teardown waits for the gate. -/
  gated : List TaskRef := []
  /-- Whether the gate is open. -/
  gateOpen : Bool := false
  deriving DecidableEq, Repr

/-- One step of a program. -/
inductive Step where
  /-- Spawns a task that disposes of the current resource. -/
  | start (name : String) (teardown : Ending) (gated : Bool)
  /-- Spawns a task that waits for the disposal of the current resource. -/
  | wait (name : String)
  /-- Opens the gate. -/
  | openGate
  /-- Fires the disposal token of the current resource. -/
  | fireToken
  /-- Drops a task that still runs. -/
  | abort (name : String)
  /-- Goes on to a new resource. -/
  | next
  /-- Does nothing. -/
  | look
  deriving DecidableEq, Repr

namespace Scenario

/-- The number of the current resource. -/
def currentSite (s : Scenario) : Nat := s.sites.length - 1

/-- The current resource. -/
def current (s : Scenario) : System := s.sites.getD s.currentSite {}

/-- The program with a change of one resource. -/
def modifySite (s : Scenario) (site : Nat) (f : System → System) : Scenario :=
  { s with sites := s.sites.modify site f }

/-- Whether the teardown of a resource may end. -/
def mayFinish (s : Scenario) (site : Nat) (sys : System) : Bool :=
  s.gateOpen || sys.made.all fun (caller, _) => decide (⟨site, caller⟩ ∉ s.gated)

/-- How far a task has come. -/
def progress (s : Scenario) (ref : TaskRef) : Progress :=
  (((s.sites[ref.site]?).bind (·.callers[ref.caller]?)).map Caller.progress).getD .created

/-- Notes the result of a task, if it has one. -/
def noteResult (s : Scenario) (name : String) (ref : TaskRef) : Scenario :=
  match s.progress ref with
  | .created | .waiting => s
  | result => { s with results := s.results.filter (·.1 ≠ name) ++ [(name, result)] }

/-- Lets everybody run until nobody can go on, and notes the results. -/
def settle (s : Scenario) : Scenario :=
  let sites := s.sites.mapIdx fun site (sys : System) => sys.settle (s.mayFinish site)
  let s : Scenario := { s with sites }
  s.tasks.foldl (fun s (name, ref) => s.noteResult name ref) s

/-- Spawns a task. One of the same name that still runs goes on unnamed. -/
def spawn (s : Scenario) (name : String) (purpose : Purpose) (gated : Bool) : Scenario :=
  let ref : TaskRef := ⟨s.currentSite, s.current.callers.length⟩
  let s := s.modifySite ref.site (·.advance (.create purpose))
  { s with
    tasks := s.tasks.filter (·.1 ≠ name) ++ [(name, ref)]
    gated := if gated then ref :: s.gated else s.gated }

/-- Takes a step. The answer is whether a gate or a token was not open or fired before. -/
def step (s : Scenario) (st : Step) : Option Bool × Scenario :=
  match st with
  | .start name teardown gated => (none, (s.spawn name (.dispose teardown) gated).settle)
  | .wait name => (none, (s.spawn name .wait false).settle)
  | .openGate => (some !s.gateOpen, { s with gateOpen := true }.settle)
  | .fireToken =>
    (some s.current.coordinator.fireToken.1,
      (s.modifySite s.currentSite (·.advance .fireToken)).settle)
  | .abort name =>
    match s.tasks.lookup name with
    | none => (none, s)
    | some ref => (none, (s.modifySite ref.site (·.advance (.drop ref.caller))).settle)
  | .next => (none, { s with sites := s.sites ++ [{}] })
  | .look => (none, s)

/-- How many teardowns were made. -/
def runs (s : Scenario) : Nat := (s.sites.flatMap (·.made)).length

/-- Whether the token had fired when the latest teardown was made. -/
def tokenSeen (s : Scenario) : Option Bool := ((s.sites.flatMap (·.made)).getLast?).map (·.2)

end Scenario

end Duplex.Disposal
