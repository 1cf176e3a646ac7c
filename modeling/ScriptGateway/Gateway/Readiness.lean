import ScriptGateway.Command.Table
import ScriptGateway.Schema.Table

/-!
# Readiness

A dictionary is loaded once, while requests may already be coming in. The barrier holds them back
until the load has ended, and then lets every one of them see the same outcome. What happens to a
barrier is a step; the tasks that a step finishes are listed in the order in which they end.
-/

set_option autoImplicit false

namespace ScriptGateway

/-- Both tables, empty or filled. -/
structure Registries where
  classes : ClassRegistry
  commands : CommandRegistry
  deriving Repr

namespace Registries

def empty : Registries := ⟨.empty, .empty⟩

/-- Fills the class table and then the command table. What is filled before a fault stays. -/
def load (r : Registries) (d : Dictionary) : Registries × Option Fault :=
  match r.classes.load d.classes d.enumerations with
  | .error f => (r, some f)
  | .ok classes =>
    match r.commands.load d.commands d.classNames with
    | .error f => (⟨classes, r.commands⟩, some f)
    | .ok commands => (⟨classes, commands⟩, none)

/-- Takes over what a loader delivered. -/
def receive (r : Registries) : Except Fault Dictionary → Registries × Option Fault
  | .error f => (r, some f)
  | .ok d => r.load d

end Registries

/-- Tasks are told apart by their names. -/
abbrev TaskId := String

/-- A task that has ended, with the fault it raised, and the tables as they were then. -/
structure Finished where
  task : TaskId
  fault : Option Fault
  registries : Registries
  deriving Repr

/-- How far the load has come. -/
inductive Phase
  /-- Nobody has asked for a load. -/
  | idle
  /-- The loader works for this task. -/
  | loading (task : TaskId)
  /-- The load has ended, with this cause if it failed. -/
  | ended (cause : Option Fault)
  deriving Repr

structure Barrier where
  registries : Registries
  phase : Phase
  /-- The tasks held back, in the order of their arrival. -/
  waiting : List TaskId
  deriving Repr

/-- What can happen to a barrier. -/
inductive Event
  /-- A task asks to be held back until the load has ended. -/
  | wait (task : TaskId)
  /-- A task asks for a load. -/
  | populate (task : TaskId)
  /-- The loader that works for a task comes back. -/
  | delivered (task : TaskId) (d : Except Fault Dictionary)
  /-- The task that waits for its loader is cancelled. -/
  | cancelled (task : TaskId)

namespace Barrier

def new : Barrier := ⟨.empty, .idle, []⟩

def isReady (b : Barrier) : Bool :=
  match b.phase with
  | .ended none => true
  | _ => false

/-- How a wait ends, once the load has. -/
def waitFault (cause : Option Fault) : Option Fault := cause.map .loadFailed

/-- Ends the load: the task that asked for it ends first, then all that were held back. -/
def finish (b : Barrier) (own : List Finished) (cause : Option Fault) : Barrier × List Finished :=
  (⟨b.registries, .ended cause, []⟩,
    own ++ b.waiting.map fun w => ⟨w, waitFault cause, b.registries⟩)

/-- One step of the barrier. A cancelled load has ended without a recorded cause. -/
def step (b : Barrier) : Event → Barrier × List Finished
  | .wait w =>
    match b.phase with
    | .ended cause => (b, [⟨w, waitFault cause, b.registries⟩])
    | _ => ({ b with waiting := b.waiting ++ [w] }, [])
  | .populate p =>
    match b.phase with
    | .idle => ({ b with phase := .loading p }, [])
    | _ => (b, [⟨p, some (.alreadyLoaded .barrier), b.registries⟩])
  | .delivered p d =>
    match b.phase with
    | .loading q =>
      if p = q then
        let r := b.registries.receive d
        { b with registries := r.1 }.finish [⟨p, waitFault r.2, r.1⟩] r.2
      else (b, [])
    | _ => (b, [])
  | .cancelled p =>
    match b.phase with
    | .loading q => if p = q then b.finish [] none else (b, [])
    | _ => (b, [])

/-- The barrier after a row of steps. -/
def run (b : Barrier) (es : List Event) : Barrier := es.foldl (fun b e => (b.step e).1) b

end Barrier

end ScriptGateway
