import ModelForge.Batch
/-!
The items of a batch side by side. The work on each is a task that goes on in steps; the steps of
different tasks come in any order, and so do the ends of the tasks. `Batch.run` is one of the orders:
item after item.
-/

namespace ModelForge.Batch

/-- What comes next for an item, with what is known by then. -/
inductive Stage
  | read
  | validate (document : Document)
  | emit (job : Job)
  | check (job : Job) (ls : List String)
  | write (job : Job) (ls : List String)
  deriving DecidableEq, Repr

/-- One step of the work on an item, to the next stage or to the outcome. -/
def Stage.next (p : Pipeline) (task : Task) (input : Path) : Stage → Action (Stage ⊕ Outcome)
  | .read =>
    match task with
    | .validate => do
      match Document.read (← get).files input with
      | .ok d => return .inl (.validate d)
      | .error e => return .inr (.failed (.ofDocument e))
    | .generate _ _ => do return .inl (.validate (← Pipeline.readDocument input))
  | .validate d =>
    match task with
    | .validate => return .inr (.validated (p.grammar.validateDocument d))
    | .generate l directory => do
      p.requireValid d
      return .inl (.emit (← .ofExcept (Job.of d l directory)))
  | .emit job => do return .inl (.check job (← job.emit p.emitter))
  | .check job ls => do
    job.checkDirectory
    return .inl (.write job ls)
  | .write job ls => do return .inr (.generated (← job.write ls))

/-- A task of the batch. -/
inductive Member
  | running (index : Nat) (input : Path) (stage : Stage)
  | returned (index : Nat) (outcome : Outcome)
  /-- The task broke off, and which item it was for is lost with it. -/
  | panicked
  deriving DecidableEq, Repr

namespace Member

/-- The task after a step. -/
def after (index : Nat) (input : Path) : Except Halt (Stage ⊕ Outcome) → Member
  | .ok (.inl stage) => running index input stage
  | .ok (.inr outcome) => returned index outcome
  | .error (.error e) => returned index (.failed (.ofError e))
  | .error .panic => panicked

def index? : Member → Option Nat
  | running index _ _ => some index
  | returned index _ => some index
  | panicked => none

end Member

/-- A batch on its way: the world, the tasks that have not been waited for, and a slot for the outcome
of each item. -/
structure Progress where
  world : World
  tasks : List Member
  slots : List (Option Outcome)
  deriving DecidableEq, Repr

namespace Progress

def start (w : World) (inputs : List Path) : Progress where
  world := w
  tasks := inputs.zipIdx.map fun (input, index) => .running index input .read
  slots := inputs.map fun _ => none

/-- The items in the order of discovery. An empty slot is that of a task that broke off. -/
def items (s : Progress) (inputs : List Path) : List Item :=
  inputs.zipWith (fun input slot => ⟨input, slot.getD (.failed .ofPanic)⟩) s.slots

end Progress

/-- Some task takes a step, or one that has come to its end is waited for. -/
inductive Step (p : Pipeline) (task : Task) : Progress → Progress → Prop
  | work {w : World} {before behind : List Member} {slots : List (Option Outcome)} {index : Nat}
      {input : Path} {stage : Stage} {result : Except Halt (Stage ⊕ Outcome)} {w' : World}
      (next : (stage.next p task input).runIn w = (result, w')) :
      Step p task ⟨w, before ++ .running index input stage :: behind, slots⟩
        ⟨w', before ++ .after index input result :: behind, slots⟩
  | join {w : World} {before behind : List Member} {slots : List (Option Outcome)} {index : Nat}
      {outcome : Outcome} :
      Step p task ⟨w, before ++ .returned index outcome :: behind, slots⟩
        ⟨w, before ++ behind, slots.set index (some outcome)⟩
  | joinPanicked {w : World} {before behind : List Member} {slots : List (Option Outcome)} :
      Step p task ⟨w, before ++ .panicked :: behind, slots⟩ ⟨w, before ++ behind, slots⟩

inductive Steps (p : Pipeline) (task : Task) : Progress → Progress → Prop
  | refl {s : Progress} : Steps p task s s
  | step {s₁ s₂ s₃ : Progress} : Step p task s₁ s₂ → Steps p task s₂ s₃ → Steps p task s₁ s₃

/-- What a batch over an input can come to: all tasks have been waited for. -/
inductive Ends (p : Pipeline) (task : Task) (w : World) (input : Path) : Report → World → Prop
  | intro {inputs : List Path} {s : Progress} (discovered : Discovery.inputs w.files input = .ok inputs)
      (steps : Steps p task (.start w inputs) s) (done : s.tasks = []) :
      Ends p task w input (.ofItems input (s.items inputs)) s.world

end ModelForge.Batch
