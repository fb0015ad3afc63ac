import Narrative.Session.Story

/-!
Triggers that work in place. A session can be kept in one place and changed step by step:
variables are reset, containers opened and left, checkpoints made and nodes moved past, one
after another. A fault stops such work half way. What would have to be put back then is put
aside beforehand: the route and the present variables. What is shown and the declared
variables are never put aside.
-/

namespace Narrative

/-- Work on a session in place. A fault leaves the session as far as it was changed. -/
abbrev Work := EStateM Fault Session

/-- Where a node leads a reader who comes to it. -/
inductive Exit where
  | next (n : Node)
  | rest (position : Position)
deriving DecidableEq

namespace Work

/-- What is put aside before a move, and how it is put back. -/
instance : EStateM.Backtrackable (Route × Scope) Session where
  save s := (s.progress.route, s.progress.store.current)
  restore s saved :=
    { s with progress := { store := s.progress.store.restore saved.2, route := saved.1 } }

def ofOutcome {α : Type} : Except Fault α → Work α
  | .ok a => pure a
  | .error fault => throw fault

def changeRoute (change : Route → Route) : Work Unit :=
  modify fun s => { s with progress := { s.progress with route := change s.progress.route } }

def changeStore (change : Store → Store) : Work Unit :=
  modify fun s => { s with progress := { s.progress with store := change s.progress.store } }

/-- Make the assignments of a node's expression, after all of it has been read. -/
def perform (n : Node) : Work Unit := do
  let assignments ← ofOutcome (Fault.ofScript n.id (Script.assignments n.expression))
  changeStore fun store => store.assign assignments

/-- Make a checkpoint for a node that is about to be left. -/
def mark (n : Node) (text : String) (isChoice : Bool) (skipped : Option Node) : Work Unit := do
  let { store, route } := (← get).progress
  let checkpoint : Checkpoint :=
    { node := n, text, snapshot := store.current, depth := route.history.length,
      containers := route.containers, isChoice, skipped }
  changeRoute fun route => { route with checkpoints := checkpoint :: route.checkpoints }

def pass (n : Node) : Work Unit :=
  changeRoute fun route => route.pass n

def standAt (position : Position) : Work Unit :=
  changeRoute fun route => route.standAt position

def ownEdges (g : Graph) (n : Node) : Work Exit :=
  match n.edges with
  | [] => return .rest .ended
  | [edge] => return .next (← ofOutcome (g.resolve n edge))
  | _ => return .rest (.offering n)

/-- What happens to a reader who comes to a node. An instruction is performed, and a
container is opened or left, before it is known where the reader goes. -/
def hop (g : Graph) (n : Node) : Work Exit := do
  match g.kindOf n with
  | .instruction =>
    perform n
    return .rest (.displaying n)
  | .dialogue => return .rest (.displaying n)
  | .hub => return .rest (.offering n)
  | .jump => return .next (← ofOutcome (g.jumpTarget n))
  | .condition => return .next (← ofOutcome (g.branchTarget (← get).progress.store n))
  | .container =>
    if (← get).progress.route.isOpen n then
      changeRoute Route.leaveContainer
      ownEdges g n
    else
      match g.firstChild? n with
      | some child =>
        changeRoute fun route => route.enterContainer n
        return .next child
      | none => ownEdges g n
  | .unknown typeName => throw (.unknownNodeType n.id typeName)

/-- Hop on until the reader comes to rest, within the hops that are left of the budget. -/
def enterWithin (g : Graph) (budget : Nat) : Nat → Node → Work Unit
  | 0, n => do
    match ← hop g n with
    | .rest position => standAt position
    | .next _ => throw (.stepBudgetExceeded n.id budget)
  | left + 1, n => do
    match ← hop g n with
    | .rest position => standAt position
    | .next next => enterWithin g budget left next

def enter (story : Story) (n : Node) : Work Unit :=
  enterWithin story.graph story.settings.maxAutoSteps story.settings.maxAutoSteps n

def reenter (story : Story) (n : Node) : Work Unit := do
  changeStore Store.reset
  changeRoute fun _ => {}
  changeRoute fun route => { route with containers := story.graph.enclosingContainers n }
  enter story n

def advance (story : Story) (n : Node) : Work Unit := do
  let kind := story.graph.kindOf n
  if kind = .instruction ∧ n.edgeCount ≠ 1 then throw (.edgeCount n.id 1 n.edgeCount)
  else
    match n.edges with
    | [] =>
      mark n (n.summary kind) false none
      pass n
      standAt .ended
    | [edge] =>
      let next ← ofOutcome (story.graph.resolve n edge)
      mark n (n.summary kind) false none
      pass n
      enter story next
    | _ => standAt (.offering n)

def choose (story : Story) (offering target : Node) (text : String) : Work Unit := do
  let kind := story.graph.kindOf target
  match kind.isDisplayed, target.edges with
  | true, [edge] =>
    let next ← ofOutcome (story.graph.resolve target edge)
    mark offering text true (some target)
    pass offering
    if kind = .instruction then perform target
    pass target
    enter story next
  | _, _ =>
    mark offering text true none
    pass offering
    enter story target

def rewind (story : Story) : Work Unit := do
  match (← get).progress.route.checkpoints with
  | [] => return
  | checkpoint :: checkpoints =>
    changeRoute fun route => { route with checkpoints }
    changeStore fun store => store.restore checkpoint.snapshot
    changeRoute fun route => { route with history := route.history.take checkpoint.depth }
    changeRoute fun route => { route with containers := checkpoint.containers }
    standAt <|
      if story.graph.offersOnReturn checkpoint.node then .offering checkpoint.node
      else .displaying checkpoint.node

/-- A move and what is shown after it. At a fault of either, what was put aside before the
move is put back. -/
def transition (story : Story) (move : Work Unit) : Work Display :=
  tryCatch
    (do
      move
      let display ← ofOutcome (story.graph.render (← get).progress)
      modify fun s => { s with display }
      return display)
    throw

/-- What a trigger does, and the display that is its answer. A trigger that makes no sense
where the reader stands is answered with what is shown already. -/
def respond (story : Story) : Trigger → Work Display
  | .advance => do
    match (← get).progress.route.position with
    | .displaying n => transition story (advance story n)
    | _ => return (← get).display
  | .select index => do
    match (← get).display with
    | .choices offer =>
      match offer.choices[index]? with
      | some choice =>
        if choice.enabled then
          transition story (choose story offer.node choice.target choice.text)
        else return .choices offer
      | none => return .choices offer
    | display => return display
  | .back => do
    match (← get).progress.route.checkpoints with
    | [] => return (← get).display
    | _ => transition story (rewind story)
  | .jump id =>
    match story.graph.node? id with
    | some n => transition story (reenter story n)
    | none => return (← get).display
  | .restart => transition story (reenter story story.start)

end Work

namespace Story

/-- A trigger that works on a session in place: its answer, and what the session is then. -/
def transact (story : Story) (t : Trigger) : StateM Session (Except Fault Display) := fun s =>
  match (Work.respond story t).run s with
  | .ok display after => (.ok display, after)
  | .error fault after => (.error fault, after)

/-- Several triggers that work on a session in place, one after another. -/
def operate (story : Story) (triggers : List Trigger) :
    StateM Session (List (Except Fault Display)) :=
  triggers.mapM story.transact

end Story

end Narrative
