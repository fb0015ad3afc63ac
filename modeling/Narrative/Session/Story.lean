import Narrative.Script.Assignment
import Narrative.Session.Settle
import Narrative.Settings
import Narrative.Graph.Search

/-!
Stories and sessions. A story is a document made ready to be read: indexed, with
its settings and its start. A session is one reader in it, and answers five
triggers. Each trigger either takes effect as a whole or, at a fault, not at all;
one that makes no sense where the reader stands has no effect and is no fault.
-/

namespace Narrative

/-- A document made ready to be read. -/
structure Story where
  graph : Graph
  settings : Settings
  start : Node

structure Progress where
  store : Store
  route : Route
deriving DecidableEq

/-- One reader in a story, and what the reader was shown last. -/
structure Session where
  progress : Progress
  display : Display
deriving DecidableEq

inductive Trigger where
  /-- Go on from the shown node. -/
  | advance
  /-- Take one of the choices on offer. -/
  | select (index : Nat)
  /-- Go back to the newest checkpoint. -/
  | back
  /-- Forget everything and come to a node. -/
  | jump (id : String)
  /-- Forget everything and come to the start. -/
  | restart
deriving DecidableEq

namespace Progress

/-- The progress of a reader who leaves a node: a checkpoint is made, and the node
is moved past. -/
def leave (p : Progress) (n : Node) (text : String) (isChoice : Bool) (skipped : Option Node) :
    Progress :=
  let checkpoint : Checkpoint :=
    { node := n, text, snapshot := p.store.current, depth := p.route.history.length,
      containers := p.route.containers, isChoice, skipped }
  { p with route := { p.route.pass n with checkpoints := checkpoint :: p.route.checkpoints } }

/-- The progress with the assignments of a node's expression made. All of it is
read first, so that a faulty line assigns nothing. -/
def perform (p : Progress) (n : Node) : Except Fault Progress :=
  (Fault.ofScript n.id (Script.assignments n.expression)).map fun assignments =>
    { p with store := p.store.assign assignments }

end Progress

namespace Graph

def render (g : Graph) (p : Progress) : Except Fault Display :=
  match p.route.position with
  | .ended => .ok .ended
  | .displaying n =>
    let kind := g.kindOf n
    .ok <| .content
      { node := n, title := n.displayName, body := n.body kind, speaker := n.speaker,
        stageDirections := n.stageDirections, color := n.color,
        hasNext := if kind = .instruction then n.edgeCount = 1 else 0 < n.edgeCount }
  | .offering n =>
    (g.choices p.store n).map fun choices =>
      .choices { node := n, title := n.displayName, body := n.body (g.kindOf n), choices }

/-- Whether a node is gone back to as an offer. -/
def offersOnReturn (g : Graph) (n : Node) : Bool :=
  g.kindOf n = .hub || 1 < n.edgeCount

/-- The progress of a reader who goes back to the newest checkpoint. -/
def rewind (g : Graph) (p : Progress) : Progress :=
  match p.route.checkpoints with
  | [] => p
  | checkpoint :: checkpoints =>
    { store := p.store.restore checkpoint.snapshot
      route :=
        { position :=
            if g.offersOnReturn checkpoint.node then .offering checkpoint.node
            else .displaying checkpoint.node
          history := p.route.history.take checkpoint.depth
          containers := checkpoint.containers
          checkpoints } }

end Graph

namespace Story

def ofDocument (document : Document) (settings : Settings) : Except Fault Story := do
  let graph ← Graph.ofDocument document
  let start ← graph.findStart settings.startMarker settings.strictStart
  return { graph, settings, start }

/-- The progress of a reader who comes to a node. An instruction at which the
reader comes to rest is performed. -/
def enter (story : Story) (p : Progress) (n : Node) : Except Fault Progress := do
  let (position, containers) ←
    story.graph.settle p.store story.settings.maxAutoSteps p.route.containers n
  let p := { p with route := { p.route with position, containers } }
  match position with
  | .displaying shown =>
    if story.graph.kindOf shown = .instruction then p.perform shown else .ok p
  | _ => .ok p

/-- The progress of a reader who forgets everything and comes to a node. The
containers around it are open, so that a path back to one of them leaves it. -/
def reenter (story : Story) (p : Progress) (n : Node) : Except Fault Progress :=
  story.enter
    { store := p.store.reset, route := { containers := story.graph.enclosingContainers n } } n

/-- The progress of a reader who goes on from a shown node. -/
def advanceFrom (story : Story) (p : Progress) (n : Node) : Except Fault Progress :=
  let kind := story.graph.kindOf n
  if kind = .instruction ∧ n.edgeCount ≠ 1 then .error (.edgeCount n.id 1 n.edgeCount)
  else
    match n.edges with
    | [] =>
      let left := p.leave n (n.summary kind) false none
      .ok { left with route := left.route.standAt .ended }
    | [edge] => do
      let next ← story.graph.resolve n edge
      story.enter (p.leave n (n.summary kind) false none) next
    | _ => .ok { p with route := p.route.standAt (.offering n) }

/-- The progress of a reader who takes a choice. A shown node with a single edge
is passed by: it is performed and moved past, but the reader comes to what is
behind it. -/
def choose (story : Story) (p : Progress) (offering target : Node) (text : String) :
    Except Fault Progress :=
  let kind := story.graph.kindOf target
  match kind.isDisplayed, target.edges with
  | true, [edge] => do
    let next ← story.graph.resolve target edge
    let left := p.leave offering text true (some target)
    let performed ← if kind = .instruction then left.perform target else .ok left
    story.enter { performed with route := performed.route.pass target } next
  | _, _ => story.enter (p.leave offering text true none) target

def shown (story : Story) (p : Progress) : Except Fault Session :=
  (story.graph.render p).map fun display => { progress := p, display }

def opening (story : Story) : Except Fault Session := do
  let store := Store.ofNamespaces story.graph.document.namespaces
  story.shown (← story.reenter { store, route := {} } story.start)

def step (story : Story) (s : Session) : Trigger → Except Fault Session
  | .advance =>
    match s.progress.route.position with
    | .displaying n => do story.shown (← story.advanceFrom s.progress n)
    | _ => .ok s
  | .select index =>
    match s.display with
    | .choices offer =>
      match offer.choices[index]? with
      | some choice =>
        if choice.enabled then do
          story.shown (← story.choose s.progress offer.node choice.target choice.text)
        else .ok s
      | none => .ok s
    | _ => .ok s
  | .back =>
    match s.progress.route.checkpoints with
    | [] => .ok s
    | _ => story.shown (story.graph.rewind s.progress)
  | .jump id =>
    match story.graph.node? id with
    | some n => do story.shown (← story.reenter s.progress n)
    | none => .ok s
  | .restart => do story.shown (← story.reenter s.progress story.start)

/-- The answer to a trigger and the session after it: what is shown, or the fault
that has left the session as it was. -/
def fire (story : Story) (s : Session) (t : Trigger) : Except Fault Display × Session :=
  match story.step s t with
  | .ok after => (.ok after.display, after)
  | .error fault => (.error fault, s)

/-- The answers to several triggers and the session after them. -/
def run (story : Story) (s : Session) : List Trigger → List (Except Fault Display) × Session
  | [] => ([], s)
  | t :: triggers =>
    let (answer, after) := story.fire s t
    let (answers, last) := story.run after triggers
    (answer :: answers, last)

def choicesFor (story : Story) (s : Session) (n : Node) : Except Fault (List Choice) :=
  story.graph.choices s.progress.store n

/-- A fault leaves the session as it was. -/
theorem fire_of_error {story : Story} {s : Session} {t : Trigger} {fault : Fault}
    (h : story.step s t = .error fault) : story.fire s t = (.error fault, s) := by
  simp [fire, h]

end Story

end Narrative
