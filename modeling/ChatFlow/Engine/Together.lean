import ChatFlow.Engine.Calls

/-!
# Calls at the same time

Calls that are started at the same time take turns: a turn lasts until the call
has to wait for a reply of the outside world.  `Pool.turn` gives a turn to any of
the calls that can go on; `together` gives them turns in the order in which they
became able to go on.

Each call holds its conversation from its first turn to its end, and those that
wait for the conversation are served in the order in which they came.  A call
whose question is never answered keeps its conversation, and the calls behind it
wait for ever.
-/

namespace ChatFlow.Engine

/-- A call that has been started, with the conversation that it needs for itself. -/
structure Started (α : Type) where
  conversation : Option String
  task : EngineCall α

/-- A call that has not ended. -/
structure Underway (α : Type) where
  /-- The place of the call among those that were started with it. -/
  number : Nat
  conversation : Option String
  /-- Whether the call holds its conversation. -/
  holds : Bool
  /-- What is left to do. -/
  left : Task EngineState (Except Failure α)

/-- Calls that were started at the same time, and the state that they share. -/
structure Pool (α : Type) where
  state : EngineState
  asked : List Query
  /-- The calls that can go on, in the order in which they became able to. -/
  ready : List (Underway α)
  /-- The calls that wait for their conversations, in the order in which they came. -/
  waiting : List (Underway α)
  /-- The conversations held by calls. -/
  held : List String
  /-- The values of the calls that have ended. -/
  values : List (Nat × Except Failure α)

namespace Pool

variable {α : Type}

/-- The pool in which all calls can begin. -/
def start (state : EngineState) (asked : List Query) (calls : List (Started α)) : Pool α :=
  { state := state, asked := asked, waiting := [], held := [], values := [],
    ready := calls.zipIdx.map fun c => ⟨c.2, c.1.conversation, false, c.1.task.run⟩ }

/-- Whether a call has to wait for its conversation. -/
def isHeld (p : Pool α) (c : Underway α) : Bool :=
  !c.holds && c.conversation.any fun name => p.held.contains name

/-- The pool after a call has given its conversation back: the first call that waits for it holds it
next. -/
def release (p : Pool α) (conversation : Option String) : Pool α :=
  match conversation with
  | none => p
  | some name =>
    match p.waiting.find? fun c => c.conversation == some name with
    | some c =>
      { p with
        ready := p.ready ++ [{ c with holds := true }]
        waiting := p.waiting.filter fun d => d.number != c.number }
    | none => { p with held := p.held.erase name }

/-- The pool in which a call holds its conversation. -/
def hold (p : Pool α) (c : Underway α) : Pool α :=
  if c.holds then p else { p with held := c.conversation.toList ++ p.held }

/-- The pool after a call that holds its conversation has had a turn. -/
def advance (world : World) (p : Pool α) (c : Underway α) : Pool α :=
  let (state, asked, turn) := c.left.turn world p.state p.asked
  let p := { p with state := state, asked := asked }
  match turn with
  | .ended v => { p with values := p.values ++ [(c.number, v)] }.release c.conversation
  | .left t => { p with ready := p.ready ++ [{ c with holds := true, left := t }] }
  | .stuck _ => p

/-- A turn of the call at a place among those that can go on; a call that needs a held conversation
begins to wait for it. -/
def turn (world : World) (p : Pool α) (place : Nat) : Pool α :=
  match p.ready[place]? with
  | none => p
  | some c =>
    let rest := { p with ready := p.ready.eraseIdx place }
    if p.isHeld c then { rest with waiting := rest.waiting ++ [c] }
    else (rest.hold c).advance world c

/-- At most so many turns, each of the call that has been able to go on for the longest time. -/
def turns (world : World) : Nat → Pool α → Pool α
  | 0, p => p
  | left + 1, p => if p.ready.isEmpty then p else turns world left (p.turn world 0)

/-- The value of a call, none if it has not ended. -/
def value? (p : Pool α) (number : Nat) : Option (Except Failure α) := p.values.lookup number

end Pool

/-- The most questions that executing a node asks of the world. -/
def questionsOfNode : Nat := 8

/-- As many turns as so many calls can take. -/
def turnLimit (service : Service) (calls : Nat) : Nat :=
  2 * calls * (questionsOfNode * (nodeLimit service + 1))

/-- Runs calls that were started at the same time. -/
def together {α : Type} (world : World) (service : Service) (state : EngineState)
    (asked : List Query) (calls : List (Started α)) : Pool α :=
  (Pool.start state asked calls).turns world (turnLimit service calls.length)

end ChatFlow.Engine
