import FlowAdmission.Proofs.Shifts

namespace FlowAdmission

inductive Query
  | relationships (n : Key Node)
  | edgesOf (n : Key Node) (r : Relationship)
  | outgoing (n : Key Node)
  | incoming (n : Key Node)
  | isAvailable (n : Key Node) (r : Relationship)
  | satisfied (n : Key Node) (required : Nat)
  | anyAvailable (n : Key Node)
  | anyFull (n : Key Node)
  | isRestricted (w : Worker)
  | mayRun (w : Worker) (required : Nat)

inductive Step
  | move (m : Move)
  | look (q : Query)

inductive Answer
  | done
  | name (number : Nat)
  | asked (a : Node.Answer)
  | linked (result : Except Refusal Edge)
  | taken (edge : Option Edge)
  | workers (ws : List Worker)
  | relationships (rs : List Relationship)
  | edges (es : List Edge)
  | decided (b : Bool)
  | index (i : Nat)
  | word (n : UInt64)

namespace Flow

def answerAct (f : Flow) : Action → Answer
  | .addNode s => .name (f.addNode s).1.number
  | .rename _ _ => .done
  | .setTriggersOnAny _ _ => .done
  | .ask n c => .asked ((f.nodes n).call c).1
  | .connect source destination id r q => .linked (f.connect source destination id r q).1
  | .disconnect source destination id => .taken (f.disconnect source destination id).1
  | .addQueue q => .name (f.addQueue q).1.number
  | .setSwitch _ _ => .done
  | .enqueue _ _ _ => .done
  | .dequeue q size => .decided (f.dequeue q size).1

def answerMove (f : Flow) : Move → Answer
  | .act a => f.answerAct a
  | .addWorker n shared recording => .workers [(f.addWorker n shared recording).1]
  | .addTasks n ledger recording => .workers (f.addTasks n ledger recording).1
  | .poll w => .edges (f.poll w).1
  | .advance w => .word (f.advance w).1
  | .nextIndex w => .index (f.nextIndex w).1
  | .adjustCounter _ _ _ => .done
  | .draw w => .word (f.draw w.sequence).1

def see (f : Flow) : Query → Answer
  | .relationships n => .relationships (f.nodes n).relationships
  | .edgesOf n r => .edges ((f.nodes n).edgesOf r)
  | .outgoing n => .edges (f.nodes n).outgoing
  | .incoming n => .edges (f.nodes n).incoming
  | .isAvailable n r => .decided (((f.nodes n).edgesOf r).all (Edge.isAvailable f.isFull))
  | .satisfied n required => .decided ((f.nodes n).satisfied f.isFull required).answer
  | .anyAvailable n => .decided ((f.nodes n).anyAvailable f.isFull).answer
  | .anyFull n => .decided ((f.nodes n).anyFull f.isFull)
  | .isRestricted w => .decided (f.isRestricted w)
  | .mayRun w required => .decided (f.mayRun w required)

def answer (f : Flow) : Step → Answer
  | .move m => f.answerMove m
  | .look q => f.see q

def step (f : Flow) : Step → Flow
  | .move m => f.move m
  | .look _ => f

def answers (f : Flow) : List Step → List Answer
  | [] => []
  | s :: ss => f.answer s :: (f.step s).answers ss

def after (f : Flow) (ss : List Step) : Flow :=
  ss.foldl step f

end Flow

end FlowAdmission
