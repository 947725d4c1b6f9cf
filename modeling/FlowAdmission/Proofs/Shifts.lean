import FlowAdmission.Proofs.Runs

namespace FlowAdmission

inductive Move
  | act (a : Action)
  | addWorker (n : Key Node) (shared : Flow.Shared) (recording : Bool)
  | addTasks (n : Key Node) (ledger : Key Ledger) (recording : Bool)
  | poll (w : Worker)
  | advance (w : Worker)
  | nextIndex (w : Worker)
  | adjustCounter (w : Worker) (name : String) (delta : Int64)
  | draw (w : Worker)

namespace Flow

def move (f : Flow) : Move → Flow
  | .act a => f.act a
  | .addWorker n shared recording => (f.addWorker n shared recording).2
  | .addTasks n ledger recording => (f.addTasks n ledger recording).2
  | .poll w => (f.poll w).2
  | .advance w => (f.advance w).2
  | .nextIndex w => (f.nextIndex w).2
  | .adjustCounter w name delta => f.adjustCounter w name delta
  | .draw w => (f.draw w.sequence).2

def made (f : Flow) : Move → List Worker
  | .addWorker n shared recording => [(f.addWorker n shared recording).1]
  | .addTasks n ledger recording => (f.addTasks n ledger recording).1
  | _ => []

end Flow

def Move.Fits (f : Flow) (ws : List Worker) : Move → Prop
  | .act _ => True
  | .addWorker n _ _ => n.number < f.names
  | .addTasks n _ _ => n.number < f.names
  | .poll w => w ∈ ws
  | .advance w => w ∈ ws
  | .nextIndex w => w ∈ ws
  | .adjustCounter w _ _ => w ∈ ws
  | .draw w => w ∈ ws

instance {f : Flow} {ws : List Worker} : DecidablePred (Move.Fits f ws)
  | .act _ => inferInstanceAs (Decidable True)
  | .addWorker n _ _ => inferInstanceAs (Decidable (n.number < f.names))
  | .addTasks n _ _ => inferInstanceAs (Decidable (n.number < f.names))
  | .poll w => inferInstanceAs (Decidable (w ∈ ws))
  | .advance w => inferInstanceAs (Decidable (w ∈ ws))
  | .nextIndex w => inferInstanceAs (Decidable (w ∈ ws))
  | .adjustCounter w _ _ => inferInstanceAs (Decidable (w ∈ ws))
  | .draw w => inferInstanceAs (Decidable (w ∈ ws))

/-- A flow, the workers made for it, and the moves that led to it, each with the flow it was made in
and the last one first. A copy of a worker is that worker. -/
inductive Shift : Flow → List Worker → List (Flow × Move) → Prop
  | start {f : Flow} (h : f.IsNew) : Shift f [] []
  | move {f : Flow} {ws : List Worker} {past : List (Flow × Move)} (h : Shift f ws past) {m : Move}
    (hm : m.Fits f ws) : Shift (f.move m) (f.made m ++ ws) ((f, m) :: past)

def Action.made : Action → Nat
  | .addNode _ => 1
  | .addQueue _ => 1
  | _ => 0

namespace Flow

variable {f : Flow} {ws : List Worker} {past : List (Flow × Move)}

theorem shift_foldl (h : Shift f ws past) {ms : List Move}
    (hms : ∀ m ∈ ms, (∃ a, m = .act a) ∨ ∃ w ∈ ws, m = .poll w) :
    ∃ past', Shift (ms.foldl move f) ws past' := by
  induction ms generalizing f past with
  | nil => exact ⟨past, h⟩
  | cons m ms ih =>
    rw [List.forall_mem_cons] at hms
    rcases hms.1 with ⟨a, rfl⟩ | ⟨w, hw, rfl⟩
    · exact ih (h.move (m := .act a) trivial) hms.2
    · exact ih (h.move (m := .poll w) hw) hms.2

def fits (f : Flow) (ws : List Worker) : List Move → Bool
  | [] => true
  | m :: ms => decide (m.Fits f ws) && fits (f.move m) (f.made m ++ ws) ms

def crew (f : Flow) (ws : List Worker) : List Move → List Worker
  | [] => ws
  | m :: ms => crew (f.move m) (f.made m ++ ws) ms

def history (f : Flow) (past : List (Flow × Move)) : List Move → List (Flow × Move)
  | [] => past
  | m :: ms => history (f.move m) ((f, m) :: past) ms

theorem shift_moves (h : Shift f ws past) {ms : List Move} (hms : f.fits ws ms = true) :
    Shift (ms.foldl move f) (f.crew ws ms) (f.history past ms) := by
  induction ms generalizing f ws past with
  | nil => exact h
  | cons m ms ih =>
    rw [fits, Bool.and_eq_true, decide_eq_true_eq] at hms
    exact ih (h.move hms.1) hms.2

theorem act_frame (f : Flow) (a : Action) : (f.act a).names = f.names + a.made ∧
    { f.act a with nodes := f.nodes, queues := f.queues, log := f.log, names := f.names } = f := by
  cases a with
  | addNode s => exact ⟨rfl, rfl⟩
  | rename n name => exact ⟨rfl, rfl⟩
  | setTriggersOnAny n value => exact ⟨rfl, rfl⟩
  | ask n c =>
    rw [act, ask_eq]
    exact ⟨rfl, rfl⟩
  | connect source destination id r q =>
    rw [act, connect_noted]
    exact ⟨rfl, rfl⟩
  | disconnect source destination id =>
    rw [act, disconnect_noted]
    exact ⟨rfl, rfl⟩
  | addQueue q => exact ⟨rfl, rfl⟩
  | setSwitch q full => exact ⟨rfl, rfl⟩
  | enqueue q size times =>
    rw [act, enqueue]
    split <;> exact ⟨rfl, rfl⟩
  | dequeue q size =>
    rw [act, dequeue]
    split <;> exact ⟨rfl, rfl⟩

theorem id_act (f : Flow) (a : Action) {n : Key Node} (hn : n.number < f.names) :
    ((f.act a).nodes n).id = (f.nodes n).id := by
  rcases node_act f a n with ⟨s, rfl, _⟩ | hevolves
  · have hne : n ≠ ⟨f.names⟩ := by
      rintro rfl
      exact Nat.lt_irrefl _ hn
    exact congrArg Node.id (Store.set_other f.nodes (.ofSpec s) hne)
  · exact hevolves.id_eq

end Flow

end FlowAdmission
