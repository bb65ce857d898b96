-- What an action leaves behind: the calls it made, the lines it logged, the numbers it moved and
-- its visits to the cache, each in order. Traces of actions one after the other are put end to end.
import KeyRoute.Router.Visit

namespace KeyRoute

/-- A contact between a router and its collaborators. `T` are transport clients, and `A` is what
the membership layer gets from operations that it runs on the router. -/
inductive Call (T A : Type) where
  | lookup (key : String)
  | whoAmI
  | subscribe
  | serviceName
  | newClient (service : String) (address : Address)
  | localClient
  | remoteClient (transport : T)
  /-- An operation that ran on the router during a look-up came back with an answer. -/
  | inner (answer : A)
deriving DecidableEq

/-- What became visible of an action. -/
structure Trace (T C A : Type) where
  calls : List (Call T A)
  log : List Notice
  moves : List Move
  visits : List (Visit C)

namespace Trace

variable {T C A : Type}

/-- Nothing happened. -/
def empty : Trace T C A := ⟨[], [], [], []⟩

/-- One trace after the other. -/
def append (a b : Trace T C A) : Trace T C A :=
  ⟨a.calls ++ b.calls, a.log ++ b.log, a.moves ++ b.moves, a.visits ++ b.visits⟩

instance : Append (Trace T C A) := ⟨append⟩

@[simp] theorem calls_empty : (empty : Trace T C A).calls = [] := rfl

@[simp] theorem log_empty : (empty : Trace T C A).log = [] := rfl

@[simp] theorem moves_empty : (empty : Trace T C A).moves = [] := rfl

@[simp] theorem visits_empty : (empty : Trace T C A).visits = [] := rfl

@[simp] theorem calls_append (a b : Trace T C A) : (a ++ b).calls = a.calls ++ b.calls := rfl

@[simp] theorem log_append (a b : Trace T C A) : (a ++ b).log = a.log ++ b.log := rfl

@[simp] theorem moves_append (a b : Trace T C A) : (a ++ b).moves = a.moves ++ b.moves := rfl

@[simp] theorem visits_append (a b : Trace T C A) : (a ++ b).visits = a.visits ++ b.visits := rfl

theorem mk_append (calls calls' : List (Call T A)) (log log' : List Notice)
    (moves moves' : List Move) (visits visits' : List (Visit C)) :
    (⟨calls, log, moves, visits⟩ ++ ⟨calls', log', moves', visits'⟩ : Trace T C A) =
      ⟨calls ++ calls', log ++ log', moves ++ moves', visits ++ visits'⟩ := rfl

theorem ext {a b : Trace T C A} (calls : a.calls = b.calls) (log : a.log = b.log)
    (moves : a.moves = b.moves) (visits : a.visits = b.visits) : a = b := by
  cases a
  cases b
  simp_all

@[simp] theorem empty_append (a : Trace T C A) : empty ++ a = a := rfl

@[simp] theorem append_empty (a : Trace T C A) : a ++ empty = a :=
  ext (List.append_nil _) (List.append_nil _) (List.append_nil _) (List.append_nil _)

theorem append_assoc (a b c : Trace T C A) : a ++ b ++ c = a ++ (b ++ c) :=
  ext (List.append_assoc ..) (List.append_assoc ..) (List.append_assoc ..) (List.append_assoc ..)

end Trace

/-- How an action ended. -/
structure Outcome (S T C A α : Type) where
  answer : α
  state : S
  trace : Trace T C A

/-- An action on states `S`: it gives an answer, may change the state, and leaves a trace. -/
def Act (S T C A α : Type) : Type := S → Outcome S T C A α

namespace Act

variable {S T C A α β γ : Type}

/-- An answer at once. -/
def done (answer : α) : Act S T C A α := fun state => ⟨answer, state, .empty⟩

/-- One action, and another that goes by its answer. -/
def andThen (first : Act S T C A α) (next : α → Act S T C A β) : Act S T C A β := fun state =>
  let a := first state
  let b := next a.answer a.state
  ⟨b.answer, b.state, a.trace ++ b.trace⟩

instance : Monad (Act S T C A) where
  pure := done
  bind := andThen

/-- Writes log lines. -/
def note (notices : List Notice) : Act S T C A Unit := fun state =>
  ⟨(), state, ⟨[], notices, [], []⟩⟩

/-- Moves metrics. -/
def count (moves : List Move) : Act S T C A Unit := fun state =>
  ⟨(), state, ⟨[], [], moves, []⟩⟩

/-- Records a contact. -/
def record (call : Call T A) : Act S T C A Unit := fun state =>
  ⟨(), state, ⟨[call], [], [], []⟩⟩

/-- Records a visit to the cache. -/
def visit (visit : Visit C) : Act S T C A Unit := fun state => ⟨(), state, ⟨[], [], [], [visit]⟩⟩

/-- Looks at the state. -/
def look (view : S → α) : Act S T C A α := fun state => ⟨view state, state, .empty⟩

/-- Changes the state. -/
def change (f : S → S) : Act S T C A Unit := fun state => ⟨(), f state, .empty⟩

/-! ## Laws -/

theorem pure_apply (answer : α) (state : S) :
    (pure answer : Act S T C A α) state = ⟨answer, state, .empty⟩ := rfl

theorem bind_apply (first : Act S T C A α) (next : α → Act S T C A β) (state : S) :
    (first >>= next) state =
      ⟨(next (first state).answer (first state).state).answer,
        (next (first state).answer (first state).state).state,
        (first state).trace ++ (next (first state).answer (first state).state).trace⟩ := rfl

theorem note_apply (notices : List Notice) (state : S) :
    (note notices : Act S T C A Unit) state = ⟨(), state, ⟨[], notices, [], []⟩⟩ := rfl

theorem count_apply (moves : List Move) (state : S) :
    (count moves : Act S T C A Unit) state = ⟨(), state, ⟨[], [], moves, []⟩⟩ := rfl

theorem record_apply (call : Call T A) (state : S) :
    (record call : Act S T C A Unit) state = ⟨(), state, ⟨[call], [], [], []⟩⟩ := rfl

theorem visit_apply (v : Visit C) (state : S) :
    (visit v : Act S T C A Unit) state = ⟨(), state, ⟨[], [], [], [v]⟩⟩ := rfl

theorem look_apply (view : S → α) (state : S) :
    (look view : Act S T C A α) state = ⟨view state, state, .empty⟩ := rfl

theorem change_apply (f : S → S) (state : S) :
    (change f : Act S T C A Unit) state = ⟨(), f state, .empty⟩ := rfl

theorem pure_bind (answer : α) (next : α → Act S T C A β) :
    (pure answer >>= next) = next answer := by
  funext state
  simp [bind_apply, pure_apply]

theorem bind_assoc (first : Act S T C A α) (second : α → Act S T C A β)
    (third : β → Act S T C A γ) :
    (first >>= second >>= third) = (first >>= fun answer => second answer >>= third) := by
  funext state
  simp [bind_apply, Trace.append_assoc]

end Act

end KeyRoute
