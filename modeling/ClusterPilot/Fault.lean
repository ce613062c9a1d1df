/-
What can be wrong with a piece of data, and where. A check of several parts reports the faults of
all of them, in the order of the parts: it succeeds exactly when none of them has a fault.
-/
namespace ClusterPilot

/-- What is wrong with a value. -/
inductive FaultKind where
  /-- The text is no JSON text. -/
  | malformed
  | missing
  | notText
  /-- Bytes that are no UTF-8. -/
  | notUnicode
  | notInteger
  | unreadableInteger
  | hugeInteger
  | fractionalNumber
  | infiniteNumber
  | notBoolean
  | unreadableBoolean
  | notMap
  | notList
  | notRecord
  deriving DecidableEq, Repr

/-- A step into a piece of data. -/
inductive PathStep where
  | key (name : String)
  | index (i : Nat)
  deriving DecidableEq, Repr

/-- A fault and the path to it. -/
structure Fault where
  kind : FaultKind
  path : List PathStep
  deriving DecidableEq, Repr

/-- The fault as seen from one step further out. -/
def Fault.within (step : PathStep) (f : Fault) : Fault := { f with path := step :: f.path }

/-- The outcome of a check: a value, or at least one fault. -/
inductive Checked (α : Type) where
  | ok (value : α)
  | faulty (first : Fault) (rest : List Fault)
  deriving Repr

namespace Checked

variable {α β : Type}

/-- A single fault at the value itself. -/
def fault (kind : FaultKind) : Checked α := .faulty ⟨kind, []⟩ []

/-- The faults of a check, in order. -/
def faults : Checked α → List Fault
  | .ok _ => []
  | .faulty f fs => f :: fs

/-- The value of a check without faults. -/
def toOption : Checked α → Option α
  | .ok a => some a
  | .faulty _ _ => none

/-- The check of a part, as seen from one step further out. -/
def within (step : PathStep) : Checked α → Checked α
  | .ok a => .ok a
  | .faulty f fs => .faulty (f.within step) (fs.map (Fault.within step))

/-- Both checks, one after the other. -/
def both : Checked α → Checked β → Checked (α × β)
  | .ok a, .ok b => .ok (a, b)
  | .ok _, .faulty f fs => .faulty f fs
  | .faulty f fs, r => .faulty f (fs ++ r.faults)

/-- The outcome with its value changed. -/
def map (f : α → β) : Checked α → Checked β
  | .ok a => .ok (f a)
  | .faulty e es => .faulty e es

instance : Functor Checked := ⟨map, fun b => map (fun _ => b)⟩

instance : Applicative Checked where
  pure := .ok
  seq f x := (both f (x ())).map fun p => p.1 p.2

/-- All checks of a list, in order. -/
def all : List (Checked α) → Checked (List α)
  | [] => .ok []
  | c :: cs => (both c (all cs)).map fun p => p.1 :: p.2

@[simp] theorem faults_map (f : α → β) (c : Checked α) : (c.map f).faults = c.faults := by
  cases c <;> rfl

@[simp] theorem faults_both (a : Checked α) (b : Checked β) :
    (both a b).faults = a.faults ++ b.faults := by
  cases a <;> cases b <;> simp [both, faults]

@[simp] theorem faults_all (cs : List (Checked α)) : (all cs).faults = cs.flatMap faults := by
  induction cs with
  | nil => rfl
  | cons c cs ih => simp [all, ih]

@[simp] theorem map_ok (f : α → β) (a : α) : f <$> ok a = ok (f a) := rfl

@[simp] theorem seq_ok (f : α → β) (a : α) : ok f <*> ok a = ok (f a) := rfl

@[simp] theorem within_ok (step : PathStep) (a : α) : (ok a).within step = ok a := rfl

/-- Checks that all succeed give all their values. -/
theorem all_map_ok (as : List α) : all (as.map ok) = ok as := by
  induction as with
  | nil => rfl
  | cons a as ih => rw [List.map_cons, all, ih]; rfl

/-- A check succeeds exactly when it has no faults. -/
theorem faults_eq_nil_iff (c : Checked α) : c.faults = [] ↔ ∃ a, c = .ok a := by
  cases c <;> simp [faults]

end Checked

end ClusterPilot
