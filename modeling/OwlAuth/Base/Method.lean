import OwlAuth.Base.Result

/-!
# Methods that write in place

A method works on one state, may fail at any point, and what it wrote before it failed stays written.
Whether a failure leaves the state alone depends on where the writes stand among the checks.

* `Method σ ε α`  reads and writes a state of type `σ`, and may fail with an `ε`;
* `Method.exec`  the answer, and the state the method leaves;
* `Settles m s b`  from `s` the method does what the pure body `b` says: it leaves the state of `b`,
    or, if `b` fails, the state `s` it found.
-/

abbrev Method (σ ε α : Type) : Type := ExceptT ε (StateM σ) α

namespace Method

section
variable {σ ε α β : Type}

def exec (m : Method σ ε α) (s : σ) : Except ε α × σ := StateT.run (ExceptT.run m) s

/-- a computation that touches no state -/
def check (x : Except ε α) : Method σ ε α := ExceptT.mk (pure x)

theorem exec_bind (m : Method σ ε α) (f : α → Method σ ε β) (s : σ) :
    exec (m >>= f) s =
      match exec m s with
      | (.ok a, s') => exec (f a) s'
      | (.error e, s') => (.error e, s') := by
  show (ExceptT.bindCont f (m s).1) (m s).2 = match m s with
    | (.ok a, s') => exec (f a) s'
    | (.error e, s') => (.error e, s')
  rcases m s with ⟨_ | _, _⟩ <;> rfl

variable {s : σ}

theorem exec_bind_ok {m} {f : α → Method σ ε β} {s' : σ} {a : α}
    (h : exec m s = (.ok a, s')) : exec (m >>= f) s = exec (f a) s' := by
  rw [exec_bind, h]

theorem exec_bind_error {m} {f : α → Method σ ε β} {s' : σ} {e : ε}
    (h : exec m s = (.error e, s')) : exec (m >>= f) s = (.error e, s') := by
  rw [exec_bind, h]

/-- the answer of a pure body and the state it leaves -/
def outcome (s : σ) : Except ε (σ × α) → Except ε α × σ
  | .ok (s', a) => (.ok a, s')
  | .error e => (.error e, s)

/-- from `s` the method does what the body says -/
def Settles (m : Method σ ε α) (s : σ) (body : Except ε (σ × α)) : Prop := exec m s = outcome s body

variable {body : Except ε (σ × α)}

theorem Settles.read {f : σ → Method σ ε α} (h : Settles (f s) s body) :
    Settles (get >>= f) s body :=
  (exec_bind_ok (m := (get : Method σ ε σ)) rfl).trans h

theorem Settles.checked {x} {f : β → Method σ ε α} {body : β → Except ε (σ × α)}
    (h : ∀ b, x = .ok b → Settles (f b) s (body b)) : Settles (check x >>= f) s (x >>= body) := by
  cases x with
  | error e => exact exec_bind_error (m := (check (.error e) : Method σ ε β)) rfl
  | ok b => exact (exec_bind_ok (m := (check (.ok b) : Method σ ε β)) rfl).trans (h b rfl)

end

end Method
