import Chip8.Log

/-!
# Attempts

An `Attempt ε σ α` works on a state and may break off halfway.  What it did by then stays done, and
what it put on record stays on record: beside a refusal there is the state that was reached.  So an
operation that is to leave nothing behind when it is refused has to look for every reason before it
changes anything, and that it does is a matter of its steps and not of its type.

`Attempt.whole` is the attempt that makes all of a change or nothing of it.  Operations are shown to
be all or nothing by an equation with it, and `Attempt.whole_bind_proceed` says why: what comes
behind the last reason for a refusal can no longer be refused.
-/

namespace Chip8

/-- An operation on a state and a record, which comes to a result or breaks off for a reason.
Either way it leaves state and record as far as it got. -/
abbrev Attempt (ε σ α : Type) := EStateM ε (Logged σ) α

namespace Attempt

variable {ε δ σ τ α : Type}

/-- Breaks off. -/
def refuse (reason : ε) : Attempt ε σ α :=
  throw reason

/-- Breaks off if a condition holds. -/
def refuseIf (condition : Prop) [Decidable condition] (reason : ε) : Attempt ε σ Unit :=
  if condition then refuse reason else pure ()

/-- Goes on with a result, and breaks off where there is a reason instead. -/
def check : Except ε α → Attempt ε σ α
  | .ok a => pure a
  | .error reason => refuse reason

/-- The state by now. -/
def state : Attempt ε σ σ := do
  return (← get).value

/-- Does something that is never refused. -/
def proceed (f : σ → Logged σ) : Attempt ε σ Unit :=
  modify fun reached => reached >>= f

/-- Changes the state. -/
def change (f : σ → σ) : Attempt ε σ Unit :=
  proceed fun s => .silent (f s)

/-- Puts an entry on record. -/
def report (entry : Log.Entry) : Attempt ε σ Unit :=
  proceed fun s => ⟨s, #[entry]⟩

/-- Works on a part of the state. -/
def within (part : σ → τ) (replace : σ → τ → σ) (x : Attempt ε τ α) : Attempt ε σ α :=
  fun reached =>
    match x ⟨part reached.value, reached.trace⟩ with
    | .ok a inner => .ok a ⟨replace reached.value inner.value, inner.trace⟩
    | .error reason inner => .error reason ⟨replace reached.value inner.value, inner.trace⟩

/-- What comes of an attempt on a state, with nothing on record before. -/
def on (x : Attempt ε σ α) (s : σ) : EStateM.Result ε (Logged σ) α :=
  x.run (.silent s)

/-- The state and the record that an attempt left, whichever way it ended. -/
def left : EStateM.Result ε (Logged σ) α → Logged σ
  | .ok _ reached => reached
  | .error _ reached => reached

@[simp] theorem run_state (reached : Logged σ) :
    (state : Attempt ε σ σ).run reached = .ok reached.value reached := rfl

@[simp] theorem run_proceed (f : σ → Logged σ) (reached : Logged σ) :
    (proceed f : Attempt ε σ Unit).run reached = .ok () (reached >>= f) := rfl

@[simp] theorem run_check_ok (a : α) (reached : Logged σ) :
    (check (.ok a) : Attempt ε σ α).run reached = .ok a reached := rfl

@[simp] theorem run_check_error (reason : ε) (reached : Logged σ) :
    (check (.error reason) : Attempt ε σ α).run reached = .error reason reached := rfl

/-! ## All or nothing -/

/-- Makes all of a change, or breaks off with nothing done. -/
def whole (f : σ → Except ε (Logged σ)) : Attempt ε σ Unit := fun reached =>
  match f reached.value with
  | .ok next => .ok () (reached >>= fun _ => next)
  | .error reason => .error reason reached

section

variable {f : σ → Except ε (Logged σ)} {s : σ} {reached next : Logged σ} {reason : ε}

theorem run_whole_of_ok (h : f reached.value = .ok next) :
    (whole f).run reached = .ok () (reached >>= fun _ => next) := by
  simp only [EStateM.run, whole, h]

theorem run_whole_of_error (h : f reached.value = .error reason) :
    (whole f).run reached = .error reason reached := by
  simp only [EStateM.run, whole, h]

theorem on_whole_of_ok (h : f s = .ok next) : (whole f).on s = .ok () next :=
  (run_whole_of_ok h).trans (congrArg (EStateM.Result.ok ()) (Traced.ext rfl Array.empty_append))

theorem on_whole_of_error (h : f s = .error reason) :
    (whole f).on s = .error reason (.silent s) :=
  run_whole_of_error h

/-- A refusal leaves the state as it was, and nothing on record. -/
theorem on_whole_eq_error_iff {left : Logged σ} :
    (whole f).on s = .error reason left ↔ f s = .error reason ∧ left = .silent s := by
  cases h : f s with
  | ok _ => simp [on_whole_of_ok h]
  | error _ => simp [on_whole_of_error h, eq_comm]

end

theorem proceed_eq_whole (f : σ → Logged σ) :
    (proceed f : Attempt ε σ Unit) = whole fun s => .ok (f s) := rfl

theorem proceed_bind_proceed (f g : σ → Logged σ) :
    (proceed f >>= fun _ => proceed g : Attempt ε σ Unit) = proceed fun s => f s >>= g := by
  funext reached
  exact congrArg (EStateM.Result.ok ()) (bind_assoc reached f g)

theorem change_bind_change (f g : σ → σ) :
    (change f >>= fun _ => change g : Attempt ε σ Unit) = change fun s => g (f s) :=
  proceed_bind_proceed _ _

/-- What is never refused may follow on what is all or nothing. -/
theorem whole_bind_proceed (f : σ → Except ε (Logged σ)) (g : σ → Logged σ) :
    (whole f >>= fun _ => proceed g) = whole fun s => (· >>= g) <$> f s := by
  funext reached
  change (whole f >>= fun _ => proceed g).run reached = (whole _).run reached
  rw [EStateM.run_bind]
  cases h : f reached.value with
  | error reason =>
    rw [run_whole_of_error h, run_whole_of_error (congrArg ((· >>= g) <$> ·) h)]
  | ok next =>
    rw [run_whole_of_ok h, run_whole_of_ok (congrArg ((· >>= g) <$> ·) h)]
    exact congrArg (EStateM.Result.ok ()) (bind_assoc reached (fun _ => next) g)

theorem check_bind_proceed (x : Except ε α) (f : α → σ → Logged σ) :
    (check x >>= fun a => proceed (f a)) = whole fun s => (f · s) <$> x := by
  cases x <;> rfl

/-- To look at the state only is to leave it as it is. -/
theorem state_bind_check (x : σ → Except ε α) :
    (state >>= fun s => check (x s) >>= fun _ => pure ()) =
      whole fun s => (fun _ => .silent s) <$> x s := by
  funext reached
  change (state >>= fun s => check (x s) >>= fun _ => pure ()).run reached = (whole _).run reached
  simp only [EStateM.run_bind, run_state]
  cases h : x reached.value with
  | error reason =>
    rw [run_whole_of_error (by rw [h]; rfl)]
    rfl
  | ok a =>
    rw [run_whole_of_ok (by rw [h]; rfl)]
    exact congrArg (EStateM.Result.ok ()) (bind_pure reached).symm

/-- What is done may hang on the state. -/
theorem state_bind_whole (f : σ → σ → Except ε (Logged σ)) :
    (state >>= fun s => whole (f s)) = whole fun s => f s s := rfl

theorem refuseIf_bind_proceed (condition : Prop) [Decidable condition] (reason : ε)
    (f : σ → Logged σ) :
    (refuseIf condition reason >>= fun _ => proceed f) =
      whole fun s => if condition then .error reason else .ok (f s) := by
  unfold refuseIf
  split <;> rfl

/-- To work on a part of the state in one go is to do so on the state. -/
theorem within_whole {part : σ → τ} {replace : σ → τ → σ} (hkept : ∀ s, replace s (part s) = s)
    (f : τ → Except ε (Logged τ)) :
    within part replace (whole f) = whole fun s => (replace s <$> ·) <$> f (part s) := by
  funext reached
  change (within part replace (whole f)).run reached = (whole _).run reached
  cases h : f (part reached.value) with
  | error reason =>
    rw [run_whole_of_error (congrArg ((replace reached.value <$> ·) <$> ·) h)]
    simp only [EStateM.run, within, whole, h, hkept]
  | ok next =>
    rw [run_whole_of_ok (congrArg ((replace reached.value <$> ·) <$> ·) h)]
    simp only [EStateM.run, within, whole, h]
    exact congrArg (EStateM.Result.ok ()) (Traced.ext rfl (by simp))

/-- A refusal may be told in other terms. -/
theorem adaptExcept_whole (g : ε → δ) (f : σ → Except ε (Logged σ)) :
    EStateM.adaptExcept g (whole f) = whole fun s => (f s).mapError g := by
  funext reached
  change (EStateM.adaptExcept g (whole f)).run reached = (whole _).run reached
  rw [EStateM.run_adaptExcept]
  cases h : f reached.value with
  | error reason =>
    rw [run_whole_of_error h, run_whole_of_error (congrArg (Except.mapError g) h)]
  | ok next => rw [run_whole_of_ok h, run_whole_of_ok (congrArg (Except.mapError g) h)]

end Attempt
end Chip8
