/-!
# Values with a trace

Some steps of the machine have, besides their result, something to say to the outside: a line
for the log, a call of the sound mixer.  `Traced ε α` is such a result with the entries that
were said on the way, in order.  It is a monad: one step after another says what the first says
and then what the second says.
-/

namespace Chip8

/-- A value and the entries that were reported while it came about, oldest first. -/
structure Traced (ε α : Type) where
  value : α
  trace : Array ε
  deriving Repr

namespace Traced

variable {ε δ α β : Type}

/-- The value with nothing to report. -/
def silent (value : α) : Traced ε α :=
  ⟨value, #[]⟩

/-- Reports one entry. -/
def report (entry : ε) : Traced ε Unit :=
  ⟨(), #[entry]⟩

/-- The second step starts from the first one's value, and its entries follow. -/
def andThen (first : Traced ε α) (next : α → Traced ε β) : Traced ε β :=
  let second := next first.value
  ⟨second.value, first.trace ++ second.trace⟩

instance : Monad (Traced ε) where
  pure := silent
  bind := andThen

/-- The same value, with a function applied to every entry. -/
def mapTrace (f : ε → δ) (x : Traced ε α) : Traced δ α :=
  ⟨x.value, x.trace.map f⟩

@[simp] theorem value_pure (a : α) : (pure a : Traced ε α).value = a := rfl

@[simp] theorem trace_pure (a : α) : (pure a : Traced ε α).trace = #[] := rfl

@[simp] theorem value_bind (x : Traced ε α) (f : α → Traced ε β) :
    (x >>= f).value = (f x.value).value := rfl

@[simp] theorem trace_bind (x : Traced ε α) (f : α → Traced ε β) :
    (x >>= f).trace = x.trace ++ (f x.value).trace := rfl

@[simp] theorem value_map (f : α → β) (x : Traced ε α) : (f <$> x).value = f x.value := rfl

@[simp] theorem trace_map (f : α → β) (x : Traced ε α) : (f <$> x).trace = x.trace := by
  change x.trace ++ #[] = x.trace
  simp

@[simp] theorem value_mapTrace (f : ε → δ) (x : Traced ε α) : (x.mapTrace f).value = x.value :=
  rfl

@[simp] theorem trace_mapTrace (f : ε → δ) (x : Traced ε α) :
    (x.mapTrace f).trace = x.trace.map f := rfl

@[simp] theorem value_report (entry : ε) : (report entry).value = () := rfl

@[simp] theorem trace_report (entry : ε) : (report entry).trace = #[entry] := rfl

@[ext] theorem ext {x y : Traced ε α} (hv : x.value = y.value) (ht : x.trace = y.trace) :
    x = y := by
  cases x; cases y; simp_all

instance : LawfulMonad (Traced ε) :=
  LawfulMonad.mk' _
    (fun x => by apply ext <;> simp)
    (fun a f => by apply ext <;> simp)
    (fun x f g => by apply ext <;> simp [Array.append_assoc])

end Traced
end Chip8
