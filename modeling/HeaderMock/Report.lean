import HeaderMock.Event
import HeaderMock.Fault

/-!
# Reports

Computations that report events on their way and end in a value or a fault. Events reported before
a fault are kept.
-/

namespace HeaderMock

structure Report (α : Type) where
  events : List Event
  result : Except Fault α

namespace Report

variable {α β : Type}

def bind (x : Report α) (f : α → Report β) : Report β :=
  match x.result with
  | .ok a => { events := x.events ++ (f a).events, result := (f a).result }
  | .error fault => { events := x.events, result := .error fault }

instance : Monad Report where
  pure a := { events := [], result := .ok a }
  bind := bind

/-- Reports one event. -/
def emit (e : Event) : Report Unit := { events := [e], result := .ok () }

/-- Ends in a fault. -/
def fail (fault : Fault) : Report α := { events := [], result := .error fault }

/-- A result without events. -/
def ofExcept (result : Except Fault α) : Report α := { events := [], result }

@[simp, grind =] theorem events_pure (a : α) : (pure a : Report α).events = [] := rfl

@[simp, grind =] theorem result_pure (a : α) : (pure a : Report α).result = .ok a := rfl

@[simp, grind =] theorem result_emit (e : Event) : (emit e).result = .ok () := rfl

theorem result_bind_ok {x : Report α} {a : α} (h : x.result = .ok a) (f : α → Report β) :
    (x >>= f).result = (f a).result := by
  show (x.bind f).result = _
  simp [bind, h]

end Report

end HeaderMock
