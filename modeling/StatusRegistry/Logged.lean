/-
StatusRegistry/Logged.lean

A value together with the events reported on the way to it.  Computations that
report are ordinary functions into `Logged`; run one after the other, their
events follow one another in the same order.
-/
import StatusRegistry.Event

namespace StatusRegistry

/-- A value, and the events reported while it was computed, the earliest first. -/
structure Logged (α : Type) where
  value : α
  events : List Event
deriving DecidableEq, Repr

namespace Logged

variable {α β : Type}

/-- Reports one event. -/
def report (e : Event) : Logged Unit :=
  ⟨(), [e]⟩

instance : Monad Logged where
  pure a := ⟨a, []⟩
  bind x f := ⟨(f x.value).value, x.events ++ (f x.value).events⟩

@[simp] theorem value_pure (a : α) : (pure a : Logged α).value = a := rfl

@[simp] theorem events_pure (a : α) : (pure a : Logged α).events = [] := rfl

@[simp] theorem value_bind (x : Logged α) (f : α → Logged β) :
    (x >>= f).value = (f x.value).value := rfl

@[simp] theorem events_bind (x : Logged α) (f : α → Logged β) :
    (x >>= f).events = x.events ++ (f x.value).events := rfl

@[simp] theorem value_map (f : α → β) (x : Logged α) : (f <$> x).value = f x.value := rfl

@[simp] theorem events_map (f : α → β) (x : Logged α) : (f <$> x).events = x.events :=
  List.append_nil _

@[simp] theorem events_report (e : Event) : (report e).events = [e] := rfl

theorem ext {x y : Logged α} (hv : x.value = y.value) (he : x.events = y.events) : x = y := by
  cases x
  cases y
  exact congr (congrArg mk hv) he

instance : LawfulMonad Logged := LawfulMonad.mk' Logged
  (fun x => ext rfl (by simp))
  (fun x f => rfl)
  (fun x f g => ext rfl (by simp))

end Logged

end StatusRegistry
