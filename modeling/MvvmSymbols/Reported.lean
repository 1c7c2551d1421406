import MvvmSymbols.Event

/-!
Values with a report: the events that an operation gave while it computed its
value, in order. An operation that can fail reports up to its failure.
-/

namespace MvvmSymbols

structure Reported (α : Type) where
  events : List Event
  value : α

namespace Reported

variable {α β : Type}

instance : Monad Reported where
  pure a := ⟨[], a⟩
  bind x f := ⟨x.events ++ (f x.value).events, (f x.value).value⟩

@[simp] theorem events_pure (a : α) : (pure a : Reported α).events = [] := rfl

@[simp] theorem value_pure (a : α) : (pure a : Reported α).value = a := rfl

@[simp] theorem events_bind (x : Reported α) (f : α → Reported β) :
    (x >>= f).events = x.events ++ (f x.value).events := rfl

@[simp] theorem value_bind (x : Reported α) (f : α → Reported β) :
    (x >>= f).value = (f x.value).value := rfl

@[simp] theorem events_map (f : α → β) (x : Reported α) : (f <$> x).events = x.events :=
  List.append_nil x.events

@[simp] theorem value_map (f : α → β) (x : Reported α) : (f <$> x).value = f x.value := rfl

instance : LawfulMonad Reported :=
  LawfulMonad.mk' Reported
    (fun x => congrArg (Reported.mk · x.value) (List.append_nil x.events))
    (fun _ _ => rfl)
    (fun x _ _ => congrArg (Reported.mk · _) (List.append_assoc x.events _ _))

end Reported

def report (e : Event) : Reported Unit := ⟨[e], ()⟩

@[simp] theorem events_report (e : Event) : (report e).events = [e] := rfl

end MvvmSymbols
