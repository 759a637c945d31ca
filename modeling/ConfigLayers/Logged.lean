/-!
# Results with a log

`Logged` pairs a result, written for events of a type `ε`, with the events that led to it, in order.
Steps compose with `do`, and the events of later steps follow those of earlier ones.
-/

namespace ConfigLayers

/-- A result and the events that led to it. -/
structure Logged (ε α : Type) where
  value : α
  events : List ε

namespace Logged

variable {ε α β : Type}

instance : Monad (Logged ε) where
  pure value := ⟨value, []⟩
  bind x f := ⟨(f x.value).value, x.events ++ (f x.value).events⟩

def emit (event : ε) : Logged ε Unit := ⟨(), [event]⟩

@[simp] theorem value_pure (value : α) : (pure value : Logged ε α).value = value := rfl

@[simp] theorem events_pure (value : α) : (pure value : Logged ε α).events = [] := rfl

@[simp] theorem value_bind (x : Logged ε α) (f : α → Logged ε β) :
    (x >>= f).value = (f x.value).value := rfl

@[simp] theorem events_bind (x : Logged ε α) (f : α → Logged ε β) :
    (x >>= f).events = x.events ++ (f x.value).events := rfl

@[simp] theorem events_emit (event : ε) : (emit event).events = [event] := rfl

end Logged

end ConfigLayers
