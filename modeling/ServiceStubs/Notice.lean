/-!
# Notices

What a run tells the host in passing.  A computation that may leave notices gives them together
with its result, oldest first.
-/

namespace ServiceStubs

/-- The two independent pipelines of a run. -/
inductive Pipeline where
  | serviceModel
  | controllers
  deriving DecidableEq, Repr

/-- A notice to the host. -/
inductive Notice where
  /-- More than one configuration was found; the first is used. -/
  | severalConfigs (path : String) (found : Nat)
  /-- The run ends because its configuration cannot be read. -/
  | configMalformed
  /-- A public class in the services namespace has no name. -/
  | unnamedClass (scope : String)
  /-- A pipeline failed with a fault of that id. -/
  | pipelineFailed (pipeline : Pipeline) (id : String)
  /-- So many pipelines failed, and so many units of the others are dropped. -/
  | runFailed (failures discarded : Nat)
  /-- Two units of the run have one name. -/
  | unitsClash
  deriving DecidableEq, Repr

/-- A result with the notices left on the way to it. -/
structure Noted (α : Type) where
  value : α
  notices : List Notice
  deriving DecidableEq, Repr

namespace Noted

variable {α β : Type}

/-- A result without notices. -/
protected def pure (a : α) : Noted α := ⟨a, []⟩

/-- Goes on from a result; its notices come first. -/
protected def bind (x : Noted α) (f : α → Noted β) : Noted β :=
  let y := f x.value
  ⟨y.value, x.notices ++ y.notices⟩

instance : Monad Noted where
  pure := Noted.pure
  bind := Noted.bind

/-- Leaves a notice. -/
def tell (n : Notice) : Noted Unit := ⟨(), [n]⟩

@[simp] theorem value_pure (a : α) : (pure a : Noted α).value = a := rfl

@[simp] theorem value_bind (x : Noted α) (f : α → Noted β) :
    (x >>= f).value = (f x.value).value := rfl

@[simp] theorem notices_pure (a : α) : (pure a : Noted α).notices = [] := rfl

@[simp] theorem notices_bind (x : Noted α) (f : α → Noted β) :
    (x >>= f).notices = x.notices ++ (f x.value).notices := rfl

@[simp] theorem notices_tell (n : Notice) : (tell n).notices = [n] := rfl

end Noted

end ServiceStubs
