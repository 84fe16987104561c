import AngularLint.Abort
import AngularLint.Diagnostic

/-!
# Runs

A run tells diagnostics, in order, and ends with a result unless it is aborted. What it has told
before it is aborted stays told.
-/

set_option autoImplicit false

namespace AngularLint

/-- Work that tells diagnostics and may be aborted. -/
structure Run (α : Type) where
  diagnostics : List Diagnostic
  result : Except Abort α

namespace Run

variable {α β : Type}

/-- A result, and nothing to tell. -/
protected def pure (a : α) : Run α := ⟨[], .ok a⟩

/-- One run after another. -/
protected def bind (r : Run α) (next : α → Run β) : Run β :=
  match r.result with
  | .ok a => ⟨r.diagnostics ++ (next a).diagnostics, (next a).result⟩
  | .error abort => ⟨r.diagnostics, .error abort⟩

instance : Monad Run where
  pure := Run.pure
  bind := Run.bind

def tell (d : Diagnostic) : Run Unit := ⟨[d], .ok ()⟩

def abort (a : Abort) : Run α := ⟨[], .error a⟩

/-- A result, or what ends the run. -/
def ofExcept : Except Abort α → Run α
  | .ok a => .pure a
  | .error a => abort a

end Run

end AngularLint
