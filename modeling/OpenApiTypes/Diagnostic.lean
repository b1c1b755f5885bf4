/-
Warnings, and results that come with them.

* `Diagnostic`: a problem that stops nothing, and where it was found;
* `Warns`: computations that can raise warnings;
* `Reported`: a result with the warnings raised on the way, in order;
* `Reported.warn`: raises one.
-/

namespace OpenApiTypes

/-- A problem that stops nothing, and where it was found. -/
structure Diagnostic where
  location : String
  message : String
deriving DecidableEq, Repr

/-- The line that shows a problem. -/
def Diagnostic.text (d : Diagnostic) : String := d.location ++ ": " ++ d.message

/-- Computations that can raise warnings. -/
class Warns (m : Type → Type) where
  /-- A result of last resort, with a warning. -/
  fallback {α : Type} (value : α) (location message : String) : m α

/-- A result with the warnings raised on the way, in order. -/
structure Reported (α : Type) where
  value : α
  diagnostics : List Diagnostic

namespace Reported

instance : Monad Reported where
  pure value := ⟨value, []⟩
  bind r f :=
    let next := f r.value
    ⟨next.value, r.diagnostics ++ next.diagnostics⟩

/-- Raises a warning. -/
def warn (location message : String) : Reported Unit := ⟨(), [⟨location, message⟩]⟩

/-- A result of last resort, with a warning. -/
def fallback {α : Type} (value : α) (location message : String) : Reported α :=
  ⟨value, [⟨location, message⟩]⟩

instance : Warns Reported := ⟨fallback⟩

section

variable {α β : Type}

@[simp] theorem value_pure (a : α) : (pure a : Reported α).value = a := rfl

@[simp] theorem diagnostics_pure (a : α) : (pure a : Reported α).diagnostics = [] := rfl

@[simp] theorem value_bind (r : Reported α) (f : α → Reported β) :
    (r >>= f).value = (f r.value).value := rfl

@[simp] theorem diagnostics_bind (r : Reported α) (f : α → Reported β) :
    (r >>= f).diagnostics = r.diagnostics ++ (f r.value).diagnostics := rfl

end

end Reported

end OpenApiTypes
