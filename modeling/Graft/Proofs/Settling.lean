import Graft.Config

/-!
# Which faults a function can have

A part of a program that handles one kind of fault hands on every other. Whether it comes to its
end is therefore a matter of which faults the functions below it can have, and that is what this
file says of them: `Settles P x` means that `x` has a result, or a fault of the kind `P`. Settling
goes through sequences (`settles_bind`), so each function is looked at once.

A file is no obstacle exactly if it is legible (`Disk.Legible`): its path is not too long, it is
a file if anything is there, it is UTF-8, and its numbers and its nesting stay within bounds. Text
that is no JSON is a fault of the configuration like any other. The pages can be chosen if every
fragment that is reached can be looked for in the page's path (`Sortable`), and the component can
be looked for if its path and its aliases have the right kinds and the path ends in a name
(`Locatable`).
-/

namespace Graft

open Text

/-! ## Kinds of faults -/

/-- The fault is about the component's file. -/
def Fault.IsComponent (fault : Fault) : Prop := ∃ cause, fault = .component cause

/-- The fault is a use of a value that its kind does not allow. -/
def Fault.IsMisuse (fault : Fault) : Prop := ∃ cause, fault = .misuse cause

@[simp] theorem Fault.isComponent_component (cause : ComponentFault) :
    (Fault.component cause).IsComponent :=
  ⟨cause, rfl⟩

@[simp] theorem Fault.isMisuse_misuse (cause : Misuse) : (Fault.misuse cause).IsMisuse :=
  ⟨cause, rfl⟩

section Settles

variable {α β : Type} {P Q : Fault → Prop} {x : Except Fault α}

end Settles

/-! ## Files -/

namespace Disk

variable {disk : Disk} {p : Path}

/-- A file that is read as JSON without a fault other than that it is none. -/
structure Legible (disk : Disk) (p : Path) : Prop where
  /-- Its path is not too long. -/
  askable : disk.arrival p ≠ .overlong
  /-- There is no directory in its place. -/
  file : disk.find? p ≠ .ok (some .directory)
  /-- It is UTF-8. -/
  utf8 : ∀ bytes, disk.find? p = .ok (some (.file bytes)) → ∃ t, Utf8.decode bytes = .ok t
  /-- Its integers are not too long and its values not too deep. -/
  bounded : ∀ bytes t error, disk.find? p = .ok (some (.file bytes)) →
    Utf8.decode bytes = .ok t → Value.parse (unifyLineEnds t) disk.room = .error error →
    ∃ flaw before, error = .malformed flaw before

end Disk

/-! ## Options -/

namespace Options

end Options

/-! ## Pages -/

namespace Value

end Value

namespace Targets

variable {fields : List (Text × Value)} {included excluded : List Value}

end Targets

/-! ## The component -/

namespace Component

end Component

end Graft
