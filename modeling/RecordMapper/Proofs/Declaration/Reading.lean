import RecordMapper.Declaration.Coercion
import RecordMapper.Proofs.Except

/-!
Reading parts that have their types, and the issues of several parts. What has its type is taken as it is, but
for texts that cannot be encoded, and the issues of two parts are those of the first one and then those of the
second one.
-/
namespace RecordMapper.Declaration

variable {α β : Type}

namespace Checked

def issues : Checked α → List Issue
  | .ok _ => []
  | .error is => is

end Checked

/-! Texts that cannot be encoded. -/

/-- A text that cannot be encoded is refused at its place. -/
def refused (place : List Step) (ns : List Nat) : List Issue :=
  if (Text.ofCodePoints? ns).isSome then [] else [⟨place, .badEncoding⟩]

def nameStep (ns : List Nat) : Step := keyStep (.ofCodePoints ns)

section

variable {place : List Step} {ns : List Nat}

end

/-- All names can be encoded. -/
def Plain (m : OrderedMap (List Nat) α) : Prop := ∀ e ∈ m.entries, ∃ s, e.1 = Text.codePoints s

section

variable {m : OrderedMap (List Nat) α}

end

end RecordMapper.Declaration
