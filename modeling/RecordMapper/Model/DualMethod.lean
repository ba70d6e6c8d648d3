/-!
Methods of one name with two forms: one that belongs to a class, and perhaps one that belongs to its
instances. On an instance without a form of its own, the form of the class is used.
-/
namespace RecordMapper

structure DualMethod (γ ι α : Type) where
  doc : String := ""
  classForm : γ → α
  instanceForm : Option (ι → α) := none

def DualMethod.on {γ ι α : Type} (m : DualMethod γ ι α) (owner : γ) (instance? : Option ι) : α :=
  match instance?, m.instanceForm with
  | some i, some f => f i
  | _, _ => m.classForm owner

end RecordMapper
