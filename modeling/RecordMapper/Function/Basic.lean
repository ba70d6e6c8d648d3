import RecordMapper.Function.Conversion

/-!
Applying functions to values. Functions are known by name; what a name stands for is given by the
program around, so everything that calls one takes the meaning of names as a parameter.
-/
namespace RecordMapper

/-- The meaning of function names. Functions have no effect but their result. -/
abbrev Functions := String → Value → Except Error Value

abbrev RowHook := Value → Except Error Value

/-- The value that a class gives when it is given nothing. Dates and identifiers have none. -/
def ValueClass.blank : ValueClass → Except Error Value
  | text => pure (.text "")
  | int => pure (.int 0)
  | float => pure (.float (.finite false 0 Number.Binary64.minExponent))
  | bool => pure (.bool false)
  | list => pure (.list [])
  | tuple => pure (.tuple [])
  | dict => pure (.dict [])
  | set => pure (.set false [])
  | bytes => pure (.bytes [])
  | null => pure .null
  | decimal => pure (.decimal (.finite ⟨false, 0, 0⟩))
  | object | number => pure .object
  | date | uuid => throw .typeMismatch

def Callable.apply (fns : Functions) : Callable → Value → Except Error Value
  | named name, v => fns name v
  | constructor c, v => c.convert v

def Value.applyTo (fns : Functions) (f v : Value) : Except Error Value :=
  match f with
  | .callable f => f.apply fns v
  | f => throw (.notCallable f.kindName)

end RecordMapper
