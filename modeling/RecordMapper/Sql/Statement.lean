import RecordMapper.Error
import RecordMapper.Value.Equality

/-!
Statements with bound values. A statement is written from left to right. A value never enters the
text: it is put behind the values bound so far, and its placeholder `:p_0`, `:p_1`, … stands for it.
A query within a statement binds its values to the same list.
-/
namespace RecordMapper.Sql

def parameterName (n : Nat) : List Char := 'p' :: '_' :: Number.digitsOf n

def placeholder (n : Nat) : List Char := ':' :: parameterName n

structure Statement where
  text : String
  values : List Value
deriving Repr

/-- What is written with the values bound so far at hand. -/
abbrev Writer := StateT (List Value) (Except Error)

def bindValue (value : Value) : Writer String := do
  modify (· ++ [value])
  return String.ofList (placeholder ((← get).length - 1))

def Statement.ofWriter (text : Writer String) : Except Error Statement := do
  let (text, values) ← text []
  return { text, values }

end RecordMapper.Sql
