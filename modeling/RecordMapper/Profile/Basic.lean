import RecordMapper.Declaration.Coercion
import RecordMapper.Text.Percent
import RecordMapper.Text.Pieces

/-!
Connection profiles. The password takes the place of a mark in the connection URL, percent-encoded,
so that no character of it can change the structure of the URL.
-/
namespace RecordMapper

open Declaration

structure Profile where
  url : String
  description : String
  password : Option String
  poolSize : Option Int
  maxOverflow : Option Int
deriving DecidableEq, Repr

namespace Profile

def ofArguments (args : OrderedMap String Value) : Checked Profile :=
  let url := required args "url" text
  let description := optional args "description" "" text
  let password := optional args "db_password" none (nullable text)
  let poolSize := optional args "pool_size" none (nullable integer)
  let maxOverflow := optional args "max_overflow" none (nullable integer)
  (url.both <| description.both <| password.both <| poolSize.both maxOverflow).map
    fun (url, description, password, poolSize, maxOverflow) =>
      { url, description, password, poolSize, maxOverflow }

def declare (v : Value) : Except Error Profile := do
  (ofArguments (← arguments v)).orRaise

def passwordMark : String := "[YOUR-PASSWORD]"

def resolveUrl (p : Profile) : String :=
  match p.password with
  | none | some "" => p.url
  | some password => Text.substitute passwordMark (Text.percentEncode password) p.url

def engineOptions (p : Profile) : OrderedMap String Value :=
  let option (name : String) (n : Option Int) := (n.map fun n => (name, Value.int n)).toList
  .ofEntries (option "pool_size" p.poolSize ++ option "max_overflow" p.maxOverflow)

end Profile

end RecordMapper
