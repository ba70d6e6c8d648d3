import RecordMapper.Value.Equality

/-!
What a database engine is created with: a URL and options. Some options have a default.
-/
namespace RecordMapper.Engine

structure Arguments where
  url : String
  options : OrderedMap String Value

def defaultOptions : OrderedMap String Value :=
  .ofEntries [("pool_size", .int 5), ("max_overflow", .int 10), ("pool_pre_ping", .bool true),
    ("pool_recycle", .int 300), ("echo", .bool false)]

def pooled (url : String) (options : OrderedMap String Value) : Arguments :=
  ⟨url, defaultOptions.insertAll options.entries⟩

def replaceStart (old new s : String) : String :=
  if old.toList.isPrefixOf s.toList then new ++ String.ofList (s.toList.drop old.length) else s

/-- The URL with the scheme of the asynchronous driver; URLs of other databases stay as they are. -/
def normalizeUrl (url : String) : String :=
  replaceStart "postgresql://" "postgresql+asyncpg://"
    (replaceStart "postgres://" "postgresql://" url)

end RecordMapper.Engine
