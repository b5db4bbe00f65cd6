/-!
# Methods of an engine

Every method has a service number and a method number.  Exempt methods may be
called while another thread holds the engine's lock.
-/

namespace EngineLink

/-- What an engine can be asked to do. -/
inductive Method where
  | translate
  | progress
  | abort
  | openCollection
  | closeCollection
  | query
  | pagedQuery
  | execute
  | insert
  | nextPage
  | flush
  | flushAll
  | setPageSize
  | columnNames
  deriving DecidableEq

namespace Method

/-- All methods in the order of their numbers. -/
def all : List Method :=
  [translate, progress, abort, openCollection, closeCollection, query, pagedQuery, execute, insert,
    nextPage, flush, flushAll, setPageSize, columnNames]

/-- The service and method numbers of a method. -/
def ids : Method → UInt32 × UInt32
  | .translate => (0, 0)
  | .progress => (0, 1)
  | .abort => (0, 2)
  | .openCollection => (1, 0)
  | .closeCollection => (1, 1)
  | .query => (2, 0)
  | .pagedQuery => (2, 1)
  | .execute => (2, 2)
  | .insert => (2, 3)
  | .nextPage => (2, 4)
  | .flush => (2, 5)
  | .flushAll => (2, 6)
  | .setPageSize => (2, 7)
  | .columnNames => (2, 8)

/-- The method with the given numbers. -/
def ofIds? (service method : UInt32) : Option Method := all.find? fun m => m.ids = (service, method)

/-- Whether a method is called without the engine's lock. -/
def isExempt : Method → Bool
  | .translate | .progress | .abort | .flush | .flushAll => true
  | _ => false

/-- Whether a call with these numbers goes without the engine's lock; unknown
numbers do not. -/
def idsExempt (service method : UInt32) : Bool := ((ofIds? service method).map isExempt).getD false

/-- The name of a method. -/
def name : Method → String
  | .translate => "translate_string"
  | .progress => "latest_progress"
  | .abort => "set_wants_abort"
  | .openCollection => "open_collection"
  | .closeCollection => "close_collection"
  | .query => "run_db_command"
  | .pagedQuery => "run_db_command_proto"
  | .execute => "run_db_command_for_row_count"
  | .insert => "insert_for_id"
  | .nextPage => "get_next_result_page"
  | .flush => "flush_query"
  | .flushAll => "flush_all_queries"
  | .setPageSize => "set_page_size"
  | .columnNames => "get_column_names_from_query"

/-- The text of a method: its name with its numbers. -/
def text (m : Method) : String :=
  m.name ++ " (" ++ toString m.ids.1.toNat ++ "." ++ toString m.ids.2.toNat ++ ")"

end Method
end EngineLink
