/-! Named entries in the order in which their names were first given. -/

namespace LintConfig

abbrev Entries (α : Type) := List (String × α)

namespace Entries
variable {α : Type}

def names (es : Entries α) : List String := es.map (·.1)

def get? (name : String) : Entries α → Option α
  | [] => none
  | (k, v) :: rest => if k = name then some v else get? name rest

/-- Give a name a value: in its place if it is there, else at the end. -/
def put (name : String) (value : α) : Entries α → Entries α
  | [] => [(name, value)]
  | (k, v) :: rest => if k = name then (k, value) :: rest else (k, v) :: put name value rest

/-- Put entries in one after the other. -/
def merge (es news : Entries α) : Entries α := news.foldl (fun es (k, v) => put k v es) es

/-- The entries of a list in which names may be repeated; the last value counts. -/
def ofList (es : List (String × α)) : Entries α := merge [] es

end Entries

end LintConfig
