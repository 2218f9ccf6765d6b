/-!
# Statement keywords

Each statement starts with the keyword of its kind, and errors about a statement name it
by that keyword.
-/

namespace SearchSql

/-- The kinds of statement. -/
inductive Keyword where
  /-- Reads documents. -/
  | select
  /-- Adds new documents. -/
  | insert
  /-- Adds documents in place of those with the same identifier. -/
  | replace
  /-- Changes attributes of documents. -/
  | update
  /-- Removes documents. -/
  | delete
deriving DecidableEq

/-- The keyword as written in a statement. -/
def Keyword.text : Keyword → String
  | .select => "SELECT"
  | .insert => "INSERT"
  | .replace => "REPLACE"
  | .update => "UPDATE"
  | .delete => "DELETE"

end SearchSql
