import TileAudit.Database.Selection
import TileAudit.FileTree.Basic

/-!
# The library for databases

A database file is read by a library. It is asked in a query language, with values for the
parameters of the query, and yields the rows of the answer one after the other; each row can still
turn out to be unreadable.
-/

namespace TileAudit

class DatabaseEngine where
  /-- The database that the library finds in a file. -/
  database? : Entry → Option Database
  /-- The rows that a query yields for a file, or why it cannot be asked. -/
  query : Entry → String → List Binding → Except String (List (Except String (List Cell)))

end TileAudit
