import SearchSql.Document.Encode
import SearchSql.Keyed
import SearchSql.Statement.Filter

/-!
# INSERT and REPLACE

Rows are given either whole, under a list of columns, or one column at a time for a single
row. The type of a column can be stated at any point and holds for all its values.
-/

namespace SearchSql

/-- An INSERT or REPLACE statement. -/
structure Insert where
  /-- The index to write to. -/
  index : String
  /-- Whether documents with the same identifier are replaced. -/
  replaces : Bool
  /-- The columns of the rows. -/
  columns : List String
  /-- The rows in order. -/
  rows : List (List Value)
  /-- The stated types of columns. -/
  types : List (String × AttrType)
  /-- The first error of the calls so far. -/
  error : Option QueryError

namespace Insert

/-- Writes nothing yet to an index. -/
def new (index : String) (replaces : Bool) : Insert where
  index := index
  replaces := replaces
  columns := []
  rows := []
  types := []
  error := none

/-- A call on an INSERT or REPLACE statement. -/
inductive Call where
  /-- Replaces the list of columns. -/
  | columns (columns : List String)
  /-- Adds a row. -/
  | values (row : List Value)
  /-- Sets a column of the only row. -/
  | set (column : String) (value : Value)
  /-- Sets a column of the only row and states its type. -/
  | setTyped (column : String) (value : Value) (type : AttrType)
  /-- Sets a column of the only row to a document. -/
  | setDocument (column : String) (document : Document)
  /-- States the type of a column. -/
  | typeHint (column : String) (type : AttrType)

/-- The keyword of the statement. -/
def keyword (insert : Insert) : Keyword :=
  if insert.replaces then .replace else .insert

/-- The type of a column is the one stated last. -/
def typeHint (insert : Insert) (column : String) (type : AttrType) : Insert :=
  { insert with types := Keyed.set column type insert.types }

/-- The stated type of a column. -/
def typeOf (insert : Insert) (column : String) : Option AttrType :=
  Keyed.get? column insert.types

/-- A column is added together with its value at the end of the only row. With more rows it is
not clear whose value it is, and the statement records an error instead. -/
def set (insert : Insert) (column : String) (value : Value) : Insert :=
  match insert.rows with
  | [] => { insert with columns := insert.columns ++ [column], rows := [[value]] }
  | [row] =>
    { insert with columns := insert.columns ++ [column], rows := [row ++ [value]] }
  | _ =>
    { insert with
      error := firstError insert.error (.error (.argument .setOnManyRows)) }

/-- A column is set after its type is stated. -/
def setTyped (insert : Insert) (column : String) (value : Value) (type : AttrType) : Insert :=
  (insert.typeHint column type).set column value

/-- A document is set as a value of the JSON type. -/
def setDocument (insert : Insert) (column : String) (document : Document) : Insert :=
  insert.setTyped column (.json document) .json

/-- Data of any type that can be written as a document is set as that document. Otherwise the
statement is not touched. -/
def setJson {α : Type} [ToDocument α] (insert : Insert) (column : String) (data : α) :
    Except QueryError Insert := do
  let document ← ToDocument.toDocument data
  return insert.setDocument column document

/-- The effect of a call. -/
def apply (insert : Insert) : Call → Insert
  | .columns columns => { insert with columns := columns }
  | .values row => { insert with rows := insert.rows ++ [row] }
  | .set column value => insert.set column value
  | .setTyped column value type => insert.setTyped column value type
  | .setDocument column document => insert.setDocument column document
  | .typeHint column type => insert.typeHint column type

/-- The effect of calls in order. -/
def applyAll (insert : Insert) (calls : List Call) : Insert :=
  calls.foldl apply insert

/-- The first row, counted from the given number, that has another number of values than there
are columns. -/
def raggedRow? (columns : Nat) : Nat → List (List Value) → Option StatementFault
  | _, [] => none
  | number, row :: rest =>
    if row.length = columns then raggedRow? columns (number + 1) rest
    else some (.raggedRow number row.length columns)

/-- There is a column, there is a row, and every row has a value for each column. -/
def validate (insert : Insert) : Except QueryError Unit :=
  if insert.columns.isEmpty then .error (.statement (.noColumns insert.keyword))
  else if insert.rows.isEmpty then .error (.statement (.noRows insert.keyword))
  else
    match raggedRow? insert.columns.length 0 insert.rows with
    | some fault => .error (.statement fault)
    | none => .ok ()

/-- A row as SQL, each value under the type of its column. -/
def rowSql (quoter : Quoter) (types : List (Option AttrType)) (row : List Value) : String :=
  Quoting.listed (List.zipWith quoter.quoteValue row types)

/-- The text of the statement without any check. -/
def sql (quoter : Quoter) (insert : Insert) : String :=
  let types := insert.columns.map insert.typeOf
  insert.keyword.text ++ " INTO " ++ quoter.quoteIdentifier insert.index ++
    " (" ++ quoter.quoteIdentifierList insert.columns ++ ") VALUES " ++
    ", ".intercalate (insert.rows.map (rowSql quoter types))

/-- The text of the statement if nothing is wrong with it. -/
def toSql (quoter : Quoter) (insert : Insert) : Except QueryError String :=
  finishSql insert.error insert.validate (insert.sql quoter)

end Insert

end SearchSql
