import RecordLocks.Toml.Statement
namespace RecordLocks.Toml

inductive Value where
  | text (value : String)
  | integer (value : Int)
  | real
  | boolean (value : Bool)
  | moment
  | array (items : List Value)
  | table (members : List (Key × Value))
  deriving Repr

/-- A table under construction. It is implicit while only tables in it or keys with points have
named it, and dotted if it was keys with points. Arrays of tables hold the members of their rows. -/
inductive Node where
  | leaf (value : Value)
  | table (implicit dotted : Bool) (members : List (Key × Node))
  | rows (rows : List (List (Key × Node)))
  deriving Repr

structure Table where
  implicit : Bool
  dotted : Bool
  members : List (Key × Node)
  deriving Repr

namespace Table

def root : Table := ⟨false, false, []⟩

def toNode (table : Table) : Node := .table table.implicit table.dotted table.members

def place (key : Key) (node : Node) : List (Key × Node) → List (Key × Node)
  | [] => [(key, node)]
  | (k, old) :: rest => if k = key then (k, node) :: rest else (k, old) :: place key node rest

def set (table : Table) (key : Key) (node : Node) : Table :=
  { table with members := place key node table.members }

def get? (table : Table) (key : Key) : Option Node := table.members.lookup key

/-- Changes the table at the end of a path. Tables missing on the way are made; of an array of
tables the last row counts. A key with points leads only through tables without a header. -/
def descend (dotted : Bool) (change : Table → Option Table) : List Key → Table → Option Table
  | [], table => change table
  | key :: path, table =>
    match table.get? key with
    | none =>
      (descend dotted change path ⟨true, dotted, []⟩).map fun child => table.set key child.toNode
    | some (.leaf _) => none
    | some (.table implicit byKey members) =>
      if dotted && !implicit then none
      else
        (descend dotted change path ⟨implicit, byKey, members⟩).map fun child =>
          table.set key child.toNode
    | some (.rows rows) =>
      match rows.getLast? with
      | none => none
      | some last =>
        (descend dotted change path ⟨false, false, last⟩).map fun child =>
          table.set key (.rows (rows.dropLast ++ [child.members]))

/-- A key is given once, and keys with points do not reach into a table that has another origin. -/
def assign (table : Table) (path : List Key) (value : Value) : Option Table :=
  match path.getLast? with
  | none => none
  | some key =>
    descend true (fun target =>
      if target.dotted = path.dropLast.isEmpty then none
      else if (target.get? key).isSome then none
      else some (target.set key (.leaf value))) path.dropLast table

end Table

mutual

def Node.value : Node → Value
  | .leaf value => value
  | .table _ _ members => .table (membersValue members)
  | .rows rows => .array (rowsValue rows)

def membersValue : List (Key × Node) → List (Key × Value)
  | [] => []
  | (key, node) :: members => (key, node.value) :: membersValue members

def rowsValue : List (List (Key × Node)) → List Value
  | [] => []
  | members :: rows => .table (membersValue members) :: rowsValue rows

end

mutual

def Written.value? : Written → Option Value
  | .text value => some (.text value)
  | .integer value => some (.integer value)
  | .real => some .real
  | .boolean value => some (.boolean value)
  | .moment => some .moment
  | .array items => (writtenItems? items).map .array
  | .inlineTable members =>
    (writtenMembers? members .root).map fun table => .table (membersValue table.members)

def writtenItems? : List Written → Option (List Value)
  | [] => some []
  | item :: items => do
    let value ← item.value?
    return value :: (← writtenItems? items)

def writtenMembers? : List (List Key × Written) → Table → Option Table
  | [], table => some table
  | (path, item) :: members, table => do
    let value ← item.value?
    writtenMembers? members (← table.assign path value)

end

namespace Table

def atParent (change : Key → Table → Option Table) (path : List Key) (root : Table) :
    Option Table :=
  match path.getLast? with
  | none => none
  | some key => root.descend false (change key) path.dropLast

/-- A table has one header, which may come after those of tables inside it. -/
def openTable : List Key → Table → Option Table :=
  atParent fun key parent =>
    match parent.get? key with
    | none => some (parent.set key (.table false false []))
    | some (.table true false members) => some (parent.set key (.table false false members))
    | _ => none

def openRow : List Key → Table → Option Table :=
  atParent fun key parent =>
    match parent.get? key with
    | none => some (parent.set key (.rows [[]]))
    | some (.rows rows) => some (parent.set key (.rows (rows ++ [[]])))
    | _ => none

/-- Carries out statements, of which assignments go to the table at `path` until a header names
another one. -/
def build : List Statement → List Key → Table → Option Table
  | [], _, root => some root
  | .table path :: rest, _, root => do build rest path (← openTable path root)
  | .row path :: rest, _, root => do build rest path (← openRow path root)
  | .assign key item :: rest, path, root => do
    let value ← item.value?
    build rest path (← root.descend false (·.assign key value) path)

end Table

def read (text : String) : Option (List (Key × Value)) := do
  let statements ← readStatements text.toList
  let root ← Table.build statements [] .root
  return membersValue root.members

end RecordLocks.Toml
