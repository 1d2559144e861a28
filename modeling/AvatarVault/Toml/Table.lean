import AvatarVault.Toml.Value
/-!
Tables in the making, and the rules on what may be defined where: no key twice, no table twice,
and no dotted key into a table that a header made.
-/
namespace AvatarVault.Toml

mutual

/-- What a key stands for while a document is read. -/
inductive Node where
  | leaf (value : Toml)
  | table (table : Table)
  /-- An array of tables made by headers; the last one is open. -/
  | tables (items : List Table)

/-- A table in the making. -/
inductive Table where
  /-- `isImplicit`: only named on the way to another table; `isDotted`: made by a dotted key. -/
  | mk (isImplicit isDotted : Bool) (entries : List (String × Node))

end

namespace Table

def isImplicit : Table → Bool
  | mk i _ _ => i

def isDotted : Table → Bool
  | mk _ d _ => d

def entries : Table → List (String × Node)
  | mk _ _ es => es

/-- A table that a header or an inline table makes. -/
def empty : Table := mk false false []

/-- What a key stands for in a table. -/
def find? (t : Table) (key : String) : Option Node :=
  (t.entries.find? fun entry => entry.1 == key).map (·.2)

/-- The table with a key bound anew. -/
def set (t : Table) (key : String) (n : Node) : Table :=
  mk t.isImplicit t.isDotted ((t.entries.filter fun entry => entry.1 != key) ++ [(key, n)])

/-- Changes the table at the end of a path, making tables on the way.  A dotted key may pass
through implicit tables only. -/
def descend (dotted : Bool) : List String → (Table → Option Table) → Table → Option Table
  | [], change, t => change t
  | key :: path, change, t =>
    match t.find? key with
    | none => do
      let child ← descend dotted path change (mk true dotted [])
      return t.set key (.table child)
    | some (.leaf _) => none
    | some (.table child) =>
      if dotted && !child.isImplicit then none
      else do
        let child ← descend dotted path change child
        return t.set key (.table child)
    | some (.tables items) =>
      match items.getLast? with
      | none => none
      | some child => do
        let child ← descend dotted path change child
        return t.set key (.tables (items.dropLast ++ [child]))

/-- The table with a new entry at a dotted key, given by the path to it and its last part. -/
def insertAt (path : List String) (key : String) (value : Toml) (t : Table) : Option Table :=
  t.descend true path fun t =>
    if t.isDotted == path.isEmpty then none
    else match t.find? key with
      | some _ => none
      | none => some (t.set key (.leaf value))

/-- The table with a new entry at a dotted key. -/
def insert (key : List String) (value : Toml) (t : Table) : Option Table :=
  match key.getLast? with
  | some last => t.insertAt key.dropLast last value
  | none => none

/-- Opens the table of a header and fills it. -/
def openTable (key : List String) (fill : Table → Option Table) (t : Table) : Option Table :=
  match key.getLast? with
  | none => none
  | some last => t.descend false key.dropLast fun parent =>
    match parent.find? last with
    | none => do return parent.set last (.table (← fill empty))
    | some (.table child) =>
      if child.isImplicit && !child.isDotted then do
        return parent.set last (.table (← fill (mk false false child.entries)))
      else none
    | some _ => none

/-- Adds a table to the array of a header and fills it. -/
def appendTable (key : List String) (fill : Table → Option Table) (t : Table) : Option Table :=
  match key.getLast? with
  | none => none
  | some last => t.descend false key.dropLast fun parent =>
    match parent.find? last with
    | none => do return parent.set last (.tables [← fill empty])
    | some (.tables items) => do return parent.set last (.tables (items ++ [← fill empty]))
    | some _ => none

end Table

mutual

/-- The value of a finished key. -/
def Node.toValue : Node → Toml
  | .leaf value => value
  | .table t => t.toValue
  | .tables items => .array (tablesToValues items)

/-- The value of a finished table. -/
def Table.toValue : Table → Toml
  | .mk _ _ es => .table (entriesToValues es)

/-- The values of finished entries. -/
def entriesToValues : List (String × Node) → List (String × Toml)
  | [] => []
  | (key, n) :: rest => (key, n.toValue) :: entriesToValues rest

/-- The values of finished tables. -/
def tablesToValues : List Table → List Toml
  | [] => []
  | t :: rest => t.toValue :: tablesToValues rest

end

end AvatarVault.Toml
