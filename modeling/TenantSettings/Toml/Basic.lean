import TenantSettings.Number.Binary64

/-!
# TOML documents as trees

What a TOML document holds, and the rules by which its lines may extend each other: a name is given
a value once, a table is opened by a header once, and neither may be reopened by the other way of
writing it.

* `Node.assign`: a value under a dotted name, inside the table that is open.
* `Node.open?`: a table opened by a header.
-/

namespace TenantSettings.Toml

/-- A value on the right of an equals sign. -/
inductive Value where
  | text (s : String)
  | integer (n : Int)
  | float (x : Number.Binary64)
  | boolean (b : Bool)
  | moment (s : String)
  | array (items : List Value)
  | table (members : List (String × Value))
deriving Inhabited

/-- How a table came to be: by a header of its own, as part of a longer header, or as part of a
dotted name. -/
inductive Origin where
  | header | passed | dotted
deriving DecidableEq

/-- Which tables a dotted name may give a value of their own: tables of dotted names only, or also
those that are known only as a part of longer headers. -/
inductive Reach where
  | dotted | passed
deriving DecidableEq

/-- Whether a dotted name may give a value to a table that came to be in some way. -/
def Reach.allows : Reach → Origin → Bool
  | _, .dotted => true
  | .passed, .passed => true
  | _, _ => false

/-- A part of a document: a value, a table that may still grow, or the tables of an array of
tables, the last one first. -/
inductive Node where
  | value (v : Value)
  | table (origin : Origin) (members : List (String × Node))
  | tables (elements : List (List (String × Node)))
deriving Inhabited

/-- The members of a table, in order of first mention. -/
abbrev Members := List (String × Node)

/-- Members with one put in: in place of the member of the same name, else at the end. -/
def put (name : String) (node : Node) : Members → Members
  | [] => [(name, node)]
  | m :: rest => if m.1 = name then (name, node) :: rest else m :: put name node rest

/-- Members with a value under a dotted name, given whether the table they belong to may take it
when only one part of the name is left. Tables on the way come into being with the name, or did with
another one; the way may also lead through a table that is known only as a part of headers, and
through the last of an array of tables. -/
def assignIn (reach : Reach) (v : Value) (fits : Bool) : List String → Members → Option Members
  | [], _ => none
  | [name], members =>
    if fits ∧ (members.lookup name).isNone then some (put name (.value v) members) else none
  | name :: path, members =>
    match members.lookup name with
    | none =>
      (assignIn reach v true path []).map fun inner => put name (.table .dotted inner) members
    | some (.table .header _) => none
    | some (.table origin inner) =>
      (assignIn reach v (reach.allows origin) path inner).map fun inner =>
        put name (.table origin inner) members
    | some (.tables (last :: others)) =>
      (assignIn reach v false path last).map fun last =>
        put name (.tables (last :: others)) members
    | some _ => none

/-- Members of an open table with a value under a dotted name. -/
def assign (reach : Reach) (v : Value) (path : List String) (members : Members) : Option Members :=
  assignIn reach v true path members

/-- Members with a change made to the table that a path leads to, through tables of any origin and
the last of an array of tables; tables missing on the way come into being. -/
def descend (change : Members → Option Members) : List String → Members → Option Members
  | [], members => change members
  | name :: path, members =>
    match members.lookup name with
    | none => (descend change path []).map fun inner => put name (.table .passed inner) members
    | some (.table origin inner) =>
      (descend change path inner).map fun inner => put name (.table origin inner) members
    | some (.tables (last :: others)) =>
      (descend change path last).map fun last => put name (.tables (last :: others)) members
    | some _ => none

/-- Members with the table of a header opened: it must be new, or known only as a part of longer
headers. -/
def openTable (name : String) (members : Members) : Option Members :=
  match members.lookup name with
  | none => some (put name (.table .header []) members)
  | some (.table .passed inner) => some (put name (.table .header inner) members)
  | some _ => none

/-- Members with a further table in an array of tables. -/
def openElement (name : String) (members : Members) : Option Members :=
  match members.lookup name with
  | none => some (put name (.tables [[]]) members)
  | some (.tables elements) => some (put name (.tables ([] :: elements)) members)
  | some _ => none

mutual

/-- The value that a part of a document amounts to. -/
def Node.toValue : Node → Value
  | .value v => v
  | .table _ members => .table (membersToValues members)
  | .tables elements => .array (elementsToValues elements).reverse

/-- The values of the members of a table. -/
def membersToValues : List (String × Node) → List (String × Value)
  | [] => []
  | m :: rest => (m.1, m.2.toValue) :: membersToValues rest

/-- The tables of an array of tables. -/
def elementsToValues : List (List (String × Node)) → List Value
  | [] => []
  | e :: rest => .table (membersToValues e) :: elementsToValues rest

end

mutual

/-- Whether every integer of a value lies within bounds. -/
def Value.within (low high : Int) : Value → Bool
  | .integer n => low ≤ n && n ≤ high
  | .array items => itemsWithin low high items
  | .table members => membersWithin low high members
  | _ => true

/-- `within` for the items of an array. -/
def itemsWithin (low high : Int) : List Value → Bool
  | [] => true
  | v :: rest => v.within low high && itemsWithin low high rest

/-- `within` for the members of a table. -/
def membersWithin (low high : Int) : List (String × Value) → Bool
  | [] => true
  | m :: rest => m.2.within low high && membersWithin low high rest

end

end TenantSettings.Toml
