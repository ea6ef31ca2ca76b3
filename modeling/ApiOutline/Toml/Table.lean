/-
Tables.

A document is a table of tables. A header opens a table, or a further one in a list of them, and
the keys below it go there. A table that was only led through may be opened once later on; one
that was opened may not. Nothing is ever replaced.
-/
import ApiOutline.Value.Access

set_option autoImplicit false

namespace ApiOutline.Toml

open Value (Entries lookup)

/-- The tables read so far. -/
structure Draft where
  entries : Entries
  /-- The names that lead to the table in which keys go. -/
  place : List String
  /-- Names of tables that headers led through before they were opened. -/
  implied : List String

namespace Draft

def empty : Draft := ⟨[], [], []⟩

/-! ## Keys -/

/-- A table with a value under a path, which nothing may be in the way of. -/
def assign (v : Value) : List String → Entries → Option Entries
  | [], _ => none
  | [name], es => if (lookup (.str name) es).isSome then none else some (es.set name v)
  | name :: rest, es =>
    match lookup (.str name) es with
    | none => (assign v rest []).map fun inner => es.set name (.object inner)
    | some (.object inner) => (assign v rest inner).map fun inner => es.set name (.object inner)
    | some _ => none

/-- A list with its last item changed. The item has to be a table. -/
def changeLast (f : Entries → Option Entries) (xs : List Value) : Option (List Value) :=
  match xs.getLast? with
  | some (.object inner) => (f inner).map fun inner => xs.dropLast ++ [.object inner]
  | _ => none

/-- The entries with the table at a place changed. A list of tables stands for its last one. -/
def changeAt (f : Entries → Option Entries) : List String → Entries → Option Entries
  | [], es => f es
  | name :: rest, es =>
    match lookup (.str name) es with
    | some (.object inner) =>
      (changeAt f rest inner).map fun inner => es.set name (.object inner)
    | some (.list xs) => (changeLast (changeAt f rest) xs).map fun xs => es.set name (.list xs)
    | _ => none

/-- The draft with a value under a path in the table that was opened last. -/
def put (d : Draft) (path : List String) (v : Value) : Option Draft :=
  (changeAt (assign v path) d.place d.entries).map fun es => { d with entries := es }

/-! ## Headers -/

/-- What a table holds after a header was read that leads into it, and the names that are implied
then. `many` tells that the header opens a further table in a list. `lenient` tells that the way
has come out of a list without the header being of that kind; then the next name may have been
opened before. -/
def enter (many lenient : Bool) (implied : List String) :
    List String → Entries → Option (Entries × List String)
  | [], es => some (es, implied)
  | name :: rest, es =>
    let isLast := rest.isEmpty
    let into (inner : Entries) (implied : List String) (lenient : Bool) :=
      enter many lenient implied rest inner
    match lookup (.str name) es with
    | none =>
      if isLast then
        some (es.set name (if many then .list [.object []] else .object []), implied)
      else do
        let (inner, implied) ← into [] (if lenient then implied else name :: implied) false
        return (es.set name (.object inner), implied)
    | some v =>
      if isLast && lenient then some (es, implied)
      else if isLast && implied.contains name then
        if many then none else some (es, implied.erase name)
      else
        match v with
        | .object inner =>
          if isLast then none
          else do
            let (inner, implied) ← into inner implied false
            return (es.set name (.object inner), implied)
        | .list xs =>
          if isLast then
            if many then some (es.set name (.list (xs ++ [.object []])), implied) else none
          else
            match xs.getLast? with
            | some (.object inner) => do
              let (inner, implied) ← into inner implied (!many)
              return (es.set name (.list (xs.dropLast ++ [.object inner])), implied)
            | _ => none
        | _ => none

/-- The draft after a header. -/
def openTable (d : Draft) (many : Bool) (names : List String) : Option Draft :=
  (enter many false d.implied names d.entries).map fun (es, implied) => ⟨es, names, implied⟩

end Draft

end ApiOutline.Toml
