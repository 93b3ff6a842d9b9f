import EscapeOnce.Text

/-!
# Dictionaries

A dictionary is the list of its entries in the order in which their keys first came.  Writing to a
key that is present changes its value and moves nothing.  `Dict.sortedOf` builds a dictionary in
the order of its keys instead.  Both keep the last value written to a key, and no key twice.
-/

namespace EscapeOnce

/-- The entries of a dictionary, in order. -/
abbrev Dict (α : Type) := List (Text × α)

namespace Dict

variable {α : Type}

/-- The value under a key. -/
def get? (d : Dict α) (key : Text) : Option α := d.lookup key

/-- The keys, in order. -/
def keys (d : Dict α) : List Text := d.map Prod.fst

/-- Writes a value under a key; a new key goes to the end. -/
def insert (key : Text) (value : α) : Dict α → Dict α
  | [] => [(key, value)]
  | (k, v) :: rest => if k = key then (k, value) :: rest else (k, v) :: insert key value rest

/-- Writes the entries of a list, from the first to the last, into a dictionary. -/
def insertAll (d : Dict α) (entries : List (Text × α)) : Dict α :=
  entries.foldl (fun d (key, value) => d.insert key value) d

/-- The dictionary of a list of entries: a repeated key keeps its first place and its last
value. -/
def ofList (entries : List (Text × α)) : Dict α := insertAll [] entries

/-- Writes a value under a key of a dictionary in key order, which keeps it so. -/
def insertSorted (key : Text) (value : α) : Dict α → Dict α
  | [] => [(key, value)]
  | (k, v) :: rest =>
    match key.compare k with
    | .lt => (key, value) :: (k, v) :: rest
    | .eq => (k, value) :: rest
    | .gt => (k, v) :: insertSorted key value rest

/-- The dictionary of a list of entries in the order of its keys: a repeated key has its last
value. -/
def sortedOf (entries : List (Text × α)) : Dict α :=
  entries.foldl (fun d (key, value) => d.insertSorted key value) []

end Dict

end EscapeOnce
