/-!
# Dictionaries

A list of names with values, in the order of the names, in which each name stands once.

* `Dictionary.insert` puts a value in its place, `Dictionary.get?` looks one up;
* `Dictionary.ofList` and `Dictionary.merge` let the last value of a name win.
-/

namespace Autofix

abbrev Dictionary (α : Type) := List (String × α)

namespace Dictionary

variable {α β : Type}

/-- Puts a value in its place by name; a value of the same name is replaced. -/
def insert (name : String) (value : α) : Dictionary α → Dictionary α
  | [] => [(name, value)]
  | (other, v) :: rest =>
    if name = other then (name, value) :: rest
    else if name < other then (name, value) :: (other, v) :: rest
    else (other, v) :: insert name value rest

/-- The value of a name. -/
def get? (d : Dictionary α) (name : String) : Option α := d.lookup name

def names (d : Dictionary α) : List String := d.map (·.1)

/-- A dictionary with further entries, which replace those of the same name. -/
def merge (d : Dictionary α) (entries : List (String × α)) : Dictionary α :=
  entries.foldl (fun d entry => insert entry.1 entry.2 d) d

def ofList (entries : List (String × α)) : Dictionary α := merge [] entries

end Dictionary

end Autofix
