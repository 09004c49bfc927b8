/-!
# TOML values

What a TOML document says is a tree of values. A table remembers how it came to be, because that
decides what later lines may add to it; it does not change what the table says. Dates, times and
numbers with a fraction or an exponent are kept as they are spelled.

## Main definitions

* `Toml.Value`, `Toml.Table`: values and tables
* `Toml.Origin`: how a table came to be
* `Toml.Table.find`, `Toml.Table.put`: one entry of a table
-/

namespace SourceGuard.Toml

/-- How a table came to be. -/
inductive Origin where
  /-- It has a header of its own. -/
  | headed
  /-- A longer header, or the header of an element below it, implies it. -/
  | implied
  /-- A dotted key implies it. -/
  | dotted
  /-- It stands in braces. -/
  | inline
deriving DecidableEq, Repr

/-- A value. -/
inductive Value where
  /-- A text. -/
  | text (s : String)
  /-- A whole number. -/
  | integer (n : Int)
  /-- A number with a fraction or an exponent, or one that is none, by its spelling. -/
  | float (spelling : String)
  /-- A truth value. -/
  | boolean (b : Bool)
  /-- A date, a time or both, by its spelling. -/
  | moment (spelling : String)
  /-- A list in brackets. -/
  | list (items : List Value)
  /-- A table. -/
  | table (origin : Origin) (entries : List (String × Value))
  /-- The tables of a repeated header. -/
  | tables (elements : List (List (String × Value)))
deriving Inhabited

/-- The entries of a table, in the order in which their keys first appear. -/
abbrev Table := List (String × Value)

namespace Table

/-- The value of a key. -/
def find (key : String) : Table → Option Value
  | [] => none
  | (name, v) :: rest => if name = key then some v else find key rest

/-- The table with another value of a key, at the end if the key is new. -/
def put (key : String) (v : Value) : Table → Table
  | [] => [(key, v)]
  | (name, w) :: rest => if name = key then (name, v) :: rest else (name, w) :: put key v rest

@[simp] theorem find_nil (key : String) : find key [] = none := rfl

theorem find_cons (key name : String) (v : Value) (rest : Table) :
    find key ((name, v) :: rest) = if name = key then some v else find key rest := rfl

/-- What a look-up finds in a table with another value of a key. -/
theorem find_put (key other : String) (v : Value) :
    (t : Table) → find other (put key v t) = if other = key then some v else find other t
  | [] => by by_cases h : key = other <;> simp [put, find_cons, h, Ne.symm]
  | (name, w) :: rest => by
    have ih := find_put key other v rest
    by_cases hname : name = key
    · subst hname
      by_cases h : other = name <;> simp [put, find_cons, h, eq_comm]
    · by_cases h : name = other
      · subst h
        simp [put, find_cons, hname]
      · simp [put, find_cons, hname, h, ih]

end Table

end SourceGuard.Toml
