import ExtraMetas.Decimal.Extended

/-!
# ExtraMetas.Toml.Value

The **values of a TOML document**: a tree of tables. A table is a list of entries with different
keys, in the order in which they were written. `Table.update` reaches the table at a path and
creates the tables on the way; where the path meets an array of tables, it goes on in the last.
-/

namespace ExtraMetas.Toml

/-- A value of a document. -/
inductive Value
  | text (s : String)
  | integer (n : Int)
  /-- A number with a fraction or an exponent, an infinity, or no number. -/
  | float (x : Extended)
  | boolean (b : Bool)
  /-- A date, a time of day, or both. -/
  | moment
  | array (items : List Value)
  | table (entries : List (String × Value))

/-- The entries of a table. -/
abbrev Table := List (String × Value)

/-- The keys that lead from one table to another. -/
abbrev Path := List String

mutual

/-- Is the one value the other? -/
def Value.decEq (v w : Value) : Decidable (v = w) :=
  if h : v.ctorIdx = w.ctorIdx then
    match v, w, h with
    | .text s, .text t, _ => decidable_of_iff (s = t) (by simp)
    | .integer m, .integer n, _ => decidable_of_iff (m = n) (by simp)
    | .float x, .float y, _ => decidable_of_iff (x = y) (by simp)
    | .boolean a, .boolean b, _ => decidable_of_iff (a = b) (by simp)
    | .moment, .moment, _ => isTrue rfl
    | .array items, .array items', _ =>
      have := Value.decEqItems items items'
      decidable_of_iff (items = items') (by simp)
    | .table entries, .table entries', _ =>
      have := Value.decEqEntries entries entries'
      decidable_of_iff (entries = entries') (by simp)
  else isFalse fun heq => h (by rw [heq])

def Value.decEqItems : (items items' : List Value) → Decidable (items = items')
  | [], [] => isTrue rfl
  | [], _ :: _ => isFalse (by simp)
  | _ :: _, [] => isFalse (by simp)
  | v :: items, w :: items' =>
    have := v.decEq w
    have := Value.decEqItems items items'
    decidable_of_iff (v = w ∧ items = items') (by simp)

def Value.decEqEntries : (entries entries' : List (String × Value)) →
    Decidable (entries = entries')
  | [], [] => isTrue rfl
  | [], _ :: _ => isFalse (by simp)
  | _ :: _, [] => isFalse (by simp)
  | (key, v) :: entries, (key', w) :: entries' =>
    have := v.decEq w
    have := Value.decEqEntries entries entries'
    decidable_of_iff ((key = key' ∧ v = w) ∧ entries = entries') (by simp)

end

instance : DecidableEq Value :=
  Value.decEq

/-- Does a value count as set? Zero, false and everything empty do not. -/
def Value.isSet : Value → Bool
  | text s => !s.isEmpty
  | integer n => n != 0
  | float x => !x.isZero
  | boolean b => b
  | moment => true
  | array items => !items.isEmpty
  | table entries => !entries.isEmpty

namespace Table

/-- The table with the value of an existing key replaced. -/
def set (t : Table) (key : String) (v : Value) : Table :=
  t.map fun (k, old) => if k = key then (k, v) else (k, old)

/-- The table with one more entry, unless it has the key already. -/
def add (t : Table) (key : String) (v : Value) : Option Table :=
  if t.any (·.1 = key) then none else some (t ++ [(key, v)])

/-- The table with `f` applied to the table at `path`. Tables missing on the path are created;
another value on it is in the way. `throughArrays` lets the path enter the last table of an
array. -/
def update (throughArrays : Bool) (f : Table → Option Table) : Path → Table → Option Table
  | [], t => f t
  | key :: path, t =>
    match t.lookup key with
    | none => (update throughArrays f path []).map fun child => t ++ [(key, .table child)]
    | some (.table child) =>
      (update throughArrays f path child).map fun child => set t key (.table child)
    | some (.array items) =>
      match if throughArrays then items.getLast? else none with
      | some (.table child) =>
        (update throughArrays f path child).map fun child =>
          set t key (.array (items.dropLast ++ [.table child]))
      | _ => none
    | some _ => none

/-- One more empty table at the end of the array of tables under `key`. -/
def appendTable (key : String) (t : Table) : Option Table :=
  match t.lookup key with
  | none => some (t ++ [(key, .array [.table []])])
  | some (.array items) => some (set t key (.array (items ++ [.table []])))
  | some _ => none

end Table

end ExtraMetas.Toml
