import ExtraMetas.Account.Meta

/-!
# ExtraMetas.Account.Known

The **known accounts** of a resolution: the base accounts, then every extra account in the order in
which it was resolved. An index may name only an account that is known already, so a seed cannot
refer to its own entry or a later one.

A resolution knows accounts with their roles, a `Known Meta`. A caller may build a list of its own
and put anything behind the accounts it started from, a `Known MetaLike`; only an account with a
role then has an address (`MetaLike.address`).
-/

namespace ExtraMetas

/-- The accounts known so far, in order. -/
structure Known (α : Type) where
  toList : List α
deriving DecidableEq

/-- Why an index names no account. -/
inductive KnownError
  /-- The index lies outside the accounts known. -/
  | unresolved (index : Value) (count : Nat)
  /-- The index is of a kind that counts nothing, or is too long to be named. -/
  | indexKind (e : OperandError)
  /-- What the index names has no address. -/
  | noAddress (kind : String)

/-- The wording of a refused index. -/
def KnownError.message : KnownError → String
  | unresolved index count =>
    "account index " ++ index.literal ++ s!" is not resolved ({count} accounts known)"
  | indexKind e => e.message
  | noAddress kind => "'" ++ kind ++ "' object has no attribute 'address'"

namespace Known

variable {α : Type}

/-- How many accounts are known. -/
def size (k : Known α) : Nat :=
  k.toList.length

/-- The accounts with one more at the end. -/
def push (k : Known α) (a : α) : Known α :=
  ⟨k.toList ++ [a]⟩

@[simp] theorem toList_push (k : Known α) (a : α) : (k.push a).toList = k.toList ++ [a] := rfl

/-- The refusal of an index outside the accounts known. The message names the index, so an index
that cannot be written down is an error of its own. -/
def outside (k : Known α) (index : Value) : KnownError :=
  if index.isWritable then .unresolved index k.size else .indexKind .tooLong

/-- The account at `index`. -/
def get (k : Known α) (index : Value) : Except KnownError α :=
  match index.integer? with
  | some n =>
    match if n < 0 then none else k.toList[n.toNat]? with
    | some a => .ok a
    | none => .error (k.outside index)
  | none =>
    match index.comparable "<" with
    | .error e => .error (.indexKind e)
    | .ok x =>
      if x.isOutside k.size then .error (k.outside index)
      else .error (.indexKind (.listPosition index.kind))

theorem get_ofNat {k : Known α} {i : Nat} {a : α} :
    k.get (.int i) = .ok a ↔ k.toList[i]? = some a := by
  have hi : ¬ ((i : Int) < 0) := by omega
  simp only [get, Value.integer?_int, hi, if_false, Int.toNat_natCast]
  cases k.toList[i]? <;> simp

/-- The accounts that a caller hands over; the first that is none is refused. -/
def ofMetas (metas : List MetaLike) : Except NotMeta (Known Meta) :=
  (metas.mapM MetaLike.toMeta).map (⟨·⟩)

/-- The address of the account at `index`. -/
def key (k : Known Meta) (index : Value) : Except KnownError Pubkey :=
  (k.get index).map Meta.address

/-! ### A caller's own list -/

/-- The list that starts from known accounts. -/
def toLoose (k : Known Meta) : Known MetaLike :=
  ⟨k.toList.map .ofMeta⟩

/-- The address of what a caller put at `index`, if that is an account with a role. -/
def looseKey (k : Known MetaLike) (index : Value) : Except KnownError Pubkey :=
  match k.get index with
  | .error e => .error e
  | .ok a =>
    match a.address with
    | .ok address => .ok address
    | .error kind => .error (.noAddress kind)

end Known

end ExtraMetas
