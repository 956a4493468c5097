import ExtraMetas.Value.Arithmetic

/-!
# ExtraMetas.Account.Role

The **role** of an account in an instruction: may it be written, must it sign. A role is the pair
of these two flags (`ofFlags_flags`), with a number for each of the four pairs.
-/

namespace ExtraMetas

/-- The privileges with which an account is passed. -/
inductive Role
  | readonly
  | writable
  | readonlySigner
  | writableSigner
deriving DecidableEq

namespace Role

/-- The role with the given privileges. -/
def ofFlags (isSigner isWritable : Bool) : Role :=
  match isSigner, isWritable with
  | false, false => readonly
  | false, true => writable
  | true, false => readonlySigner
  | true, true => writableSigner

/-- Must the account sign? -/
def isSigner : Role → Bool
  | readonly | writable => false
  | readonlySigner | writableSigner => true

/-- May the account be written? -/
def isWritable : Role → Bool
  | readonly | readonlySigner => false
  | writable | writableSigner => true

@[simp] theorem isSigner_ofFlags (s w : Bool) : (ofFlags s w).isSigner = s := by
  cases s <;> cases w <;> rfl

@[simp] theorem isWritable_ofFlags (s w : Bool) : (ofFlags s w).isWritable = w := by
  cases s <;> cases w <;> rfl

@[simp] theorem ofFlags_flags (r : Role) : ofFlags r.isSigner r.isWritable = r := by
  cases r <;> rfl

/-- The number of a role: signing counts two, writing one. -/
def code (r : Role) : Nat :=
  (if r.isSigner then 2 else 0) + (if r.isWritable then 1 else 0)

/-- Every role, in the order of its number. -/
def all : List Role :=
  [readonly, writable, readonlySigner, writableSigner]

/-- The name of a role. -/
def name : Role → String
  | readonly => "READONLY"
  | writable => "WRITABLE"
  | readonlySigner => "READONLY_SIGNER"
  | writableSigner => "WRITABLE_SIGNER"

/-- The role of the given name. -/
def ofName? (s : String) : Option Role :=
  all.find? (·.name == s)

/-- The role whose number is `v`, for a value of any kind. -/
def ofValue? (v : Value) : Option Role :=
  v.number?.bind fun x => all.find? fun r => x.rational? == some (r.code : Rat)

/-- The wording of the refusal of a value that is no role's number. -/
def invalidMessage (v : Value) : String :=
  v.literal ++ " is not a valid AccountRole"

end Role

end ExtraMetas
