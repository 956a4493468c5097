import ExtraMetas.Account.Role
import ExtraMetas.Pubkey

/-!
# ExtraMetas.Account.Meta

**Account metas**: an address with the privileges with which it is passed. The same content has
two forms, with a role (`Meta`) and with two flags (`FlaggedMeta`); a caller may hand over either
(`MetaLike`), and both mean the same (`toMeta_toFlagged`).
-/

namespace ExtraMetas

/-- An account to pass, with its role. -/
structure Meta where
  address : Pubkey
  role : Role
deriving DecidableEq

/-- An account to pass, with its privileges as flags. -/
structure FlaggedMeta where
  address : Pubkey
  isSigner : Bool
  isWritable : Bool
deriving DecidableEq

/-- The account passed without privileges. -/
def Meta.readonly (address : Pubkey) : Meta :=
  ⟨address, .readonly⟩

/-- The form with flags. -/
def Meta.toFlagged (m : Meta) : FlaggedMeta :=
  ⟨m.address, m.role.isSigner, m.role.isWritable⟩

/-- The form with a role. -/
def FlaggedMeta.toMeta (m : FlaggedMeta) : Meta :=
  ⟨m.address, .ofFlags m.isSigner m.isWritable⟩

@[simp] theorem toMeta_toFlagged (m : Meta) : m.toFlagged.toMeta = m := by
  simp [Meta.toFlagged, FlaggedMeta.toMeta]

@[simp] theorem toFlagged_toMeta (m : FlaggedMeta) : m.toMeta.toFlagged = m := by
  simp [Meta.toFlagged, FlaggedMeta.toMeta]

/-- What a caller hands over as an account meta. -/
inductive MetaLike
  | ofMeta (m : Meta)
  | ofFlagged (m : FlaggedMeta)
  | other (v : Value)

/-- A value that is no account meta, by its kind. -/
structure NotMeta where
  kind : String
deriving DecidableEq

/-- The wording of the refusal. -/
def NotMeta.message (e : NotMeta) : String :=
  "expected an account meta, got " ++ e.kind

/-- The account meta that was handed over. -/
def MetaLike.toMeta : MetaLike → Except NotMeta Meta
  | ofMeta m => .ok m
  | ofFlagged m => .ok m.toMeta
  | other v => .error ⟨v.kind⟩

/-- The address of what was handed over. Only the form with a role has one under that name; of
everything else the name of its kind is given. -/
def MetaLike.address : MetaLike → Except String Pubkey
  | ofMeta m => .ok m.address
  | ofFlagged _ => .error "solders.instruction.AccountMeta"
  | other v => .error v.kind

end ExtraMetas
