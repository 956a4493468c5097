import ExtraMetas.Value.Arithmetic
import ExtraMetas.Pubkey

/-!
# ExtraMetas.Account.Ledger

What a **ledger** answers for an address, and the account that the answer means.

A ledger may describe an account in several ways (`Reply`). All of them come down to two cases,
a missing account or one with data (`Account`), or to a refusal (`CoerceError`). The rule that
decides is in one place, `Reply.toAccount`: whatever is described as not existing is missing,
whatever else is said about it.
-/

namespace ExtraMetas

/-- An account as read from a ledger. One that does not exist may still come with left-over
data, which nobody reads. -/
structure Account where
  present : Bool
  data : Bytes
deriving DecidableEq

/-- The account that does not exist. -/
def Account.missing : Account :=
  ⟨false, []⟩

/-- The data field of a described account. -/
inductive Datum
  /-- Bytes as such. -/
  | bytes (b : Bytes)
  /-- Some other value. -/
  | value (v : Value)

/-- What a ledger answers. -/
inductive Reply
  /-- Nothing. -/
  | missing
  /-- The data alone. -/
  | raw (data : Bytes)
  /-- An account, ready made. -/
  | account (a : Account)
  /-- A description, by key or by attribute: the name of its kind, whether the account exists, which
  it does unless it says otherwise, and its data. -/
  | described (kind : String) (present? : Option Value) (data? : Option Datum)
  /-- A value of a kind that describes no account. -/
  | other (v : Value)

/-- A plain value as a ledger's answer: a record is a description by key. -/
def Reply.ofValue : Value → Reply
  | .null => missing
  | .record fields =>
    described (Value.record fields).kind (fields.lookup "exists")
      ((fields.lookup "data").map .value)
  | v => other v

/-- Why an answer means no account. -/
inductive CoerceError
  /-- Nothing says what the data is. -/
  | unsupported (kind : String)
  /-- A count of bytes below zero. -/
  | negativeCount
  /-- A count of bytes beyond every address. -/
  | countTooLarge
  /-- A count of bytes that no byte string has. -/
  | sizeTooLarge
  /-- A number that is no byte. -/
  | byteRange
  /-- A text, which is bytes only under an encoding. -/
  | textWithoutEncoding
  /-- A value that is no sequence of bytes. -/
  | notBytes (kind : String)
  /-- An item that is no number. -/
  | item (e : OperandError)
deriving DecidableEq

/-- The wording of a refusal. -/
def CoerceError.message : CoerceError → String
  | unsupported kind => "fetch port returned unsupported value: " ++ kind
  | negativeCount => "negative count"
  | countTooLarge => "cannot fit 'int' into an index-sized integer"
  | sizeTooLarge => "byte string is too large"
  | byteRange => "bytes must be in range(0, 256)"
  | textWithoutEncoding => "string argument without an encoding"
  | notBytes kind => "cannot convert '" ++ kind ++ "' object to bytes"
  | item e => e.message

/-! ### Data -/

/-- The most bytes that a byte string has: 64-bit sizes, less the 33 bytes around its content. -/
def maxByteCount : Int := 0x7FFFFFFFFFFFFFFF - 33

/-- As many zero bytes as `n` counts. -/
def zeroBytes (n : Int) : Except CoerceError Bytes :=
  if n < -0x8000000000000000 ∨ 0x8000000000000000 ≤ n then .error .countTooLarge
  else if n < 0 then .error .negativeCount
  else if maxByteCount < n then .error .sizeTooLarge
  else .ok (List.replicate n.toNat 0)

/-- The byte that an item of a list is. -/
def itemByte (v : Value) : Except CoerceError UInt8 :=
  match v.integer? with
  | some n => if 0 ≤ n ∧ n ≤ 255 then .ok (UInt8.ofNat n.toNat) else .error .byteRange
  | none => .error (.item (.notInteger v.kind))

/-- The bytes that a value means as account data: a number counts zero bytes, a list holds the
bytes, a record its field names. -/
def dataOfValue (v : Value) : Except CoerceError Bytes :=
  match v with
  | .text _ => .error .textWithoutEncoding
  | .list items => items.mapM itemByte
  | .record [] => .ok []
  | .record _ => .error (.item (.notInteger (Value.text "").kind))
  | _ =>
    match v.integer? with
    | some n => zeroBytes n
    | none => .error (.notBytes v.kind)

/-! ### Answers -/

/-- The account that a ledger's answer means. -/
def Reply.toAccount : Reply → Except CoerceError Account
  | missing => .ok .missing
  | raw data => .ok ⟨true, data⟩
  | account a => .ok a
  | described kind present? data? =>
    if (present?.map Value.isSet).getD true then
      match data? with
      | none | some (.value .null) => .error (.unsupported kind)
      | some (.bytes b) => .ok ⟨true, b⟩
      | some (.value v) => (dataOfValue v).map (⟨true, ·⟩)
    else .ok .missing
  | other v => .error (.unsupported v.kind)

/-! ### Ledgers -/

/-- A failure that a ledger or a client reports, by the name of its kind. It is passed on
unchanged. -/
structure Failure where
  kind : String
  message : String
deriving DecidableEq

/-- A ledger: what it answers, or how it fails, for each address. -/
abbrev Ledger := Pubkey → Except Failure Reply

/-- A ledger that may change between two fetches: the ledger that is met after the given calls. -/
abbrev Port := List Pubkey → Ledger

/-- Why fetching an address gave no account. -/
inductive FetchError
  /-- The ledger failed. -/
  | failed (e : Failure)
  /-- The ledger's answer means no account. -/
  | refused (e : CoerceError)
deriving DecidableEq

/-- The account that a ledger gives for an address. -/
def Ledger.account (ledger : Ledger) (address : Pubkey) : Except FetchError Account :=
  match ledger address with
  | .error e => .error (.failed e)
  | .ok value =>
    match value.toAccount with
    | .error e => .error (.refused e)
    | .ok a => .ok a

end ExtraMetas
