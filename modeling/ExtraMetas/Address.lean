import ExtraMetas.Curve
import ExtraMetas.Hash.Sha256

/-!
# ExtraMetas.Address

**Program-derived addresses.** An address is derived from seeds and a program by hashing the seeds,
the program and a marker, one after the other. It must not be a point of the curve, so that nobody
holds a private key for it; the search appends a last seed of one byte, the *bump*, and takes the
first of 255, 254, …, 0 whose candidate is off the curve.

Design points:

* The hash and the curve test are a parameter (`Scheme`), since nothing about the search depends
  on which they are. `Scheme.standard` is the pair in use.
* A search says which bumps it tried (`Search`), not only what it found.
-/

namespace ExtraMetas.Address

/-- The most seeds of a derivation, the bump included. -/
def maxSeeds : Nat := 16

/-- The most bytes of a seed. -/
def maxSeedSize : Nat := 32

/-- The bytes that end every hashed string. -/
def marker : Bytes := Bytes.ofAscii "ProgramDerivedAddress"

/-- What a derivation hashes with, and which keys it avoids. -/
structure Scheme where
  digest : Bytes → Pubkey
  onCurve : Pubkey → Bool

/-- SHA-256, and the points of the curve. -/
def Scheme.standard : Scheme where
  digest b := ⟨Sha256.digest b, Sha256.length_digest b⟩
  onCurve := Curve.contains

/-- Why no address was derived. -/
inductive Error
  /-- More seeds than a derivation takes. -/
  | tooManySeeds (count : Nat)
  /-- The seed at `index` is longer than a seed may be. -/
  | seedTooLong (index size : Nat)
  /-- The seeds as given lead to a point of the curve. -/
  | onCurve
  /-- Every bump leads to a point of the curve. -/
  | exhausted (count : Nat) (program : Pubkey)
deriving DecidableEq

/-- The wording of a failed derivation. -/
def Error.message : Error → String
  | tooManySeeds count => s!"{count} seeds exceed the limit of {maxSeeds}"
  | seedTooLong index size => s!"seed {index} is {size} bytes, more than {maxSeedSize}"
  | onCurve => "derived address lies on the ed25519 curve"
  | exhausted count program =>
    s!"no off-curve address for {count} seeds under " ++ program.text

/-- Refuse too many seeds first, then the first seed that is too long. -/
def checkSeeds (seeds : List Bytes) : Except Error Unit :=
  if maxSeeds < seeds.length then .error (.tooManySeeds seeds.length)
  else match seeds.zipIdx.find? (fun (seed, _) => maxSeedSize < seed.length) with
    | some (seed, index) => .error (.seedTooLong index seed.length)
    | none => .ok ()

/-- The string that is hashed for the seeds under a program. -/
def preimage (seeds : List Bytes) (program : Pubkey) : Bytes :=
  seeds.flatten ++ program.bytes ++ marker

/-- The address that the seeds lead to under a program, on the curve or not. -/
def candidate (scheme : Scheme) (seeds : List Bytes) (program : Pubkey) : Pubkey :=
  scheme.digest (preimage seeds program)

/-- The address of exactly these seeds. -/
def create (scheme : Scheme) (seeds : List Bytes) (program : Pubkey) : Except Error Pubkey := do
  checkSeeds seeds
  let address := candidate scheme seeds program
  if scheme.onCurve address then .error .onCurve else .ok address

/-! ### The search for a bump -/

/-- The outcome of a search: the bumps tried, in order, and the address with its bump. -/
structure Search where
  tried : List UInt8
  found : Option (Pubkey × UInt8)

/-- Try the given bumps in order until one leads off the curve. -/
def searchAmong (scheme : Scheme) (seeds : List Bytes) (program : Pubkey) : List UInt8 → Search
  | [] => ⟨[], none⟩
  | bump :: rest =>
    let address := candidate scheme (seeds ++ [[bump]]) program
    if scheme.onCurve address then
      let later := searchAmong scheme seeds program rest
      ⟨bump :: later.tried, later.found⟩
    else ⟨[bump], some (address, bump)⟩

/-- Every bump, from 255 down to 0. -/
def bumps : List UInt8 :=
  (List.range 256).reverse.map UInt8.ofNat

/-- Search all bumps, for seeds that leave room for one more. -/
def search (scheme : Scheme) (seeds : List Bytes) (program : Pubkey) : Except Error Search := do
  checkSeeds (seeds ++ [[]])
  return searchAmong scheme seeds program bumps

/-- The first address off the curve, with its bump. -/
def find (scheme : Scheme) (seeds : List Bytes) (program : Pubkey) :
    Except Error (Pubkey × UInt8) := do
  match (← search scheme seeds program).found with
  | some hit => .ok hit
  | none => .error (.exhausted seeds.length program)

end ExtraMetas.Address
