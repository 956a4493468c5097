import ExtraMetas.Proofs.Address.Search
import ExtraMetas.Proofs.Resolution.Inquiry

/-!
# ExtraMetas.Proofs.Resolution.ClosedForm

**When one entry resolves, and to what** (`resolveEntry_closedForm`), over a ledger that does not
change, for every entry whose numbers are bytes.

The resolver meets its limits one by one: an index that is not known, a range that ends beyond the
data, an account that is not there, too many seeds, a seed that is too long, no bump off the curve.
Here they stand side by side (`Recipe.Resolvable`), next to what the address is when they all hold
(`Recipe.LeadsTo`). The walk through the resolver adds up conditions of success
(`Run.SucceedsIff`), one lemma for each of its functions.

The cache in front of the ledger may hold anything that the ledger would answer again
(`Session.TrueTo`), so the entry may stand anywhere in a run.
-/

namespace ExtraMetas

/-! ### What is there to be read -/

/-- The data of the account at an address, if the ledger gives an account that exists. -/
def Ledger.data? (ledger : Ledger) (address : Pubkey) : Option Bytes :=
  match ledger.account address with
  | .ok a => a.content?
  | .error _ => none

/-- What the session has of an account is what the ledger gives. -/
def Session.TrueTo (ledger : Ledger) (s : Session) : Prop :=
  ∀ address a, s.find? address = some a → ledger.account address = .ok a

theorem Session.trueTo_empty (ledger : Ledger) : Session.empty.TrueTo ledger :=
  fun _ _ h => nomatch h

theorem Session.TrueTo.addAccount {ledger : Ledger} {s : Session} (h : s.TrueTo ledger)
    {address : Pubkey} {a : Account} (ha : ledger.account address = .ok a) :
    (s.addAccount address a).TrueTo ledger := by
  intro other b hother
  rw [Session.find?_addAccount] at hother
  split at hother
  · rename_i heq
    cases hother
    rw [heq, ha]
  · exact h other b hother

namespace Scope

/-- The address of the known account at an index. -/
def keyAt (scope : Scope) (index : Nat) : Pubkey :=
  ((scope.known.toList[index]?).map Meta.address).getD .zero

/-- The data of the known account at an index. -/
def dataAt (scope : Scope) (ledger : Ledger) (index : Nat) : Bytes :=
  (ledger.data? (scope.keyAt index)).getD []

theorem dataAt_of_data? {scope : Scope} {ledger : Ledger} {index : Nat} {data : Bytes}
    (h : ledger.data? (scope.keyAt index) = some data) : scope.dataAt ledger index = data := by
  rw [dataAt, h, Option.getD_some]

/-- The account at an index is known and exists, and has at least `need` bytes of data. -/
def Covers (scope : Scope) (ledger : Ledger) (index need : Nat) : Prop :=
  index < scope.known.size ∧
    ∃ data, ledger.data? (scope.keyAt index) = some data ∧ need ≤ data.length

/-- The conditions in the order in which a read meets them. -/
theorem covers_iff {scope : Scope} {ledger : Ledger} {index need : Nat} :
    scope.Covers ledger index need ↔ index < scope.known.size ∧
      (∃ data, ledger.data? (scope.keyAt index) = some data) ∧
        need ≤ (scope.dataAt ledger index).length := by
  refine and_congr_right fun _ => ?_
  constructor
  · rintro ⟨data, hdata, hfit⟩
    exact ⟨⟨data, hdata⟩, by rwa [dataAt_of_data? hdata]⟩
  · rintro ⟨⟨data, hdata⟩, hfit⟩
    rw [dataAt_of_data? hdata] at hfit
    exact ⟨data, hdata, hfit⟩

end Scope

/-! ### Seeds and key sources -/

namespace Seed

/-- The account and the range that a seed names are there. -/
def Resolvable (ledger : Ledger) (scope : Scope) : Seed → Prop
  | literal _ => True
  | instructionData index length => index.toNat + length.toNat ≤ scope.instructionData.length
  | accountKey index => index.toNat < scope.known.size
  | accountData account index length =>
    scope.Covers ledger account.toNat (index.toNat + length.toNat)

/-- The bytes that a seed stands for. -/
def value (ledger : Ledger) (scope : Scope) : Seed → Bytes
  | literal value => value
  | instructionData index length => (scope.instructionData.drop index.toNat).take length.toNat
  | accountKey index => (scope.keyAt index.toNat).bytes
  | accountData account index length =>
    ((scope.dataAt ledger account.toNat).drop index.toNat).take length.toNat

end Seed

namespace KeySource

/-- The account and the 32 bytes that a key source names are there. -/
def Resolvable (ledger : Ledger) (scope : Scope) : KeySource → Prop
  | instructionData index => index.toNat + 32 ≤ scope.instructionData.length
  | accountData account index => scope.Covers ledger account.toNat (index.toNat + 32)

/-- The bytes that a key source stands for. -/
def value (ledger : Ledger) (scope : Scope) : KeySource → Bytes
  | instructionData index => (scope.instructionData.drop index.toNat).take 32
  | accountData account index => ((scope.dataAt ledger account.toNat).drop index.toNat).take 32

end KeySource

/-! ### Derived addresses -/

namespace Address

/-- The address that resolved seeds and a bump lead to under a program. -/
def derivedWith (parts : List Bytes) (bump : UInt8) (owner : Pubkey) : Pubkey where
  bytes := Sha256.digest
    (parts.flatten ++ [bump] ++ owner.bytes ++ Bytes.ofAscii "ProgramDerivedAddress")
  size_eq := Sha256.length_digest _

/-- The address is the first off the curve, for bumps from 255 down. -/
def IsFirstOffCurve (parts : List Bytes) (owner address : Pubkey) : Prop :=
  ∃ bump, address = derivedWith parts bump owner ∧ Curve.contains address = false ∧
    ∀ b, bump < b → Curve.contains (derivedWith parts b owner) = true

variable {parts : List Bytes} {bump : UInt8} {owner : Pubkey}

theorem preimage_append :
    preimage (parts ++ [[bump]]) owner =
      parts.flatten ++ [bump] ++ owner.bytes ++ Bytes.ofAscii "ProgramDerivedAddress" := by
  rw [preimage, marker, List.flatten_append, List.flatten_singleton]

theorem candidate_standard :
    candidate .standard (parts ++ [[bump]]) owner = derivedWith parts bump owner :=
  Pubkey.eq_of_bytes_eq (congrArg Sha256.digest preimage_append)

theorem taken_standard_iff :
    Taken .standard parts owner bump ↔ Curve.contains (derivedWith parts bump owner) = true := by
  rw [Taken, candidate_standard, Scheme.standard]

theorem isFirstOffCurve_of_find {address : Pubkey}
    (h : find .standard parts owner = .ok (address, bump)) :
    IsFirstOffCurve parts owner address := by
  have houtcome := find_outcome .standard parts owner
  rw [h] at houtcome
  obtain ⟨rfl, hfree, hgreater⟩ := houtcome.first
  rw [taken_standard_iff, Bool.not_eq_true] at hfree
  rw [candidate_standard]
  exact ⟨bump, rfl, hfree, fun b hb => taken_standard_iff.1 (hgreater b hb)⟩

end Address

/-- The seeds lead to an address under a program: each of them resolves, they are few and short
enough, and some bump is off the curve. -/
structure Derivable (ledger : Ledger) (scope : Scope) (owner : Pubkey) (seeds : List Seed) :
    Prop where
  resolvable : ∀ seed ∈ seeds, seed.Resolvable ledger scope
  count : seeds.length ≤ 15
  size : ∀ seed ∈ seeds, (seed.value ledger scope).length ≤ 32
  offCurve : ∃ bump,
    Curve.contains (Address.derivedWith (seeds.map (Seed.value ledger scope)) bump owner) = false

theorem derivable_iff {ledger : Ledger} {scope : Scope} {owner : Pubkey} {seeds : List Seed} :
    Derivable ledger scope owner seeds ↔ (∀ seed ∈ seeds, seed.Resolvable ledger scope) ∧
      ∃ hit, Address.find .standard (seeds.map (Seed.value ledger scope)) owner = .ok hit := by
  rw [(Address.find_outcome _ _ _).exists_ok_iff]
  simp only [Address.taken_standard_iff, Bool.not_eq_true]
  constructor
  · rintro ⟨hresolvable, hcount, hsize, hoff⟩
    refine ⟨hresolvable, ⟨by rwa [List.length_map], ?_⟩, hoff⟩
    exact List.forall_mem_map.2 hsize
  · rintro ⟨hresolvable, ⟨hcount, hsize⟩, hoff⟩
    rw [List.length_map] at hcount
    exact ⟨hresolvable, hcount, List.forall_mem_map.1 hsize, hoff⟩

/-! ### Entries -/

/-- How an account's address comes about, where every number is a byte. A descriptor holds only
some of these: its program indices have seven bits. -/
inductive Recipe
  /-- It is written down. -/
  | literal (address : Pubkey)
  /-- It is derived under the gating program. -/
  | ownSeeds (seeds : List Seed)
  /-- It is derived under the program whose key is the account at `programIndex`. -/
  | externalSeeds (programIndex : UInt8) (seeds : List Seed)
  /-- It is read from data. -/
  | keyData (source : KeySource)

namespace Recipe

/-- The entry that a caller writes for it. -/
def toDraft (flags : Flags) : Recipe → Draft
  | literal address => .literalAddress address flags
  | ownSeeds seeds => .ownSeeds (seeds.map Seed.toDraft) flags
  | externalSeeds programIndex seeds =>
    .externalSeeds (.ofByte programIndex) (seeds.map Seed.toDraft) flags
  | keyData source => .keyData source.toDraft flags

/-- Everything that the recipe names is there, and its seeds lead to an address. -/
def Resolvable (ledger : Ledger) (scope : Scope) (program : Pubkey) : Recipe → Prop
  | literal _ => True
  | ownSeeds seeds => Derivable ledger scope program seeds
  | externalSeeds programIndex seeds =>
    programIndex.toNat < scope.known.size ∧
      Derivable ledger scope (scope.keyAt programIndex.toNat) seeds
  | keyData source => source.Resolvable ledger scope

/-- The address is the one that the recipe stands for. -/
def LeadsTo (ledger : Ledger) (scope : Scope) (program : Pubkey) : Recipe → Pubkey → Prop
  | literal key, address => address = key
  | ownSeeds seeds, address =>
    Address.IsFirstOffCurve (seeds.map (Seed.value ledger scope)) program address
  | externalSeeds programIndex seeds, address =>
    Address.IsFirstOffCurve (seeds.map (Seed.value ledger scope))
      (scope.keyAt programIndex.toNat) address
  | keyData source, address => address.bytes = source.value ledger scope

end Recipe

/-! ### The walk through an entry -/

section Walk

variable {ledger : Ledger} {scope : Scope}

theorem succeedsIff_cached (address : Pubkey) :
    Run.SucceedsIff (Session.TrueTo ledger) (∃ a, ledger.account address = .ok a)
      (Lookup.cached ledger address) (ledger.account address = .ok ·) := by
  refine Lookup.triple_cachedOver_ask ?_ ?_ ?_
  · intro s a hs hfind
    exact ⟨⟨⟨a, hs address a hfind⟩, hs address a hfind⟩, hs⟩
  · intro s a hs _ ha
    exact ⟨⟨⟨a, ha⟩, ha⟩, Session.TrueTo.addAccount hs ha⟩
  · rintro s e _ _ he ⟨a, ha⟩
    rw [he] at ha
    cases ha

theorem succeedsIff_read {address : Pubkey} {a : Account}
    (ha : ledger.account address = .ok a) :
    Run.SucceedsIff (Session.TrueTo ledger) (∃ data, ledger.data? address = some data)
      (if a.present then pure a.data else throw (.accountMissing address) : Run ResolveError Bytes)
      (ledger.data? address = some ·) := by
  have hcontent : ledger.data? address = a.content? := by rw [Ledger.data?, ha]
  rw [hcontent, Account.content?]
  cases a.present with
  | true => exact Run.SucceedsIff.pure ⟨_, rfl⟩ rfl
  | false =>
      refine Run.SucceedsIff.throw ?_
      rintro ⟨data, hdata⟩
      cases hdata

theorem succeedsIff_data (address : Pubkey) :
    Run.SucceedsIff (Session.TrueTo ledger) (∃ data, ledger.data? address = some data)
      ((Lookup.cached ledger).data address) (ledger.data? address = some ·) := by
  refine ((succeedsIff_cached address).bind fun _ _ ha => succeedsIff_read ha).congr
    ⟨And.right, fun hdata => ⟨?_, hdata⟩⟩
  obtain ⟨data, hdata⟩ := hdata
  cases haccount : ledger.account address with
  | ok a => exact ⟨a, rfl⟩
  | error e =>
      rw [Ledger.data?, haccount] at hdata
      cases hdata

theorem succeedsIff_key (index : Nat) :
    Run.SucceedsIff (Session.TrueTo ledger) (index < scope.known.size)
      (scope.key (.int index)) (· = scope.keyAt index) := by
  refine Run.SucceedsIff.lift ?_ fun address haddress => ?_
  · simp only [Known.key_eq_ok_iff]
    constructor
    · rintro ⟨-, m, hm, -⟩
      exact (List.getElem?_eq_some_iff.1 hm).1
    · exact fun h => ⟨_, _, List.getElem?_eq_getElem h, rfl⟩
  · obtain ⟨m, hm, rfl⟩ := Known.key_eq_ok_iff.1 haddress
    rw [Scope.keyAt, hm, Option.map_some, Option.getD_some]

theorem succeedsIff_range (b : Bytes) {i n : Nat} (hsize : i + n ≤ 1000000000)
    (bounds : Value → ResolveError) :
    Run.SucceedsIff (Session.TrueTo ledger) (i + n ≤ b.length)
      (Run.lift id (range b (.int i) (.int n) bounds)) (· = (b.drop i).take n) := by
  rw [range_ofNat b hsize]
  split
  · rename_i hfit
    exact Run.SucceedsIff.pure hfit rfl
  · rename_i hbeyond
    exact Run.SucceedsIff.throw hbeyond

theorem succeedsIff_accountRange (account : Nat) {i n : Nat} (hsize : i + n ≤ 1000000000) :
    Run.SucceedsIff (Session.TrueTo ledger) (scope.Covers ledger account (i + n))
      (scope.accountRange (.cached ledger) (.int account) (.int i) (.int n))
      (· = ((scope.dataAt ledger account).drop i).take n) := by
  have hread : ∀ address, address = scope.keyAt account →
      Run.SucceedsIff (Session.TrueTo ledger)
        ((∃ data, ledger.data? (scope.keyAt account) = some data) ∧
          i + n ≤ (scope.dataAt ledger account).length)
        ((Lookup.cached ledger).data address >>= fun data =>
          Run.lift id (range data (.int i) (.int n) (.accountDataBounds address data.length)))
        (· = ((scope.dataAt ledger account).drop i).take n) := by
    rintro address rfl
    refine (succeedsIff_data _).bind fun _ data hdata => ?_
    rw [Scope.dataAt_of_data? hdata]
    exact succeedsIff_range data hsize _
  exact ((succeedsIff_key account).bind fun _ => hread).congr Scope.covers_iff.symm

theorem Seed.succeedsIff (seed : Seed) :
    Run.SucceedsIff (Session.TrueTo ledger) (seed.Resolvable ledger scope)
      (seed.toDraft.resolveSeed (.cached ledger) scope) (· = seed.value ledger scope) := by
  cases seed with
  | literal value => exact Run.SucceedsIff.pure trivial rfl
  | instructionData index length =>
      exact succeedsIff_range _ (byte_add_byte_le index length) _
  | accountKey index =>
      exact (succeedsIff_key index.toNat).bind_total fun _ key hkey =>
        Run.SucceedsIff.pure trivial (congrArg Pubkey.bytes hkey)
  | accountData account index length =>
      exact succeedsIff_accountRange _ (byte_add_byte_le index length)

theorem succeedsIff_resolveSeeds (seeds : List Seed) :
    Run.SucceedsIff (Session.TrueTo ledger) (∀ seed ∈ seeds, seed.Resolvable ledger scope)
      (Draft.resolveSeeds (.cached ledger) scope (seeds.map Seed.toDraft))
      (· = seeds.map (Seed.value ledger scope)) := by
  rw [Draft.resolveSeeds, List.mapM_map]
  exact Run.SucceedsIff.mapM fun seed _ => seed.succeedsIff

theorem succeedsIff_keyOfBytes {part : Bytes} (h : part.length = 32) :
    Run.SucceedsIff (Session.TrueTo ledger) True (Draft.keyOfBytes part) (·.bytes = part) := by
  obtain ⟨key, hkey⟩ := Pubkey.exists_ofBytes? h
  rw [Draft.keyOfBytes, hkey]
  exact Run.SucceedsIff.pure trivial (Pubkey.ofBytes?_eq_some_iff.1 hkey)

theorem KeySource.length_value {source : KeySource} (h : source.Resolvable ledger scope) :
    (source.value ledger scope).length = 32 := by
  cases source with
  | instructionData index =>
      have hfit : index.toNat + 32 ≤ scope.instructionData.length := h
      rw [KeySource.value, List.length_take, List.length_drop]
      omega
  | accountData account index =>
      obtain ⟨-, -, hfit⟩ := Scope.covers_iff.1 h
      rw [KeySource.value, List.length_take, List.length_drop]
      omega

theorem KeySource.succeedsIff (source : KeySource) :
    Run.SucceedsIff (Session.TrueTo ledger) (source.Resolvable ledger scope)
      (source.toDraft.resolveKeySource (.cached ledger) scope)
      (·.bytes = source.value ledger scope) := by
  -- the range of a source that is there has 32 bytes, so making a key of it adds no condition
  have hkey (h : source.Resolvable ledger scope) (part : Bytes)
      (hpart : part = source.value ledger scope) :
      Run.SucceedsIff (Session.TrueTo ledger) True (Draft.keyOfBytes part)
        (·.bytes = source.value ledger scope) := by
    subst hpart
    exact succeedsIff_keyOfBytes (KeySource.length_value h)
  cases source with
  | instructionData index =>
      exact (succeedsIff_range _ (byte_add_size_le index) _).bind_total hkey
  | accountData account index =>
      exact (succeedsIff_accountRange _ (byte_add_size_le index)).bind_total hkey

theorem succeedsIff_derived (parts : List Bytes) (owner : Pubkey) :
    Run.SucceedsIff (Session.TrueTo ledger) (∃ hit, Address.find .standard parts owner = .ok hit)
      (Draft.resolveEntry.derived parts owner) (Address.IsFirstOffCurve parts owner) := by
  rw [Draft.resolveEntry.derived]
  cases hfind : Address.find .standard parts owner with
  | error e =>
      refine Run.SucceedsIff.throw ?_
      rintro ⟨hit, hhit⟩
      cases hhit
  | ok hit => exact Run.SucceedsIff.pure ⟨hit, rfl⟩ (Address.isFirstOffCurve_of_find hfind)

/-- Seeds that resolve are derived from under an owner that is known by then. -/
theorem succeedsIff_derivable (seeds : List Seed) (owner : Pubkey) :
    Run.SucceedsIff (Session.TrueTo ledger) (Derivable ledger scope owner seeds)
      (Draft.resolveSeeds (.cached ledger) scope (seeds.map Seed.toDraft) >>= fun parts =>
        Draft.resolveEntry.derived parts owner)
      (Address.IsFirstOffCurve (seeds.map (Seed.value ledger scope)) owner) := by
  refine ((succeedsIff_resolveSeeds seeds).bind ?_).congr derivable_iff.symm
  rintro - parts rfl
  exact succeedsIff_derived _ owner

/-- An entry's account is the address that its recipe leads to, with the role of its flags. -/
theorem Recipe.succeedsIff (recipe : Recipe) (flags : Flags) (program : Pubkey) :
    Run.SucceedsIff (Session.TrueTo ledger) (recipe.Resolvable ledger scope program)
      ((recipe.toDraft flags).resolveEntry (.cached ledger) scope program)
      fun m => recipe.LeadsTo ledger scope program m.address ∧
        m.role = .ofFlags flags.isSigner.isSet flags.isWritable.isSet := by
  cases recipe with
  | literal address => exact Run.SucceedsIff.pure trivial ⟨rfl, rfl⟩
  | ownSeeds seeds =>
      rw [Recipe.toDraft, Draft.resolveEntry, ← bind_assoc]
      exact (succeedsIff_derivable seeds program).bind_total fun _ address h =>
        Run.SucceedsIff.pure trivial ⟨h, rfl⟩
  | externalSeeds programIndex seeds =>
      rw [Recipe.toDraft, Draft.resolveEntry]
      -- the program is looked up before any seed
      refine (succeedsIff_key programIndex.toNat).bind ?_
      rintro - owner rfl
      rw [← bind_assoc]
      exact (succeedsIff_derivable seeds _).bind_total fun _ address h =>
        Run.SucceedsIff.pure trivial ⟨h, rfl⟩
  | keyData source =>
      exact source.succeedsIff.bind_total fun _ address h =>
        Run.SucceedsIff.pure trivial ⟨h, rfl⟩

end Walk

/-- **One entry in closed form.** Over a ledger that does not change, whatever true things the cache
holds already, an entry gives an account exactly if everything that it names is there and its seeds
lead to an address. The account then has the address that the recipe stands for, with the role of
the entry's flags. -/
theorem resolveEntry_closedForm (ledger : Ledger) (scope : Scope) (program : Pubkey)
    (recipe : Recipe) (flags : Flags) {s : Session} (hs : s.TrueTo ledger) :
    let outcome := ((recipe.toDraft flags).resolveEntry (.cached ledger) scope program).execute s
    ((∃ m, outcome.1 = .ok m) ↔ recipe.Resolvable ledger scope program) ∧
      ∀ m, outcome.1 = .ok m → recipe.LeadsTo ledger scope program m.address ∧
        m.role = .ofFlags flags.isSigner.isSet flags.isWritable.isSet :=
  (recipe.succeedsIff flags program).outcome hs

/-- An account of 33 bytes holds a key from its byte 1 on, but none from its byte 2 on. A descriptor
has room for 16 empty seeds, but no address is derived from them. -/
theorem resolveEntry_closedForm_limits :
    let data : Bytes := 1 :: List.replicate 32 7
    let ledger : Ledger := fun _ => .ok (.raw data)
    let scope : Scope := ⟨⟨[.readonly .zero]⟩, []⟩
    let s : Session := Session.empty.addAccount .zero ⟨true, data⟩
    let outcome (recipe : Recipe) : Except ResolveError Meta :=
      (((recipe.toDraft ⟨.bool false, .int 2⟩).resolveEntry (.cached ledger) scope .zero).execute
        s).1
    s.TrueTo ledger ∧
      (∃ m, outcome (.keyData (.accountData 0 1)) = .ok m ∧
        m.address.bytes = List.replicate 32 7 ∧ m.role = .writable) ∧
      (∀ m, outcome (.keyData (.accountData 0 2)) ≠ .ok m) ∧
      ∀ m, outcome (.ownSeeds (List.replicate 16 (.literal []))) ≠ .ok m := by
  intro data ledger scope s outcome
  have hs : s.TrueTo ledger := (Session.trueTo_empty ledger).addAccount rfl
  have hclosed (recipe : Recipe) :=
    resolveEntry_closedForm ledger scope .zero recipe ⟨.bool false, .int 2⟩ hs
  refine ⟨hs, ?_, ?_, ?_⟩
  · obtain ⟨m, hm⟩ := (hclosed (.keyData (.accountData 0 1))).1.2 ⟨by decide, data, rfl, by decide⟩
    obtain ⟨haddress, hrole⟩ := (hclosed (.keyData (.accountData 0 1))).2 m hm
    exact ⟨m, hm, haddress, hrole⟩
  · intro m hm
    obtain ⟨-, d, hd, hfit⟩ := (hclosed (.keyData (.accountData 0 2))).1.1 ⟨m, hm⟩
    cases hd
    exact absurd hfit (by decide)
  · intro m hm
    have hderivable := (hclosed (.ownSeeds (List.replicate 16 (.literal [])))).1.1 ⟨m, hm⟩
    exact absurd hderivable.count (by decide)

end ExtraMetas
