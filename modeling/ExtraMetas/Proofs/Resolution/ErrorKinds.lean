import ExtraMetas.Proofs.Outcome
import ExtraMetas.Proofs.Resolution.Parts

/-!
# ExtraMetas.Proofs.Resolution.ErrorKinds

**Which errors a resolution can end in.** The types of the errors are wider than that: a draft may
hold any value in any field, so there are errors for values of the wrong kind, for seeds in the
place of entries, and for keys of the wrong length. What a descriptor account holds was decoded,
and then every index is a byte and every key has its 32 bytes. So a resolution fails with an error
of one of seven kinds (`ResolveError.kind?`), or because its last fetch gave no account
(`resolveExtraMetas_error_kinds`).

The walk through the resolver is made once, for any property that the lookups keep
(`Lookup.Keeps`, `Lookup.Keeps.resolveExtraMetas`).
-/

namespace ExtraMetas

/-! ### Kinds -/

/-- The kinds of errors that the resolution of a descriptor account has of its own. -/
inductive ErrorKind
  | malformedDescriptor
  | instructionDataBounds
  | accountDataBounds
  | accountMissing
  | unresolvedIndex
  | invalidSeeds
  | derivationExhausted
deriving DecidableEq

/-- Does the error name a violation of the layout? The other two are about a read beyond the bytes
at hand, and a key of the wrong length. -/
def DecodeError.isViolation : DecodeError → Bool
  | sourceOverrun | keySize _ => false
  | _ => true

/-- The kind of an error, if it is of one of these kinds. -/
def ResolveError.kind? : ResolveError → Option ErrorKind
  | malformed e => if e.isViolation then some .malformedDescriptor else none
  | instructionDataBounds _ _ => some .instructionDataBounds
  | accountDataBounds _ _ _ => some .accountDataBounds
  | accountMissing _ => some .accountMissing
  | index (.unresolved _ _) => some .unresolvedIndex
  | derivation (.exhausted _ _) => some .derivationExhausted
  | derivation _ => some .invalidSeeds
  | _ => none

/-! ### Decoding -/

theorem Seed.isViolation_of_decodeNext {b : Bytes} {e : DecodeError}
    (h : Seed.decodeNext b = .error e) : e.isViolation = true := by
  unfold Seed.decodeNext at h
  repeat' split at h
  all_goals cases h
  all_goals rfl

theorem Seed.isViolation_of_decodeFrom {b : Bytes} {e : DecodeError}
    (h : Seed.decodeFrom b = .error e) : e.isViolation = true := by
  fun_induction Seed.decodeFrom b with
  | case1 b e' hnext =>
      cases h
      exact Seed.isViolation_of_decodeNext hnext
  | case2 b hnext => cases h
  | case3 b seed rest hnext e' hrest ih =>
      cases h
      exact ih hrest
  | case4 b seed rest hnext seeds hrest ih => cases h

theorem Seed.isViolation_of_decodeAll {config : Bytes} {e : DecodeError}
    (h : Seed.decodeAll config = .error e) : e.isViolation = true := by
  rw [Seed.decodeAll] at h
  split at h
  · exact Seed.isViolation_of_decodeFrom h
  · cases h
    rfl

/-- A whole config is long enough for every key source. -/
theorem KeySource.isViolation_of_decode {config : Bytes} (hsize : config.length = Layout.configSize)
    {e : DecodeError} (h : KeySource.decode config = .error e) : e.isViolation = true := by
  match config, hsize with
  | tag :: account :: index :: rest, _ =>
      rw [KeySource.decode] at h
      split at h
      · cases h
      · split at h
        · cases h
        · cases h
          rfl

theorem AddressConfig.isViolation_of_decode {tag : UInt8} {config : Bytes}
    (hsize : config.length = Layout.configSize) {e : DecodeError}
    (h : AddressConfig.decode tag config = .error e) : e.isViolation = true := by
  rw [AddressConfig.decode] at h
  split at h
  · obtain ⟨key, hkey⟩ := Pubkey.exists_ofBytes? hsize
    rw [hkey] at h
    cases h
  split at h
  · exact Seed.isViolation_of_decodeAll (Except.map_eq_error_iff.1 h)
  split at h
  · exact KeySource.isViolation_of_decode hsize (Except.map_eq_error_iff.1 h)
  split at h
  · exact Seed.isViolation_of_decodeAll (Except.map_eq_error_iff.1 h)
  · cases h
    rfl

/-- An entry is refused for its size before its config is looked at, so the config is a whole
one. -/
theorem Entry.isViolation_of_decode {raw : Bytes} {e : DecodeError}
    (h : Entry.decode raw = .error e) : e.isViolation = true := by
  rw [Entry.decode] at h
  split at h
  · rename_i tag signer writable htag hflags
    have hsize : ((raw.drop 1).take Layout.configSize).length = Layout.configSize := by
      have hlen := congrArg List.length hflags
      simp only [List.length_drop, List.length_cons, List.length_nil] at hlen
      rw [List.length_take, List.length_drop]
      omega
    split at h
    · cases h
    · rename_i e' hdecode
      cases h
      exact AddressConfig.isViolation_of_decode hsize hdecode
  · cases h
    rfl

theorem Entry.isViolation_of_decodeMany {count : Nat} {b : Bytes} {e : DecodeError}
    (h : Entry.decodeMany count b = .error e) : e.isViolation = true := by
  induction count generalizing b with
  | zero => cases h
  | succ count ih =>
      rw [Entry.decodeMany] at h
      split at h
      · rename_i e' hentry
        cases h
        exact Entry.isViolation_of_decode hentry
      · split at h
        · rename_i e' hmany
          cases h
          exact ih hmany
        · cases h

/-- Whatever bytes a descriptor account holds, they are refused only for a violation of the
layout. -/
theorem Descriptor.isViolation_of_decode {data : Bytes} {accepted : Option (List Bytes)}
    {e : DecodeError} (h : Descriptor.decode data accepted = .error e) : e.isViolation = true := by
  rw [Descriptor.decode] at h
  -- one split for each check of the header, in its order
  split at h
  · cases h
    rfl
  split at h
  · cases h
    rfl
  split at h
  · cases h
    rfl
  split at h
  · cases h
    rfl
  split at h
  · cases h
    rfl
  split at h
  · cases h
    rfl
  · exact Entry.isViolation_of_decodeMany (Except.map_eq_error_iff.1 h)

/-! ### The walk through a resolution -/

/-- What has to be known of a lookup to know it of a whole resolution: it keeps `inv` and fails with
`fail`, the resolver's own errors and reports keep them too. -/
structure Lookup.Keeps (lookup : Lookup) (inv : Session → Prop)
    (fail : ResolveError → Session → Prop) : Prop where
  lookup : ∀ address, (lookup address).Triple inv (fun _ => inv) fail
  own : ∀ e s, e.kind?.isSome = true → inv s → fail e s
  report : ∀ r s, inv s → inv (s.addReport r)

section Walk

variable {lookup : Lookup} {inv : Session → Prop} {fail : ResolveError → Session → Prop}

theorem Lookup.Keeps.data (h : lookup.Keeps inv fail) (address : Pubkey) :
    (lookup.data address).Triple inv (fun _ => inv) fail := by
  refine (h.lookup address).bind fun a => ?_
  cases ha : a.present with
  | false => exact Run.Triple.throw fun s hs => h.own _ s rfl hs
  | true => exact Run.Triple.pure fun _ hs => hs

theorem Lookup.Keeps.key (h : lookup.Keeps inv fail) (scope : Scope) {i : Nat}
    (hi : i ≤ 1000000000) : (scope.key (.int i)).Triple inv (fun _ => inv) fail := by
  refine Run.Triple.lift (fun _ _ _ hs => hs) fun e s he hs => h.own _ s ?_ hs
  rw [Known.key_ofNat _ hi] at he
  split at he
  · cases he
  · cases he
    rfl

/-- A range that is not refused has the length that was asked for. -/
theorem Lookup.Keeps.range (h : lookup.Keeps inv fail) (b : Bytes) {i n : Nat}
    (hsize : i + n ≤ 1000000000) {bounds : Value → ResolveError}
    (hbounds : ∀ v, (bounds v).kind?.isSome = true) :
    (Run.lift id (ExtraMetas.range b (.int i) (.int n) bounds)).Triple inv
      (fun part s => part.length = n ∧ inv s) fail := by
  refine Run.Triple.lift (fun part s hpart hs => ⟨length_of_range hsize hpart, hs⟩)
    fun e s he hs => h.own _ s ?_ hs
  rw [range_ofNat b hsize] at he
  split at he
  · cases he
  · cases he
    exact hbounds _

theorem Lookup.Keeps.instructionRange (h : lookup.Keeps inv fail) (scope : Scope) {i n : Nat}
    (hsize : i + n ≤ 1000000000) :
    (scope.instructionRange (.int i) (.int n)).Triple inv
      (fun part s => part.length = n ∧ inv s) fail :=
  h.range _ hsize fun _ => rfl

theorem Lookup.Keeps.accountRange (h : lookup.Keeps inv fail) (scope : Scope) {account i n : Nat}
    (haccount : account ≤ 1000000000) (hsize : i + n ≤ 1000000000) :
    (scope.accountRange lookup (.int account) (.int i) (.int n)).Triple inv
      (fun part s => part.length = n ∧ inv s) fail := by
  refine (h.key scope haccount).bind fun address => ?_
  refine (h.data address).bind fun data => ?_
  exact h.range data hsize fun _ => rfl

theorem Lookup.Keeps.resolveSeed (h : lookup.Keeps inv fail) (scope : Scope) (seed : Seed) :
    (seed.toDraft.resolveSeed lookup scope).Triple inv (fun _ => inv) fail := by
  cases seed with
  | literal value => exact Run.Triple.pure fun _ hs => hs
  | instructionData index length =>
      exact (h.instructionRange scope (byte_add_byte_le index length)).mono fun _ _ hs => hs.2
  | accountKey index =>
      exact (h.key scope (byte_le index)).bind fun _ => Run.Triple.pure fun _ hs => hs
  | accountData account index length =>
      have hrange := h.accountRange scope (byte_le account) (byte_add_byte_le index length)
      exact hrange.mono fun _ _ hs => hs.2

theorem Lookup.Keeps.resolveSeeds (h : lookup.Keeps inv fail) (scope : Scope) (seeds : List Seed) :
    (Draft.resolveSeeds lookup scope (seeds.map Seed.toDraft)).Triple inv (fun _ => inv) fail := by
  refine Run.Triple.mapM fun d hd => ?_
  obtain ⟨seed, -, rfl⟩ := List.mem_map.1 hd
  exact h.resolveSeed scope seed

/-- Bytes of the length of a key are a key, so no key of another length is ever made. -/
theorem Lookup.Keeps.keyOfBytes {part : Bytes} (hsize : part.length = Pubkey.size) :
    (Draft.keyOfBytes part).Triple inv (fun _ => inv) fail := by
  obtain ⟨key, hkey⟩ := Pubkey.exists_ofBytes? hsize
  rw [Draft.keyOfBytes, hkey]
  exact Run.Triple.pure fun _ hs => hs

theorem Lookup.Keeps.resolveKeySource (h : lookup.Keeps inv fail) (scope : Scope)
    (source : KeySource) :
    (source.toDraft.resolveKeySource lookup scope).Triple inv (fun _ => inv) fail := by
  cases source with
  | instructionData index =>
      refine (h.instructionRange scope (byte_add_size_le index)).bind fun part =>
        Run.Triple.assume fun hpart => ?_
      exact Lookup.Keeps.keyOfBytes hpart
  | accountData account index =>
      refine (h.accountRange scope (byte_le account) (byte_add_size_le index)).bind fun part =>
        Run.Triple.assume fun hpart => ?_
      exact Lookup.Keeps.keyOfBytes hpart

theorem Lookup.Keeps.derived (h : lookup.Keeps inv fail) (seeds : List Bytes) (owner : Pubkey) :
    (Draft.resolveEntry.derived seeds owner).Triple inv (fun _ => inv) fail := by
  refine Run.Triple.lift (fun _ _ _ hs => hs) fun e s _ hs => h.own _ s ?_ hs
  cases e with
  | tooManySeeds count => rfl
  | seedTooLong index size => rfl
  | onCurve => rfl
  | exhausted count program => rfl

theorem Lookup.Keeps.resolveEntry (h : lookup.Keeps inv fail) (scope : Scope) (program : Pubkey)
    (entry : Entry) :
    (entry.toDraft.resolveEntry lookup scope program).Triple inv (fun _ => inv) fail := by
  obtain ⟨address, signer, writable⟩ := entry
  cases address with
  | literal address => exact Run.Triple.pure fun _ hs => hs
  | ownSeeds seeds =>
      refine (h.resolveSeeds scope seeds).bind fun resolved => ?_
      exact (h.derived resolved program).bind fun _ => Run.Triple.pure fun _ hs => hs
  | externalSeeds index seeds =>
      have hindex : index.val ≤ 1000000000 :=
        Nat.le_trans (Nat.le_of_lt index.isLt) (by decide)
      refine (h.key scope hindex).bind fun owner => ?_
      refine (h.resolveSeeds scope seeds).bind fun resolved => ?_
      exact (h.derived resolved owner).bind fun _ => Run.Triple.pure fun _ hs => hs
  | keyData source =>
      exact (h.resolveKeySource scope source).bind fun _ => Run.Triple.pure fun _ hs => hs

theorem Lookup.Keeps.resolveEntries (h : lookup.Keeps inv fail) (instructionData : Bytes)
    (program : Pubkey) (known : Known Meta) (entries : List Entry) :
    (ExtraMetas.resolveEntries lookup instructionData program known entries).Triple inv
      (fun _ => inv) fail := by
  induction entries generalizing known with
  | nil => exact Run.Triple.pure fun _ hs => hs
  | cons entry rest ih =>
      refine (h.resolveEntry ⟨known, instructionData⟩ program entry).bind fun m => ?_
      exact (Run.Triple.report (h.report _)).bind fun _ => ih (known.push m)

end Walk

/-! ### Base accounts -/

/-- Is it an account meta that was handed over? -/
def MetaLike.isMeta : MetaLike → Bool
  | ofMeta _ | ofFlagged _ => true
  | other _ => false

theorem MetaLike.exists_toMeta {m : MetaLike} (h : m.isMeta = true) :
    ∃ a, m.toMeta = .ok a := by
  cases m with
  | ofMeta a => exact ⟨a, rfl⟩
  | ofFlagged a => exact ⟨a.toMeta, rfl⟩
  | other v => cases h

theorem Known.exists_ofMetas {metas : List MetaLike} (h : ∀ m ∈ metas, m.isMeta = true) :
    ∃ known, Known.ofMetas metas = .ok known := by
  obtain ⟨base, hbase⟩ : ∃ base, metas.mapM MetaLike.toMeta = .ok base := by
    simp only [Except.mapM_eq_ok_iff]
    exact exists_forall₂_iff.2 fun m hm => MetaLike.exists_toMeta (h m hm)
  exact ⟨⟨base⟩, by rw [Known.ofMetas, hbase]; rfl⟩

/-! ### Whole resolutions -/

/-- What every lookup keeps, a resolution keeps, from the fetch of its descriptor to its last
entry. -/
theorem Lookup.Keeps.resolveExtraMetas {lookup : Lookup} {inv : Session → Prop}
    {fail : ResolveError → Session → Prop} (h : lookup.Keeps inv fail) (descriptor : Pubkey)
    {request : Request} (hbase : ∀ m ∈ request.baseMetas, m.isMeta = true) :
    (ExtraMetas.resolveExtraMetas lookup descriptor request).Triple inv (fun _ => inv) fail := by
  obtain ⟨known, hknown⟩ := Known.exists_ofMetas hbase
  -- account metas are never refused, so the first step has no error
  rw [ExtraMetas.resolveExtraMetas, hknown]
  have hstart : (Run.lift ResolveError.notMeta (.ok known)).Triple inv (fun _ => inv) fail :=
    Run.Triple.pure fun _ hs => hs
  refine hstart.bind fun known => ?_
  refine (h.lookup descriptor).bind fun account => ?_
  cases hpresent : account.present with
  | false => exact (Run.Triple.report (h.report _)).bind fun _ => Run.Triple.pure fun _ hs => hs
  | true =>
      have hdecode : (Run.lift ResolveError.malformed (Descriptor.decode account.data
          request.accepted)).Triple inv (fun _ => inv) fail := by
        refine Run.Triple.lift (fun _ _ _ hs => hs) fun e s he hs => h.own _ s ?_ hs
        simp only [ResolveError.kind?, Descriptor.isViolation_of_decode he, if_true,
          Option.isSome_some]
      refine hdecode.bind fun content => ?_
      refine (Run.Triple.report (h.report _)).bind fun _ => ?_
      exact (h.resolveEntries _ _ known _).bind fun _ => Run.Triple.pure fun _ hs => hs

/-- The last address that the port was asked for gave no account, and `e` is why: the ledger failed,
or what it answered means no account. -/
def Port.LastFetchFailed (port : Port) (s : Session) (e : ResolveError) : Prop :=
  ∃ calls address refusal, s.calls = calls ++ [address] ∧
    (port calls).account address = .error refusal ∧ e = .fetch refusal

theorem Lookup.keeps_cachedOver_ask (port : Port) :
    (Lookup.cachedOver (.ask port)).Keeps (fun _ => True) fun e s =>
      (∃ kind, e.kind? = some kind) ∨ port.LastFetchFailed s e where
  lookup := by
    intro address
    refine Lookup.triple_cachedOver_ask (fun _ _ _ _ => trivial) (fun _ _ _ _ _ => trivial) ?_
    intro s refusal _ _ hrefusal
    exact Or.inr ⟨s.calls, address, refusal, rfl, hrefusal, rfl⟩
  own := fun _ _ he _ => Or.inl (Option.isSome_iff_exists.1 he)
  report := fun _ _ _ => trivial

/-- **A descriptor can only provoke errors of the resolver's own.** Whatever the ledger answers, at
first or later, and whatever the descriptor account holds, a resolution that starts from account
metas gives a list, or fails with an error of one of the seven kinds, or with exactly the error that
its last fetch ended in: the ledger's own, or the refusal of what the ledger answered. -/
theorem resolveExtraMetas_error_kinds (port : Port) (descriptor : Pubkey) {request : Request}
    (hbase : ∀ m ∈ request.baseMetas, m.isMeta = true) :
    (∃ metas s, port.resolution descriptor request = (.ok metas, s)) ∨
      ∃ e s, port.resolution descriptor request = (.error e, s) ∧
        ((∃ kind, e.kind? = some kind) ∨ port.LastFetchFailed s e) := by
  have hends := (Lookup.keeps_cachedOver_ask port).resolveExtraMetas descriptor hbase .empty trivial
  rcases hrun : port.resolution descriptor request with ⟨e | metas, s⟩
  · rw [← Port.resolution, hrun] at hends
    exact Or.inr ⟨e, s, rfl, hends⟩
  · exact Or.inl ⟨metas, s, rfl⟩

/-- A ledger that answers once, with a descriptor whose only entry reads the data of the first base
account, and fails from then on. -/
theorem resolveExtraMetas_error_kinds_failing_ledger :
    let data : Bytes := List.replicate 8 0 ++ [39, 0, 0, 0, 1, 0, 0, 0]
      ++ [2, 2, 0, 255] ++ List.replicate 31 7
    let port : Port := fun calls _ =>
      if calls.isEmpty then .ok (.raw data) else .error ⟨"ConnectionError", "node unavailable"⟩
    let request : Request := ⟨[.ofFlagged ⟨.zero, true, false⟩], [], .zero, none⟩
    (∀ m ∈ request.baseMetas, m.isMeta = true) ∧
      ((∃ metas s, port.resolution ⟨List.replicate 32 1, rfl⟩ request = (.ok metas, s)) ∨
        ∃ e s, port.resolution ⟨List.replicate 32 1, rfl⟩ request = (.error e, s) ∧
          ((∃ kind, e.kind? = some kind) ∨ port.LastFetchFailed s e)) := by
  intro data port request
  have hbase : ∀ m ∈ request.baseMetas, m.isMeta = true := by decide
  exact ⟨hbase, resolveExtraMetas_error_kinds port _ hbase⟩

end ExtraMetas
