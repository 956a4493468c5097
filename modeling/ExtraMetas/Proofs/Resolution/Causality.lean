import ExtraMetas.Proofs.Outcome
import ExtraMetas.Proofs.Resolution.Parts

/-!
# ExtraMetas.Proofs.Resolution.Causality

**Resolution is causal**: an entry sees the base accounts and the accounts of earlier entries, never
its own account or a later one (`resolveExtraMetas_causal`).

An index stands in one of three places of an entry (`Reference`): it names the program, the account
of a seed, or the account of a key source. Two facts carry everything. Entries are resolved one
after the other, so a run splits at any position (`resolveEntries_append`); and an index that names
no known account stops its entry just after what is resolved before it (`resolveEntry_of_le`).
-/

namespace ExtraMetas

/-! ### References -/

/-- A place in an entry where the index of an account may stand. -/
inductive Reference
  /-- The program, which is looked up before the seeds. -/
  | program
  /-- The seed at a position. -/
  | seed (position : Nat)
  /-- The key source. -/
  | source
deriving DecidableEq

/-- The index of the account that a seed refers to. -/
def Seed.account? : Seed → Option Nat
  | literal _ | instructionData _ _ => none
  | accountKey index => some index.toNat
  | accountData account _ _ => some account.toNat

/-- The index of the account that a key source refers to. -/
def KeySource.account? : KeySource → Option Nat
  | instructionData _ => none
  | accountData account _ => some account.toNat

namespace AddressConfig

/-- The index that stands at a place of an address. -/
def account? : AddressConfig → Reference → Option Nat
  | externalSeeds index _, .program => some index.val
  | ownSeeds seeds, .seed position | externalSeeds _ seeds, .seed position =>
    seeds[position]?.bind Seed.account?
  | keyData source, .source => source.account?
  | _, _ => none

/-- What is resolved of an address before the index at a place is looked up: of a seed, the program
and the seeds in front of it. -/
def resolveBefore (lookup : Lookup) (scope : Scope) :
    AddressConfig → Reference → Run ResolveError Unit
  | ownSeeds seeds, .seed position => do
    let _ ← Draft.resolveSeeds lookup scope ((seeds.take position).map Seed.toDraft)
  | externalSeeds index seeds, .seed position => do
    let _ ← scope.key (.int index.val)
    let _ ← Draft.resolveSeeds lookup scope ((seeds.take position).map Seed.toDraft)
  | _, _ => pure ()

end AddressConfig

/-- An index that names no known account. -/
def Scope.unresolved (scope : Scope) (index : Nat) : ResolveError :=
  .index (.unresolved (.int index) scope.known.size)

/-! ### An index out of sight -/

section OutOfSight

variable {lookup : Lookup} {scope : Scope} {index : Nat}

theorem Scope.key_of_le (h : scope.known.size ≤ index) (hindex : index ≤ 1000000000) :
    scope.key (.int index) = throw (scope.unresolved index) := by
  rw [Scope.key, Known.key_of_le h hindex]
  rfl

theorem Scope.accountRange_of_le (h : scope.known.size ≤ index) (hindex : index ≤ 1000000000)
    (start length : Value) :
    scope.accountRange lookup (.int index) start length = throw (scope.unresolved index) := by
  rw [Scope.accountRange, Scope.key_of_le h hindex]
  rfl

theorem Seed.resolveSeed_of_le {seed : Seed} (hindex : seed.account? = some index)
    (h : scope.known.size ≤ index) :
    seed.toDraft.resolveSeed lookup scope = throw (scope.unresolved index) := by
  cases seed with
  | literal value => cases hindex
  | instructionData start length => cases hindex
  | accountKey account =>
      cases hindex
      rw [Seed.toDraft, Draft.resolveSeed, Value.ofByte, Scope.key_of_le h (byte_le account)]
      rfl
  | accountData account start length =>
      cases hindex
      exact Scope.accountRange_of_le h (byte_le account) _ _

/-- Seeds are resolved up to the one whose index is out of sight. -/
theorem resolveSeeds_of_le {seeds : List Seed} {position : Nat}
    (hindex : seeds[position]?.bind Seed.account? = some index) (h : scope.known.size ≤ index) :
    Draft.resolveSeeds lookup scope (seeds.map Seed.toDraft)
      = Draft.resolveSeeds lookup scope ((seeds.take position).map Seed.toDraft) >>= fun _ =>
        throw (scope.unresolved index) := by
  obtain ⟨seed, hseed, haccount⟩ := Option.bind_eq_some_iff.1 hindex
  obtain ⟨hlt, rfl⟩ := List.getElem?_eq_some_iff.1 hseed
  have hsplit : seeds.map Seed.toDraft = (seeds.take position).map Seed.toDraft
      ++ seeds[position].toDraft :: (seeds.drop (position + 1)).map Seed.toDraft := by
    rw [← List.map_cons, ← List.map_append, List.getElem_cons_drop, List.take_append_drop]
  -- the seeds behind the refused one are never reached
  rw [hsplit, Draft.resolveSeeds, List.mapM_append, List.mapM_cons,
    Seed.resolveSeed_of_le haccount h]
  rfl

/-- An entry with an index out of sight is resolved up to that index, and then refused for it. -/
theorem resolveEntry_of_le {entry : Entry} {place : Reference}
    (hindex : entry.address.account? place = some index) (h : scope.known.size ≤ index)
    (program : Pubkey) :
    entry.toDraft.resolveEntry lookup scope program
      = entry.address.resolveBefore lookup scope place >>= fun _ =>
        throw (scope.unresolved index) := by
  obtain ⟨address, signer, writable⟩ := entry
  cases address with
  | literal address => cases place <;> cases hindex
  | ownSeeds seeds =>
      cases place with
      | program => cases hindex
      | source => cases hindex
      | seed position =>
          rw [Entry.toDraft, Draft.resolveEntry, resolveSeeds_of_le hindex h,
            AddressConfig.resolveBefore, bind_assoc, bind_assoc]
          rfl
  | externalSeeds number seeds =>
      cases place with
      | program =>
          cases hindex
          have hwritten : number.val ≤ 1000000000 :=
            Nat.le_trans (Nat.le_of_lt number.isLt) (by decide)
          rw [Entry.toDraft, Draft.resolveEntry, Scope.key_of_le h hwritten]
          rfl
      | source => cases hindex
      | seed position =>
          rw [Entry.toDraft, Draft.resolveEntry, resolveSeeds_of_le hindex h,
            AddressConfig.resolveBefore]
          simp only [bind_assoc]
          rfl
  | keyData source =>
      cases place with
      | program => cases hindex
      | seed position => cases hindex
      | source =>
          cases source with
          | instructionData start => cases hindex
          | accountData account start =>
              cases hindex
              simp only [Entry.toDraft, KeySource.toDraft, Draft.resolveEntry,
                Draft.resolveKeySource, Value.ofByte,
                Scope.accountRange_of_le h (byte_le account)]
              rfl

/-- An entry that was resolved names only accounts that were known. -/
theorem lt_of_resolveEntry {entry : Entry} {program : Pubkey} {s s' : Session} {m : Meta}
    (hm : (entry.toDraft.resolveEntry lookup scope program).execute s = (.ok m, s'))
    {place : Reference} (hindex : entry.address.account? place = some index) :
    index < scope.known.size := by
  refine Nat.lt_of_not_le fun h => ?_
  rw [resolveEntry_of_le hindex h, Run.execute_bind_eq_ok_iff] at hm
  obtain ⟨-, t, -, hthrow⟩ := hm
  cases hthrow

end OutOfSight

/-- The role of an account is made of its entry's flags. -/
theorem role_of_resolveEntry {lookup : Lookup} {scope : Scope} {entry : Entry} {program : Pubkey}
    {s s' : Session} {m : Meta}
    (hm : (entry.toDraft.resolveEntry lookup scope program).execute s = (.ok m, s')) :
    m.role = .ofFlags entry.isSigner entry.isWritable := by
  obtain ⟨address, signer, writable⟩ := entry
  have hflags : ∀ address : Pubkey, (Draft.resolveEntry.ofAddress address
      ⟨.bool signer, .bool writable⟩).role = .ofFlags signer writable := by
    intro address
    simp only [Draft.resolveEntry.ofAddress, ByteField.isSet_bool]
  cases address with
  | literal address =>
      cases hm
      exact hflags address
  | ownSeeds seeds =>
      obtain ⟨resolved, t, -, hm⟩ := Run.execute_bind_eq_ok_iff.1 hm
      obtain ⟨key, t', -, hm⟩ := Run.execute_bind_eq_ok_iff.1 hm
      cases hm
      exact hflags key
  | externalSeeds index seeds =>
      obtain ⟨owner, t, -, hm⟩ := Run.execute_bind_eq_ok_iff.1 hm
      obtain ⟨resolved, t', -, hm⟩ := Run.execute_bind_eq_ok_iff.1 hm
      obtain ⟨key, t'', -, hm⟩ := Run.execute_bind_eq_ok_iff.1 hm
      cases hm
      exact hflags key
  | keyData source =>
      obtain ⟨key, t, -, hm⟩ := Run.execute_bind_eq_ok_iff.1 hm
      cases hm
      exact hflags key

/-! ### Entries one after the other -/

section Entries

variable {lookup : Lookup} {instructionData : Bytes} {program : Pubkey}

theorem resolveEntries_append (known : Known Meta) (xs ys : List Entry) :
    resolveEntries lookup instructionData program known (xs ++ ys)
      = resolveEntries lookup instructionData program known xs >>= fun known' =>
        resolveEntries lookup instructionData program known' ys := by
  -- what is known grows along the entries, so the induction is for any known accounts
  induction xs generalizing known with
  | nil => rfl
  | cons entry rest ih =>
      rw [List.cons_append, resolveEntries, resolveEntries, bind_assoc]
      simp only [bind_assoc, ih]

/-- A run over the entries, taken apart around the one at position `i`. -/
theorem resolveEntries_around (known : Known Meta) {entries : List Entry} {i : Nat} {entry : Entry}
    (hi : entries[i]? = some entry) :
    resolveEntries lookup instructionData program known entries
      = resolveEntries lookup instructionData program known (entries.take i) >>= fun known' =>
        entry.toDraft.resolveEntry lookup ⟨known', instructionData⟩ program >>= fun m =>
        Run.report (.resolved known'.size m) >>= fun _ =>
        resolveEntries lookup instructionData program (known'.push m) (entries.drop (i + 1)) := by
  obtain ⟨hlt, rfl⟩ := List.getElem?_eq_some_iff.1 hi
  have hsplit : entries = entries.take i ++ entries[i] :: entries.drop (i + 1) := by
    rw [List.getElem_cons_drop, List.take_append_drop]
  conv_lhs => rw [hsplit]
  rw [resolveEntries_append]
  rfl

/-- Each entry puts one account behind those that were known. -/
theorem exists_toList_of_resolveEntries {known known' : Known Meta} {entries : List Entry}
    {s s' : Session}
    (h : (resolveEntries lookup instructionData program known entries).execute s
      = (.ok known', s')) :
    ∃ extra, known'.toList = known.toList ++ extra ∧ extra.length = entries.length := by
  induction entries generalizing known s with
  | nil =>
      cases h
      exact ⟨[], (List.append_nil _).symm, rfl⟩
  | cons entry rest ih =>
      -- the entry's account, the report of it, and the run over the rest
      obtain ⟨m, t, -, h⟩ := Run.execute_bind_eq_ok_iff.1 h
      obtain ⟨-, t', -, h⟩ := Run.execute_bind_eq_ok_iff.1 h
      obtain ⟨extra, hextra, hlen⟩ := ih h
      refine ⟨m :: extra, ?_, by rw [List.length_cons, hlen, List.length_cons]⟩
      rw [hextra, Known.toList_push, List.append_assoc, List.singleton_append]

/-- In front of position `i` stand the accounts known at first and those of `i` entries. -/
theorem size_of_resolveEntries_take {known seen : Known Meta} {entries : List Entry} {i : Nat}
    {entry : Entry} (hi : entries[i]? = some entry) {s s' : Session}
    (h : (resolveEntries lookup instructionData program known (entries.take i)).execute s
      = (.ok seen, s')) :
    seen.size = known.size + i := by
  obtain ⟨extra, hextra, hlen⟩ := exists_toList_of_resolveEntries h
  have hlt : i < entries.length := (List.getElem?_eq_some_iff.1 hi).1
  rw [Known.size, Known.size, hextra, List.length_append, hlen, List.length_take]
  omega

/-- What a run over the entries that succeeds did at position `i`. -/
theorem exists_of_resolveEntries {known known' : Known Meta} {entries : List Entry}
    {s s' : Session}
    (h : (resolveEntries lookup instructionData program known entries).execute s
      = (.ok known', s'))
    {i : Nat} {entry : Entry} (hi : entries[i]? = some entry) :
    ∃ m before after,
      (resolveEntries lookup instructionData program known (entries.take i)).execute s
          = (.ok ⟨known'.toList.take (known.size + i)⟩, before) ∧
        (entry.toDraft.resolveEntry lookup
          ⟨⟨known'.toList.take (known.size + i)⟩, instructionData⟩ program).execute before
            = (.ok m, after) ∧
        known'.toList[known.size + i]? = some m := by
  rw [resolveEntries_around known hi] at h
  obtain ⟨seen, before, hbefore, h⟩ := Run.execute_bind_eq_ok_iff.1 h
  obtain ⟨m, after, hm, h⟩ := Run.execute_bind_eq_ok_iff.1 h
  obtain ⟨-, t, -, h⟩ := Run.execute_bind_eq_ok_iff.1 h
  obtain ⟨back, hback, -⟩ := exists_toList_of_resolveEntries h
  have hsize : seen.toList.length = known.size + i := size_of_resolveEntries_take hi hbefore
  rw [Known.toList_push, List.append_assoc] at hback
  -- what was seen is the part of the result in front of the entry's own account
  have hseen : known'.toList.take (known.size + i) = seen.toList := by
    rw [hback, ← hsize, List.take_left]
  rw [hseen]
  refine ⟨m, before, after, hbefore, hm, ?_⟩
  rw [hback, ← hsize, List.getElem?_append_right (Nat.le_refl _), Nat.sub_self]
  rfl

end Entries

/-! ### Whole resolutions -/

/-- The entries that a descriptor account asks for; none if it does not exist. -/
def Account.entries (a : Account) (accepted : Option (List Bytes)) :
    Except DecodeError (List Entry) :=
  if a.present then (Descriptor.decode a.data accepted).map Descriptor.entries else .ok []

/-- The session in which the entries of a descriptor account are resolved. -/
def Session.described (descriptor : Pubkey) (account : Account) (count : Nat) : Session :=
  ((Session.empty.addCall descriptor).addAccount descriptor account).addReport
    (if account.present then .declared descriptor count else .noDescriptor descriptor)

/-- What a resolution that gives a list has read: the descriptor's account, whose entries stand
behind the base accounts. -/
theorem exists_of_resolveExtraMetas {lookup : Lookup} {descriptor : Pubkey} {request : Request}
    {s s' : Session} {metas : List Meta}
    (h : (resolveExtraMetas lookup descriptor request).execute s = (.ok metas, s')) :
    ∃ base account t entries extra, Known.ofMetas request.baseMetas = .ok base ∧
      (lookup descriptor).execute s = (.ok account, t) ∧
      account.entries request.accepted = .ok entries ∧ metas = base.toList ++ extra := by
  obtain ⟨base, s₁, hlift, hrest⟩ := Run.execute_bind_eq_ok_iff.1 h
  obtain ⟨hbase, rfl⟩ := Run.execute_lift_eq_ok_iff.1 hlift
  obtain ⟨account, t, haccount, hread⟩ := Run.execute_bind_eq_ok_iff.1 hrest
  cases hpresent : account.present with
  | false =>
      rw [hpresent, if_neg Bool.false_ne_true] at hread
      cases hread
      refine ⟨base, account, t, [], [], hbase, haccount, ?_, (List.append_nil _).symm⟩
      rw [Account.entries, hpresent, if_neg Bool.false_ne_true]
  | true =>
      rw [hpresent, if_pos rfl] at hread
      obtain ⟨content, s₂, hcontent, hread⟩ := Run.execute_bind_eq_ok_iff.1 hread
      obtain ⟨hdecode, rfl⟩ := Run.execute_lift_eq_ok_iff.1 hcontent
      obtain ⟨-, s₃, -, hentries⟩ := Run.execute_bind_eq_ok_iff.1 hread
      obtain ⟨known, s₄, hknown, hlist⟩ := Run.execute_bind_eq_ok_iff.1 hentries
      cases hlist
      obtain ⟨extra, hextra, -⟩ := exists_toList_of_resolveEntries hknown
      refine ⟨base, account, t, content.entries, extra, hbase, haccount, ?_, hextra⟩
      rw [Account.entries, hpresent, if_pos rfl, hdecode]
      rfl

section Resolution

variable {port : Port} {descriptor : Pubkey} {request : Request} {account : Account}
  {entries : List Entry}

theorem Port.resolution_eq {base : Known Meta} (hbase : Known.ofMetas request.baseMetas = .ok base)
    (haccount : (port []).account descriptor = .ok account)
    (hentries : account.entries request.accepted = .ok entries) :
    port.resolution descriptor request
      = (resolveEntries (.cachedOver (.ask port)) request.instructionData request.program base
          entries >>= fun known => pure known.toList).execute
        (.described descriptor account entries.length) := by
  have hlookup : (Lookup.cachedOver (.ask port) descriptor).execute .empty
      = (.ok account, (Session.empty.addCall descriptor).addAccount descriptor account) :=
    Lookup.execute_cachedOver_of_fetched rfl (Lookup.execute_ask_of_ok haccount)
  rw [Port.resolution, resolveExtraMetas, hbase, Run.execute_bind_ok (Run.execute_lift_ok _ _ _),
    Run.execute_bind_ok hlookup]
  rw [Account.entries] at hentries
  rw [Session.described]
  cases hpresent : account.present with
  | false =>
      rw [hpresent, if_neg Bool.false_ne_true] at hentries
      cases hentries
      rfl
  | true =>
      rw [hpresent, if_pos rfl] at hentries
      cases hcontent : Descriptor.decode account.data request.accepted with
      | error e =>
          rw [hcontent] at hentries
          cases hentries
      | ok content =>
          rw [hcontent] at hentries
          cases hentries
          rw [if_pos rfl, if_pos rfl, Run.execute_bind_ok (Run.execute_lift_ok _ _ _),
            Run.execute_bind_ok (Run.execute_report _ _)]

/-- What the entries in front of position `i` come to: the accounts that the entry there sees, and
the session in which it is resolved. -/
def Port.resolvedBefore (port : Port) (descriptor : Pubkey) (request : Request) (account : Account)
    (base : Known Meta) (entries : List Entry) (i : Nat) :
    Except ResolveError (Known Meta) × Session :=
  (resolveEntries (.cachedOver (.ask port)) request.instructionData request.program base
    (entries.take i)).execute (.described descriptor account entries.length)

/-- The entry at position `i` was resolved against exactly the accounts in front of its own: it
names no other, and its account is what the entry gives there, with the role of its flags. -/
structure Port.ResolvedAt (port : Port) (descriptor : Pubkey) (request : Request)
    (account : Account) (entries : List Entry) (metas : List Meta) (i : Nat) (entry : Entry)
    (m : Meta) : Prop where
  element : metas[request.baseMetas.length + i]? = some m
  resolved : ∃ before after,
    port.resolvedBefore descriptor request account ⟨metas.take request.baseMetas.length⟩ entries i
        = (.ok ⟨metas.take (request.baseMetas.length + i)⟩, before) ∧
      (entry.toDraft.resolveEntry (.cachedOver (.ask port))
        ⟨⟨metas.take (request.baseMetas.length + i)⟩, request.instructionData⟩
        request.program).execute before = (.ok m, after)
  role : m.role = .ofFlags entry.isSigner entry.isWritable
  backward : ∀ place index, entry.address.account? place = some index →
    index < request.baseMetas.length + i

/-- The accounts of a whole resolution: the base accounts as they were given, then one account for
each entry, in order. -/
structure Port.Causal (port : Port) (descriptor : Pubkey) (request : Request) (account : Account)
    (entries : List Entry) (metas : List Meta) : Prop where
  length_eq : metas.length = request.baseMetas.length + entries.length
  base : List.Forall₂ (fun given m => given.toMeta = .ok m) request.baseMetas
    (metas.take request.baseMetas.length)
  entry : ∀ i entry, entries[i]? = some entry →
    ∃ m, port.ResolvedAt descriptor request account entries metas i entry m

theorem Known.forall₂_of_ofMetas {metas : List MetaLike} {known : Known Meta}
    (h : Known.ofMetas metas = .ok known) :
    List.Forall₂ (fun given m => given.toMeta = .ok m) metas known.toList := by
  rw [Known.ofMetas] at h
  cases hmapM : metas.mapM MetaLike.toMeta with
  | error e =>
      rw [hmapM] at h
      cases h
  | ok base =>
      rw [hmapM] at h
      cases h
      exact Except.mapM_eq_ok_iff.1 hmapM

/-- A resolution that gives a list started from account metas. -/
theorem Port.exists_base_of_resolution {metas : List Meta} {s : Session}
    (h : port.resolution descriptor request = (.ok metas, s)) :
    ∃ base, Known.ofMetas request.baseMetas = .ok base := by
  cases hbase : Known.ofMetas request.baseMetas with
  | ok base => exact ⟨base, rfl⟩
  | error e =>
      rw [Port.resolution, resolveExtraMetas, hbase] at h
      cases h

theorem Port.causal_of_resolution (haccount : (port []).account descriptor = .ok account)
    (hentries : account.entries request.accepted = .ok entries) {metas : List Meta} {s : Session}
    (h : port.resolution descriptor request = (.ok metas, s)) :
    port.Causal descriptor request account entries metas := by
  obtain ⟨base, hbase⟩ := Port.exists_base_of_resolution h
  have hgiven := Known.forall₂_of_ofMetas hbase
  have hcount : request.baseMetas.length = base.toList.length := hgiven.length_eq
  rw [Port.resolution_eq hbase haccount hentries] at h
  obtain ⟨final, t, hfinal, hmetas⟩ := Run.execute_bind_eq_ok_iff.1 h
  cases hmetas
  obtain ⟨extra, hextra, hlen⟩ := exists_toList_of_resolveEntries hfinal
  have hbaseTake : final.toList.take request.baseMetas.length = base.toList := by
    rw [hextra, hcount, List.take_left]
  constructor
  case length_eq => rw [hextra, List.length_append, hlen, hcount]
  case base =>
    rw [hbaseTake]
    exact hgiven
  case entry =>
    intro i entry hi
    obtain ⟨m, before, after, hbefore, hm, helement⟩ := exists_of_resolveEntries hfinal hi
    rw [Known.size, ← hcount] at hbefore hm helement
    refine ⟨m, helement, ⟨before, after, ?_, hm⟩, role_of_resolveEntry hm, ?_⟩
    · rw [hbaseTake]
      exact hbefore
    · intro place index hindex
      have hlt := lt_of_resolveEntry hm hindex
      rw [Known.size, List.length_take] at hlt
      omega

/-- An entry with a reference that is not to an earlier account ends the resolution there, if
nothing in front of the reference does. -/
theorem Port.resolution_of_forward_reference
    (haccount : (port []).account descriptor = .ok account)
    (hentries : account.entries request.accepted = .ok entries) {i : Nat} {entry : Entry}
    (hi : entries[i]? = some entry) {place : Reference} {index : Nat}
    (hindex : entry.address.account? place = some index)
    (hle : request.baseMetas.length + i ≤ index) {base known : Known Meta}
    (hbase : Known.ofMetas request.baseMetas = .ok base) {before after : Session}
    (hbefore : port.resolvedBefore descriptor request account base entries i
      = (.ok known, before))
    (hplace : (entry.address.resolveBefore (.cachedOver (.ask port))
      ⟨known, request.instructionData⟩ place).execute before = (.ok (), after)) :
    port.resolution descriptor request
      = (.error (.index (.unresolved (.int index) (request.baseMetas.length + i))), after) := by
  have hcount : request.baseMetas.length = base.size := (Known.forall₂_of_ofMetas hbase).length_eq
  have hsize : known.size = request.baseMetas.length + i := by
    rw [hcount]
    exact size_of_resolveEntries_take hi hbefore
  let scope : Scope := ⟨known, request.instructionData⟩
  have hentry : entry.toDraft.resolveEntry (.cachedOver (.ask port)) scope request.program
      = entry.address.resolveBefore (.cachedOver (.ask port)) scope place >>= fun _ =>
        throw (scope.unresolved index) :=
    resolveEntry_of_le hindex (by rw [hsize]; exact hle) request.program
  rw [Port.resolution_eq hbase haccount hentries, resolveEntries_around base hi]
  refine Run.execute_bind_error ?_
  rw [Run.execute_bind_ok hbefore]
  refine Run.execute_bind_error ?_
  rw [hentry, Run.execute_bind_ok hplace, Run.execute_throw, Scope.unresolved, hsize]

end Resolution

/-- **Resolution is causal.** A resolution whose descriptor account asks for `entries` and that
gives a list gives the base accounts and then one account for each entry, resolved against exactly
the accounts in front of it. An entry that names its own account or a later one keeps the resolution
from giving a list; if nothing in front of that reference fails, it is what is refused. -/
theorem resolveExtraMetas_causal (port : Port) (descriptor : Pubkey) (request : Request)
    {account : Account} {entries : List Entry}
    (haccount : (port []).account descriptor = .ok account)
    (hentries : account.entries request.accepted = .ok entries) :
    (∀ metas s, port.resolution descriptor request = (.ok metas, s) →
        port.Causal descriptor request account entries metas) ∧
      ∀ i entry place index, entries[i]? = some entry →
        entry.address.account? place = some index → request.baseMetas.length + i ≤ index →
        (∀ metas s, port.resolution descriptor request ≠ (.ok metas, s)) ∧
          ∀ base known before after, Known.ofMetas request.baseMetas = .ok base →
            port.resolvedBefore descriptor request account base entries i = (.ok known, before) →
            (entry.address.resolveBefore (.cachedOver (.ask port))
              ⟨known, request.instructionData⟩ place).execute before = (.ok (), after) →
            port.resolution descriptor request
              = (.error (.index (.unresolved (.int index) (request.baseMetas.length + i))),
                after) := by
  constructor
  · intro metas s h
    exact Port.causal_of_resolution haccount hentries h
  intro i entry place index hi hindex hle
  constructor
  · intro metas s h
    have hcausal := Port.causal_of_resolution haccount hentries h
    obtain ⟨m, hm⟩ := hcausal.entry i entry hi
    have hlt := hm.backward place index hindex
    omega
  · intro base known before after hbase hbefore hplace
    exact Port.resolution_of_forward_reference haccount hentries hi hindex hle hbase hbefore hplace

set_option maxRecDepth 4000 in
/-- A first entry that reads its key from the base account, and a second one whose seed is the key
of its own account: the run ends in the refusal of index 2 while two accounts are known. -/
theorem resolveExtraMetas_causal_own_account :
    let data : Bytes := List.replicate 8 0 ++ [74, 0, 0, 0, 2, 0, 0, 0]
      ++ ([2, 2, 0, 0] ++ List.replicate 29 7 ++ [0, 1])
      ++ ([1, 3, 2, 0] ++ List.replicate 29 7 ++ [1, 0])
    let entries : List Entry :=
      [⟨.keyData (.accountData 0 0), false, true⟩, ⟨.ownSeeds [.accountKey 2], true, false⟩]
    let port : Port := fun _ _ => .ok (.raw data)
    let request : Request := ⟨[.ofMeta (.readonly .zero)], [], .zero, none⟩
    (port []).account .zero = .ok ⟨true, data⟩ ∧
      Account.entries ⟨true, data⟩ request.accepted = .ok entries ∧
      ∃ after, port.resolution .zero request
        = (.error (.index (.unresolved (.int 2) 2)), after) := by
  intro data entries port request
  have haccount : (port []).account .zero = .ok ⟨true, data⟩ := rfl
  have hentries : Account.entries ⟨true, data⟩ request.accepted = .ok entries := by
    decide +kernel
  obtain ⟨-, hforward⟩ := resolveExtraMetas_causal port .zero request haccount hentries
  obtain ⟨-, hrefused⟩ := hforward 1 _ (.seed 0) 2 rfl rfl (by decide)
  exact ⟨haccount, hentries, _, hrefused _ _ _ _ rfl rfl rfl⟩

end ExtraMetas
