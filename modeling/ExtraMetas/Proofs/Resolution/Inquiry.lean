import ExtraMetas.Resolution.Entry
import ExtraMetas.Proofs.Resolution.Parts
import Mathlib.Tactic.Choose

/-!
# ExtraMetas.Proofs.Resolution.Inquiry

**A resolution is a tree of questions.** It reaches the ledger only through its lookup, and of an
account it uses nothing but the data, and that only if the account exists (`Account.content?`).
Whatever the lookup is, the resolution is therefore the run of one `Inquiry`: a tree that says what
is asked next for every answer.

`IsInquiry S r` states this of a computation `r`, and that it asks only for addresses of `S`. The
walk through the resolver has one lemma for each of its functions; of an entry it shows that only
accounts are asked for whose index the entry names for its data (`Entry.isInquiry`). What holds of
every resolution is then an induction on a tree.
-/

namespace ExtraMetas

/-- What a resolution uses of an account: its data, if it exists. -/
def Account.content? (a : Account) : Option Bytes :=
  if a.present then some a.data else none

/-- A computation as a tree of questions to a ledger. -/
inductive Inquiry (α : Type)
  /-- A result. -/
  | done (a : α)
  /-- An error. -/
  | fail (e : ResolveError)
  /-- A report of a step, and what follows it. -/
  | report (r : Report) (next : Inquiry α)
  /-- A question for the account at an address, and what follows each answer. -/
  | ask (address : Pubkey) (next : Option Bytes → Inquiry α)

namespace Inquiry

variable {α β : Type} {S T : Pubkey → Prop}

/-- The run in which `lookup` answers the questions. -/
def run (lookup : Lookup) : Inquiry α → Run ResolveError α
  | done a => pure a
  | fail e => throw e
  | report r next => do
    Run.report r
    next.run lookup
  | ask address next => do
    let a ← lookup address
    (next a.content?).run lookup

/-- Whatever is answered, only addresses of `S` are asked for. -/
def Asks (S : Pubkey → Prop) : Inquiry α → Prop
  | done _ | fail _ => True
  | report _ next => next.Asks S
  | ask address next => S address ∧ ∀ content, (next content).Asks S

/-- The tree with another one in the place of each result. -/
def bind (i : Inquiry α) (f : α → Inquiry β) : Inquiry β :=
  match i with
  | done a => f a
  | fail e => fail e
  | report r next => report r (next.bind f)
  | ask address next => ask address fun content => (next content).bind f

theorem run_bind (lookup : Lookup) (i : Inquiry α) (f : α → Inquiry β) :
    (i.bind f).run lookup = i.run lookup >>= fun a => (f a).run lookup := by
  induction i with
  | done a => rfl
  | fail e => rfl
  | report r next ih => rw [bind, run, run, ih, bind_assoc]
  | ask address next ih => simp only [bind, run, ih, bind_assoc]

theorem Asks.bind {i : Inquiry α} {f : α → Inquiry β} (hi : i.Asks S) (hf : ∀ a, (f a).Asks S) :
    (i.bind f).Asks S := by
  induction i with
  | done a => exact hf a
  | fail e => trivial
  | report r next ih => exact ih hi
  | ask address next ih => exact ⟨hi.1, fun content => ih content (hi.2 content)⟩

theorem Asks.mono {i : Inquiry α} (h : i.Asks S) (hST : ∀ address, S address → T address) :
    i.Asks T := by
  induction i with
  | done a => trivial
  | fail e => trivial
  | report r next ih => exact ih h
  | ask address next ih => exact ⟨hST address h.1, fun content => ih content (h.2 content)⟩

end Inquiry

/-! ### Computations that only ask -/

/-- Under every lookup `r` is the run of the same tree, which asks only for addresses of `S`. -/
def IsInquiry {α : Type} (S : Pubkey → Prop) (r : Lookup → Run ResolveError α) : Prop :=
  ∃ i : Inquiry α, i.Asks S ∧ ∀ lookup, r lookup = i.run lookup

namespace IsInquiry

variable {α β δ : Type} {S T : Pubkey → Prop}

theorem pure (a : α) : IsInquiry S fun _ => pure a :=
  ⟨.done a, trivial, fun _ => rfl⟩

theorem throw (e : ResolveError) : IsInquiry S fun _ => (throw e : Run ResolveError α) :=
  ⟨.fail e, trivial, fun _ => rfl⟩

theorem lift (inject : δ → ResolveError) (x : Except δ α) :
    IsInquiry S fun _ => Run.lift inject x := by
  cases x with
  | ok a => exact pure a
  | error e => exact throw (inject e)

theorem report (r : Report) : IsInquiry S fun _ => Run.report r :=
  ⟨.report r (.done ()), trivial, fun _ => rfl⟩

theorem bind {r : Lookup → Run ResolveError α} {f : Lookup → α → Run ResolveError β}
    (hr : IsInquiry S r) (hf : ∀ a, IsInquiry S fun lookup => f lookup a) :
    IsInquiry S fun lookup => r lookup >>= f lookup := by
  obtain ⟨i, hi, hrun⟩ := hr
  choose next hnext hnextRun using hf
  refine ⟨i.bind next, hi.bind hnext, fun lookup => ?_⟩
  show r lookup >>= f lookup = _
  rw [Inquiry.run_bind, hrun]
  exact congrArg (i.run lookup >>= ·) (funext fun a => hnextRun a lookup)

/-- What follows a result that needs no lookup may rely on that result. -/
theorem lift_bind {inject : δ → ResolveError} {x : Except δ α}
    {f : Lookup → α → Run ResolveError β}
    (hf : ∀ a, x = .ok a → IsInquiry S fun lookup => f lookup a) :
    IsInquiry S fun lookup => Run.lift inject x >>= f lookup := by
  cases x with
  | ok a => exact hf a rfl
  | error e => exact throw (inject e)

/-- A question for an account whose data is looked at only if the account exists. -/
theorem ask {address : Pubkey} (haddress : S address) {f : Lookup → Account → Run ResolveError β}
    (hf : ∀ a, IsInquiry S fun lookup => f lookup a)
    (hmissing : ∀ lookup data, f lookup ⟨false, data⟩ = f lookup .missing) :
    IsInquiry S fun lookup => lookup address >>= f lookup := by
  choose next hnext hrun using hf
  refine ⟨.ask address fun content => content.elim (next .missing) fun data => next ⟨true, data⟩,
    ⟨haddress, ?_⟩, fun lookup => ?_⟩
  · intro content
    cases content with
    | none => exact hnext .missing
    | some data => exact hnext ⟨true, data⟩
  · refine congrArg (lookup address >>= ·) (funext fun a => ?_)
    obtain ⟨present, data⟩ := a
    cases present with
    | false => exact (hmissing lookup data).trans (hrun .missing lookup)
    | true => exact hrun ⟨true, data⟩ lookup

theorem mono {r : Lookup → Run ResolveError α} (h : IsInquiry S r)
    (hST : ∀ address, S address → T address) : IsInquiry T r := by
  obtain ⟨i, hi, hrun⟩ := h
  exact ⟨i, hi.mono hST, hrun⟩

theorem mapM {f : Lookup → α → Run ResolveError β} {xs : List α}
    (h : ∀ x ∈ xs, IsInquiry S fun lookup => f lookup x) :
    IsInquiry S fun lookup => xs.mapM (f lookup) := by
  induction xs with
  | nil =>
      simp only [List.mapM_nil]
      exact pure []
  | cons x xs ih =>
      simp only [List.mapM_cons]
      obtain ⟨hx, hxs⟩ := List.forall_mem_cons.1 h
      exact hx.bind fun y => (ih hxs).bind fun ys => pure (y :: ys)

end IsInquiry

/-! ### Whose data is read -/

/-- The index of the account whose data a seed reads. -/
def Seed.dataAccount? : Seed → Option Nat
  | accountData account _ _ => some account.toNat
  | _ => none

/-- The index of the account whose data a key source reads. -/
def KeySource.dataAccount? : KeySource → Option Nat
  | accountData account _ => some account.toNat
  | instructionData _ => none

/-- The indices of the accounts whose data an address is made from. -/
def AddressConfig.dataAccounts : AddressConfig → List Nat
  | ownSeeds seeds | externalSeeds _ seeds => seeds.filterMap Seed.dataAccount?
  | keyData source => source.dataAccount?.toList
  | literal _ => []

/-- The address is that of a known account at one of the indices. -/
def Known.Names (known : Known Meta) (indices : List Nat) (address : Pubkey) : Prop :=
  ∃ index ∈ indices, ∃ m, known.toList[index]? = some m ∧ m.address = address

/-! ### The walk through a resolution -/

section Walk

variable {S : Pubkey → Prop} {scope : Scope}

theorem isInquiry_data {address : Pubkey} (h : S address) :
    IsInquiry S fun lookup => lookup.data address := by
  refine .ask h (fun a => ?_) fun _ _ => rfl
  cases a.present with
  | false => exact .throw _
  | true => exact .pure a.data

theorem Scope.isInquiry_accountRange {indices : List Nat} {index : Nat} (h : index ∈ indices)
    (start length : Value) :
    IsInquiry (scope.known.Names indices) fun lookup =>
      scope.accountRange lookup (.int index) start length := by
  refine .lift_bind fun address haddress => ?_
  have hnames : scope.known.Names indices address := by
    obtain ⟨m, hm, rfl⟩ := Known.key_eq_ok_iff.1 haddress
    exact ⟨index, h, m, hm, rfl⟩
  exact (isInquiry_data hnames).bind fun data => .lift _ _

theorem Seed.isInquiry {seed : Seed} {indices : List Nat}
    (h : ∀ index ∈ seed.dataAccount?, index ∈ indices) :
    IsInquiry (scope.known.Names indices) fun lookup => seed.toDraft.resolveSeed lookup scope := by
  cases seed with
  | literal value => exact .pure value
  | instructionData index length => exact .lift _ _
  | accountKey index => exact (IsInquiry.lift _ _).bind fun key => .pure key.bytes
  | accountData account index length =>
      exact Scope.isInquiry_accountRange (h account.toNat rfl) _ _

theorem isInquiry_resolveSeeds (seeds : List Seed) :
    IsInquiry (scope.known.Names (seeds.filterMap Seed.dataAccount?)) fun lookup =>
      Draft.resolveSeeds lookup scope (seeds.map Seed.toDraft) := by
  refine .mapM fun d hd => ?_
  obtain ⟨seed, hseed, rfl⟩ := List.mem_map.1 hd
  exact Seed.isInquiry fun index hindex => List.mem_filterMap.2 ⟨seed, hseed, hindex⟩

theorem isInquiry_keyOfBytes (b : Bytes) : IsInquiry S fun _ => Draft.keyOfBytes b := by
  unfold Draft.keyOfBytes
  cases Pubkey.ofBytes? b with
  | none => exact .throw _
  | some key => exact .pure key

theorem KeySource.isInquiry (source : KeySource) :
    IsInquiry (scope.known.Names source.dataAccount?.toList) fun lookup =>
      source.toDraft.resolveKeySource lookup scope := by
  cases source with
  | instructionData index =>
      exact (IsInquiry.lift _ _).bind fun part => isInquiry_keyOfBytes part
  | accountData account index =>
      exact (Scope.isInquiry_accountRange (List.mem_singleton_self _) _ _).bind fun part =>
        isInquiry_keyOfBytes part

/-- An entry asks only for accounts that are known, and whose index it names for their data. -/
theorem Entry.isInquiry (entry : Entry) (scope : Scope) (program : Pubkey) :
    IsInquiry (scope.known.Names entry.address.dataAccounts) fun lookup =>
      entry.toDraft.resolveEntry lookup scope program := by
  obtain ⟨address, signer, writable⟩ := entry
  cases address with
  | literal address => exact .pure _
  | ownSeeds seeds =>
      refine (isInquiry_resolveSeeds seeds).bind fun resolved => ?_
      exact (IsInquiry.lift _ _).bind fun address => .pure _
  | externalSeeds index seeds =>
      refine (IsInquiry.lift _ _).bind fun owner => ?_
      refine (isInquiry_resolveSeeds seeds).bind fun resolved => ?_
      exact (IsInquiry.lift _ _).bind fun address => .pure _
  | keyData source => exact source.isInquiry.bind fun address => .pure _

theorem isInquiry_resolveEntries (instructionData : Bytes) (program : Pubkey) (known : Known Meta)
    (entries : List Entry) :
    IsInquiry (fun _ => True) fun lookup =>
      resolveEntries lookup instructionData program known entries := by
  -- what is known grows with every entry, so no one set of names serves them all
  induction entries generalizing known with
  | nil => exact .pure known
  | cons entry rest ih =>
      have hentry := entry.isInquiry ⟨known, instructionData⟩ program
      refine (hentry.mono fun _ _ => trivial).bind fun m => ?_
      exact (IsInquiry.report _).bind fun _ => ih (known.push m)

theorem isInquiry_resolveExtraMetas (descriptor : Pubkey) (request : Request) :
    IsInquiry (fun _ => True) fun lookup => resolveExtraMetas lookup descriptor request := by
  refine (IsInquiry.lift _ _).bind fun known => ?_
  refine .ask trivial (fun account => ?_) fun _ _ => rfl
  cases account.present with
  | false => exact (IsInquiry.report _).bind fun _ => .pure _
  | true =>
      refine (IsInquiry.lift _ _).bind fun content => ?_
      refine (IsInquiry.report _).bind fun _ => ?_
      exact (isInquiry_resolveEntries _ _ known content.entries).bind fun known' => .pure _

/-- A resolution is the run of one tree of questions, whatever it looks accounts up with. -/
theorem exists_inquiry_resolveExtraMetas (descriptor : Pubkey) (request : Request) :
    ∃ i : Inquiry (List Meta), ∀ lookup,
      resolveExtraMetas lookup descriptor request = i.run lookup := by
  obtain ⟨i, -, hrun⟩ := isInquiry_resolveExtraMetas descriptor request
  exact ⟨i, hrun⟩

end Walk

/-! ### What is asked of the ledger -/

/-- A lookup for an address asks the ledger for that address at most. -/
def Lookup.AsksOnly (lookup : Lookup) : Prop :=
  ∀ address s, ∃ new, ((lookup address).execute s).2.calls = s.calls ++ new ∧
    ∀ a ∈ new, a = address

theorem Lookup.asksOnly_ask (port : Port) : (Lookup.ask port).AsksOnly := by
  intro address s
  refine ⟨[address], ?_, fun a ha => List.mem_singleton.1 ha⟩
  cases haccount : (port s.calls).account address with
  | ok a =>
      rw [Lookup.execute_ask_of_ok haccount]
      rfl
  | error e =>
      rw [Lookup.execute_ask_of_error haccount]
      rfl

theorem Lookup.AsksOnly.cachedOver {fetch : Lookup} (h : fetch.AsksOnly) :
    (Lookup.cachedOver fetch).AsksOnly := by
  intro address s
  cases hs : s.find? address with
  | some a =>
      rw [Lookup.execute_cachedOver_of_found hs]
      exact ⟨[], (List.append_nil _).symm, fun _ ha => nomatch ha⟩
  | none =>
      obtain ⟨new, hcalls, hnew⟩ := h address s
      refine ⟨new, ?_, hnew⟩
      rcases hfetch : (fetch address).execute s with ⟨e | a, s'⟩
      · rw [Lookup.execute_cachedOver_of_failed hs hfetch, ← hcalls, hfetch]
      · rw [Lookup.execute_cachedOver_of_fetched hs hfetch, ← hcalls, hfetch]
        rfl

/-- A run of an inquiry adds addresses to those that were asked for, and only such as its tree asks
for. -/
theorem Inquiry.exists_calls {α : Type} {lookup : Lookup} (hlookup : lookup.AsksOnly)
    {S : Pubkey → Prop} {i : Inquiry α} (h : i.Asks S) (s : Session) :
    ∃ new, ((i.run lookup).execute s).2.calls = s.calls ++ new ∧ ∀ a ∈ new, S a := by
  induction i generalizing s with
  | done a => exact ⟨[], (List.append_nil _).symm, fun _ ha => nomatch ha⟩
  | fail e => exact ⟨[], (List.append_nil _).symm, fun _ ha => nomatch ha⟩
  | report r next ih =>
      rw [Inquiry.run, Run.execute_bind_ok (Run.execute_report r s)]
      exact ih h (s.addReport r)
  | ask address next ih =>
      obtain ⟨new, hcalls, hnew⟩ := hlookup address s
      have hS : ∀ a ∈ new, S a := fun a ha => hnew a ha ▸ h.1
      rw [Inquiry.run]
      rcases hanswer : (lookup address).execute s with ⟨e | a, s'⟩
      · rw [hanswer] at hcalls
        rw [Run.execute_bind_error hanswer]
        exact ⟨new, hcalls, hS⟩
      · rw [hanswer] at hcalls
        rw [Run.execute_bind_ok hanswer]
        obtain ⟨later, hlater, hlaterS⟩ := ih a.content? (h.2 a.content?) s'
        refine ⟨new ++ later, ?_, fun b hb => (List.mem_append.1 hb).elim (hS b) (hlaterS b)⟩
        rw [hlater, hcalls, List.append_assoc]

end ExtraMetas
