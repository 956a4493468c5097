import ExtraMetas.Proofs.Resolution.ErrorKinds
import ExtraMetas.Proofs.Resolution.Inquiry

/-!
# ExtraMetas.Proofs.Resolution.Windows

**What a range with any bounds gives.** In a draft, the index of an account and the bounds of a
range may be any whole numbers. An index below zero names no account and is refused. The bounds of a
range are not looked at in this way: only a range that ends beyond the data is refused, and what is
not refused is a slice, whose negative bounds count from the end.

So a range that gives bytes gives the ones that it names exactly if its bounds are not negative
(`Bytes.isWindow_iff`, `resolveRange_exact_iff`). With a negative start it gives other bytes or too few of
them, and too few for a key are no error of the resolver's own (`resolveRange_negative_start`).
-/

namespace ExtraMetas

/-! ### Windows of a byte string -/

/-- The part is the window of `length` bytes from `start` on: its byte `k` is byte `start + k`. -/
structure Bytes.IsWindow (b : Bytes) (start length : Int) (part : Bytes) : Prop where
  length_eq : (part.length : Int) = length
  byte : ∀ k, k < part.length → ∃ place : Nat, (place : Int) = start + k ∧ b[place]? = part[k]?

theorem Bytes.window?_eq_some_iff {b part : Bytes} {i n : Int} :
    b.window? i n = some part ↔ i + n ≤ b.length ∧ part = b.slice i (i + n) := by
  rw [Bytes.window?]
  split
  · rename_i hbeyond
    constructor
    · intro h
      cases h
    · intro h
      omega
  · rename_i hfit
    rw [Option.some.injEq]
    exact ⟨fun h => ⟨by omega, h.symm⟩, fun h => h.2.symm⟩

theorem Bytes.isWindow_take_drop {b : Bytes} {i n : Nat} (h : i + n ≤ b.length) :
    b.IsWindow i n ((b.drop i).take n) := by
  have hlength : ((b.drop i).take n).length = n := by
    rw [List.length_take, List.length_drop]
    omega
  constructor
  case length_eq => rw [hlength]
  case byte =>
    intro k hk
    refine ⟨i + k, by omega, ?_⟩
    rw [List.getElem?_take_of_lt (by omega), List.getElem?_drop]

/-- What ends inside the string is the window that its bounds name iff these are not negative; of
the windows without a byte, the length alone says so. -/
theorem Bytes.isWindow_iff {b part : Bytes} {i n : Int} (h : b.window? i n = some part) :
    b.IsWindow i n part ↔ 0 ≤ n ∧ (0 ≤ i ∨ n = 0) := by
  constructor
  · rintro ⟨hlength, hbyte⟩
    refine ⟨by omega, ?_⟩
    by_cases hpart : part.length = 0
    · exact .inr (by omega)
    · obtain ⟨place, hplace, -⟩ := hbyte 0 (by omega)
      exact .inl (by omega)
  · rintro ⟨hn, hi | rfl⟩
    · obtain ⟨i, rfl⟩ := Int.eq_ofNat_of_zero_le hi
      obtain ⟨n, rfl⟩ := Int.eq_ofNat_of_zero_le hn
      rw [Bytes.window?_ofNat] at h
      split at h
      · rename_i hfit
        cases h
        exact Bytes.isWindow_take_drop hfit
      · cases h
    · obtain ⟨-, rfl⟩ := Bytes.window?_eq_some_iff.1 h
      have hempty : b.slice i (i + 0) = [] := by
        rw [Int.add_zero, Bytes.slice]
        refine List.drop_eq_nil_of_le ?_
        rw [List.length_take]
        omega
      rw [hempty]
      exact ⟨rfl, fun k hk => (Nat.not_lt_zero k hk).elim⟩

/-- With whole numbers for its bounds, a range is a window, or it is refused. -/
theorem range_int (b : Bytes) (i n : Int) (bounds : Value → ResolveError) :
    range b (.int i) (.int n) bounds = match b.window? i n with
      | some part => .ok part
      | none => .error (beyond bounds (.int (i + n))) :=
  rfl

/-! ### Ranges as a caller writes them -/

/-- Where a range starts, in whole numbers of any size: at `start` of the instruction data, or of
the data of the account at an index. -/
structure Origin where
  account? : Option Int
  start : Int

namespace Origin

/-- The seed of the `length` bytes from there on. -/
def seed (o : Origin) (length : Int) : Draft :=
  match o.account? with
  | none => .instructionData (.int o.start) (.int length)
  | some account => .accountData (.int account) (.int o.start) (.int length)

/-- The source of the key that is there. -/
def keySource (o : Origin) : Draft :=
  match o.account? with
  | none => .instructionDataKey (.int o.start)
  | some account => .accountDataKey (.int account) (.int o.start)

/-- The range of `length` bytes from there on, as the resolver reads it. -/
def range (lookup : Lookup) (scope : Scope) (o : Origin) (length : Int) : Run ResolveError Bytes :=
  match o.account? with
  | none => scope.instructionRange (.int o.start) (.int length)
  | some account => scope.accountRange lookup (.int account) (.int o.start) (.int length)

theorem resolveSeed_seed (lookup : Lookup) (scope : Scope) (o : Origin) (length : Int) :
    (o.seed length).resolveSeed lookup scope = o.range lookup scope length := by
  obtain ⟨_ | account, start⟩ := o
  · rfl
  · rfl

theorem resolveKeySource_keySource (lookup : Lookup) (scope : Scope) (o : Origin) :
    o.keySource.resolveKeySource lookup scope = o.range lookup scope 32 >>= Draft.keyOfBytes := by
  obtain ⟨_ | account, start⟩ := o
  · rfl
  · rfl

/-- The bytes that a range was read from: the instruction data, or the data of the account at the
index, as the session has it. -/
def ReadFrom (scope : Scope) (s : Session) (o : Origin) (b : Bytes) : Prop :=
  match o.account? with
  | none => b = scope.instructionData
  | some account => ∃ (index : Nat) (m : Meta) (a : Account), account = index ∧
      scope.known.toList[index]? = some m ∧ s.find? m.address = some a ∧ a.content? = some b

/-- Can the numbers that a refusal of the range names be written down? -/
def IsWritten (o : Origin) (length : Int) : Prop :=
  (∀ account, o.account? = some account → (Value.int account).isWritable = true) ∧
    (Value.int (o.start + length)).isWritable = true

/-- How reading a range may fail: with an error of the resolver's own, in what the last fetch ended
in, or because a number is too long for the message that names it. -/
def Fails (port : Port) (o : Origin) (length : Int) (e : ResolveError) (s : Session) : Prop :=
  (∃ kind, e.kind? = some kind) ∨ port.LastFetchFailed s e ∨
    (e = .index (.indexKind .tooLong) ∨ e = .operand .tooLong) ∧ ¬ o.IsWritten length

end Origin

/-! ### The walk through a range -/

section Walk

variable {port : Port} {scope : Scope} {o : Origin} {length : Int}

theorem Known.exists_of_key {k : Known Meta} {n : Int} {address : Pubkey}
    (h : k.key (.int n) = .ok address) :
    ∃ (index : Nat) (m : Meta), n = index ∧ k.toList[index]? = some m ∧ m.address = address := by
  have hn : 0 ≤ n := by
    refine Int.not_lt.1 fun hneg => ?_
    rw [Known.key, Known.get, Value.integer?_int] at h
    dsimp only at h
    rw [if_pos hneg] at h
    cases h
  obtain ⟨index, rfl⟩ := Int.eq_ofNat_of_zero_le hn
  obtain ⟨m, hm, haddress⟩ := Known.key_eq_ok_iff.1 h
  exact ⟨index, m, rfl, hm, haddress⟩

/-- A whole number that names no account is refused for that, unless it is too long to be named. -/
theorem Known.error_of_key {k : Known Meta} {n : Int} {e : KnownError}
    (h : k.key (.int n) = .error e) :
    e = .unresolved (.int n) k.size ∨
      e = .indexKind .tooLong ∧ ¬ (Value.int n).isWritable = true := by
  rw [Known.key, Except.map_eq_error_iff, Known.get, Value.integer?_int] at h
  dsimp only at h
  split at h
  · cases h
  · rw [← Except.error.inj h, Known.outside]
    split
    · exact .inl rfl
    · rename_i hlong
      exact .inr ⟨rfl, hlong⟩

/-- What a cache in front of a port gives, it has from then on. -/
theorem Lookup.triple_account (address : Pubkey) :
    (Lookup.cachedOver (.ask port) address).Triple (fun _ => True)
      (fun a s => s.find? address = some a) (o.Fails port length) := by
  refine Lookup.triple_cachedOver_ask (fun _ _ _ hfind => hfind) ?_ ?_
  · intro s a _ _ _
    exact (Session.find?_addAccount _ _ _ _).trans (if_pos rfl)
  · intro s refusal _ _ hrefusal
    exact .inr (.inl ⟨s.calls, address, refusal, rfl, hrefusal, rfl⟩)

theorem Lookup.triple_data (address : Pubkey) :
    ((Lookup.cachedOver (.ask port)).data address).Triple (fun _ => True)
      (fun b s => ∃ a, s.find? address = some a ∧ a.content? = some b) (o.Fails port length) := by
  refine (Lookup.triple_account address).bind fun a => ?_
  cases hpresent : a.present with
  | false => exact Run.Triple.throw fun _ _ => .inl ⟨_, rfl⟩
  | true =>
      refine Run.Triple.pure fun s hs => ⟨a, hs, ?_⟩
      rw [Account.content?, if_pos hpresent]

/-- A range is cut from bytes that were read before. -/
theorem Origin.triple_cut {b : Bytes} {bounds : Value → ResolveError}
    (hbounds : ∀ v, ∃ kind, (bounds v).kind? = some kind) :
    (Run.lift id (ExtraMetas.range b (.int o.start) (.int length) bounds)).Triple
      (o.ReadFrom scope · b)
      (fun part s => ∃ b, o.ReadFrom scope s b ∧ b.window? o.start length = some part)
      (o.Fails port length) := by
  rw [range_int]
  cases hwindow : b.window? o.start length with
  | some part => exact Run.Triple.pure fun s hs => ⟨b, hs, hwindow⟩
  | none =>
      refine Run.Triple.throw fun s _ => ?_
      rw [id, beyond]
      split
      · exact .inl (hbounds _)
      · rename_i hlong
        exact .inr (.inr ⟨.inr rfl, fun hwritten => hlong hwritten.2⟩)

theorem Origin.triple_range (o : Origin) (length : Int) :
    (o.range (.cachedOver (.ask port)) scope length).Triple (fun _ => True)
      (fun part s => ∃ b, o.ReadFrom scope s b ∧ b.window? o.start length = some part)
      (o.Fails port length) := by
  obtain ⟨account?, start⟩ := o
  cases account? with
  | none => exact fun s _ => Origin.triple_cut (o := ⟨none, start⟩) (fun _ => ⟨_, rfl⟩) s rfl
  | some account =>
      have hkey : (scope.key (.int account)).Triple (fun _ => True)
          (fun address _ => (∃ (index : Nat) (m : Meta), account = index ∧
            scope.known.toList[index]? = some m ∧ m.address = address) ∧ True)
          (Origin.Fails port ⟨some account, start⟩ length) := by
        refine Run.Triple.lift (fun address s h _ => ⟨Known.exists_of_key h, trivial⟩)
          fun e s h _ => ?_
        rcases Known.error_of_key h with rfl | ⟨rfl, hlong⟩
        · exact .inl ⟨_, rfl⟩
        · exact .inr (.inr ⟨.inl rfl, fun hwritten => hlong (hwritten.1 account rfl)⟩)
      refine hkey.bind fun address => Run.Triple.assume ?_
      rintro ⟨index, m, hindex, hm, rfl⟩
      refine (Lookup.triple_data m.address).bind fun b s hs => ?_
      obtain ⟨a, ha, hcontent⟩ := hs
      exact Origin.triple_cut (fun _ => ⟨_, rfl⟩) s ⟨index, m, a, hindex, hm, ha, hcontent⟩

/-- Bytes that are no key are the ones that a key's range from below zero was cut to. -/
theorem Origin.triple_key (o : Origin) (part : Bytes) :
    (Draft.keyOfBytes part).Triple
      (fun s => ∃ b, o.ReadFrom scope s b ∧ b.window? o.start 32 = some part)
      (fun key s => ∃ b, o.ReadFrom scope s b ∧ b.window? o.start 32 = some key.bytes)
      (fun e _ => o.start < 0 ∧ ∃ size, e = .keySize size) := by
  rw [Draft.keyOfBytes]
  cases hkey : Pubkey.ofBytes? part with
  | some key =>
      rw [← Pubkey.ofBytes?_eq_some_iff.1 hkey]
      exact Run.Triple.pure fun _ hs => hs
  | none =>
      refine Run.Triple.throw fun s hs => ⟨?_, _, rfl⟩
      obtain ⟨b, -, hwindow⟩ := hs
      by_contra hstart
      -- a range from zero on has its full length, and 32 bytes are a key
      have hexact := (Bytes.isWindow_iff hwindow).2 ⟨by omega, .inl (by omega)⟩
      have hsize : part.length = 32 := Int.ofNat.inj hexact.length_eq
      obtain ⟨key, hsome⟩ := Pubkey.exists_ofBytes? hsize
      rw [hkey] at hsome
      cases hsome

theorem Origin.triple_keySource (o : Origin) :
    (o.keySource.resolveKeySource (.cachedOver (.ask port)) scope).Triple (fun _ => True)
      (fun key s => ∃ b, o.ReadFrom scope s b ∧ b.window? o.start 32 = some key.bytes)
      (fun e s => o.Fails port 32 e s ∨ o.start < 0 ∧ ∃ size, e = .keySize size) := by
  rw [Origin.resolveKeySource_keySource]
  refine Run.Triple.bind ((o.triple_range 32).mono_fail fun _ _ h => .inl h) fun part => ?_
  exact (o.triple_key part).mono_fail fun _ _ h => .inr h

end Walk

/-- **A range gives what it names exactly if its bounds are not negative.** Whatever whole numbers
the index of an account and the bounds of a range are, and whatever the ledger answers, a seed or a
key source fails with an error, or it gives a slice of the instruction data or of the data of the
account that it names. The slice is the range itself iff its bounds are not negative; and an error
that is neither of the resolver's own nor the ledger's is about a number too long to be written
down, or about a key whose range starts below zero. -/
theorem resolveRange_exact_iff (port : Port) (scope : Scope) (o : Origin) (s : Session) :
    (∀ length, Run.Ends
        (fun part s' => ∃ b, o.ReadFrom scope s' b ∧
          part = b.slice o.start (o.start + length) ∧ o.start + length ≤ b.length ∧
          (b.IsWindow o.start length part ↔ 0 ≤ length ∧ (0 ≤ o.start ∨ length = 0)))
        (o.Fails port length)
        (((o.seed length).resolveSeed (.cachedOver (.ask port)) scope).execute s)) ∧
      Run.Ends
        (fun key s' => ∃ b, o.ReadFrom scope s' b ∧
          key.bytes = b.slice o.start (o.start + 32) ∧ o.start + 32 ≤ b.length ∧
          (b.IsWindow o.start 32 key.bytes ↔ 0 ≤ o.start))
        (fun e s' => o.Fails port 32 e s' ∨ o.start < 0 ∧ ∃ size, e = .keySize size)
        ((o.keySource.resolveKeySource (.cachedOver (.ask port)) scope).execute s) := by
  constructor
  · intro length
    rw [Origin.resolveSeed_seed]
    refine (o.triple_range length).mono ?_ s trivial
    rintro part s' ⟨b, hb, hwindow⟩
    obtain ⟨hfit, hslice⟩ := Bytes.window?_eq_some_iff.1 hwindow
    exact ⟨b, hb, hslice, hfit, Bytes.isWindow_iff hwindow⟩
  · refine o.triple_keySource.mono ?_ s trivial
    rintro key s' ⟨b, hb, hwindow⟩
    obtain ⟨hfit, hslice⟩ := Bytes.window?_eq_some_iff.1 hwindow
    refine ⟨b, hb, hslice, hfit, (Bytes.isWindow_iff hwindow).trans ?_⟩
    omega

/-- Two bytes from byte -3 of the instruction data on are those before its last one, and a key from
byte -1 on is one of no bytes, which is no error of the resolver's own. -/
theorem resolveRange_negative_start :
    let read (d : Draft) (data : Bytes) :=
      (d.resolveSeed (.cached fun _ => .ok .missing) ⟨⟨[]⟩, data⟩).execute .empty
    let readKey (d : Draft) (data : Bytes) :=
      (d.resolveKeySource (.cached fun _ => .ok .missing) ⟨⟨[]⟩, data⟩).execute .empty
    read (.instructionData (.int (-3)) (.int 2)) [1, 2, 3, 4] = (.ok [2, 3], .empty) ∧
      ¬ Bytes.IsWindow [1, 2, 3, 4] (-3) 2 [2, 3] ∧
      readKey (.instructionDataKey (.int (-1))) (List.replicate 32 7)
        = (.error (.keySize 0), .empty) ∧
      (ResolveError.keySize 0).kind? = none := by
  intro read readKey
  refine ⟨rfl, fun h => ?_, rfl, rfl⟩
  obtain ⟨place, hplace, -⟩ := h.byte 0 (by decide)
  omega

end ExtraMetas
