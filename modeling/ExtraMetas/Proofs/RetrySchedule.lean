import ExtraMetas.NodeClient
import Mathlib.Algebra.Field.Rat
import Mathlib.Data.ENat.Lattice
import Mathlib.Tactic.NormNum
import Mathlib.Tactic.Ring

/-!
# ExtraMetas.Proofs.RetrySchedule

**How a fetch asks and waits.** The node's answers begin with a number of failures of the transport
(`Answers.leadingFailures`), which may be all of them. As long as repetitions are left, each of
these failures is waited after, twice as long as after the one before, and the first other answer
ends the fetch. When no repetition is left, the failure itself ends it (`fetch_schedule`).

The course of a fetch (`Fetch.Course`) is put together from its end: one answer that is the last,
and a failure in front of a course. The loop follows the same two rules, and the induction is on the
repetitions that are left.
-/

namespace ExtraMetas.NodeClient

/-! ### Failures in front -/

/-- Is the answer a failure of the transport? -/
def Answer.isTransportFailure : Answer → Bool
  | transportFailure _ => true
  | _ => false

theorem Answer.exists_of_isTransportFailure {a : Answer} (h : a.isTransportFailure = true) :
    ∃ message, a = .transportFailure message := by
  cases a with
  | transportFailure message => exact ⟨message, rfl⟩
  | _ => simp [isTransportFailure] at h

/-- How many failures of the transport come before the first other answer, without end if there is
no other. -/
noncomputable def Answers.leadingFailures (answers : Answers) : ℕ∞ :=
  ⨅ (n : Nat) (_ : (answers n).isTransportFailure = false), (n : ℕ∞)

section Failures

variable {answers : Answers} {n : Nat}

theorem Answers.le_leadingFailures_iff :
    (n : ℕ∞) ≤ answers.leadingFailures ↔ ∀ i < n, (answers i).isTransportFailure = true := by
  rw [leadingFailures, le_iInf₂_iff]
  constructor
  · intro h i hi
    by_contra hother
    have hle := h i (by simpa using hother)
    rw [Nat.cast_le] at hle
    omega
  · intro h i hother
    rw [Nat.cast_le]
    by_contra hlt
    have hfailure := h i (by omega)
    simp [hother] at hfailure

theorem Answers.isTransportFailure_of_lt (h : (n : ℕ∞) < answers.leadingFailures) :
    (answers n).isTransportFailure = true := by
  have hle : ((n + 1 : Nat) : ℕ∞) ≤ answers.leadingFailures := by
    rw [Nat.cast_succ]
    exact Order.add_one_le_of_lt h
  exact le_leadingFailures_iff.1 hle n (by omega)

theorem Answers.isTransportFailure_of_eq (h : answers.leadingFailures = n) :
    (answers n).isTransportFailure = false := by
  by_contra hfailure
  have hall : ∀ i < n + 1, (answers i).isTransportFailure = true := by
    intro i hi
    by_cases hlast : i = n
    · simpa [hlast] using hfailure
    · exact le_leadingFailures_iff.1 h.ge i (by omega)
  have hle := le_leadingFailures_iff.2 hall
  rw [h, Nat.cast_le] at hle
  omega

end Failures

/-! ### Courses -/

/-- The course of a fetch that repeats its request `repeats` times. It waits after each answer but
the last, which are failures of the transport: first `b` seconds, and then twice as long each time.
What it ends in is what the last answer says. -/
structure Fetch.Course (b : Rat) (answers : Answers) (repeats : Nat) (f : Fetch) : Prop where
  requests : f.requests = repeats + 1
  delays : f.waits.map Prod.snd = (List.range repeats).map fun i => .finite (b * 2 ^ i)
  causes : f.waits.map (fun wait => .transportFailure wait.1) = (List.range repeats).map answers
  account : ∀ data, answers repeats = .account data → f.result = .ok ⟨true, data⟩
  missing : answers repeats = .missing → f.result = .ok ⟨false, []⟩
  failure : ∀ e, answers repeats = .failure e → f.result = .error (.failed e)
  transport : ∀ message, answers repeats = .transportFailure message →
    f.result = .error (.transport message)

/-- The seconds that a fetch waited. -/
def Fetch.waited (f : Fetch) : Rat :=
  (f.waits.map fun wait => wait.2.rational?.getD 0).sum

section Courses

variable {b : Rat} {answers : Answers} {repeats : Nat} {f : Fetch}

/-- One answer that ends the fetch. -/
theorem Fetch.Course.last : Course b answers 0 ⟨(answers 0).outcome, 1, []⟩ where
  requests := rfl
  delays := rfl
  causes := rfl
  account data h := by rw [h, Answer.outcome]
  missing h := by rw [h, Answer.outcome, Account.missing]
  failure e h := by rw [h, Answer.outcome]
  transport message h := by rw [h, Answer.outcome]

/-- A failure in front of a course that waits from twice as long on. -/
theorem Fetch.Course.cons {message : String} (hfirst : answers 0 = .transportFailure message)
    (h : f.Course (b * 2) (fun i => answers (i + 1)) repeats) :
    Course b answers (repeats + 1) ⟨f.result, f.requests + 1, (message, .finite b) :: f.waits⟩ where
  requests := by rw [h.requests]
  delays := by
    have hdouble : ∀ i, b * 2 * 2 ^ i = b * 2 ^ (i + 1) := fun i => by ring
    simp [List.range_succ_eq_map, h.delays, hdouble, Function.comp_def]
  causes := by simp [List.range_succ_eq_map, h.causes, hfirst, Function.comp_def]
  account := h.account
  missing := h.missing
  failure := h.failure
  transport := h.transport

/-- The waits of a course add up to one less than the next would be, in units of the first. -/
theorem Fetch.Course.waited_eq (h : f.Course b answers repeats) :
    f.waited = b * (2 ^ repeats - 1) := by
  have hdelays : f.waits.map (fun wait => wait.2.rational?.getD 0)
      = (List.range repeats).map fun i => b * 2 ^ i := by
    have hrational := congrArg (List.map fun x : Extended => x.rational?.getD 0) h.delays
    simpa [Function.comp_def, Extended.rational?] using hrational
  rw [waited, hdelays]
  clear h hdelays
  induction repeats with
  | zero => simp
  | succ repeats ih =>
      rw [List.range_succ, List.map_append, List.sum_append, ih]
      simp only [List.map_cons, List.map_nil, List.sum_singleton]
      ring

end Courses

/-! ### The loop -/

section Loop

variable {policy : Policy} {b : Rat} {answers : Answers}

theorem fetchFrom_of_other {left attempt : Nat}
    (h : (answers attempt).isTransportFailure = false) :
    fetchFrom policy answers left attempt = ⟨(answers attempt).outcome, 1, []⟩ := by
  cases left with
  | zero => rfl
  | succ left =>
      cases hanswer : answers attempt with
      | transportFailure message => simp [hanswer, Answer.isTransportFailure] at h
      | _ => simp [fetchFrom, hanswer]

theorem fetchFrom_of_failure {left attempt : Nat} {message : String}
    (hb : policy.backoff = .exact b) (h : answers attempt = .transportFailure message) :
    fetchFrom policy answers (left + 1) attempt =
      let later := fetchFrom policy answers left (attempt + 1)
      ⟨later.result, later.requests + 1, (message, .finite (b * 2 ^ attempt)) :: later.waits⟩ := by
  simp [fetchFrom, h, hb, Backoff.delay]

/-- With repetitions left for all failures in front, or with none left after them, the loop runs
through the failures to the answer behind them. -/
theorem course_fetchFrom (hb : policy.backoff = .exact b) {left attempt repeats : Nat}
    (hleft : repeats ≤ left)
    (hfailures : ∀ i < repeats, (answers (attempt + i)).isTransportFailure = true)
    (hend : repeats = left ∨ (answers (attempt + repeats)).isTransportFailure = false) :
    (fetchFrom policy answers left attempt).Course (b * 2 ^ attempt)
      (fun i => answers (attempt + i)) repeats := by
  induction repeats generalizing left attempt with
  | zero =>
      have hlast : fetchFrom policy answers left attempt = ⟨(answers attempt).outcome, 1, []⟩ := by
        rcases hend with rfl | hother
        · rfl
        · exact fetchFrom_of_other hother
      rw [hlast]
      exact Fetch.Course.last
  | succ repeats ih =>
      obtain ⟨left, rfl⟩ := Nat.exists_eq_add_of_le' (show 1 ≤ left by omega)
      obtain ⟨message, hmessage⟩ := Answer.exists_of_isTransportFailure (hfailures 0 (by omega))
      have hshift : ∀ i, attempt + 1 + i = attempt + (i + 1) := fun i => by omega
      have hlater := @ih left (attempt + 1) (by omega)
        (fun i hi => by simpa [hshift] using hfailures (i + 1) (by omega))
        (by simpa [hshift] using hend)
      simp only [hshift, pow_succ, ← mul_assoc] at hlater
      rw [fetchFrom_of_failure hb (by simpa using hmessage)]
      exact Fetch.Course.cons hmessage hlater

/-- Every count of repetitions and every wait that is not negative make a policy. -/
theorem exists_make (retries : Nat) (hb : 0 ≤ b) (level? : Option Commitment) :
    ∃ policy, Policy.make retries (.exact b) ((level?.map Commitment.name).getD "") = .ok policy ∧
      policy.retries = retries ∧ policy.backoff = .exact b := by
  have hretries : ¬ (retries : Int) < 0 := by omega
  have hbelow : (Backoff.exact b).seconds.below 0 = false := by
    simpa [Backoff.seconds, Extended.below, Extended.rational?] using hb
  cases level? with
  | none => exact ⟨⟨retries, .exact b, none⟩, by simp [Policy.make, hretries, hbelow], rfl, rfl⟩
  | some level =>
      have hname : level.name ≠ "" := by cases level <;> decide
      refine ⟨⟨retries, .exact b, some level⟩, ?_, rfl, rfl⟩
      simp [Policy.make, hretries, hbelow, hname, commitmentOf, Commitment.ofName?_name, Except.map]

theorem course_fetch (hb : policy.backoff = .exact b) {repeats : Nat}
    (hleft : repeats ≤ policy.retries) (hfailures : (repeats : ℕ∞) ≤ answers.leadingFailures)
    (hend : repeats = policy.retries ∨ (answers repeats).isTransportFailure = false) :
    (fetch policy answers).Course b answers repeats := by
  have hcourse : (fetchFrom policy answers policy.retries 0).Course (b * 2 ^ 0)
      (fun i => answers (0 + i)) repeats :=
    course_fetchFrom hb hleft (by simpa using Answers.le_leadingFailures_iff.1 hfailures)
      (by simpa using hend)
  simpa [fetch] using hcourse

end Loop

/-- **The schedule of a fetch.** Any count of repetitions and any wait that is not negative make a
policy, and whatever the node answers under it, the fetch takes one course. If the failures in front
are no more than the repetitions, each of them is waited after, and the answer behind them ends the
fetch. Otherwise the repetitions are used up, and the failure after the last of them ends it. Either
way the waits double from `b` on, so they add up to `b * (2 ^ n - 1)` for `n` repetitions. -/
theorem fetch_schedule (retries : Nat) {b : Rat} (hb : 0 ≤ b) (level? : Option Commitment)
    (answers : Answers) :
    ∃ policy, Policy.make retries (.exact b) ((level?.map Commitment.name).getD "") = .ok policy ∧
      let f := fetch policy answers
      let k := answers.leadingFailures
      (k ≤ retries → ∃ n : Nat, k = n ∧ (answers n).isTransportFailure = false ∧
        f.Course b answers n) ∧
      (retries < k → f.Course b answers retries ∧
        ∃ message, answers retries = .transportFailure message ∧
          f.result = .error (.transport message)) ∧
      f.waited = b * (2 ^ (min k retries).toNat - 1) := by
  obtain ⟨policy, hmake, hretries, hbackoff⟩ : ∃ policy,
      Policy.make retries (.exact b) ((level?.map Commitment.name).getD "") = .ok policy ∧
        policy.retries = retries ∧ policy.backoff = .exact b :=
    exists_make retries hb level?
  subst hretries
  refine ⟨policy, hmake, ?_⟩
  intro f k
  have hmany (h : policy.retries ≤ k) : f.Course b answers policy.retries :=
    course_fetch hbackoff le_rfl h (.inl rfl)
  have hfew (h : k ≤ policy.retries) : ∃ n : Nat, k = n ∧
      (answers n).isTransportFailure = false ∧ f.Course b answers n := by
    obtain ⟨n, hn, hle⟩ := ENat.le_natCast_iff.1 h
    have hother := Answers.isTransportFailure_of_eq hn
    exact ⟨n, hn, hother, course_fetch hbackoff hle hn.ge (.inr hother)⟩
  refine ⟨hfew, ?_, ?_⟩
  · intro hlt
    have hcourse := hmany hlt.le
    obtain ⟨message, hmessage⟩ :=
      Answer.exists_of_isTransportFailure (Answers.isTransportFailure_of_lt hlt)
    exact ⟨hcourse, message, hmessage, hcourse.transport message hmessage⟩
  · rcases le_total k policy.retries with hle | hle
    · obtain ⟨n, hn, -, hcourse⟩ := hfew hle
      rw [min_eq_left hle, hn, ENat.toNat_natCast]
      exact hcourse.waited_eq
    · rw [min_eq_right hle, ENat.toNat_natCast]
      exact (hmany hle).waited_eq

/-- Two failures and an account, with three repetitions to spend and half a second to start with:
the node is asked three times, with half a second and a second in between. With one repetition, the
second failure stands. -/
theorem fetch_schedule_two_failures :
    let answers := answersOf [.transportFailure "a", .transportFailure "b", .account [7]]
    (0 : Rat) ≤ 1 / 2 ∧
      (∃ policy, Policy.make 3 (.exact (1 / 2)) "" = .ok policy ∧
        (fetch policy answers).requests = 3 ∧
        (fetch policy answers).waits.map Prod.snd = [.finite (1 / 2), .finite 1] ∧
        (fetch policy answers).result = .ok ⟨true, [7]⟩) ∧
      ∃ policy, Policy.make 1 (.exact (1 / 2)) "" = .ok policy ∧
        (fetch policy answers).result = .error (.transport "b") := by
  intro answers
  have hhalf : (0 : Rat) ≤ 1 / 2 := by norm_num
  have hfailures : answers.leadingFailures = (2 : Nat) := by
    refine le_antisymm ?_ (Answers.le_leadingFailures_iff.2 (by decide))
    exact iInf₂_le_of_le 2 rfl le_rfl
  refine ⟨hhalf, ?_, ?_⟩
  · obtain ⟨policy, hmake, hfew, -, -⟩ := fetch_schedule 3 hhalf none answers
    obtain ⟨n, hn, -, hcourse⟩ := hfew (by rw [hfailures]; norm_num)
    obtain rfl : n = 2 := by
      rw [hfailures, Nat.cast_inj] at hn
      exact hn.symm
    refine ⟨policy, hmake, hcourse.requests, ?_, hcourse.account [7] rfl⟩
    rw [hcourse.delays]
    norm_num [List.range_succ]
  · obtain ⟨policy, hmake, -, hmany, -⟩ := fetch_schedule 1 hhalf none answers
    obtain ⟨-, message, hmessage, hresult⟩ := hmany (by rw [hfailures]; norm_num)
    cases hmessage
    exact ⟨policy, hmake, hresult⟩

end ExtraMetas.NodeClient
