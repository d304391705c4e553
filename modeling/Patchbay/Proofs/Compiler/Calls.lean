import Mathlib.Data.List.Induction
import Patchbay.Proofs.Compiler.Mirroring

/-!
# What a device is asked and what it answers

`Device.recording` asks a device and keeps a list of all calls with their answers.  The list alone
says what the device has taken: a piece up to each successful flush, and what came since
(`account`).

A run looks at the answer to each of its calls.  As long as all of them are granted, the sink keeps
the same account as the list (`Sink.Faithful`), and a call that is refused is the last one
(`Sink.Refused`).  Both are kept by everything that is written (`answered_follow`).
-/

namespace Patchbay

/-! ## Calls -/

/-- A call of a device and its answer. -/
inductive Call where
  | write (bytes : Bytes) (answer : Except StreamError ℕ)
  | flush (answer : Except StreamError Unit)

namespace Call

/-- Why a call was refused, if it was.  To take nothing of what is offered is to refuse it. -/
def refusal? : Call → Option StreamError
  | write _ (.error fault) => some fault
  | write _ (.ok 0) => some .nothingWritten
  | write _ (.ok (_ + 1)) => none
  | flush (.error fault) => some fault
  | flush (.ok ()) => none

/-- The call that is due when `rest` is left of a record. -/
def IsDue (rest : Bytes) : Call → Prop
  | write bytes _ => bytes = rest ∧ rest ≠ []
  | flush _ => rest = []

end Call

/-- What a device has taken. -/
structure Account where
  /-- What was taken up to each successful flush, since the one before. -/
  pieces : List Bytes
  /-- What has been taken since the last successful flush. -/
  since : Bytes

namespace Account

/-- All bytes that have been taken. -/
def taken (account : Account) : Bytes :=
  account.pieces.flatten ++ account.since

/-- The account after one more call. -/
def enter (account : Account) : Call → Account
  | .write bytes (.ok count) => { account with since := account.since ++ bytes.take count }
  | .flush (.ok ()) => ⟨account.pieces ++ [account.since], []⟩
  | .write _ (.error _) => account
  | .flush (.error _) => account

theorem enter_of_refused (account : Account) {call : Call} (h : call.refusal? ≠ none) :
    account.enter call = account := by
  cases call with
  | write bytes answer =>
      cases answer with
      | error fault => rfl
      | ok count =>
          cases count with
          | zero => simp [enter]
          | succ count => exact absurd rfl h
  | flush answer =>
      cases answer with
      | error fault => rfl
      | ok u => exact absurd rfl h

theorem taken_prefix_enter (account : Account) (call : Call) :
    account.taken <+: (account.enter call).taken := by
  cases call with
  | write bytes answer =>
      cases answer with
      | error fault => exact List.prefix_rfl
      | ok count =>
          rw [enter, taken, taken, ← List.append_assoc]
          exact List.prefix_append _ _
  | flush answer =>
      cases answer with
      | error fault => exact List.prefix_rfl
      | ok u => simp [enter, taken]

theorem pieces_prefix_enter (account : Account) (call : Call) :
    account.pieces <+: (account.enter call).pieces := by
  cases call with
  | write bytes answer => cases answer <;> exact List.prefix_rfl
  | flush answer =>
      cases answer with
      | error fault => exact List.prefix_rfl
      | ok u => exact List.prefix_append _ _

end Account

/-- What a device has taken by its answers. -/
def account (calls : List Call) : Account :=
  calls.foldl Account.enter ⟨[], []⟩

theorem account_concat (calls : List Call) (call : Call) :
    account (calls ++ [call]) = (account calls).enter call := by
  rw [account, List.foldl_concat, account]

/-- A device keeps what it has taken, and the pieces that it has been flushed for. -/
theorem account_prefix {front calls : List Call} (h : front <+: calls) :
    (account front).taken <+: (account calls).taken ∧
      (account front).pieces <+: (account calls).pieces := by
  obtain ⟨back, rfl⟩ := h
  induction back using List.reverseRecOn with
  | nil => simp
  | append_singleton back call ih =>
      rw [← List.append_assoc, account_concat]
      exact ⟨ih.1.trans (Account.taken_prefix_enter _ call),
        ih.2.trans (Account.pieces_prefix_enter _ call)⟩

/-- One of the calls has been refused, when `j` pieces had been flushed. -/
def RefusedAt (calls : List Call) (j : ℕ) : Prop :=
  ∃ before call after, calls = before ++ call :: after ∧ call.refusal? ≠ none ∧
    (account before).pieces.length = j

theorem not_refusedAt {calls : List Call} (h : ∀ call ∈ calls, call.refusal? = none) {j : ℕ} :
    ¬ RefusedAt calls j := by
  rintro ⟨before, call, after, rfl, hrefused, -⟩
  exact hrefused (h call (by simp))

/-- If all calls but the last have been granted, only the last may have been refused. -/
theorem RefusedAt.eq_of_last {before : List Call} {call : Call} {j : ℕ}
    (h : RefusedAt (before ++ [call]) j) (hgranted : ∀ earlier ∈ before, earlier.refusal? = none) :
    (account before).pieces.length = j := by
  obtain ⟨front, refused, after, hsplit, hrefused, hlength⟩ := h
  rcases List.eq_nil_or_concat' after with rfl | ⟨init, last, rfl⟩
  · rw [(List.append_inj' hsplit rfl).1, hlength]
  · rw [← List.cons_append, ← List.append_assoc] at hsplit
    have hbefore : before = front ++ refused :: init := (List.append_inj' hsplit rfl).1
    exact absurd (hgranted refused (by simp [hbefore])) hrefused

/-! ## Recording -/

/-- A device that keeps a list of its calls. -/
def Device.recording {σ : Type} (device : Device σ) : Device (σ × List Call) where
  write bytes state :=
    ((device.write bytes state.1).1, (device.write bytes state.1).2,
      state.2 ++ [.write bytes (device.write bytes state.1).1])
  flush state :=
    ((device.flush state.1).1, (device.flush state.1).2,
      state.2 ++ [.flush (device.flush state.1).1])

section

variable {σ : Type} {device : Device σ}

theorem Device.mirrors_recording (device : Device σ) : device.recording.Mirrors device Prod.fst :=
  ⟨fun _ _ => rfl, fun _ => rfl⟩

theorem calls_of_write {bytes : Bytes} {state next : σ × List Call}
    {answer : Except StreamError ℕ} (h : device.recording.write bytes state = (answer, next)) :
    next.2 = state.2 ++ [.write bytes answer] := by
  simp only [Device.recording, Prod.mk.injEq] at h
  obtain ⟨rfl, rfl⟩ := h
  rfl

theorem calls_of_flush {state next : σ × List Call} {answer : Except StreamError Unit}
    (h : device.recording.flush state = (answer, next)) :
    next.2 = state.2 ++ [.flush answer] := by
  simp only [Device.recording, Prod.mk.injEq] at h
  obtain ⟨rfl, rfl⟩ := h
  rfl

end

namespace Sink

variable {σ : Type}

/-- All calls have been granted, and the sink keeps the account of their answers. -/
structure Faithful (sink : Sink (σ × List Call)) : Prop where
  granted : ∀ call ∈ sink.device.2, call.refusal? = none
  account_eq : account sink.device.2 = ⟨sink.flushed, sink.pending⟩

/-- The last call has been refused with the given fault, and no other call has. -/
def Refused (fault : StreamError) (sink : Sink (σ × List Call)) : Prop :=
  ∃ before call, sink.device.2 = before ++ [call] ∧ call.refusal? = some fault ∧
    (∀ earlier ∈ before, earlier.refusal? = none) ∧
      account before = ⟨sink.flushed, sink.pending⟩

theorem Refused.account_eq {fault : StreamError} {sink : Sink (σ × List Call)}
    (h : sink.Refused fault) : account sink.device.2 = ⟨sink.flushed, sink.pending⟩ := by
  obtain ⟨before, call, hcalls, hrefused, -, haccount⟩ := h
  rw [hcalls, account_concat, Account.enter_of_refused _ (by simp [hrefused]), haccount]

theorem Faithful.refused {sink : Sink (σ × List Call)} (h : sink.Faithful) {call : Call}
    {fault : StreamError} (hcall : call.refusal? = some fault) {next : σ × List Call}
    (hnext : next.2 = sink.device.2 ++ [call]) : Refused fault { sink with device := next } :=
  ⟨sink.device.2, call, hnext, hcall, h.granted, h.account_eq⟩

theorem Faithful.granted_call {sink : Sink (σ × List Call)} (h : sink.Faithful) {call : Call}
    (hcall : call.refusal? = none) {next : Sink (σ × List Call)}
    (hnext : next.device.2 = sink.device.2 ++ [call])
    (haccount : (⟨sink.flushed, sink.pending⟩ : Account).enter call =
      ⟨next.flushed, next.pending⟩) : next.Faithful := by
  refine ⟨?_, ?_⟩
  · intro earlier hmem
    rw [hnext, List.mem_append, List.mem_singleton] at hmem
    rcases hmem with hmem | rfl
    · exact h.granted earlier hmem
    · exact hcall
  · rw [hnext, account_concat, h.account_eq, haccount]

/-- What writing leaves: a faithful sink, or one whose last call has been refused. -/
def Answered : Except StreamError Unit × Sink (σ × List Call) → Prop
  | (.ok (), sink) => sink.Faithful
  | (.error fault, sink) => sink.Refused fault

variable (device : Device σ)

theorem answered_writeAll (bytes : Bytes) {sink : Sink (σ × List Call)} (h : sink.Faithful) :
    Answered (writeAll device.recording bytes sink) := by
  fun_induction writeAll device.recording bytes sink with
  | case1 sink => exact h
  | case2 bytes sink hbytes fault state hwrite => exact h.refused rfl (calls_of_write hwrite)
  | case3 bytes sink hbytes state hwrite => exact h.refused rfl (calls_of_write hwrite)
  | case4 bytes sink hbytes count state hwrite ih =>
      exact ih (h.granted_call rfl (calls_of_write hwrite) rfl)

theorem answered_flush {sink : Sink (σ × List Call)} (h : sink.Faithful) :
    Answered (flush device.recording sink) := by
  unfold flush
  cases hflush : device.recording.flush sink.device with
  | mk answer next =>
      cases answer with
      | error fault => exact h.refused rfl (calls_of_flush hflush)
      | ok u => exact h.granted_call rfl (calls_of_flush hflush) rfl

end Sink

namespace Session

variable {σ : Type} (device : Device σ)

theorem answered_deliver (bytes : Bytes) {sink : Sink (σ × List Call)} (h : sink.Faithful) :
    Sink.Answered (deliver device.recording bytes sink) := by
  have hwrite := Sink.answered_writeAll device bytes h
  unfold deliver
  cases hresult : Sink.writeAll device.recording bytes sink with
  | mk answer written =>
      rw [hresult] at hwrite
      cases answer with
      | error fault => exact hwrite
      | ok u => exact Sink.answered_flush device hwrite

/-- What a part of a run leaves that fails by its device only. -/
def Answered : EStateM.Result Failure (Session (σ × List Call)) Unit → Prop
  | .ok _ s => s.sink.Faithful
  | .error (.stream fault) s => s.sink.Refused fault
  | .error _ _ => False

theorem answered_writeTaken (record? : Option Record) {s : Session (σ × List Call)}
    (h : s.sink.Faithful) : Answered (writeTaken device.recording record? s) := by
  cases record? with
  | none => exact h
  | some record =>
      have hdeliver := answered_deliver device record.bytes h
      have hsink : (s.announced record).sink = s.sink := rfl
      rw [writeTaken, writeRecord_eq, sinkDo, hsink]
      cases hresult : deliver device.recording record.bytes s.sink with
      | mk answer sink =>
          rw [hresult] at hdeliver
          cases answer <;> exact hdeliver

theorem answered_follow (stages : List Stage) {s : Session (σ × List Call)}
    (h : s.sink.Faithful) : Answered (follow device.recording stages s) := by
  induction stages generalizing s with
  | nil => exact h
  | cons stage rest ih =>
      have hnoted : (s.noted stage.parser stage.events).sink.Faithful := h
      have hwrite := answered_writeTaken device stage.record? hnoted
      rw [follow_cons, run_bind]
      cases hresult :
        writeTaken device.recording stage.record? (s.noted stage.parser stage.events) with
      | ok u next =>
          rw [hresult] at hwrite
          exact ih hwrite
      | error failure left =>
          rw [hresult] at hwrite
          exact hwrite

/-- The calls of the device during a run, with its answers. -/
def callsIn (state : σ) (script : Bytes) : List Call :=
  (left (runOver device.recording script) (.new (state, []))).sink.device.2

end Session

end Patchbay
