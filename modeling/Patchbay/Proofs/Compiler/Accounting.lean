import Patchbay.Proofs.Compiler.Mirroring

/-!
# Counting what a device has taken

A session counts the records that it has taken from its parser.  The device may refuse to write
one, and the session can go on with another script, so the count need not be the number of records
that the device has taken.

To compare the two, `Device.noting` keeps a list of everything that a device is offered, with its
answers.  This does not change a run (`mirrors_noting`).  What is left of a record is offered until
the device takes the whole of it or refuses, so each record that was counted stands for exactly one
offer that was taken whole or refused (`Balanced`).  Hence a count is right if and only if nothing
has ever been refused (`instructions_eq_iff`).
-/

namespace Patchbay

/-! ## Offers -/

/-- Bytes that were offered to a device, and its answer. -/
structure Offer where
  bytes : Bytes
  answer : Except StreamError Nat

/-- The device took the whole of what was left of a record. -/
def Offer.isWhole (offer : Offer) : Bool :=
  match offer.answer with
  | .ok count => offer.bytes.length ≤ count
  | .error _ => false

/-- The device took nothing, so the record was given up. -/
def Offer.isRefused (offer : Offer) : Bool :=
  match offer.answer with
  | .ok count => count == 0
  | .error _ => true

/-- The number of records that were taken completely. -/
def completed (offers : List Offer) : Nat :=
  offers.countP Offer.isWhole

/-- The number of records that were given up. -/
def refused (offers : List Offer) : Nat :=
  offers.countP Offer.isRefused

/-- The number of records that were taken completely or given up. -/
def settled (offers : List Offer) : Nat :=
  completed offers + refused offers

theorem settled_append (offers later : List Offer) :
    settled (offers ++ later) = settled offers + settled later := by
  simp only [settled, completed, refused, List.countP_append]
  omega

/-- A device that keeps a list of what it is offered. -/
def Device.noting {σ : Type} (device : Device σ) : Device (σ × List Offer) where
  write bytes state :=
    ((device.write bytes state.1).1, (device.write bytes state.1).2,
      state.2 ++ [⟨bytes, (device.write bytes state.1).1⟩])
  flush state := ((device.flush state.1).1, (device.flush state.1).2, state.2)

theorem Device.mirrors_noting {σ : Type} (device : Device σ) :
    device.noting.Mirrors device Prod.fst :=
  ⟨fun _ _ => rfl, fun _ => rfl⟩

namespace Session

open Script

variable {σ : Type} (device : Device σ)

/-! ## Writing -/

/-- The answer that was noted is the answer of the device. -/
theorem of_write_noting {device : Device σ} {bytes : Bytes} {state next : σ × List Offer}
    {answer : Except StreamError Nat} (h : device.noting.write bytes state = (answer, next)) :
    device.write bytes state.1 = (answer, next.1) ∧ next.2 = state.2 ++ [⟨bytes, answer⟩] := by
  simp only [Device.noting, Prod.mk.injEq] at h
  obtain ⟨rfl, rfl⟩ := h
  exact ⟨rfl, rfl⟩

/-- A record is offered until it has been taken or given up. -/
theorem settled_writeAll (bytes : Bytes) (sink : Sink (σ × List Offer)) (h : bytes ≠ []) :
    settled (Sink.writeAll device.noting bytes sink).2.device.2 = settled sink.device.2 + 1 := by
  fun_induction Sink.writeAll device.noting bytes sink with
  | case1 sink => exact absurd rfl h
  | case2 bytes sink hbytes fault state hwrite =>
      rw [(of_write_noting hwrite).2, settled_append]
      rfl
  | case3 bytes sink hbytes state hwrite =>
      have hrefused : settled [⟨bytes, .ok 0⟩] = 1 := by
        simp [settled, completed, refused, Offer.isWhole, Offer.isRefused, hbytes]
      rw [(of_write_noting hwrite).2, settled_append, hrefused]
  | case4 bytes sink hbytes count state hwrite ih =>
      by_cases hrest : bytes.drop (count + 1) = []
      · have hlength := List.drop_eq_nil_iff.1 hrest
        have hwhole : settled [⟨bytes, .ok (count + 1)⟩] = 1 := by
          simp [settled, completed, refused, Offer.isWhole, Offer.isRefused, hlength]
        rw [hrest, Sink.writeAll, dif_pos rfl, (of_write_noting hwrite).2, settled_append, hwhole]
      · have hlength : ¬ bytes.length ≤ count + 1 := fun hle => hrest (List.drop_eq_nil_iff.2 hle)
        have hpart : settled [⟨bytes, .ok (count + 1)⟩] = 0 := by
          simp [settled, completed, refused, Offer.isWhole, Offer.isRefused, hlength]
        rw [ih hrest, (of_write_noting hwrite).2, settled_append, hpart, Nat.add_zero]

theorem settled_deliver {bytes : Bytes} (h : bytes ≠ []) (sink : Sink (σ × List Offer)) :
    settled (deliver device.noting bytes sink).2.device.2 = settled sink.device.2 + 1 := by
  rw [← settled_writeAll device bytes sink h, deliver]
  cases Sink.writeAll device.noting bytes sink with
  | mk answer written =>
      cases answer with
      | error fault => rfl
      | ok u =>
          simp only [Sink.flush, Device.noting]
          cases device.flush written.device.1 with
          | mk answer next => cases answer <;> rfl

/-! ## One offer for each record -/

/-- Every record that was counted has been taken completely or given up. -/
def Balanced (s : Session (σ × List Offer)) : Prop :=
  s.instructions = settled s.sink.device.2

/-- A part of a run that leaves the count balanced, whether it succeeds or fails. -/
def Balances {α : Type} (action : Action (σ × List Offer) α) : Prop :=
  ∀ s, Balanced s → Balanced (left action s)

theorem Balances.bind {α β : Type} {x : Action (σ × List Offer) α}
    {f : α → Action (σ × List Offer) β} (hx : Balances x) (hf : ∀ a, Balances (f a)) :
    Balances (x >>= f) := by
  intro s hs
  have hbalanced := hx s hs
  unfold left at hbalanced ⊢
  rw [run_bind]
  cases hresult : x s with
  | ok a s' =>
      rw [hresult] at hbalanced
      exact hf a s' hbalanced
  | error failure s' =>
      rw [hresult] at hbalanced
      exact hbalanced

theorem balances_writeTaken {record? : Option Record}
    (hrecord : ∀ record ∈ record?, record.bytes ≠ []) :
    Balances (writeTaken device.noting record?) := by
  intro s hs
  cases record? with
  | none => exact hs
  | some record =>
      have hsettled := settled_deliver device (hrecord record rfl) s.sink
      have hsink : (s.announced record).sink = s.sink := rfl
      have hcount : (s.announced record).instructions = settled s.sink.device.2 + 1 :=
        congrArg (· + 1) hs
      rw [left, writeTaken, writeRecord_eq, sinkDo, hsink]
      rw [← hsettled] at hcount
      cases hdeliver : deliver device.noting record.bytes s.sink with
      | mk answer sink =>
          rw [hdeliver] at hcount
          cases answer with
          | error fault => exact hcount
          | ok u => exact hcount

theorem balances_follow {stages : List Stage}
    (hstages : ∀ stage ∈ stages, ∀ record ∈ stage.record?, record.bytes ≠ []) :
    Balances (follow device.noting stages) := by
  induction stages with
  | nil =>
      intro s hs
      exact hs
  | cons stage rest ih =>
      obtain ⟨hstage, hrest⟩ := List.forall_mem_cons.1 hstages
      intro s hs
      exact (balances_writeTaken device hstage).bind (fun _ => ih hrest)
        (s.noted stage.parser stage.events) hs

theorem ofReading_bytes_ne_nil (line start : Nat) (reading : Reading) :
    ∀ record ∈ (Stage.ofReading line start reading).record?, record.bytes ≠ [] := by
  cases reading with
  | faulty fault => simp [Stage.ofReading, Reading.record?]
  | complete instruction =>
      rintro record ⟨⟩
      exact List.cons_ne_nil _ _
  | opened b => simp [Stage.ofReading, Reading.record?]
  | extended b => simp [Stage.ofReading, Reading.record?]
  | ended b =>
      rintro record ⟨⟩
      exact List.cons_ne_nil _ _

/-- Every record begins with the byte of its opcode. -/
theorem course_bytes_ne_nil (n start : Nat) (block : Option Block) (lines : List Bytes) :
    ∀ stage ∈ (course n start block lines).stages, ∀ record ∈ stage.record?,
      record.bytes ≠ [] := by
  refine forall_stages (by simp [Stage.silent]) ofReading_bytes_ne_nil ?_ n start block lines
  intro line start block record hrecord
  obtain ⟨b, -, rfl⟩ := Option.map_eq_some_iff.1 hrecord
  exact List.cons_ne_nil _ _

theorem balances_conclude (failure? : Option Failure) :
    Balances (conclude failure? : Action (σ × List Offer) Tally) := by
  intro s hs
  cases failure? <;> exact hs

theorem balanced_runOver {s : Session (σ × List Offer)} (hs : s.parser.Coupled)
    (hbalanced : Balanced s) (script : Bytes) :
    Balanced (left (runOver device.noting script) s) := by
  obtain ⟨start, hresting⟩ := hs.eq_resting
  have hcourse : Balances
      ((course s.parser.line start s.parser.block (Source.lines script)).run device.noting) :=
    (balances_follow device (course_bytes_ne_nil _ _ _ _)).bind fun _ => balances_conclude _
  have hrun := hcourse s.started hbalanced
  unfold left at hrun ⊢
  rw [runOver_eq device.noting hs.sound script s hresting]
  exact hrun

theorem balanced_afterAll (scripts : List Bytes) {s : Session (σ × List Offer)}
    (hs : s.parser.Coupled) (hbalanced : Balanced s) :
    Balanced (afterAll device.noting s scripts) := by
  induction scripts generalizing s with
  | nil => exact hbalanced
  | cons script rest ih =>
      exact ih ((keeps_runOver device.noting script).left hs)
        (balanced_runOver device hs hbalanced script)

/-! ## The count of a run -/

/-- What the device has been offered during the runs over the scripts. -/
def offersIn (state : σ) (scripts : List Bytes) : List Offer :=
  (afterAll device.noting (.new (state, [])) scripts).sink.device.2

/-- The counts of a run are those of the session that it leaves, and are reported. -/
theorem tally_of_ending {s : Session σ} (hs : s.parser.Coupled) {script : Bytes} {tally : Tally}
    (h : ending (runOver device script) s = .ok tally) :
    tally.instructions = (left (runOver device script) s).instructions ∧
      Event.message ("Wrote " ++ toString tally.instructions ++ " instructions") ∈
        (left (runOver device script) s).journal := by
  obtain ⟨start, hresting⟩ := hs.eq_resting
  have hrun := eq_ok_of_ending h
  rw [runOver_eq device hs.sound script s hresting, Course.run, run_bind] at hrun
  cases hfollow : follow device
      (course s.parser.line start s.parser.block (Source.lines script)).stages s.started with
  | error failure after =>
      rw [hfollow] at hrun
      cases hrun
  | ok u after =>
      rw [hfollow] at hrun
      cases hfailure :
        (course s.parser.line start s.parser.block (Source.lines script)).failure? with
      | some failure =>
          rw [hfailure] at hrun
          cases hrun
      | none =>
          simp only [hfailure, conclude, EStateM.Result.ok.injEq] at hrun
          obtain ⟨rfl, hleft⟩ := hrun
          rw [← hleft]
          refine ⟨rfl, ?_⟩
          simp [concluded, tally]

/-- The number of instructions at the end of a successful run is the number of records that the
device has taken completely since the first run, and of those that it has refused.  So it is the
number of records that were written, if and only if none was ever refused. -/
theorem instructions_eq_iff (state : σ) (earlier : List Bytes) (script : Bytes) {tally : Tally}
    (h : ending (runOver device script) (afterAll device (.new state) earlier) = .ok tally) :
    tally.instructions =
        completed (offersIn device state (earlier ++ [script])) +
          refused (offersIn device state (earlier ++ [script])) ∧
      Event.message ("Wrote " ++ toString tally.instructions ++ " instructions") ∈
        (afterAll device (.new state) (earlier ++ [script])).journal ∧
      (tally.instructions = completed (offersIn device state (earlier ++ [script])) ↔
        refused (offersIn device state (earlier ++ [script])) = 0) := by
  have hnew : (Session.new state).parser.Coupled := .outside 0
  have hnoting : (Session.new (state, ([] : List Offer))).parser.Coupled := .outside 0
  obtain ⟨hcount, hreport⟩ := tally_of_ending device (coupled_afterAll device earlier hnew) h
  rw [← afterAll_concat] at hcount hreport
  have hmap : afterAll device (.new state) (earlier ++ [script]) =
      (afterAll device.noting (.new (state, [])) (earlier ++ [script])).map Prod.fst :=
    afterAll_map device.mirrors_noting (earlier ++ [script]) hnoting
  have hbalanced : tally.instructions =
      completed (offersIn device state (earlier ++ [script])) +
        refused (offersIn device state (earlier ++ [script])) := by
    rw [hcount, hmap]
    exact balanced_afterAll device (earlier ++ [script]) hnoting rfl
  refine ⟨hbalanced, hreport, ?_⟩
  omega

/-- A device with room for one record takes it, and the next run has nothing to write. -/
theorem instructions_eq_iff_one_record :
    ending (runOver Device.limited [])
        (afterAll Device.limited (.new ⟨some 3, none⟩) [Utf8.encode "i a\n".toList]) =
          .ok ⟨1, 1⟩ ∧
      completed (offersIn Device.limited ⟨some 3, none⟩ [Utf8.encode "i a\n".toList, []]) = 1 := by
  have hending : ending (runOver Device.limited [])
      (afterAll Device.limited (.new ⟨some 3, none⟩) [Utf8.encode "i a\n".toList]) =
        .ok ⟨1, 1⟩ := by
    decide +kernel
  have hrefused : refused
      (offersIn Device.limited ⟨some 3, none⟩ [Utf8.encode "i a\n".toList, []]) = 0 := by
    decide +kernel
  exact ⟨hending, ((instructions_eq_iff Device.limited _ _ _ hending).2.2.2 hrefused).symm⟩

/-- A record that the device refused is still counted at the end of the next run. -/
theorem instructions_ne_completed_behind_refusal :
    ending (runOver Device.limited [])
        (afterAll Device.limited (.new ⟨some 0, none⟩) [Utf8.encode "i a\n".toList]) =
          .ok ⟨1, 1⟩ ∧
      completed (offersIn Device.limited ⟨some 0, none⟩ [Utf8.encode "i a\n".toList, []]) = 0 := by
  decide +kernel

end Session

end Patchbay
