import Patchbay.Proofs.Compiler.Feeding
import Patchbay.Proofs.Script.Quotes

/-!
# No contract is broken

The parser, its record builder and the session rely on contracts: records are started, filled,
sealed and taken in this order, lines are cut at characters, no line is given back that was not
taken, and the number of assignments fits into its byte.  A step that breaks one of them fails with
a `Misuse`.  The main statement, `orderly_upTo`, says that no run ever does, whatever bytes it reads
and whatever the device does with what is written, and that it leaves the parser and its builder in
step at every point where it can be cut off.

The invariant is `Parser.Coupled`.  Every part of a run keeps it, on failure too (`Keeps`), and this
is closed under doing one part after another, so that nothing but the single steps has to be looked
at.
-/

namespace Patchbay.Session

open Script

variable {σ : Type}

/-! ## Results in good order -/

/-- A result that breaks no contract and leaves the parser and its builder in step. -/
def Orderly {α : Type} : EStateM.Result Failure (Session σ) α → Prop
  | .ok _ s => s.parser.Coupled
  | .error failure s => s.parser.Coupled ∧ ∀ mistake, failure ≠ .misuse mistake

/-- A part of a run whose results are always in good order. -/
def Keeps {α : Type} (action : Action σ α) : Prop :=
  ∀ s : Session σ, s.parser.Coupled → Orderly (action s)

theorem keeps_pure {α : Type} (a : α) : Keeps (pure a : Action σ α) := by
  intro s hs
  exact hs

theorem Keeps.bind {α β : Type} {x : Action σ α} {f : α → Action σ β} (hx : Keeps x)
    (hf : ∀ a, Keeps (f a)) : Keeps (x >>= f) := by
  intro s hs
  have horderly := hx s hs
  rw [run_bind]
  cases hresult : x s with
  | ok a s' =>
      rw [hresult] at horderly
      exact hf a s' horderly
  | error failure s' =>
      rw [hresult] at horderly
      exact horderly

/-! ## Single steps -/

/-- A sink has no access to the parser, and its failures are not those of a contract. -/
theorem keeps_sinkDo (operation : Sink σ → Except StreamError Unit × Sink σ) :
    Keeps (sinkDo operation) := by
  intro s hs
  unfold sinkDo
  split
  · exact hs
  · refine ⟨hs, ?_⟩
    intro mistake h
    cases h

variable (device : Device σ)

theorem keeps_writeTaken (record : Option Record) : Keeps (writeTaken device record) := by
  cases record with
  | none => exact keeps_pure ()
  | some record =>
      intro s hs
      rw [writeTaken, writeRecord_eq]
      exact keeps_sinkDo (deliver device record.bytes) (s.announced record) hs

/-- One offer: the reading of the line leaves the parser in step, and the rest is writing. -/
theorem keeps_offer (line : List Char) : Keeps (offer device line) := by
  intro s hs
  -- a parser in step is known up to the line that its record was started on
  obtain ⟨start, hresting⟩ := hs.eq_resting
  cases hline : Statement.ofLine? (s.parser.line + 1) line with
  | none =>
      rw [offer_ignored device hline s hresting]
      exact Parser.coupled_resting _ start hs.sound
  | some st =>
      have hcoupled := st.coupled_settled s.parser.block (s.parser.line + 1) start
      rw [offer_eq device hline hs.sound s hresting]
      cases (st.reading s.parser.block).answer (s.parser.line + 1) with
      | error error =>
          refine ⟨hcoupled, ?_⟩
          intro mistake h
          cases h
      | ok outcome =>
          refine Keeps.bind (keeps_writeTaken device _) (fun _ => keeps_pure outcome) _ ?_
          exact hcoupled

theorem keeps_offerUntilTaken (line : List Char) (attempts : Nat) :
    Keeps (offerUntilTaken device line attempts) := by
  induction attempts with
  | zero => exact keeps_pure ()
  | succ attempts ih =>
      rw [offerUntilTaken]
      refine (keeps_offer device line).bind ?_
      intro outcome
      cases outcome with
      | ended block => exact ih
      | taken => exact keeps_pure ()
      | opened block => exact keeps_pure ()

/-- A line that is not text is not given to the parser at all. -/
theorem keeps_feedBytes (line : Bytes) : Keeps (feedBytes device line) := by
  unfold feedBytes
  cases Utf8.decode? line with
  | none =>
      intro s hs
      refine ⟨hs, ?_⟩
      intro mistake h
      cases h
  | some text => exact keeps_offerUntilTaken device text 2

theorem keeps_feedAll (lines : List Bytes) : Keeps (feedAll device lines) := by
  induction lines with
  | nil => exact keeps_pure ()
  | cons line lines ih =>
      rw [feedAll]
      exact (keeps_feedBytes device line).bind fun _ => ih

theorem keeps_start : Keeps (start : Action σ Unit) := by
  intro s hs
  exact hs

theorem keeps_finish : Keeps (finish device) := by
  intro s hs
  obtain ⟨start, hresting⟩ := hs.eq_resting
  rw [finish_eq device hs.sound s hresting]
  have hwrite := keeps_writeTaken device (s.parser.block.map (blockRecord start))
    (s.noted (Parser.resting s.parser.line start none) (closingEvents s.parser.block))
    (.outside s.parser.line)
  split
  · next failure left hresult =>
      rw [hresult] at hwrite
      exact hwrite
  · next left hresult =>
      rw [hresult] at hwrite
      exact hwrite

theorem keeps_runOver (script : Bytes) : Keeps (runOver device script) := by
  unfold runOver
  refine keeps_start.bind fun _ => ?_
  refine (keeps_feedAll device (Source.lines script)).bind fun _ => ?_
  exact keeps_finish device

/-! ## Runs in turn -/

/-- A run over a script, or only over its first lines if something else cuts it off. -/
def upTo (script : Bytes) : Option Nat → Action σ Unit
  | none => do
      let _ ← runOver device script
      return
  | some count => do
      start
      feedAll device ((Source.lines script).take count)

/-- The session that a part of a run leaves, whether it succeeds or fails. -/
def left {α : Type} (action : Action σ α) (s : Session σ) : Session σ :=
  match action s with
  | .ok _ s' => s'
  | .error _ s' => s'

/-- The session after runs over scripts, one after the other. -/
def afterRuns (s : Session σ) : List (Bytes × Option Nat) → Session σ
  | [] => s
  | (script, lines) :: rest => afterRuns (left (upTo device script lines) s) rest

theorem Keeps.left {α : Type} {action : Action σ α} (h : Keeps action) {s : Session σ}
    (hs : s.parser.Coupled) : (left action s).parser.Coupled := by
  have horderly := h s hs
  unfold Session.left
  cases hresult : action s with
  | ok a s' =>
      rw [hresult] at horderly
      exact horderly
  | error failure s' =>
      rw [hresult] at horderly
      exact horderly.1

theorem keeps_upTo (script : Bytes) (lines : Option Nat) : Keeps (upTo device script lines) := by
  cases lines with
  | none => exact (keeps_runOver device script).bind fun _ => keeps_pure ()
  | some count => exact keeps_start.bind fun _ => keeps_feedAll device _

theorem coupled_afterRuns (runs : List (Bytes × Option Nat)) {s : Session σ}
    (hs : s.parser.Coupled) : (afterRuns device s runs).parser.Coupled := by
  induction runs generalizing s with
  | nil => exact hs
  | cons run rest ih =>
      obtain ⟨script, lines⟩ := run
      exact ih ((keeps_upTo device script lines).left hs)

/-- No run breaks a contract, whatever the device does, whatever the bytes of the scripts are and
wherever the runs before it were cut off; and at the end of every line and of every run the parser
and its builder are in step.  The texts between quotes can be cut out by bytes. -/
theorem orderly_upTo (state : σ) (earlier : List (Bytes × Option Nat)) (script : Bytes)
    (lines : Option Nat) :
    Orderly (upTo device script lines (afterRuns device (.new state) earlier)) ∧
      ∀ text, cutQuotes? text = some (betweenQuotes? text) := by
  have hnew : (Session.new state).parser.Coupled := .outside 0
  refine ⟨?_, cutQuotes?_eq⟩
  exact keeps_upTo device script lines _ (coupled_afterRuns device earlier hnew)

end Patchbay.Session
