import Patchbay.Proofs.Compiler.Counting
import Patchbay.Proofs.Compiler.Streaming
import Patchbay.Proofs.Script.Layout

/-!
# How often a line is given to the parser

A session gives a line to its parser until the parser takes it or finds a fault in it.  Nothing in
this rule bounds the number of rounds.  `Loop` is the rule itself, without the bound that `feedLine`
has, and the main statement of this file, `loop_of_reachable`, says that it comes to an end after at
most two rounds: one more than the last is needed only behind a block, and ending the block leaves
the parser outside of blocks, where it takes every line or finds a fault in it.

The parser counts a line at the beginning of each round and gives it back when the round ends a
block, so one line is counted in the end.
-/

namespace Patchbay

namespace Script

/-! ## When a line has to be given again -/

theorem not_saysNothing_of_ofLine? {number : ℕ} {line : List Char} {st : Statement}
    (h : Statement.ofLine? number line = some st) : ¬ SaysNothing line := by
  intro hsilent
  rw [Statement.ofLine?_eq_none_iff.2 hsilent] at h
  cases h

theorem isIndented_iff_of_ofLine? {number : ℕ} {line : List Char} {st : Statement}
    (h : Statement.ofLine? number line = some st) :
    st.isIndented = true ↔ line.head? = some ' ' := by
  obtain ⟨st', h', hhead⟩ := exists_statement number (not_saysNothing_of_ofLine? h)
  cases h.symm.trans h'
  rw [hhead, Statement.isIndented, beq_iff_eq, Option.some_inj]

theorem exists_reading_ended_iff {block : Option Block} (hblock : ∀ b ∈ block, b.Sound)
    (st : Statement) :
    (∃ b, st.reading block = .ended b) ↔
      (∃ b ∈ block, b.assignments ≠ []) ∧ st.isIndented = false := by
  constructor
  · rintro ⟨b, hreading⟩
    cases Statement.reads_of_eq hreading with
    | behindBody hspace hindent =>
        refine ⟨⟨b, rfl, ?_⟩, hspace⟩
        rw [Ne, ← (hblock b rfl).indent_eq_none_iff, hindent]
        exact Option.some_ne_none _
  · rintro ⟨⟨b, rfl, hbody⟩, hspace⟩
    rw [Ne, ← (hblock b rfl).indent_eq_none_iff] at hbody
    obtain ⟨width, hindent⟩ := Option.ne_none_iff_exists'.1 hbody
    exact ⟨b, Statement.reading_behind_body hspace hindent⟩

/-- A line that has to be given again stands behind the open block, and this one is left. -/
theorem of_parse_eq_ended {parser next : Parser} (h : parser.Coupled) {line : List Char} {b : Block}
    (hparse : Parser.parse line parser = .ok (.ok (.ended b)) next) :
    next.block = none ∧ ∃ st, Statement.ofLine? (parser.line + 1) line = some st ∧
      st.reading parser.block = .ended b := by
  obtain ⟨start, hresting⟩ := h.eq_resting
  cases hline : Statement.ofLine? (parser.line + 1) line with
  | none =>
      have hsilent := Statement.ofLine?_eq_none_iff.1 hline
      rw [Parser.parse_of_ignored ((isIgnored_iff line).2 hsilent)] at hparse
      cases hparse
  | some st =>
      have hread := Parser.parse_resting hline start h.sound
      rw [← hresting, hparse] at hread
      cases hreading : st.reading parser.block with
      | ended b' =>
          rw [hreading] at hread
          cases hread
          exact ⟨rfl, st, rfl, hreading⟩
      | _ =>
          rw [hreading] at hread
          cases hread

/-- A line has to be given again exactly if it says something, is not indented, and stands behind a
block that has a body. -/
theorem exists_ended_iff {parser : Parser} (h : parser.Coupled) (line : List Char) :
    (∃ b next, Parser.parse line parser = .ok (.ok (.ended b)) next) ↔
      (∃ b ∈ parser.block, b.assignments ≠ []) ∧ ¬ SaysNothing line ∧ line.head? ≠ some ' ' := by
  constructor
  · rintro ⟨b, next, hparse⟩
    obtain ⟨-, st, hline, hreading⟩ := of_parse_eq_ended h hparse
    obtain ⟨hbody, hspace⟩ := (exists_reading_ended_iff h.sound st).1 ⟨b, hreading⟩
    refine ⟨hbody, not_saysNothing_of_ofLine? hline, ?_⟩
    rw [Ne, ← isIndented_iff_of_ofLine? hline, hspace]
    exact Bool.false_ne_true
  · rintro ⟨hbody, hspeaks, hspace⟩
    obtain ⟨st, hline, -⟩ := exists_statement (parser.line + 1) hspeaks
    rw [Ne, ← isIndented_iff_of_ofLine? hline, Bool.not_eq_true] at hspace
    obtain ⟨b, hreading⟩ := (exists_reading_ended_iff h.sound st).2 ⟨hbody, hspace⟩
    obtain ⟨start, hresting⟩ := h.eq_resting
    have hparse := Parser.parse_resting hline start h.sound
    rw [← hresting, hreading] at hparse
    exact ⟨b, _, hparse⟩

/-! ## Outside of blocks -/

theorem perform_ne_ended (c : Command) (parser : Parser) (b : Block) (next : Parser) :
    Parser.perform c parser ≠ .ok (.ended b) next := by
  intro h
  cases c with
  | complete instruction =>
      obtain ⟨_, _, _, h⟩ := of_run_bind_eq_ok h
      obtain ⟨_, _, _, h⟩ := of_run_bind_eq_ok h
      cases h
  | header kind element =>
      obtain ⟨_, _, _, h⟩ := of_run_bind_eq_ok h
      obtain ⟨_, _, _, h⟩ := of_run_bind_eq_ok h
      cases h

theorem commandLine_ne_ended (line : List Char) (parser : Parser) (b : Block) (next : Parser) :
    Parser.commandLine line parser ≠ .ok (.ok (.ended b)) next := by
  intro h
  unfold Parser.commandLine at h
  split at h
  · cases h
  · next letter rest =>
    split at h
    · cases h
    · cases hletter : Opcode.ofLetter? letter with
      | none => simp only [hletter] at h; cases h
      | some opcode =>
          simp only [hletter] at h
          obtain ⟨_, _, _, h⟩ := of_run_bind_eq_ok h
          obtain ⟨_, begun, _, h⟩ := of_run_bind_eq_ok h
          generalize command opcode _ = read at h
          cases read with
          | error fault => cases h
          | ok c =>
              obtain ⟨outcome, performed, hperform, h⟩ := of_run_bind_eq_ok h
              cases h
              exact perform_ne_ended c begun b next hperform

theorem countedLine_ne_ended_of_outside {parser : Parser} (h : parser.block = none)
    (line : List Char) (b : Block) (next : Parser) :
    Parser.countedLine line parser ≠ .ok (.ok (.ended b)) next := by
  unfold Parser.countedLine
  split
  · intro htaken
    cases htaken
  · rw [run_bind, run_get]
    simp only [h]
    exact commandLine_ne_ended _ parser b next

/-- Outside of blocks no line has to be given again, whatever the builder holds. -/
theorem parse_ne_ended_of_outside {parser : Parser} (h : parser.block = none) (line : List Char)
    (b : Block) (next : Parser) : Parser.parse line parser ≠ .ok (.ok (.ended b)) next := by
  intro hparse
  obtain ⟨_, _, hget, hparse⟩ := of_run_bind_eq_ok hparse
  cases hget
  obtain ⟨_, _, hline, hparse⟩ := of_run_bind_eq_ok hparse
  cases hline
  obtain ⟨answer, counted, hcounted, hparse⟩ := of_run_bind_eq_ok hparse
  cases answer with
  | error fault =>
      obtain ⟨_, _, _, hparse⟩ := of_run_bind_eq_ok hparse
      obtain ⟨_, _, _, hparse⟩ := of_run_bind_eq_ok hparse
      obtain ⟨_, _, _, hparse⟩ := of_run_bind_eq_ok hparse
      cases hparse
  | ok outcome =>
      cases hparse
      refine countedLine_ne_ended_of_outside ?_ line b next hcounted
      exact h

end Script

namespace Session

open Script

variable {σ : Type} (device : Device σ) (line : List Char)

/-! ## Rounds -/

/-- What happens in one round: the answer of the parser, and the record that is taken from it. -/
structure Round where
  answer : Except ScriptError Outcome
  record? : Option Record

/-- Gives a line to the parser and writes the record that it has sealed. -/
def round : Action σ Round := do
  match ← parserDo (Parser.parse line) with
  | .error error => return ⟨.error error, none⟩
  | .ok outcome =>
    logOutcome outcome
    let record? ← parserDo (Parser.build RecordBuilder.releaseSealed?)
    writeTaken device record?
    return ⟨.ok outcome, record?⟩

/-- The rounds of a line and what they lead to, when nothing but a fault of the line fails. -/
inductive Loop : Session σ → List Round → EStateM.Result Failure (Session σ) Unit → Prop
  | rejected {s left : Session σ} {error : ScriptError} {record? : Option Record}
      (this : round device line s = .ok ⟨.error error, record?⟩ left) :
      Loop s [⟨.error error, record?⟩] (.error (.script error) left)
  | taken {s left : Session σ} {outcome : Outcome} {record? : Option Record}
      (this : round device line s = .ok ⟨.ok outcome, record?⟩ left)
      (last : ∀ b, outcome ≠ .ended b) : Loop s [⟨.ok outcome, record?⟩] (.ok () left)
  | again {s next : Session σ} {b : Block} {record? : Option Record} {rounds : List Round}
      {result : EStateM.Result Failure (Session σ) Unit}
      (this : round device line s = .ok ⟨.ok (.ended b), record?⟩ next)
      (rest : Loop next rounds result) : Loop s (⟨.ok (.ended b), record?⟩ :: rounds) result

variable {device line}

/-- The rounds of a line are determined by the session that it is given to. -/
theorem Loop.unique {s : Session σ} {rounds rounds' : List Round}
    {result result' : EStateM.Result Failure (Session σ) Unit}
    (h : Loop device line s rounds result) (h' : Loop device line s rounds' result') :
    rounds = rounds' ∧ result = result' := by
  induction h generalizing rounds' result' with
  | rejected this =>
      cases h' with
      | rejected this' => cases this.symm.trans this'; exact ⟨rfl, rfl⟩
      | taken this' last => cases this.symm.trans this'
      | again this' rest => cases this.symm.trans this'
  | taken this last =>
      cases h' with
      | rejected this' => cases this.symm.trans this'
      | taken this' last' => cases this.symm.trans this'; exact ⟨rfl, rfl⟩
      | again this' rest => cases this.symm.trans this'; exact absurd rfl (last _)
  | again this rest ih =>
      cases h' with
      | rejected this' => cases this.symm.trans this'
      | taken this' last => cases this.symm.trans this'; exact absurd rfl (last _)
      | again this' rest' =>
          cases this.symm.trans this'
          obtain ⟨rfl, rfl⟩ := ih rest'
          exact ⟨rfl, rfl⟩

theorem offer_eq_round (s : Session σ) :
    offer device line s =
      match round device line s with
      | .error failure left => .error failure left
      | .ok ⟨.error error, _⟩ left => .error (.script error) left
      | .ok ⟨.ok outcome, _⟩ left => .ok outcome left := by
  unfold offer round
  simp only [run_bind]
  cases parserDo (Parser.parse line) s with
  | error failure left => rfl
  | ok answer parsed =>
      cases answer with
      | error error => rfl
      | ok outcome =>
          simp only [run_bind, writeSealed]
          cases logOutcome outcome parsed with
          | error failure left => rfl
          | ok u logged =>
              cases hrelease : parserDo (Parser.build RecordBuilder.releaseSealed?) logged with
              | error failure left => simp only [hrelease]
              | ok record? released =>
                  simp only [hrelease]
                  cases record? with
                  | none => rfl
                  | some record =>
                      simp only [writeTaken]
                      cases writeRecord device record released <;> rfl

/-- A session that may make as many attempts as there are rounds goes through all of them. -/
theorem Loop.offerUntilTaken_eq {s : Session σ} {rounds : List Round}
    {result : EStateM.Result Failure (Session σ) Unit} (h : Loop device line s rounds result)
    {attempts : ℕ} (hattempts : rounds.length ≤ attempts) :
    offerUntilTaken device line attempts s = result := by
  induction h generalizing attempts with
  | rejected this =>
      obtain ⟨more, rfl⟩ := Nat.exists_eq_add_of_le' hattempts
      rw [List.length_singleton, offerUntilTaken, run_bind, offer_eq_round, this]
  | taken this last =>
      obtain ⟨more, rfl⟩ := Nat.exists_eq_add_of_le' hattempts
      rw [List.length_singleton, offerUntilTaken, run_bind, offer_eq_round, this]
      rename_i outcome _
      cases outcome with
      | ended b => exact absurd rfl (last b)
      | taken => rfl
      | opened b => rfl
  | again this rest ih =>
      obtain ⟨more, rfl⟩ := Nat.exists_eq_add_of_le' hattempts
      rw [List.length_cons, ← Nat.add_assoc, offerUntilTaken, run_bind, offer_eq_round, this]
      exact ih (Nat.le_add_left _ _)

/-! ## The round of a line -/

section

variable {n start : ℕ} {block : Option Block} {s : Session σ}

variable (device) in
theorem round_ignored (hline : SaysNothing line) (hs : s.parser = Parser.resting n start block) :
    round device line s =
      .ok ⟨.ok .taken, none⟩ { s with parser := Parser.resting (n + 1) start block } := by
  have hparse : parserDo (Parser.parse line) s =
      .ok (.ok .taken) { s with parser := Parser.resting (n + 1) start block } := by
    rw [parserDo, Parser.parse_of_ignored ((isIgnored_iff line).2 hline), hs]
    cases block <;> rfl
  have hrelease : parserDo (Parser.build RecordBuilder.releaseSealed?)
      { s with parser := Parser.resting (n + 1) start block } =
        .ok none { s with parser := Parser.resting (n + 1) start block } := by
    rw [parserDo, Parser.release_resting]
  rw [round, run_bind_of_ok hparse]
  simp only [logOutcome, run_bind, run_get, run_pure, hrelease, writeTaken]

/-- A round on a device that never fails is what the reading of the line says. -/
theorem exists_round_eq (hdevice : device.NeverFails) {st : Statement}
    (hline : Statement.ofLine? (n + 1) line = some st) (hblock : ∀ b ∈ block, b.Sound)
    (hs : s.parser = Parser.resting n start block) :
    ∃ left, round device line s = .ok
        ⟨(st.reading block).answer (n + 1), (st.reading block).record? (n + 1) start⟩ left ∧
      left.parser = (st.reading block).settled (n + 1) start := by
  have hparse := Parser.parse_resting hline start hblock
  generalize st.reading block = reading at hparse ⊢
  let parsed : Session σ := { s with
    parser := (reading.settled (n + 1) start).holding (reading.record? (n + 1) start) }
  have hround : parserDo (Parser.parse line) s = .ok (reading.answer (n + 1)) parsed := by
    rw [parserDo, hs, hparse]
  rw [round, run_bind_of_ok hround]
  cases hanswer : reading.answer (n + 1) with
  | error error =>
      -- a faulty reading has no record to hold
      cases reading with
      | faulty fault => exact ⟨_, rfl, rfl⟩
      | _ => cases hanswer
  | ok outcome =>
      let logged : Session σ :=
        { parsed with journal := parsed.journal ++ readingEvents (n + 1) reading }
      have hlog : logOutcome outcome parsed = .ok () logged :=
        logOutcome_of_answer hanswer parsed rfl
      let released : Session σ := { logged with parser := reading.settled (n + 1) start }
      have hrelease : parserDo (Parser.build RecordBuilder.releaseSealed?) logged =
          .ok (reading.record? (n + 1) start) released := by
        rw [parserDo, Parser.release_holding]
      obtain ⟨left, hwrite, hparser, -, -⟩ :=
        writeTaken_of_neverFails hdevice (reading.record? (n + 1) start) released
      refine ⟨left, ?_, hparser⟩
      simp only [run_bind, hlog, hrelease, hwrite, run_pure]

end

/-! ## All rounds of a line -/

/-- What the rounds of a line are: one that ends the open block, if there is need of it, and one
that takes the line or finds a fault in it.  Each takes the record of what it completes. -/
structure Settles (parser : Parser) (line : List Char) (closing : Option Round) (own : Round) :
    Prop where
  ends : ∀ round ∈ closing, ∃ b start, parser = Parser.resting parser.line start (some b) ∧
    round = ⟨.ok (.ended b), some (blockRecord start b)⟩
  last : ∀ b, own.answer ≠ .ok (.ended b)
  completes : ∀ record ∈ own.record?, ∃ st instruction,
    Statement.ofLine? (parser.line + 1) line = some st ∧
      st.command = .ok (.complete instruction) ∧
        record = ⟨parser.line + 1, instruction.description, instruction.wire⟩

theorem record_of_reading {st : Statement} {block : Option Block} {number start : ℕ}
    (hreading : ∀ b, st.reading block ≠ .ended b) :
    ∀ record ∈ (st.reading block).record? number start, ∃ instruction,
      st.command = .ok (.complete instruction) ∧
        record = ⟨number, instruction.description, instruction.wire⟩ := by
  have hreads := st.reads_reading block
  generalize st.reading block = reading at hreads hreading
  intro record hrecord
  cases hreads with
  | command hcommand => exact ⟨_, hcommand, (Option.some.inj hrecord).symm⟩
  | behindBody => exact absurd rfl (hreading _)
  | _ => cases hrecord

theorem answer_ne_ended {reading : Reading} (h : ∀ b, reading ≠ .ended b) (number : ℕ) (b : Block) :
    reading.answer number ≠ .ok (.ended b) := by
  intro hanswer
  cases reading with
  | ended b' => exact h b' rfl
  | _ => cases hanswer

/-- A round whose reading ends no block is the last one. -/
theorem exists_loop_of_reading (hdevice : device.NeverFails) {n start : ℕ} {block : Option Block}
    {s : Session σ} {st : Statement} (hline : Statement.ofLine? (n + 1) line = some st)
    (hblock : ∀ b ∈ block, b.Sound) (hs : s.parser = Parser.resting n start block)
    (hreading : ∀ b, st.reading block ≠ .ended b) :
    ∃ result, Loop device line s
      [⟨(st.reading block).answer (n + 1), (st.reading block).record? (n + 1) start⟩] result := by
  obtain ⟨left, hround, -⟩ := exists_round_eq hdevice hline hblock hs
  have hlast := answer_ne_ended hreading (n + 1)
  cases hanswer : (st.reading block).answer (n + 1) with
  | error error =>
      rw [hanswer] at hround
      exact ⟨_, .rejected hround⟩
  | ok outcome =>
      rw [hanswer] at hround hlast
      refine ⟨_, .taken hround ?_⟩
      rintro b rfl
      exact hlast b rfl

/-- A line is settled in at most two rounds. -/
theorem exists_loop (hdevice : device.NeverFails) (line : List Char) {s : Session σ}
    (hs : s.parser.Coupled) :
    ∃ closing own result, Loop device line s (closing.toList ++ [own]) result ∧
      Settles s.parser line closing own := by
  obtain ⟨start, hresting⟩ := hs.eq_resting
  cases hline : Statement.ofLine? (s.parser.line + 1) line with
  | none =>
      have hround := round_ignored device (Statement.ofLine?_eq_none_iff.1 hline) hresting
      refine ⟨none, ⟨.ok .taken, none⟩, _, .taken hround (by simp), ?_⟩
      exact ⟨by simp, by simp, by simp⟩
  | some st =>
      by_cases hreading : ∀ b, st.reading s.parser.block ≠ .ended b
      · obtain ⟨result, hloop⟩ := exists_loop_of_reading hdevice hline hs.sound hresting hreading
        refine ⟨none, _, result, hloop, ?_, answer_ne_ended hreading _, ?_⟩
        · simp
        · intro record hrecord
          obtain ⟨instruction, hcommand, hrecord⟩ := record_of_reading hreading record hrecord
          exact ⟨st, instruction, hline, hcommand, hrecord⟩
      · obtain ⟨b, hended⟩ := not_forall_not.1 hreading
        have hblock := Statement.eq_of_reading_ended hended
        obtain ⟨next, hround, hparser⟩ := exists_round_eq hdevice hline hs.sound hresting
        rw [hended] at hround hparser
        -- the block has been left, so the next round is the last
        have houtside : next.parser = Parser.resting s.parser.line start none := hparser
        obtain ⟨result, hloop⟩ := exists_loop_of_reading hdevice hline (by simp) houtside
          (reading_none_ne_ended st)
        refine ⟨some ⟨.ok (.ended b), some (blockRecord start b)⟩, _, result, .again hround hloop,
          ?_, answer_ne_ended (reading_none_ne_ended st) _, ?_⟩
        · rintro round ⟨⟩
          rw [hblock] at hresting
          exact ⟨b, start, hresting, rfl⟩
        · intro record hrecord
          obtain ⟨instruction, hcommand, hrecord⟩ :=
            record_of_reading (reading_none_ne_ended st) record hrecord
          exact ⟨st, instruction, hline, hcommand, hrecord⟩

/-! ## The lines of a session -/

theorem Loop.ne_stream {s : Session σ} {rounds : List Round}
    {result : EStateM.Result Failure (Session σ) Unit} (h : Loop device line s rounds result)
    (fault : StreamError) (s' : Session σ) : result ≠ .error (.stream fault) s' := by
  induction h with
  | rejected this => simp
  | taken this last => simp
  | again this rest ih => exact ih

theorem Loop.counts {s : Session σ} {rounds : List Round}
    {result : EStateM.Result Failure (Session σ) Unit} (h : Loop device line s rounds result)
    (hresult : feedLine device line s = result) (hs : s.parser.Coupled) :
    (left (feedLine device line) s).parser.line = s.parser.line + 1 := by
  have hcounts := countsOne_feedLine device line hs
  rw [hresult] at hcounts
  rw [left, hresult]
  cases result with
  | ok u s' => exact hcounts
  | error failure s' =>
      cases failure with
      | script error => exact hcounts.2
      | stream fault => exact absurd rfl (h.ne_stream fault s')
      | misuse mistake => exact hcounts.elim

/-- Between two lines of a session, whatever it has been given and wherever its runs have been cut
off, a line is settled in at most two rounds on a device that does not fail, and it is counted once.
A round ends a block only at a line that stands behind the body of the block, and then the next one
does not, whatever becomes of the record in between. -/
theorem loop_of_reachable {τ : Type} (earlier : Device τ) (state : τ)
    (runs : List (Bytes × Option ℕ)) (hdevice : device.NeverFails) (s : Session σ)
    (hs : s.parser = (afterRuns earlier (.new state) runs).parser) (line : List Char) :
    (∃ closing own result,
      (∀ rounds result', Loop device line s rounds result' ↔
        rounds = closing.toList ++ [own] ∧ result' = result) ∧
      (closing.toList ++ [own]).length ≤ 2 ∧
      ((closing.toList ++ [own]).filterMap Round.record?).length ≤ 2 ∧
      Settles s.parser line closing own ∧
      feedLine device line s = result ∧
      (left (feedLine device line) s).parser.line = s.parser.line + 1) ∧
    ((∃ b next, Parser.parse line s.parser = .ok (.ok (.ended b)) next) ↔
      (∃ b ∈ s.parser.block, b.assignments ≠ []) ∧ ¬ SaysNothing line ∧ line.head? ≠ some ' ') ∧
    ∀ b next, Parser.parse line s.parser = .ok (.ok (.ended b)) next →
      ∀ builder line' b' next',
        Parser.parse line' { next with builder } ≠ .ok (.ok (.ended b')) next' := by
  have hcoupled : s.parser.Coupled := by
    rw [hs]
    exact coupled_afterRuns earlier runs (.outside 0)
  obtain ⟨closing, own, result, hloop, hsettles⟩ := exists_loop hdevice line hcoupled
  have hrounds : (closing.toList ++ [own]).length ≤ 2 := by cases closing <;> simp
  have hfeed : feedLine device line s = result := hloop.offerUntilTaken_eq hrounds
  refine ⟨⟨closing, own, result, ?_, hrounds, (List.length_filterMap_le _ _).trans hrounds,
    hsettles, hfeed, hloop.counts hfeed hcoupled⟩, exists_ended_iff hcoupled line, ?_⟩
  · intro rounds result'
    constructor
    · exact fun hloop' => hloop'.unique hloop
    · rintro ⟨rfl, rfl⟩
      exact hloop
  · intro b next hended builder line' b' next'
    obtain ⟨houtside, -⟩ := of_parse_eq_ended hcoupled hended
    refine parse_ne_ended_of_outside ?_ line' b' next'
    exact houtside

/-- The command behind a body of one line ends the block first, and is the third line then. -/
theorem loop_of_reachable_behind_body :
    let s := afterRuns Device.unlimited (.new ()) [(Utf8.encode "S v\n a = 1\n".toList, some 2)]
    Device.unlimited.NeverFails ∧
      (∃ b next, Parser.parse "i a".toList s.parser = .ok (.ok (.ended b)) next) ∧
      ∃ rounds result, Loop Device.unlimited "i a".toList s rounds result ∧ rounds.length ≤ 2 ∧
        (left (feedLine Device.unlimited "i a".toList) s).parser.line = 3 := by
  intro s
  have hblock : s.parser.block =
      some ⟨.set, "v", some 1, [⟨"a", ⟨.bareInteger, .signed 1⟩⟩]⟩ := by
    decide +kernel
  have hline : s.parser.line = 2 := by decide +kernel
  obtain ⟨⟨closing, own, result, hloop, hrounds, -, -, -, hcounted⟩, hended, -⟩ :=
    loop_of_reachable Device.unlimited () [(Utf8.encode "S v\n a = 1\n".toList, some 2)]
      Device.neverFails_unlimited s rfl "i a".toList
  rw [hline] at hcounted
  refine ⟨Device.neverFails_unlimited, hended.2 ⟨?_, ?_, ?_⟩, _, result,
    (hloop _ _).2 ⟨rfl, rfl⟩, hrounds, hcounted⟩
  · exact ⟨_, hblock, List.cons_ne_nil _ _⟩
  · intro hsilent
    exact absurd (hsilent 'i' rfl) (by decide)
  · decide

end Session

end Patchbay
