import Patchbay.Proofs.Compiler.Delivery

/-!
# What a failed run leaves behind

A run can fail at a line of its script, because the line has a fault or because it is no text.  What
has been written by then is the stream of the lines before the construct that the failing line
belongs to (`taken_of_failure`): nothing of this construct, and everything before it.

Which construct that is can be seen from the lines alone.  A block goes on through lines that are
indented or say nothing, and a line that is not indented ends it if it has a body.  So the failing
line belongs to the block of the last header before it, as long as this block goes on up to the
failing line and is not ended by it, and otherwise it is a construct of its own.
-/

namespace Patchbay.Script

/-! ## Lines and blocks -/

/-- What a line is to the blocks of a script. -/
inductive Role where
  /-- It says nothing, or it is no text. -/
  | silent
  | indented
  /-- It begins with the letter of a block command. -/
  | header
  | command
deriving DecidableEq, Repr

/-- The role of a line, which does not depend on its number. -/
def Role.of (line : Bytes) : Role :=
  match (Utf8.decode? line).bind (Statement.ofLine? 0) with
  | none => .silent
  | some s => if s.isIndented then .indented else if s.isHeader then .header else .command

/-- A block goes on through the lines of `body`, and `line` does not end it.  A line that is not
indented ends a block only if the block has a body, in `body` or before it. -/
structure GoesOn (hasBody : Bool) (body : List Bytes) (line : Bytes) : Prop where
  through : ∀ l ∈ body, Role.of l = .silent ∨ Role.of l = .indented
  unended : Role.of line = .silent ∨ Role.of line = .indented ∨
    hasBody = false ∧ ∀ l ∈ body, Role.of l = .silent

/-- The block that is still open at `line`, behind the lines `before`, has its header on line
`head`, counted from 0. -/
def Heads (before : List Bytes) (line : Bytes) (head : Nat) : Prop :=
  ∃ front header body, before = front ++ header :: body ∧ front.length = head ∧
    Role.of header = .header ∧ GoesOn false body line

/-- The construct that `line` belongs to begins on line `first`. -/
def BeginsOn (before : List Bytes) (line : Bytes) (first : Nat) : Prop :=
  Heads before line first ∨ first = before.length ∧ ∀ head, ¬ Heads before line head

section

variable {line l : Bytes} {before body : List Bytes} {hasBody : Bool}

theorem goesOn_nil : GoesOn hasBody [] line ↔
    Role.of line = .silent ∨ Role.of line = .indented ∨ hasBody = false := by
  constructor
  · rintro ⟨-, hline⟩
    simpa using hline
  · intro hline
    exact ⟨by simp, by simpa using hline⟩

theorem goesOn_cons_silent (hl : Role.of l = .silent) :
    GoesOn hasBody (l :: body) line ↔ GoesOn hasBody body line := by
  constructor
  · rintro ⟨hbody, hline⟩
    simp only [List.forall_mem_cons, hl, true_and] at hbody hline
    exact ⟨hbody.2, hline⟩
  · rintro ⟨hbody, hline⟩
    refine ⟨?_, ?_⟩
    · simp only [List.forall_mem_cons, hl]
      exact ⟨.inl trivial, hbody⟩
    · simp only [List.forall_mem_cons, hl, true_and]
      exact hline

theorem goesOn_cons_indented (hl : Role.of l = .indented) :
    GoesOn hasBody (l :: body) line ↔ GoesOn true body line := by
  constructor
  · rintro ⟨hbody, hline⟩
    refine ⟨(List.forall_mem_cons.1 hbody).2, ?_⟩
    simpa [hl] using hline
  · rintro ⟨hbody, hline⟩
    refine ⟨List.forall_mem_cons.2 ⟨.inr hl, hbody⟩, ?_⟩
    simpa [hl] using hline

theorem heads_cons_zero :
    Heads (l :: before) line 0 ↔ Role.of l = .header ∧ GoesOn false before line := by
  constructor
  · rintro ⟨front, header, body, hsplit, hlength, hheader, hbody⟩
    obtain rfl := List.eq_nil_of_length_eq_zero hlength
    obtain ⟨rfl, rfl⟩ := List.cons.inj hsplit
    exact ⟨hheader, hbody⟩
  · rintro ⟨hheader, hbody⟩
    exact ⟨[], l, before, rfl, rfl, hheader, hbody⟩

theorem heads_cons_succ {head : Nat} :
    Heads (l :: before) line (head + 1) ↔ Heads before line head := by
  constructor
  · rintro ⟨front, header, body, hsplit, hlength, hheader, hbody⟩
    obtain ⟨first, front, rfl⟩ := List.exists_cons_of_length_eq_add_one hlength
    obtain ⟨-, hsplit⟩ := List.cons.inj hsplit
    exact ⟨front, header, body, hsplit, Nat.succ.inj hlength, hheader, hbody⟩
  · rintro ⟨front, header, body, rfl, hlength, hheader, hbody⟩
    exact ⟨l :: front, header, body, rfl, congrArg Nat.succ hlength, hheader, hbody⟩

/-- A line in front changes nothing, unless it opens the block. -/
theorem BeginsOn.cons {first : Nat} (h : BeginsOn before line first)
    (hl : ¬ (Role.of l = .header ∧ GoesOn false before line)) :
    BeginsOn (l :: before) line (first + 1) := by
  rcases h with hheads | ⟨rfl, hnone⟩
  · exact .inl (heads_cons_succ.2 hheads)
  · refine .inr ⟨rfl, ?_⟩
    intro head hheads
    cases head with
    | zero => exact hl (heads_cons_zero.1 hheads)
    | succ head => exact hnone head (heads_cons_succ.1 hheads)

theorem beginsOn_nil (line : Bytes) : BeginsOn [] line 0 := by
  refine .inr ⟨rfl, ?_⟩
  rintro head ⟨front, header, body, hsplit, -⟩
  cases front <;> cases hsplit

end

/-! ## Readings and roles -/

section

variable {line : Bytes} {text : List Char} {n : Nat} {st : Statement}

theorem Role.of_not_text (hbytes : Utf8.decode? line = none) : Role.of line = .silent := by
  simp only [Role.of, hbytes, Option.bind_none]

theorem Role.of_silent (hbytes : Utf8.decode? line = some text)
    (hline : Statement.ofLine? n text = none) : Role.of line = .silent := by
  simp only [Role.of, hbytes, Option.bind_some, Statement.ofLine?_eq_map_onLine 0 n, hline,
    Option.map_none]

theorem Role.of_statement (hbytes : Utf8.decode? line = some text)
    (hline : Statement.ofLine? n text = some st) :
    Role.of line =
      if st.isIndented then .indented else if st.isHeader then .header else .command := by
  simp only [Role.of, hbytes, Option.bind_some, Statement.ofLine?_eq_map_onLine 0 n, hline,
    Option.map_some]
  rfl

end

theorem Statement.isIndented_of_command {s : Statement} {c : Command} (h : s.command = .ok c) :
    s.isIndented = false := by
  unfold command at h
  split at h
  · cases h
  · next hspace => exact Bool.eq_false_iff.2 hspace

end Patchbay.Script

namespace Patchbay.Session

open Script

/-! ## Where a course fails -/

/-- The failure is one of `line`, which has the given number. -/
def StopsAt (line : Bytes) (number : Nat) (failure : Failure) : Prop :=
  (Utf8.decode? line = none ∧ failure = .stream .invalidUtf8) ∨
    ∃ fault, failure = .script ⟨number, fault⟩

/-- What the records of a course are that fails at `line`, behind the lines `texts`. -/
inductive Leaves (n : Nat) (block : Option Block) (texts : List (List Char)) (line : Bytes)
    (records : List Record) : Prop
  /-- The block that was open at the beginning is still open, so nothing has been written. -/
  | nothing {b : Block} (inside : block = some b)
      (goesOn : GoesOn b.indent.isSome (texts.map Utf8.encode) line) (empty : records = [])
  /-- Everything before the construct of the failing line has been written. -/
  | everything (first : Nat) (instructions : List Instruction)
      (ended : ∀ b, block = some b → ¬ GoesOn b.indent.isSome (texts.map Utf8.encode) line)
      (begins : BeginsOn (texts.map Utf8.encode) line first)
      (meaning : resume block (statements (n + 1) (texts.take first)) = .ok instructions)
      (written : records.flatMap Record.bytes = instructions.flatMap Instruction.wire)

namespace Leaves

section

variable {n : Nat} {block : Option Block} {text : List Char} {texts : List (List Char)}
  {line : Bytes} {records : List Record} {st : Statement}

theorem role_encode {m : Nat} (hline : Statement.ofLine? m text = some st) :
    Role.of (Utf8.encode text) =
      if st.isIndented then .indented else if st.isHeader then .header else .command :=
  Role.of_statement (Utf8.decode?_encode text) hline

theorem statements_cons (hline : Statement.ofLine? (n + 1) text = some st) (first : Nat) :
    statements (n + 1) ((text :: texts).take (first + 1)) =
      st :: statements (n + 2) (texts.take first) := by
  rw [List.take_succ_cons, statements, hline]
  rfl

theorem silent (hline : Statement.ofLine? (n + 1) text = none)
    (h : Leaves (n + 1) block texts line records) :
    Leaves n block (text :: texts) line records := by
  have hrole : Role.of (Utf8.encode text) = .silent :=
    Role.of_silent (Utf8.decode?_encode text) hline
  cases h with
  | nothing inside goesOn empty => exact .nothing inside ((goesOn_cons_silent hrole).2 goesOn) empty
  | everything first instructions ended begins meaning written =>
      refine .everything (first + 1) instructions ?_
        (begins.cons (l := Utf8.encode text) (by simp [hrole])) ?_ written
      · intro b hb hgoesOn
        exact ended b hb ((goesOn_cons_silent hrole).1 hgoesOn)
      · rw [List.take_succ_cons, statements, hline]
        exact meaning

theorem complete {i : Instruction} (hline : Statement.ofLine? (n + 1) text = some st)
    (hcommand : st.command = .ok (.complete i)) {record : Record} (hrecord : record.bytes = i.wire)
    (h : Leaves (n + 1) none texts line records) :
    Leaves n none (text :: texts) line (record :: records) := by
  have hrole : Role.of (Utf8.encode text) = .command := by
    rw [role_encode hline, Statement.isIndented_of_command hcommand,
      Statement.isHeader_of_complete hcommand]
    rfl
  cases h with
  | nothing inside => cases inside
  | everything first instructions ended begins meaning written =>
      refine .everything (first + 1) (i :: instructions) (by simp)
        (begins.cons (l := Utf8.encode text) (by simp [hrole])) ?_ ?_
      · rw [statements_cons hline, resume_of_complete hcommand, meaning]
        rfl
      · rw [List.flatMap_cons, written, hrecord]
        rfl

/-- A header that opens a block. -/
theorem opened {kind : BlockKind} {element : String}
    (hline : Statement.ofLine? (n + 1) text = some st)
    (hcommand : st.command = .ok (.header kind element))
    (h : Leaves (n + 1) (some ⟨kind, element, none, []⟩) texts line records) :
    Leaves n none (text :: texts) line records := by
  have hrole : Role.of (Utf8.encode text) = .header := by
    rw [role_encode hline, Statement.isIndented_of_command hcommand,
      Statement.isHeader_of_header hcommand]
    rfl
  cases h with
  | nothing inside goesOn empty =>
      -- the block is open up to the failing line, so the header begins its construct
      cases inside
      refine .everything 0 [] (by simp) (.inl (heads_cons_zero.2 ⟨hrole, goesOn⟩)) ?_ ?_
      · exact resume_nil (by simp)
      · rw [empty]
        rfl
  | everything first instructions ended begins meaning written =>
      have hended := ended _ rfl
      refine .everything (first + 1) instructions (by simp)
        (begins.cons (l := Utf8.encode text) ?_) ?_ written
      · rintro ⟨-, hgoesOn⟩
        exact hended hgoesOn
      · rw [statements_cons hline, resume_of_header hcommand, meaning]

theorem extended {b longer : Block} (hb : b.Sound)
    (hline : Statement.ofLine? (n + 1) text = some st) (hspace : st.isIndented = true)
    (hextend : b.extend st = .ok longer) (h : Leaves (n + 1) (some longer) texts line records) :
    Leaves n (some b) (text :: texts) line records := by
  have hrole : Role.of (Utf8.encode text) = .indented := by
    rw [role_encode hline, hspace]
    rfl
  have hindent : longer.indent.isSome = true := by
    obtain ⟨a, -, rfl⟩ := Block.eq_of_extend hextend
    rfl
  cases h with
  | nothing inside goesOn empty =>
      cases inside
      rw [hindent] at goesOn
      exact .nothing rfl ((goesOn_cons_indented hrole).2 goesOn) empty
  | everything first instructions ended begins meaning written =>
      have hended := ended _ rfl
      rw [hindent] at hended
      refine .everything (first + 1) instructions ?_
        (begins.cons (l := Utf8.encode text) (by simp [hrole])) ?_ written
      · rintro c ⟨⟩ hgoesOn
        exact hended ((goesOn_cons_indented hrole).1 hgoesOn)
      · rw [statements_cons hline, resume_of_extend_ok hb hspace hextend, meaning]

/-- A line behind a body, which ends the block before it is read as a line outside of blocks. -/
theorem ended {b : Block} (hb : b.Sound) (hline : Statement.ofLine? (n + 1) text = some st)
    (hreading : st.reading (some b) = .ended b) {rest later : List Bytes}
    (hfront : texts.map Utf8.encode ++ line :: rest = Utf8.encode text :: later)
    {record : Record} (hrecord : record.bytes = b.instruction.wire)
    (h : Leaves n none texts line records) : Leaves n (some b) texts line (record :: records) := by
  obtain ⟨hspace, hbody⟩ : st.isIndented = false ∧ b.indent.isSome = true := by
    cases Statement.reads_of_eq hreading with
    | behindBody hspace hindent => exact ⟨hspace, by rw [hindent]; rfl⟩
  have hrole : Role.of (Utf8.encode text) ≠ .silent ∧ Role.of (Utf8.encode text) ≠ .indented := by
    rw [role_encode hline, hspace]
    cases st.isHeader <;> simp
  have hresume : ∀ following, resume (some b) (st :: following) =
      (resume none (st :: following)).map (b.instruction :: ·) := by
    intro following
    rw [resume_cons st (by rintro c ⟨⟩; exact hb), hreading]
    rfl
  cases h with
  | nothing inside => cases inside
  | everything first instructions _ begins meaning written =>
      refine .everything first (b.instruction :: instructions) ?_ begins ?_ ?_
      · rintro c ⟨⟩ ⟨hthrough, hunended⟩
        -- the line is the failing one or stands before it, and the block goes on in neither case
        cases texts with
        | nil =>
            obtain ⟨rfl, -⟩ := List.cons.inj hfront
            simp [hbody, hrole.1, hrole.2] at hunended
        | cons first texts =>
            obtain ⟨hfirst, -⟩ := List.cons.inj hfront
            have hquiet := hthrough (Utf8.encode text) (by simp [hfirst])
            simp [hrole.1, hrole.2] at hquiet
      · cases first with
        | zero =>
            rw [List.take_zero, statements, resume_nil (by simp)] at meaning
            cases meaning
            rw [List.take_zero, statements, resume_nil (by rintro c ⟨⟩; exact hb)]
            rfl
        | succ first =>
            cases texts with
            | nil =>
                rw [List.take_nil, statements, resume_nil (by simp)] at meaning
                cases meaning
                rw [List.take_nil, statements, resume_nil (by rintro c ⟨⟩; exact hb)]
                rfl
            | cons text' texts =>
                obtain ⟨hfirst, -⟩ := List.cons.inj hfront
                obtain rfl := Utf8.encode_inj.1 hfirst
                rw [statements_cons hline] at meaning ⊢
                rw [hresume, meaning]
                rfl
      · rw [List.flatMap_cons, written, hrecord]
        rfl

/-- The first line that is left fails. -/
theorem here (hgoesOn : ∀ b, block = some b → GoesOn b.indent.isSome [] line) :
    Leaves n block [] line [] := by
  cases block with
  | none =>
      refine .everything 0 [] (by simp) (beginsOn_nil line) ?_ rfl
      exact resume_nil (by simp)
  | some b => exact .nothing rfl (hgoesOn b rfl) rfl

end

end Leaves

/-- A course fails at one of its lines, behind lines that are texts, and leaves these records. -/
def FailsWithin (n : Nat) (block : Option Block) (lines : List Bytes) (failure : Failure)
    (records : List Record) : Prop :=
  ∃ (texts : List (List Char)) (line : Bytes) (rest : List Bytes),
    lines = texts.map Utf8.encode ++ line :: rest ∧ StopsAt line (n + texts.length + 1) failure ∧
      Leaves n block texts line records

theorem FailsWithin.cons {n : Nat} {block later : Option Block} {text : List Char}
    {lines : List Bytes} {failure : Failure} {records records' : List Record}
    (h : FailsWithin (n + 1) later lines failure records')
    (hleaves : ∀ texts line, Leaves (n + 1) later texts line records' →
      Leaves n block (text :: texts) line records) :
    FailsWithin n block (Utf8.encode text :: lines) failure records := by
  obtain ⟨texts, line, rest, rfl, hstops, hlater⟩ := h
  have hnumber : n + 1 + texts.length + 1 = n + (text :: texts).length + 1 := by
    rw [List.length_cons]
    omega
  refine ⟨text :: texts, line, rest, rfl, ?_, hleaves texts line hlater⟩
  rw [← hnumber]
  exact hstops

theorem failsWithin_of_course {n start : Nat} {block : Option Block}
    (hblock : ∀ b ∈ block, b.Sound) (lines : List Bytes) {failure : Failure}
    (h : (course n start block lines).failure? = some failure) :
    FailsWithin n block lines failure (recordsOfStages (course n start block lines).stages) := by
  induction n, start, block, lines using course_induction with
  | nil n start block hcourse =>
      rw [hcourse] at h
      cases h
  | notText n start block line rest hbytes hcourse =>
      rw [hcourse] at h ⊢
      cases h
      refine ⟨[], line, rest, rfl, .inl ⟨hbytes, rfl⟩, .here ?_⟩
      intro b _
      exact goesOn_nil.2 (.inl (Role.of_not_text hbytes))
  | silent n start block text rest hline hcourse ih =>
      rw [hcourse] at h ⊢
      exact (ih hblock h).cons fun texts failing hleaves => hleaves.silent hline
  | faulty n start block text rest st fault hline hreading hcourse =>
      rw [hcourse] at h ⊢
      cases h
      refine ⟨[], Utf8.encode text, rest, rfl, .inr ⟨fault, rfl⟩, .here ?_⟩
      rintro b rfl
      rw [goesOn_nil, Leaves.role_encode hline]
      cases Statement.reads_of_eq hreading with
      | wrongBody hspace hextend => simp [hspace]
      | behindHeader hspace hindent => simp [hindent]
  | complete n start text rest st instruction hline hreading hcourse ih =>
      rw [hcourse] at h ⊢
      cases Statement.reads_of_eq hreading with
      | command hcommand =>
          exact (ih (by simp) h).cons fun texts failing hleaves =>
            hleaves.complete hline hcommand rfl
  | opened n start text rest st b hline hreading hsound hcourse ih =>
      rw [hcourse] at h ⊢
      cases Statement.reads_of_eq hreading with
      | header hcommand =>
          exact (ih (by simpa) h).cons fun texts failing hleaves => hleaves.opened hline hcommand
  | extended n start b text rest st longer hline hreading hsound hcourse ih =>
      rw [hcourse] at h ⊢
      cases Statement.reads_of_eq hreading with
      | body hspace hextend =>
          exact (ih (by simpa) h).cons fun texts failing hleaves =>
            hleaves.extended (hblock b rfl) hline hspace hextend
  | ended n start b text rest st hline hreading hcourse ih =>
      rw [hcourse] at h ⊢
      -- the same lines are left, so the fault is at the same place, behind one more record
      obtain ⟨texts, failing, later, hsplit, hstops, hleaves⟩ := ih (by simp) h
      exact ⟨texts, failing, later, hsplit, hstops,
        hleaves.ended (hblock b rfl) hline hreading hsplit.symm rfl⟩

/-! ## Failed runs -/

theorem le_length_of_beginsOn {before : List Bytes} {line : Bytes} {first : Nat}
    (h : BeginsOn before line first) : first ≤ before.length := by
  rcases h with ⟨front, header, body, rfl, rfl, -⟩ | ⟨rfl, -⟩
  · rw [List.length_append]
    omega
  · exact Nat.le_refl _

/-- The first lines of a script, when they are texts, as a script of their own. -/
theorem exists_script_of_take {script : Bytes} {texts : List (List Char)} {first : Nat}
    (h : (Source.lines script).take first = texts.map Utf8.encode) :
    ∃ earlier : String,
      Utf8.encode earlier.toList = ((Source.rawLines script).take first).flatten ∧
        constructsOf earlier = constructs (statements 1 texts) := by
  have hcontent : ((Source.rawLines script).take first).map Source.content =
      texts.map Utf8.encode := by
    rw [List.map_take]
    exact h
  obtain ⟨text, htext, hlines⟩ := Source.exists_of_content
    (Source.rawLines_flatten_take script first) hcontent
  refine ⟨String.ofList text, ?_, ?_⟩
  · rw [String.toList_ofList, htext]
  · rw [constructsOf, String.toList_ofList, hlines]

/-- A run that fails does so at a line.  What it has written is what the lines before the construct
of this line compile to, which is the block that is still open at this line, or else the line
itself.  After a fault the parser is back outside of blocks. -/
theorem taken_of_failure {σ : Type} {device : Device σ} (hdevice : device.NeverFails) (state : σ)
    (script : Bytes) {failure : Failure} {s : Session σ}
    (h : runOver device script (.new state) = .error failure s) :
    ∃ (n : Nat) (line : Bytes) (first : Nat) (earlier : String),
      (Source.lines script)[n]? = some line ∧ StopsAt line (n + 1) failure ∧
        (∀ l ∈ (Source.lines script).take n, Utf8.decode? l ≠ none) ∧
          BeginsOn ((Source.lines script).take n) line first ∧
            Utf8.encode earlier.toList = ((Source.rawLines script).take first).flatten ∧
              compile earlier = .ok s.sink.taken ∧
                ∀ error, failure = .script error → s.parser = ⟨n + 1, none, .empty⟩ := by
  obtain ⟨left, hrun, hparser, -, htaken⟩ := run_of_neverFails hdevice
    (course 0 0 none (Source.lines script)) (Session.new state).started
  rw [runOver_new_eq, hrun] at h
  cases hfailure : (course 0 0 none (Source.lines script)).failure? with
  | none =>
      rw [hfailure] at h
      cases h
  | some found =>
      rw [hfailure] at h
      cases h
      obtain ⟨texts, line, rest, hlines, hstops, hleaves⟩ :=
        failsWithin_of_course (by simp) (Source.lines script) hfailure
      -- no block is open in front of the first line, so everything before the construct is written
      cases hleaves with
      | nothing inside => cases inside
      | everything first instructions ended begins meaning written =>
          have hbefore : (Source.lines script).take texts.length = texts.map Utf8.encode := by
            rw [hlines, List.take_left']
            exact List.length_map _
          have hfirst := le_length_of_beginsOn begins
          rw [List.length_map] at hfirst
          have hearlier : (Source.lines script).take first =
              (texts.take first).map Utf8.encode := by
            rw [List.map_take, ← hbefore, List.take_take, Nat.min_eq_left hfirst]
          -- the lines before the construct are all texts, and with their ends they are a script
          obtain ⟨earlier, hencode, hconstructs⟩ := exists_script_of_take hearlier
          rw [Nat.zero_add] at hstops
          refine ⟨texts.length, line, first, earlier, ?_, hstops, ?_, ?_, hencode, ?_, ?_⟩
          · rw [hlines, List.getElem?_append_right (by rw [List.length_map])]
            simp
          · intro l hl
            rw [hbefore] at hl
            obtain ⟨text, -, rfl⟩ := List.mem_map.1 hl
            simp [Utf8.decode?_encode]
          · rw [hbefore]
            exact begins
          · have hinstructions : instructionsOf (constructs (statements 1 (texts.take first))) =
                .ok instructions := meaning
            rw [compile_eq_compiled, hconstructs, hinstructions, compiled, htaken, written]
            rfl
          · rintro error rfl
            -- only a line that is no text leaves the parser in the middle of something
            have htext : (course 0 0 none (Source.lines script)).failure? ≠
                some (.stream .invalidUtf8) := by
              simp [hfailure]
            obtain ⟨number, hfinal, hnumber⟩ :=
              finalParser_course htext (Session.new state).started.parser
            rcases hstops with ⟨-, hstream⟩ | ⟨fault, herror⟩
            · cases hstream
            · cases herror
              rw [hparser, hfinal, hnumber _ hfailure]

/-- The last line is at fault inside of a block, so only the record before the block is left. -/
theorem taken_of_failure_inside_block :
    let run := runOver Device.unlimited (Utf8.encode "i a\nS v\n x = 7\n y\n".toList)
    ending run (.new ()) = .error (.script ⟨4, .noAssignment⟩) ∧
      (left run (.new ())).sink.taken = [0x69, 0x61, 0] ∧
        ∃ (first : Nat) (earlier : String),
          BeginsOn [[0x69, 0x20, 0x61], [0x53, 0x20, 0x76], [0x20, 0x78, 0x20, 0x3d, 0x20, 0x37]]
              [0x20, 0x79] first ∧ compile earlier = .ok (left run (.new ())).sink.taken := by
  intro run
  have hending : ending run (.new ()) = .error (.script ⟨4, .noAssignment⟩) := by
    decide +kernel
  have hlines : Source.lines (Utf8.encode "i a\nS v\n x = 7\n y\n".toList) =
      [[0x69, 0x20, 0x61], [0x53, 0x20, 0x76], [0x20, 0x78, 0x20, 0x3d, 0x20, 0x37],
        [0x20, 0x79]] := by
    decide +kernel
  obtain ⟨n, line, first, earlier, hline, hstops, -, hbegins, -, hcompile, -⟩ :=
    taken_of_failure Device.neverFails_unlimited () _ (eq_error_of_ending hending)
  refine ⟨hending, by decide +kernel, first, earlier, ?_, hcompile⟩
  rcases hstops with ⟨-, hstream⟩ | ⟨fault, herror⟩
  · cases hstream
  · cases herror
    rw [hlines] at hline hbegins
    cases hline
    exact hbegins

end Patchbay.Session
