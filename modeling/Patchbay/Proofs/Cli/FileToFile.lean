import Patchbay.Cli.Program
import Patchbay.Proofs.Cli.Files
import Patchbay.Proofs.Compiler.Buffering
import Patchbay.Proofs.Compiler.Interruption

/-!
# Compiling a file into a file

The program opens the script, creates the output and only then reads the script.  As long as the two
are different files, the script is still what it was when the program started: the output gets its
stream, or the records before its first fault, and nothing else in the file system changes
(`run_compile_file`).  If they are the same file, the script is empty by the time it is read
(`output_without_stream`).
-/

namespace Patchbay

open Script Session

/-! ## The records before a fault -/

/-- The instructions of the lines before the construct that the error is in. -/
def CompletedBefore (script : String) (error : ScriptError) (instructions : List Instruction) :
    Prop :=
  ∃ n line first, (Source.physicalLines script.toList)[n]? = some line ∧ error.line = n + 1 ∧
    BeginsOn (((Source.physicalLines script.toList).take n).map Utf8.encode) (Utf8.encode line)
        first ∧
      instructionsOf (constructs (statements 1 ((Source.physicalLines script.toList).take first))) =
        .ok instructions

theorem compile_eq_ending (script : String) :
    compile script =
      (ending (runOver Device.unlimited (Utf8.encode script.toList)) (.new ())).map fun _ =>
        (left (runOver Device.unlimited (Utf8.encode script.toList)) (.new ())).sink.taken := by
  rw [compile, ending, left]
  cases runOver Device.unlimited (Utf8.encode script.toList) (.new ()) <;> rfl

/-- The lines of a text, up to a line of its bytes. -/
theorem exists_line_of_lines {text : List Char} {texts : List (List Char)} {line : Bytes}
    {rest : List Bytes}
    (h : Source.lines (Utf8.encode text) = texts.map Utf8.encode ++ line :: rest) :
    ∃ last later, line = Utf8.encode last ∧ Source.physicalLines text = texts ++ last :: later := by
  rw [Source.lines_encode] at h
  obtain ⟨before, after, hsplit, hbefore, hafter⟩ := List.map_eq_append_iff.1 h
  obtain ⟨last, later, rfl, hlast, -⟩ := List.map_eq_cons_iff.1 hafter
  have hinjective : Function.Injective Utf8.encode := fun _ _ => Utf8.encode_inj.1
  obtain rfl := hinjective.list_map hbefore
  exact ⟨last, later, hlast.symm, hsplit⟩

/-- A run that stops at an error has written the records before its construct. -/
theorem completedBefore_of_error {script : String} {error : ScriptError}
    (h : compile script = .error (.script error)) :
    ∃ instructions, CompletedBefore script error instructions ∧
      (left (runOver Device.unlimited (Utf8.encode script.toList)) (.new ())).sink.taken =
        instructions.flatMap Instruction.wire := by
  have hnew : (Session.new ()).parser = Parser.resting 0 0 none := rfl
  obtain ⟨hending, -, htaken⟩ := runOver_of_neverFails Device.neverFails_unlimited (by simp)
    (Utf8.encode script.toList) _ hnew rfl
  have hfailure : (course 0 0 none (Source.lines (Utf8.encode script.toList))).failure? =
      some (.script error) := by
    rw [compile_eq_ending, hending, Course.ending] at h
    split at h
    · next failure hfailure =>
        cases h
        exact hfailure
    · cases h
  obtain ⟨texts, line, rest, hlines, hstops, hleaves⟩ := failsWithin_of_course (by simp) _ hfailure
  obtain ⟨last, later, rfl, hphysical⟩ := exists_line_of_lines hlines
  -- no block is open in front of the first line, so nothing before the construct is missing
  cases hleaves with
  | nothing inside => cases inside
  | everything first instructions ended begins meaning written =>
      have hfirst := le_length_of_beginsOn begins
      rw [List.length_map] at hfirst
      refine ⟨instructions, ⟨texts.length, last, first, ?_, ?_, ?_, ?_⟩, ?_⟩
      · rw [hphysical]
        simp
      · rcases hstops with ⟨-, hstream⟩ | ⟨fault, herror⟩
        · cases hstream
        · cases herror
          exact congrArg (· + 1) (Nat.zero_add texts.length)
      · rw [hphysical, List.take_left]
        exact begins
      · rw [hphysical, List.take_append_of_le_length hfirst]
        exact meaning
      · rw [htaken, written]
        rfl

namespace Cli

/-! ## Arguments -/

/-- An argument that stands for itself: it is not empty and no option. -/
structure IsWord (argument : String) : Prop where
  nonempty : argument ≠ ""
  noDash : argument.toList.head? ≠ some '-'

theorem namedPath_of_word {argument : String} (h : IsWord argument) :
    namedPath (some argument) = some argument := by
  have hdash : argument ≠ "-" := by
    rintro rfl
    exact h.noDash rfl
  simp [namedPath, hdash]

namespace Reading

theorem add_word {argument : String} (h : IsWord argument) (command : CommandName)
    {reading : Reading} (hescaped : reading.escaped = false) :
    reading.add command argument = reading.addWord argument := by
  have hescape : argument ≠ "--" := by
    rintro rfl
    exact h.noDash rfl
  have hdash := h.noDash
  rw [add, hescaped, if_neg Bool.false_ne_true, if_neg hescape]
  split
  · next hlist => simp [hlist] at hdash
  · next hlist => simp [hlist] at hdash
  · next hlist => simp [hlist] at hdash
  · rfl

theorem resolve_of_accepts {reading : Reading} {slot : Slot} {value : String}
    (hpending : reading.pending = some (slot, some value)) (hunset : reading.get? slot = none)
    (haccepts : slot.accepts value = true) :
    reading.resolve = .ok { reading with
      pending := none
      settled := reading.settled ++ [(slot, value)] } := by
  have hget : get? { reading with pending := none } slot = none := hunset
  simp only [resolve, hpending, settle, hget, haccepts, Option.isSome_none, if_true,
    Bool.false_eq_true, if_false]

end Reading

theorem parseArguments_compile {input output : String} (hinput : IsWord input)
    (houtput : IsWord output) :
    parseArguments ["compile", input, "-o", output] =
      .ok (.compile (some input) (some output) false .auto) := by
  -- a word stays pending until the next word, or the end, settles it
  have hfirst : Reading.add .compile .initial input =
      .ok ⟨[], some (.input, some input), true, false⟩ := by
    rw [Reading.add_word hinput _ rfl]
    rfl
  have hoption : Reading.add .compile ⟨[], some (.input, some input), true, false⟩ "-o" =
      .ok ⟨[(.input, input)], some (.output, none), true, false⟩ := by
    have hadd : Reading.add .compile ⟨[], some (.input, some input), true, false⟩ "-o" =
        Reading.option (.valued .output) none ⟨[], some (.input, some input), true, false⟩ := rfl
    have hresolve : Reading.resolve ⟨[], some (.input, some input), true, false⟩ =
        .ok ⟨[(.input, input)], none, true, false⟩ :=
      Reading.resolve_of_accepts rfl rfl (by simp [Slot.accepts, hinput.nonempty])
    rw [hadd, Reading.option, hresolve]
    rfl
  have hvalue : Reading.add .compile ⟨[(.input, input)], some (.output, none), true, false⟩ output =
      .ok ⟨[(.input, input)], some (.output, some output), true, false⟩ := by
    rw [Reading.add_word houtput _ rfl]
    rfl
  have hend : Reading.resolve ⟨[(.input, input)], some (.output, some output), true, false⟩ =
      .ok ⟨[(.input, input), (.output, output)], none, true, false⟩ :=
    Reading.resolve_of_accepts rfl rfl (by simp [Slot.accepts, houtput.nonempty])
  have hall : [input, "-o", output].foldlM (Reading.add .compile) .initial =
      .ok ⟨[(.input, input)], some (.output, some output), true, false⟩ := by
    simp only [List.foldlM_cons, hfirst, hoption, hvalue, bind, Except.bind]
    rfl
  have hcommand : parseArguments ["compile", input, "-o", output] =
      commandArguments .compile [input, "-o", output] := rfl
  rw [hcommand, commandArguments, hall]
  simp only [bind, Except.bind, hend]
  rfl

/-! ## The steps of the program -/

namespace World

variable {world : World} {input output : String} {source target : EntryPath}

theorem scriptAt_eq (world : World) (hinput : IsWord input) :
    Program.scriptAt host (some input) world =
      (match world.files.openRead input with
        | .error error => .error (.read input error)
        | .ok source => .ok (some (input, source)), world) := by
  have hopen : host.openRead input world = (world.files.openRead input, world) := rfl
  rw [Program.scriptAt, namedPath_of_word hinput]
  simp only [bind_apply, hopen]
  cases world.files.openRead input <;> rfl

theorem outputAt_of_ok (houtput : IsWord output) {created : FileSystem}
    (h : world.files.create output = .ok (target, created)) :
    Program.outputAt host (some output) world =
      (.ok (host.append target), { world with files := created }) := by
  have hcreate : host.create output world = (.ok target, { world with files := created }) := by
    have hget : (get : StateM World World) world = (world, world) := rfl
    simp only [host, bind_apply, hget, h]
    rfl
  rw [Program.outputAt, namedPath_of_word houtput]
  simp only [bind_apply, hcreate]
  rfl

/-- The script is read when the output has been created, and its records go to the output. -/
theorem compileScript_eq (world : World) (filter : LogFilter) (verbose color : Bool)
    (path : String) {script contents : Bytes}
    (hsource : world.files.node? source = some (.file script))
    (htarget : world.files.node? target = some (.file contents)) :
    ∃ error, Program.compileScript host filter verbose color (some (path, source))
        (host.append target) world =
      ((ending (runOver Device.unlimited script) (.new ())).toOption,
        { world with
          files := world.files.append target
            (left (runOver Device.unlimited script) (.new ())).sink.taken
          error }) := by
  have hreader : Program.readerOf host (some (path, source)) world =
      (.new (some path) bufferCapacity script, world) := by
    have hread : host.read source world = (.ok script, world) := by
      have hworld : host.read source world = (world.read source, world) := rfl
      rw [hworld, World.read, hsource]
    simp only [Program.readerOf, bind_apply, hread]
    rfl
  have herror : ∀ (text : String) (w : World),
      host.writeError text w = ((), { w with error := w.error ++ text }) := fun _ _ => rfl
  have happend : ∀ error bytes, host.append target bytes { world with error } =
      ((), { world with files := world.files.append target bytes, error }) := by
    intro error bytes
    have hworld : host.append target bytes { world with error } =
        ((), World.append { world with error } target bytes) := rfl
    rw [hworld, World.append]
    simp only [htarget]
  obtain ⟨reader, hrun⟩ := Compilation.exists_run_new_eq_beside Device.unlimited () (some path)
    (show 0 < bufferCapacity by decide) script
  -- however the run ends, the records are written; only the texts behind them differ
  rw [Program.compileScript, bind_apply, hreader, hrun, ending, left]
  cases runOver Device.unlimited script (.new ()) with
  | ok tally s =>
      refine ⟨world.error ++ journalText verbose filter s.journal, ?_⟩
      simp only [Compilation.beside, bind_apply, herror, happend]
      rfl
  | error failure s =>
      refine ⟨world.error ++ journalText verbose filter s.journal ++
        failureText color failure reader, ?_⟩
      simp only [Compilation.beside, bind_apply, herror, happend]
      rfl

/-- What the script holds is what it holds when the output has been created. -/
theorem compile_of_ok (filter : LogFilter) (verbose color : Bool) (hinput : IsWord input)
    (houtput : IsWord output) (hopen : world.files.openRead input = .ok source)
    {created : FileSystem} (hcreate : world.files.create output = .ok (target, created))
    {script contents : Bytes} (hsource : created.node? source = some (.file script))
    (htarget : created.node? target = some (.file contents)) :
    ∃ error, Program.compile host filter (some input) (some output) verbose color world =
      (if (ending (runOver Device.unlimited script) (.new ())).isOk then 0 else 1,
        { world with
          files := created.append target
            (left (runOver Device.unlimited script) (.new ())).sink.taken
          error }) := by
  obtain ⟨error, hscript⟩ := compileScript_eq { world with files := created } filter verbose color
    input hsource htarget
  rw [Program.compile, bind_apply, scriptAt_eq world hinput, hopen]
  simp only [bind_apply, outputAt_of_ok houtput hcreate, hscript]
  cases ending (runOver Device.unlimited script) (.new ()) with
  | ok tally => exact ⟨_, rfl⟩
  | error failure => exact ⟨_, rfl⟩

theorem compile_of_openRead_error (filter : LogFilter) (verbose color : Bool)
    (hinput : IsWord input) {error : SystemError}
    (h : world.files.openRead input = .error error) (output : Option String) :
    ∃ text, Program.compile host filter (some input) output verbose color world =
      (1, { world with error := text }) := by
  rw [Program.compile, bind_apply, scriptAt_eq world hinput, h]
  exact ⟨_, rfl⟩

/-! ## The whole program -/

/-- The files of a compilation: a script, and another path at which a file can be created. -/
structure FileJob (files : FileSystem) (input output : String) (source target : EntryPath)
    (script : String) : Prop where
  opens : files.openRead input = .ok source
  holds : files.node? source = some (.file (Utf8.encode script.toList))
  creates : (files.create output).map Prod.fst = .ok target
  /-- The path is not the path of a stream, which keeps nothing. -/
  regular : ∀ kind, files.node? target ≠ some (.stream kind)
  apart : source ≠ target

/-- Two worlds that differ in the file at one path and in the error output only. -/
structure SameBut (target : EntryPath) (world after : World) : Prop where
  files : world.files.SameBut target after.files
  input : after.input = world.input
  output : after.output = world.output

/-- The script of a job is not changed by creating the output. -/
theorem compile_of_job (filter : LogFilter) (verbose color : Bool) (hinput : IsWord input)
    (houtput : IsWord output) {script : String}
    (job : FileJob world.files input output source target script) :
    let after := Program.compile host filter (some input) (some output) verbose color world
    let run := runOver Device.unlimited (Utf8.encode script.toList)
    world.SameBut target after.2 ∧ after.1 = (if (ending run (.new ())).isOk then 0 else 1) ∧
      after.2.files.node? target = some (.file (left run (.new ())).sink.taken) := by
  intro after run
  obtain ⟨⟨_, created⟩, hcreate, rfl⟩ := of_map_eq_ok job.creates
  rcases FileSystem.create_cases hcreate with ⟨kind, hstream⟩ | ⟨hempty, hcreated⟩
  · exact absurd hstream (job.regular kind)
  · have hsource : created.node? source = some (.file (Utf8.encode script.toList)) :=
      (hcreated.elsewhere source job.apart).trans job.holds
    obtain ⟨error, hcompile⟩ := compile_of_ok filter verbose color hinput houtput job.opens hcreate
      hsource hempty
    have hafter : after = _ := hcompile
    obtain ⟨hheld, hwritten⟩ := FileSystem.append_file hempty (left run (.new ())).sink.taken
    rw [hafter]
    exact ⟨⟨hcreated.trans hwritten, rfl, rfl⟩, rfl, hheld⟩

theorem run_compile_eq (world : World) (log : Option String) (hinput : IsWord input)
    (houtput : IsWord output) :
    ∃ filter, world.run log ["compile", input, "-o", output] =
      Program.compile host filter (some input) (some output) false false world := by
  rw [World.run, Program.run, parseArguments_compile hinput houtput]
  exact ⟨_, rfl⟩

/-- Compiling a file into another file writes its stream and ends with status 0, or writes the
records before its first fault and ends with status 1; nothing else changes.  If the script cannot be
opened, the status is 1 and no file changes. -/
theorem run_compile_file (world : World) (log : Option String) (hinput : IsWord input)
    (houtput : IsWord output) :
    let after := world.run log ["compile", input, "-o", output]
    (∀ source target script, FileJob world.files input output source target script →
      world.SameBut target after.2 ∧
        (∀ stream, Patchbay.compile script = .ok stream →
          after.1 = 0 ∧ after.2.files.node? target = some (.file stream)) ∧
        ∀ error, Patchbay.compile script = .error (.script error) →
          after.1 = 1 ∧ ∃ instructions, CompletedBefore script error instructions ∧
            after.2.files.node? target = some (.file (instructions.flatMap Instruction.wire))) ∧
      ∀ error, world.files.openRead input = .error error →
        after.1 = 1 ∧ after.2.files = world.files := by
  obtain ⟨filter, hrun⟩ := run_compile_eq world log hinput houtput
  rw [hrun]
  intro after
  refine ⟨?_, ?_⟩
  · intro source target script job
    -- the status is how the run of the script ends, and the file holds what this run has written
    obtain ⟨hsame, hstatus, hheld⟩ := compile_of_job filter false false hinput houtput job
    refine ⟨hsame, ?_, ?_⟩
    · intro stream hstream
      rw [compile_eq_ending] at hstream
      obtain ⟨tally, hending, rfl⟩ := of_map_eq_ok hstream
      rw [hending] at hstatus
      exact ⟨hstatus, hheld⟩
    · intro error herror
      obtain ⟨instructions, hcompleted, htaken⟩ := completedBefore_of_error herror
      have hending : ending (runOver Device.unlimited (Utf8.encode script.toList)) (.new ()) =
          .error (.script error) := by
        rw [compile_eq_ending] at herror
        exact of_map_eq_error herror
      rw [hending] at hstatus
      rw [htaken] at hheld
      exact ⟨hstatus, instructions, hcompleted, hheld⟩
  · intro error herror
    obtain ⟨text, hcompile⟩ := compile_of_openRead_error filter false false hinput herror
      (some output)
    have hafter : after = _ := hcompile
    rw [hafter]
    exact ⟨rfl, rfl⟩

/-- The world with the given files in the directory `w`, and nothing to read or written yet. -/
def ofFiles (files : List (String × Bytes)) : World :=
  ⟨.around ["w"] (files.map fun (name, contents) => (name, .file contents)), [], [], ""⟩

/-- A fault inside of a block, with an output that held something else before. -/
theorem run_compile_file_fault_in_block :
    let script := "i a\nS v\n x\n"
    let world := ofFiles [("a", Utf8.encode script.toList), ("b", [1, 2]), ("c", [3])]
    let after := world.run none ["compile", "a", "-o", "./b"]
    after.1 = 1 ∧ after.2.files.node? ["w", "c"] = some (.file [3]) ∧
      (∃ instructions, CompletedBefore script ⟨3, .noAssignment⟩ instructions ∧
        after.2.files.node? ["w", "b"] = some (.file (instructions.flatMap Instruction.wire))) ∧
      (world.run none ["compile", "d", "-o", "./b"]).1 = 1 := by
  intro script world after
  have hscript : IsWord "a" := ⟨by decide, by decide⟩
  have hmissing : IsWord "d" := ⟨by decide, by decide⟩
  have houtput : IsWord "./b" := ⟨by decide, by decide⟩
  have hjob : FileJob world.files "a" "./b" ["w", "a"] ["w", "b"] script := by
    refine ⟨by decide +kernel, by decide +kernel, by decide +kernel, ?_, by decide⟩
    intro kind
    cases kind <;> decide +kernel
  have hfault : Patchbay.compile script = .error (.script ⟨3, .noAssignment⟩) := by
    decide +kernel
  have hbeside : world.files.node? ["w", "c"] = some (.file [3]) := by
    decide +kernel
  have hclosed : world.files.openRead "d" = .error .notFound := by
    decide +kernel
  obtain ⟨hsame, -, hfails⟩ := (run_compile_file world none hscript houtput).1 _ _ _ hjob
  obtain ⟨hstatus, hheld⟩ := hfails _ hfault
  refine ⟨hstatus, ?_, hheld, ((run_compile_file world none hmissing houtput).2 _ hclosed).1⟩
  exact (hsame.files.elsewhere _ (by decide)).trans hbeside

/-- Where the output does not hold the stream of the script: a script that is its own output is
emptied before it is read, a stream keeps nothing, and a path with a dash in front is no path. -/
theorem output_without_stream :
    let world := ofFiles [("a", Utf8.encode "i x\n".toList), ("-x", Utf8.encode "i x\n".toList)]
    let onto (input output : String) := world.run none ["compile", input, "-o", output]
    Patchbay.compile "i x\n" = .ok [0x69, 0x78, 0] ∧
      (world.files.openRead "a" = .ok ["w", "a"] ∧
        (world.files.create "a").map Prod.fst = .ok ["w", "a"] ∧
          (onto "a" "a").1 = 0 ∧
            (onto "a" "a").2.files.node? ["w", "a"] = some (.file [])) ∧
      ((world.files.create "/dev/null").map Prod.fst = .ok ["dev", "null"] ∧
        (onto "a" "/dev/null").1 = 0 ∧
          (onto "a" "/dev/null").2.files.node? ["dev", "null"] = some (.stream .null)) ∧
      (world.files.openRead "-x" = .ok ["w", "-x"] ∧
        (world.files.create "b").map Prod.fst = .ok ["w", "b"] ∧
          (onto "-x" "b").1 = 2 ∧ (onto "-x" "b").2.files.node? ["w", "b"] = none) := by
  decide +kernel

end World

end Cli

end Patchbay
