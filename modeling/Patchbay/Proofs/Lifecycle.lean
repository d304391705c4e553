import Patchbay.RecordBuilder

/-!
# The life of a record

A record builder goes through three stages: it is empty, a record is being built, the record is
sealed.  A call is either allowed at the stage of the builder or a mistake of the caller.  A mistake
is not the end of the builder: it can be used on, and all but two mistakes leave it as it was.

## Strategy

The calls with their arguments are data (`Request`), so a history of a builder is a list of
requests, each with what came of it (`Entry`).  What one call does is said once
(`Request.call_cases`).

What a builder holds is explained by its history (`Explains`).  A sealed record is made of one
stretch of it: the stretch begins with the last start that succeeded, the record is sealed once
after that, and its bytes are those appended in between (`Window`).  A call that fails to start, to
append or to drop, or that only looks at the record, adds an entry that no stretch has to end at.
Sealing and taking are the exceptions, and they leave nothing to explain.  So one call keeps the
explanation (`Explains.step`), and all calls do, mistaken or not (`Explains.run`).
-/

namespace Patchbay.RecordBuilder

/-! ## Calls and stages -/

/-- A call on a builder with its arguments. -/
inductive Request where
  | begin (line : Nat)
  | appendByte (byte : UInt8)
  | appendBytes (bytes : Bytes)
  | appendString (text : String)
  | finish (description : String)
  | abandon
  | line
  | description
  | release
deriving DecidableEq, Repr

/-- What a call answers. -/
inductive Answer where
  | done
  | line (line : Nat)
  | description (description : String)
  | record (record : Record)
deriving DecidableEq, Repr

/-- The call that is requested. -/
def Request.call : Request → Call Answer
  | .begin n => (fun _ => .done) <$> RecordBuilder.begin n
  | .appendByte byte => (fun _ => .done) <$> append [byte]
  | .appendBytes bytes => (fun _ => .done) <$> append bytes
  | .appendString text => (fun _ => .done) <$> RecordBuilder.appendString text
  | .finish label => (fun _ => .done) <$> RecordBuilder.finish label
  | .abandon => (fun _ => .done) <$> RecordBuilder.abandon
  | .line => .line <$> RecordBuilder.line
  | .description => .description <$> RecordBuilder.description
  | .release => .record <$> RecordBuilder.release

/-- The stages of a builder. -/
inductive Stage where
  | empty
  | building
  | sealed
deriving DecidableEq, Repr

/-- The stage that a builder is at. -/
def stage : RecordBuilder → Stage
  | .empty => .empty
  | .drafting _ _ => .building
  | .sealed _ => .sealed

/-- Whether a call is allowed at a stage. -/
def Request.Allowed (stage : Stage) : Request → Prop
  | .begin _ => stage = .empty
  | .appendByte _ => stage = .building
  | .appendBytes _ => stage = .building
  | .appendString _ => stage = .building
  | .finish _ => stage = .building
  | .abandon => stage ≠ .sealed
  | .line => stage = .sealed
  | .description => stage = .sealed
  | .release => stage = .sealed

/-- The stage that an allowed call leads to. -/
def Request.target : Request → Stage
  | .begin _ => .building
  | .appendByte _ => .building
  | .appendBytes _ => .building
  | .appendString _ => .building
  | .finish _ => .sealed
  | .abandon => .empty
  | .line => .sealed
  | .description => .sealed
  | .release => .empty

/-- What a mistaken call leaves of a builder: sealing and taking give up what it holds. -/
def Request.leaves (builder : RecordBuilder) : Request → RecordBuilder
  | .finish _ => .empty
  | .release => .empty
  | _ => builder

/-- A call succeeds if it is allowed and fails otherwise. -/
theorem Request.call_cases (request : Request) (builder : RecordBuilder) :
    (request.Allowed builder.stage ∧ ∃ answer next, request.call builder = .ok answer next ∧
        next.stage = request.target) ∨
      ¬ request.Allowed builder.stage ∧ ∃ mistake,
        request.call builder = .error mistake (request.leaves builder) := by
  cases builder with
  | empty =>
      cases request with
      | begin n => exact .inl ⟨rfl, _, _, rfl, rfl⟩
      | abandon => exact .inl ⟨nofun, _, _, rfl, rfl⟩
      | _ => exact .inr ⟨nofun, _, rfl⟩
  | drafting l bytes =>
      cases request with
      | begin n => exact .inr ⟨nofun, _, rfl⟩
      | line => exact .inr ⟨nofun, _, rfl⟩
      | description => exact .inr ⟨nofun, _, rfl⟩
      | release => exact .inr ⟨nofun, _, rfl⟩
      | abandon => exact .inl ⟨nofun, _, _, rfl, rfl⟩
      | _ => exact .inl ⟨rfl, _, _, rfl, rfl⟩
  | «sealed» record =>
      cases request with
      | line => exact .inl ⟨rfl, _, _, rfl, rfl⟩
      | description => exact .inl ⟨rfl, _, _, rfl, rfl⟩
      | release => exact .inl ⟨rfl, _, _, rfl, rfl⟩
      | abandon => exact .inr ⟨fun hallowed => hallowed rfl, _, rfl⟩
      | _ => exact .inr ⟨nofun, _, rfl⟩

/-! ## Histories -/

/-- A call that was made and what came of it. -/
structure Entry where
  request : Request
  result : Except Misuse Answer

/-- The entry that a call adds to the history of a builder. -/
def Request.entry (request : Request) (builder : RecordBuilder) : Entry :=
  match request.call builder with
  | .ok answer _ => ⟨request, .ok answer⟩
  | .error mistake _ => ⟨request, .error mistake⟩

/-- The builder after a call, also after a mistaken one. -/
def Request.after (request : Request) (builder : RecordBuilder) : RecordBuilder :=
  match request.call builder with
  | .ok _ next => next
  | .error _ next => next

/-- The builder after calls in their order. -/
def afterAll (builder : RecordBuilder) : List Request → RecordBuilder
  | [] => builder
  | request :: rest => afterAll (request.after builder) rest

/-- The history of a builder over calls in their order. -/
def history (builder : RecordBuilder) : List Request → List Entry
  | [] => []
  | request :: rest => request.entry builder :: history (request.after builder) rest

/-- The bytes that an entry adds to a record: none if it failed. -/
def Entry.pushed : Entry → Bytes
  | ⟨.appendByte byte, .ok _⟩ => [byte]
  | ⟨.appendBytes bytes, .ok _⟩ => bytes
  | ⟨.appendString text, .ok _⟩ => Utf8.encode text.toList ++ [0]
  | _ => []

/-- Whether an entry starts, seals or gives up a record.  A record is given up by every call that
takes it or drops it, and by sealing or taking when these are mistaken. -/
def Entry.Turns : Entry → Prop
  | ⟨.begin _, .ok _⟩ => True
  | ⟨.finish _, _⟩ => True
  | ⟨.release, _⟩ => True
  | ⟨.abandon, .ok _⟩ => True
  | _ => False

/-- A history ends with a record that is being built: since it was started on the line, it was
neither sealed nor given up, and the bytes are those appended since. -/
def Draft (past : List Entry) (n : Nat) (bytes : Bytes) : Prop :=
  ∃ before since : List Entry, past = before ++ ⟨.begin n, .ok .done⟩ :: since ∧
    (∀ entry ∈ since, ¬ entry.Turns) ∧ bytes = since.flatMap Entry.pushed

/-- A history ends with a sealed record: it has the line of the last start that succeeded, the
description of the one sealing since, and the bytes appended between the two. -/
def Window (past : List Entry) (record : Record) : Prop :=
  ∃ before between since : List Entry,
    past = before ++ ⟨.begin record.line, .ok .done⟩ ::
      (between ++ ⟨.finish record.description, .ok .done⟩ :: since) ∧
    (∀ entry ∈ between ++ since, ¬ entry.Turns) ∧
    record.bytes = between.flatMap Entry.pushed

/-- What a builder holds is what its history says. -/
def Explains (past : List Entry) : RecordBuilder → Prop
  | .empty => True
  | .drafting n bytes => Draft past n bytes
  | .sealed record => Window past record

section

variable {past : List Entry} {entry : Entry} {n : Nat} {bytes : Bytes} {record : Record}

theorem Draft.start (past : List Entry) (n : Nat) : Draft (past ++ [⟨.begin n, .ok .done⟩]) n [] :=
  ⟨past, [], rfl, nofun, rfl⟩

theorem Draft.snoc (hdraft : Draft past n bytes) (hquiet : ¬ entry.Turns) :
    Draft (past ++ [entry]) n (bytes ++ entry.pushed) := by
  obtain ⟨before, since, rfl, hsince, rfl⟩ := hdraft
  refine ⟨before, since ++ [entry], by simp, ?_, by simp⟩
  exact List.forall_mem_append.2 ⟨hsince, List.forall_mem_singleton.2 hquiet⟩

theorem Draft.seal (hdraft : Draft past n bytes) (label : String) :
    Window (past ++ [⟨.finish label, .ok .done⟩]) ⟨n, label, bytes⟩ := by
  obtain ⟨before, since, rfl, hsince, rfl⟩ := hdraft
  exact ⟨before, since, [], by simp, by simpa using hsince, rfl⟩

theorem Window.snoc (hwindow : Window past record) (hquiet : ¬ entry.Turns) :
    Window (past ++ [entry]) record := by
  obtain ⟨before, between, since, rfl, hrest, hbytes⟩ := hwindow
  refine ⟨before, between, since ++ [entry], by simp, ?_, hbytes⟩
  rw [← List.append_assoc]
  exact List.forall_mem_append.2 ⟨hrest, List.forall_mem_singleton.2 hquiet⟩

/-- An entry that adds nothing and ends nothing leaves a draft as it is. -/
theorem Draft.skip (hdraft : Draft past n bytes) (hquiet : ¬ entry.Turns)
    (hpushed : entry.pushed = []) : Draft (past ++ [entry]) n bytes := by
  have hnext := hdraft.snoc hquiet
  rwa [hpushed, List.append_nil] at hnext

/-- One call keeps the explanation. -/
theorem Explains.step {builder : RecordBuilder} (hpast : Explains past builder)
    (request : Request) :
    Explains (past ++ [request.entry builder]) (request.after builder) := by
  cases builder with
  | empty =>
      cases request with
      | begin n => exact .start past n
      | _ => exact True.intro
  | drafting n bytes =>
      -- A new start, a look at the line and a look at the description fail here.
      cases request with
      | begin m => exact Draft.skip hpast nofun rfl
      | line => exact Draft.skip hpast nofun rfl
      | description => exact Draft.skip hpast nofun rfl
      | appendByte byte => exact Draft.snoc hpast nofun
      | appendBytes more => exact Draft.snoc hpast nofun
      | appendString text => exact Draft.snoc hpast nofun
      | finish label => exact Draft.seal hpast label
      | abandon => exact True.intro
      | release => exact True.intro
  | «sealed» record =>
      -- Sealing again fails and taking succeeds, and both leave the builder empty.
      cases request with
      | finish label => exact True.intro
      | release => exact True.intro
      | _ => exact Window.snoc hpast nofun

end

/-- All calls keep the explanation. -/
theorem Explains.run {builder : RecordBuilder} {past : List Entry} (hpast : Explains past builder)
    (requests : List Request) :
    Explains (past ++ history builder requests) (afterAll builder requests) := by
  induction requests generalizing builder past with
  | nil => simpa [history, afterAll] using hpast
  | cons request rest ih =>
      have hrest := ih (hpast.step request)
      rwa [List.append_assoc] at hrest

/-- Only a sealed builder hands a record out, and it hands out the one it holds. -/
theorem release_eq_ok {builder next : RecordBuilder} {answer : Answer}
    (hrelease : Request.release.call builder = .ok answer next) :
    ∃ record, builder = .sealed record ∧ answer = .record record := by
  cases builder with
  | empty => cases hrelease
  | drafting n bytes => cases hrelease
  | «sealed» record =>
      cases hrelease
      exact ⟨record, rfl, rfl⟩

/-- After any calls on a new builder, mistaken or not, the next call fails exactly if the stage does
not allow it.  If it fails, the builder is left as it was, or empty if the call was to seal or to
take; if it succeeds, the builder is at the stage that the call leads to.  And what is taken is a
record: it has the line of the last start that succeeded, the description of the one sealing since,
and the bytes appended between the two. -/
theorem lifecycle_of_requests (requests : List Request) (request : Request) :
    ((∃ mistake next, request.call (afterAll .empty requests) = .error mistake next) ↔
        ¬ request.Allowed (afterAll .empty requests).stage) ∧
      (∀ mistake next, request.call (afterAll .empty requests) = .error mistake next →
        next = request.leaves (afterAll .empty requests)) ∧
      (∀ answer next, request.call (afterAll .empty requests) = .ok answer next →
        next.stage = request.target) ∧
      ∀ answer next, Request.release.call (afterAll .empty requests) = .ok answer next →
        ∃ record, answer = .record record ∧ Window (history .empty requests) record := by
  have hnew : Explains [] .empty := True.intro
  have hhistory : Explains (history .empty requests) (afterAll .empty requests) :=
    hnew.run requests
  generalize afterAll .empty requests = builder at hhistory ⊢
  have htake : ∀ answer next, Request.release.call builder = .ok answer next →
      ∃ record, answer = .record record ∧ Window (history .empty requests) record := by
    intro answer next hrelease
    obtain ⟨record, rfl, rfl⟩ := release_eq_ok hrelease
    exact ⟨record, rfl, hhistory⟩
  rcases request.call_cases builder with ⟨hallowed, answer, after, hcall, htarget⟩ |
    ⟨hrefused, mistake, hcall⟩
  · refine ⟨⟨?_, fun hrefused => absurd hallowed hrefused⟩, ?_, ?_, htake⟩
    · rintro ⟨mistake, next, hfails⟩
      simp [hcall] at hfails
    · intro mistake next hfails
      simp [hcall] at hfails
    · intro other next hsucceeds
      rw [hcall] at hsucceeds
      cases hsucceeds
      exact htarget
  · refine ⟨⟨fun _ => hrefused, fun _ => ⟨_, _, hcall⟩⟩, ?_, ?_, htake⟩
    · intro other next hfails
      rw [hcall] at hfails
      cases hfails
      rfl
    · intro answer next hsucceeds
      simp [hcall] at hsucceeds

/-- A record is dropped, the next one is started and filled, and two mistakes are made on it; what
is taken is the second record alone. -/
theorem lifecycle_of_requests_second :
    Window (history .empty [.begin 1, .appendByte 7, .abandon, .begin 2, .appendString "ab",
      .begin 3, .finish "A", .appendByte 9]) ⟨2, "A", [97, 98, 0]⟩ := by
  obtain ⟨record, hrecord, hwindow⟩ := (lifecycle_of_requests
    [.begin 1, .appendByte 7, .abandon, .begin 2, .appendString "ab", .begin 3, .finish "A",
      .appendByte 9] .release).2.2.2 (.record ⟨2, "A", [97, 98, 0]⟩) .empty (by rfl)
  cases hrecord
  exact hwindow

end Patchbay.RecordBuilder
