import Patchbay.Compiler.Session
import Patchbay.Source.Reader

/-!
# Compiling through a reader

A compilation asks its reader for one line at a time, so that at a fault the reader remembers the
line that the fault is on.
-/

namespace Patchbay

/-- A session and the reader that it takes its lines from. -/
structure Compilation (σ : Type) where
  session : Session σ
  reader : Reader

namespace Compilation

variable {σ : Type}

/-- A part of a compilation. -/
abbrev Action (σ : Type) := EStateM Failure (Compilation σ)

/-- A compilation before its first line. -/
def new (device : σ) (reader : Reader) : Compilation σ :=
  ⟨.new device, reader⟩

/-- Carries out a part of the run of the session. -/
def sessionDo {α : Type} (action : Session.Action σ α) : Action σ α := fun c =>
  match action c.session with
  | .ok a session => .ok a { c with session }
  | .error failure session => .error failure { c with session }

/-- Takes the lines of the reader up to its end. -/
def feedLines (device : Device σ) : Action σ Unit := fun c =>
  match _read : c.reader.readLine with
  | .error fault => .error (.stream (.system fault)) c
  | .ok (raw, reader) =>
    if _empty : raw = [] then .ok () { c with reader }
    else
      match Session.feedBytes device (Source.content raw) c.session with
      | .error failure session => .error failure ⟨session, reader⟩
      | .ok () session => feedLines device ⟨session, reader⟩
termination_by c => c.reader.unread.length
decreasing_by
  rw [← Reader.unread_of_readLine _read]
  have := List.length_pos_iff.2 _empty
  simp only [List.length_append]
  omega

/-- Compiles the script of the reader. -/
def run (device : Device σ) : Action σ Tally := do
  sessionDo Session.start
  feedLines device
  sessionDo (Session.finish device)

end Compilation

end Patchbay
