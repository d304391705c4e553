import Patchbay.Proofs.Compiler.Course

/-!
# Devices that keep notes

What a device is asked can be written down by a device that asks it the same and keeps a list.  The
two answer alike (`Device.Mirrors`), and a run looks at the answers of its device only.  So it does
on the second device what it does on the first, and leaves the same session but for the notes
(`left_runOver_map`).
-/

namespace Patchbay

variable {τ σ : Type}

/-- A device that answers as another one does, whose state is seen through `view`. -/
structure Device.Mirrors (noting : Device τ) (device : Device σ) (view : τ → σ) : Prop where
  write : ∀ bytes state, device.write bytes (view state) =
    ((noting.write bytes state).1, view (noting.write bytes state).2)
  flush : ∀ state, device.flush (view state) =
    ((noting.flush state).1, view (noting.flush state).2)

/-- The sink with the state of its device seen through `view`. -/
def Sink.map (view : τ → σ) (sink : Sink τ) : Sink σ :=
  ⟨view sink.device, sink.flushed, sink.pending⟩

namespace Session

open Script

/-- The session with the state of its device seen through `view`. -/
def map (view : τ → σ) (s : Session τ) : Session σ :=
  ⟨s.parser, s.sink.map view, s.instructions, s.journal⟩

/-- The result with the state of the device seen through `view`. -/
def mapWithin {α : Type} (view : τ → σ) :
    EStateM.Result Failure (Session τ) α → EStateM.Result Failure (Session σ) α
  | .ok a s => .ok a (s.map view)
  | .error failure s => .error failure (s.map view)

section

variable {noting : Device τ} {device : Device σ} {view : τ → σ} (h : noting.Mirrors device view)
include h

/-! ## Writing -/

theorem writeAll_map (bytes : Bytes) (sink : Sink τ) :
    Sink.writeAll device bytes (sink.map view) =
      ((Sink.writeAll noting bytes sink).1, (Sink.writeAll noting bytes sink).2.map view) := by
  fun_induction Sink.writeAll noting bytes sink with
  | case1 sink => rw [Sink.writeAll, dif_pos rfl]
  | case2 bytes sink hbytes fault state hwrite =>
      have hmirrored := h.write bytes sink.device
      rw [hwrite] at hmirrored
      rw [Sink.writeAll, dif_neg hbytes, Sink.map, hmirrored]
      rfl
  | case3 bytes sink hbytes state hwrite =>
      have hmirrored := h.write bytes sink.device
      rw [hwrite] at hmirrored
      rw [Sink.writeAll, dif_neg hbytes, Sink.map, hmirrored]
      rfl
  | case4 bytes sink hbytes count state hwrite ih =>
      have hmirrored := h.write bytes sink.device
      rw [hwrite] at hmirrored
      rw [Sink.writeAll, dif_neg hbytes, Sink.map, hmirrored]
      exact ih

theorem flush_map (sink : Sink τ) :
    Sink.flush device (sink.map view) =
      ((Sink.flush noting sink).1, (Sink.flush noting sink).2.map view) := by
  have hmirrored := h.flush sink.device
  rw [Sink.flush, Sink.flush, Sink.map, hmirrored]
  cases noting.flush sink.device with
  | mk answer next => cases answer <;> rfl

theorem deliver_map (bytes : Bytes) (sink : Sink τ) :
    deliver device bytes (sink.map view) =
      ((deliver noting bytes sink).1, (deliver noting bytes sink).2.map view) := by
  rw [deliver, deliver, writeAll_map h]
  cases Sink.writeAll noting bytes sink with
  | mk answer written =>
      cases answer with
      | error fault => rfl
      | ok u => exact flush_map h written

/-! ## Runs -/

theorem writeTaken_map (record? : Option Record) (s : Session τ) :
    writeTaken device record? (s.map view) = mapWithin view (writeTaken noting record? s) := by
  cases record? with
  | none => rfl
  | some record =>
      have hsink : ((s.map view).announced record).sink = (s.announced record).sink.map view := rfl
      rw [writeTaken, writeTaken, writeRecord_eq, writeRecord_eq, sinkDo, sinkDo, hsink,
        deliver_map h]
      cases deliver noting record.bytes (s.announced record).sink with
      | mk answer sink => cases answer <;> rfl

theorem follow_map (stages : List Stage) (s : Session τ) :
    follow device stages (s.map view) = mapWithin view (follow noting stages s) := by
  induction stages generalizing s with
  | nil => rfl
  | cons stage rest ih =>
      have hwrite := writeTaken_map h stage.record? (s.noted stage.parser stage.events)
      have hnoted : (s.map view).noted stage.parser stage.events =
          (s.noted stage.parser stage.events).map view := rfl
      rw [follow_cons, follow_cons, run_bind, run_bind, hnoted, hwrite]
      cases writeTaken noting stage.record? (s.noted stage.parser stage.events) with
      | ok u next => exact ih next
      | error failure left => rfl

theorem run_map (course : Course) (s : Session τ) :
    course.run device (s.map view) = mapWithin view (course.run noting s) := by
  rw [Course.run, Course.run, run_bind, run_bind, follow_map h]
  cases follow noting course.stages s with
  | ok u next => cases course.failure? <;> rfl
  | error failure left => rfl

theorem runOver_map (script : Bytes) {s : Session τ} (hs : s.parser.Coupled) :
    runOver device script (s.map view) = mapWithin view (runOver noting script s) := by
  obtain ⟨start, hresting⟩ := hs.eq_resting
  have hmap : (s.map view).parser = Parser.resting s.parser.line start s.parser.block := hresting
  rw [runOver_eq device hs.sound script (s.map view) hmap,
    runOver_eq noting hs.sound script s hresting]
  exact run_map h _ s.started

/-- A run leaves the same on both devices, but for the notes. -/
theorem left_runOver_map (script : Bytes) {s : Session τ} (hs : s.parser.Coupled) :
    left (runOver device script) (s.map view) = (left (runOver noting script) s).map view := by
  rw [left, left, runOver_map h script hs]
  cases runOver noting script s <;> rfl

/-- A run ends in the same way on both devices. -/
theorem ending_runOver_map (script : Bytes) {s : Session τ} (hs : s.parser.Coupled) :
    ending (runOver device script) (s.map view) = ending (runOver noting script) s := by
  rw [ending, ending, runOver_map h script hs]
  cases runOver noting script s <;> rfl

theorem afterAll_map (scripts : List Bytes) {s : Session τ} (hs : s.parser.Coupled) :
    afterAll device (s.map view) scripts = (afterAll noting s scripts).map view := by
  induction scripts generalizing s with
  | nil => rfl
  | cons script rest ih =>
      have hrest := ih ((keeps_runOver noting script).left hs)
      rw [← left_runOver_map h script hs] at hrest
      exact hrest

end

end Session

end Patchbay
