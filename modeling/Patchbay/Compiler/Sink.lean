import Patchbay.Source.Fault
import Patchbay.Text.Utf8

/-!
# Sinks

The records of a run go to a device.  A device may take only part of what it is offered,
and it may refuse to write or to flush at any time.  A sink is a device together with the account
of what it has taken: the pieces that have been flushed, one per successful flush, and the bytes
that have been taken since.
-/

namespace Patchbay

/-- Something that bytes can be written to, with a state of its own. -/
structure Device (σ : Type) where
  /-- Offers bytes; the answer is the number of bytes taken, or why none were.  A device that is
  interrupted before it has taken anything tries again on its own: an interruption is no answer. -/
  write : Bytes → σ → Except StreamError Nat × σ
  /-- Asks the device to keep what it has taken. -/
  flush : σ → Except StreamError Unit × σ

/-- The state of a device and the account of what it has taken. -/
structure Sink (σ : Type) where
  device : σ
  flushed : List Bytes
  pending : Bytes

namespace Sink

/-- A sink that has taken nothing. -/
def new {σ : Type} (device : σ) : Sink σ := ⟨device, [], []⟩

/-- All bytes that have been taken. -/
def taken {σ : Type} (sink : Sink σ) : Bytes :=
  sink.flushed.flatten ++ sink.pending

/-- Writes all bytes, offering again what the device has not taken.  A device that takes nothing
of something is given up. -/
def writeAll {σ : Type} (device : Device σ) (bytes : Bytes) (sink : Sink σ) :
    Except StreamError Unit × Sink σ :=
  if _empty : bytes = [] then (.ok (), sink)
  else
    match device.write bytes sink.device with
    | (.error fault, state) => (.error fault, { sink with device := state })
    | (.ok 0, state) => (.error .nothingWritten, { sink with device := state })
    | (.ok (count + 1), state) =>
      writeAll device (bytes.drop (count + 1))
        { sink with device := state, pending := sink.pending ++ bytes.take (count + 1) }
termination_by bytes.length
decreasing_by
  have := List.length_pos_iff.2 _empty
  simp only [List.length_drop]
  omega

/-- Flushes the device; what it has taken since the last flush becomes a piece. -/
def flush {σ : Type} (device : Device σ) (sink : Sink σ) : Except StreamError Unit × Sink σ :=
  match device.flush sink.device with
  | (.error fault, state) => (.error fault, { sink with device := state })
  | (.ok (), state) =>
    (.ok (), { device := state, flushed := sink.flushed ++ [sink.pending], pending := [] })

end Sink

namespace Device

/-- A device that takes everything. -/
def unlimited : Device Unit where
  write bytes state := (.ok bytes.length, state)
  flush state := (.ok (), state)

/-- What a limited device has left: room for bytes and successful flushes. -/
structure Quota where
  room : Option Nat
  flushes : Option Nat
deriving DecidableEq, Repr

/-- A device with limits: it takes as much as there is room for, and fails when there is none. -/
def limited : Device Quota where
  write bytes quota :=
    match quota.room with
    | none => (.ok bytes.length, quota)
    | some 0 => (.error .deviceFull, quota)
    | some room =>
      let count := min room bytes.length
      (.ok count, { quota with room := some (room - count) })
  flush quota :=
    match quota.flushes with
    | none => (.ok (), quota)
    | some 0 => (.error .flushFailed, quota)
    | some (flushes + 1) => (.ok (), { quota with flushes := some flushes })

end Device

end Patchbay
