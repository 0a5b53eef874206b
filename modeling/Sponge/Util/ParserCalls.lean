import Sponge.Util.Storage

/-!
# Runs of a parser

What was written field by field is read back field by field, and a parser that
was asked for too much does nothing from then on.
-/

namespace Sponge

open Lib Throwing

/-- A number with its width. -/
inductive NetField where
  | u8 (value : UInt8)
  | u16 (value : UInt16)
  | u32 (value : UInt32)
  deriving DecidableEq, Repr

/-- A call of a parser. -/
inductive NetParser.Call where
  | u8
  | u16
  | u32
  | removePrefix (n : ℕ)
  deriving DecidableEq, Repr

open NetParser (Call)

namespace NetField

/-- Append a field to a string. -/
def write (s : Buffer) : NetField → Buffer
  | .u8 value => NetUnparser.unparseInt 1 s value.toBitVec
  | .u16 value => NetUnparser.unparseInt 2 s value.toBitVec
  | .u32 value => NetUnparser.unparseInt 4 s value.toBitVec

/-- The call that reads a field of the same width. -/
def call : NetField → Call
  | .u8 _ => .u8
  | .u16 _ => .u16
  | .u32 _ => .u32

def bytes : NetField → Buffer
  | .u8 value => NetUnparser.u8 value
  | .u16 value => NetUnparser.u16 value
  | .u32 value => NetUnparser.u32 value

theorem write_eq (s : Buffer) (field : NetField) : field.write s = s ++ field.bytes := by
  cases field with
  | u8 => exact NetUnparser.unparseInt_eq 1 s _
  | u16 => exact NetUnparser.unparseInt_eq 2 s _
  | u32 => exact NetUnparser.unparseInt_eq 4 s _

end NetField

namespace NetParser

namespace Call

/-- The number of bytes that a call asks for. -/
def size : Call → ℕ
  | .u8 => 1
  | .u16 => 2
  | .u32 => 4
  | .removePrefix n => n

/-- What a call returns when it fails. -/
def zero : Call → Option NetField
  | .u8 => some (.u8 0)
  | .u16 => some (.u16 0)
  | .u32 => some (.u32 0)
  | .removePrefix _ => none

end Call

/-- Carry out a call.  Only reads return something. -/
def perform : Call → StateM NetParser (Option NetField)
  | .u8 => (fun value => some (.u8 value)) <$> u8
  | .u16 => (fun value => some (.u16 value)) <$> u16
  | .u32 => (fun value => some (.u32 value)) <$> u32
  | .removePrefix n => (fun _ => none) <$> removePrefix n

theorem takes_perform (call : Call) : Takes call.size (perform call) := by
  cases call with
  | u8 => exact takes_u8.map _
  | u16 => exact takes_u16.map _
  | u32 => exact takes_u32.map _
  | removePrefix n => exact (takes_removePrefix n).map _

theorem takes_mapM_perform (calls : List Call) :
    Takes (calls.map Call.size).sum (calls.mapM perform) := by
  induction calls with
  | nil => exact takes_pure []
  | cons call rest inductionHypothesis =>
      rw [List.mapM_cons, List.map_cons, List.sum_cons]
      refine (takes_perform call).bind fun first => ?_
      exact inductionHypothesis.bind fun results => takes_pure (first :: results)

theorem perform_written (field : NetField) (rest : Buffer) :
    perform field.call { buffer := field.bytes ++ rest } = (some field, { buffer := rest }) := by
  cases field with
  | u8 value => simp only [perform, NetField.call, NetField.bytes, map_apply, u8_written]
  | u16 value => simp only [perform, NetField.call, NetField.bytes, map_apply, u16_written]
  | u32 value => simp only [perform, NetField.call, NetField.bytes, map_apply, u32_written]

theorem mapM_perform_written (fields : List NetField) (trailing : Buffer) :
    (fields.map NetField.call).mapM perform
        { buffer := fields.flatMap NetField.bytes ++ trailing } =
      (fields.map some, { buffer := trailing }) := by
  induction fields with
  | nil => rfl
  | cons field rest inductionHypothesis =>
      simp only [List.map_cons, List.mapM_cons, List.flatMap_cons, List.append_assoc, bind_apply,
        perform_written, inductionHypothesis, pure_apply]

end NetParser

theorem NetField.foldl_write (fields : List NetField) (s : Buffer) :
    fields.foldl NetField.write s = s ++ fields.flatMap NetField.bytes := by
  induction fields generalizing s with
  | nil => exact (List.append_nil s).symm
  | cons field rest inductionHypothesis =>
      rw [List.foldl_cons, inductionHypothesis, write_eq, List.append_assoc, List.flatMap_cons]

namespace StoredParser

def perform : Call → Method (Option NetField)
  | .u8 => (fun value => some (.u8 value)) <$> u8
  | .u16 => (fun value => some (.u16 value)) <$> u16
  | .u32 => (fun value => some (.u32 value)) <$> u32
  | .removePrefix n => (fun _ => none) <$> removePrefix n

theorem simulates_perform (call : Call) :
    Simulates view (perform call) (NetParser.perform call) := by
  cases call with
  | u8 => exact simulates_u8.map _
  | u16 => exact simulates_u16.map _
  | u32 => exact simulates_u32.map _
  | removePrefix n => exact (simulates_removePrefix n).map _

variable {p : StoredParser}

/-- A call that fails returns zero and leaves the buffer alone. -/
theorem perform_failed {call : Call} (failed : (p.checkSize call.size).hasError = true) :
    perform call p = .ok call.zero (p.checkSize call.size) := by
  cases call with
  | u8 => exact map_of_ok (map_of_ok (parseInt_failed failed) _) _
  | u16 => exact map_of_ok (map_of_ok (parseInt_failed failed) _) _
  | u32 => exact map_of_ok (map_of_ok (parseInt_failed failed) _) _
  | removePrefix n => exact map_of_ok (removePrefix_failed failed) _

/-- A lack of bytes is noted once and for all. -/
theorem checkSize_of_error (error : p.error = .packetTooShort) (n : ℕ) : p.checkSize n = p := by
  unfold checkSize
  split_ifs
  · rw [← error]
  · rfl

theorem mapM_perform_failed (error : p.error = .packetTooShort) (calls : List Call) :
    calls.mapM perform p = .ok (calls.map Call.zero) p := by
  induction calls with
  | nil => rfl
  | cons call rest inductionHypothesis =>
      have same := checkSize_of_error error call.size
      have failed : (p.checkSize call.size).hasError = true := by
        rw [same, hasError, error]
        rfl
      have first := perform_failed failed
      rw [same] at first
      rw [List.mapM_cons, bind_of_ok first, bind_of_ok inductionHypothesis]
      rfl

/-- The call that asks for more than there is, and all the calls behind it. -/
theorem mapM_perform_short {call : Call} (short : p.buffer.size < call.size)
    (after : List Call) :
    (call :: after).mapM perform p =
      .ok ((call :: after).map Call.zero) { p with error := .packetTooShort } := by
  have checked : p.checkSize call.size = { p with error := .packetTooShort } := if_pos short
  have first : perform call p = .ok call.zero { p with error := .packetTooShort } := by
    rw [← checked]
    refine perform_failed ?_
    rw [checked]
    rfl
  rw [List.mapM_cons, bind_of_ok first, bind_of_ok (mapM_perform_failed rfl after)]
  rfl

/-- What was written in front of other bytes is read back and leaves those bytes.
From the first call on that asks for more bytes than remain, the error stays, all
reads give zero, and the buffer stays as it was before that call. -/
theorem reads_back_and_stays_failed (b : StoredBuffer) :
    (∀ (fields : List NetField) (trailing : Buffer),
      b.str = fields.foldl NetField.write [] ++ trailing →
      ∃ p, (fields.map NetField.call).mapM perform { buffer := b } =
          .ok (fields.map some) p ∧
        p.error = .noError ∧ p.buffer.str = trailing) ∧
    ∀ (before : List Call) (call : Call) (after : List Call),
      (before.map Call.size).sum ≤ b.size →
      b.size < (before.map Call.size).sum + call.size →
      ∃ results p, before.mapM perform { buffer := b } = .ok results p ∧
        p.error = .noError ∧ p.buffer.str = b.str.drop (before.map Call.size).sum ∧
        (call :: after).mapM perform p =
          .ok ((call :: after).map Call.zero) { p with error := .packetTooShort } := by
  refine ⟨?_, ?_⟩
  · intro fields trailing written
    rw [NetField.foldl_write, List.nil_append] at written
    obtain ⟨p, ran, seen⟩ :=
      Simulates.mapM simulates_perform (fields.map NetField.call) { buffer := b }
    rw [view_new, written, NetParser.mapM_perform_written] at ran seen
    exact ⟨p, ran, congrArg NetParser.error seen, congrArg NetParser.buffer seen⟩
  · intro before call after served short
    obtain ⟨p, ran, seen⟩ := Simulates.mapM simulates_perform before { buffer := b }
    rw [view_new, (NetParser.takes_mapM_perform before).rest b.str served] at seen
    have remaining : p.buffer.str = b.str.drop (before.map Call.size).sum :=
      congrArg NetParser.buffer seen
    refine ⟨_, p, ran, congrArg NetParser.error seen, remaining, mapM_perform_short ?_ after⟩
    rw [StoredBuffer.size, remaining, List.length_drop]
    exact Nat.sub_lt_left_of_lt_add served short

/-- Of three bytes two are read; four more are too many, and then even the third
is not read any more. -/
theorem reads_back_and_stays_failed_three :
    let b := StoredBuffer.ofString [1, 2, 3]
    (∃ p, [Call.u16].mapM perform { buffer := b } = .ok [some (.u16 258)] p ∧
      p.error = .noError ∧ p.buffer.str = [3]) ∧
    ∃ results p, [Call.u16].mapM perform { buffer := b } = .ok results p ∧
      p.error = .noError ∧ p.buffer.str = [3] ∧
      [Call.u32, .u8, .removePrefix 1].mapM perform p =
        .ok [some (.u32 0), some (.u8 0), none] { p with error := .packetTooShort } := by
  intro b
  obtain ⟨readsBack, staysFailed⟩ := reads_back_and_stays_failed b
  exact ⟨readsBack [.u16 258] [3] (by decide),
    staysFailed [.u16] .u32 [.u8, .removePrefix 1] (by decide) (by decide)⟩

end StoredParser

end Sponge
