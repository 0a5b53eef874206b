import Sponge.Lib.Throwing
import Sponge.Util.Parser

/-!
# Buffers and parsers as they are stored

A buffer is an offset into a string that it shares with its copies, and it lets
go of the string when all of it has been discarded.  A parser reads such a
buffer byte by byte, and each step of its loop is cut to the width of the
result.  Seen from outside it is the parser on the bytes that remain, and it
never throws.
-/

namespace Sponge

open Lib Throwing

structure StoredBuffer where
  storage : Option (List UInt8)
  startingOffset : ℕ
  within : ∀ string ∈ storage, startingOffset ≤ string.length
  deriving DecidableEq

namespace StoredBuffer

/-- Construct by taking ownership of a string. -/
def ofString (string : List UInt8) : StoredBuffer where
  storage := some string
  startingOffset := 0
  within _ _ := Nat.zero_le _

def str (b : StoredBuffer) : Buffer :=
  match b.storage with
  | none => []
  | some string => string.drop b.startingOffset

def size (b : StoredBuffer) : ℕ := b.str.length

/-- Get the byte at a location. -/
def byteAt (b : StoredBuffer) (n : ℕ) : Except Exception UInt8 :=
  match b.str[n]? with
  | some byte => .ok byte
  | none => .error (.outOfRange "basic_string_view::at")

theorem add_le_of_le_size {b : StoredBuffer} {string : List UInt8}
    (storage : b.storage = some string) {n : ℕ} (fits : n ≤ b.size) :
    b.startingOffset + n ≤ string.length := by
  have within := b.within string storage
  rw [size, str, storage, List.length_drop] at fits
  omega

/-- Discard the first `n` bytes. -/
def removePrefix (b : StoredBuffer) (n : ℕ) : Except Exception StoredBuffer :=
  if tooMany : n > b.size then .error (.outOfRange "Buffer::remove_prefix")
  else
    match storage : b.storage with
    | none => .ok { storage := none, startingOffset := b.startingOffset + n, within := nofun }
    | some string =>
        if b.startingOffset + n = string.length then
          .ok { storage := none, startingOffset := b.startingOffset + n, within := nofun }
        else
          .ok {
            storage := some string
            startingOffset := b.startingOffset + n
            within := by
              rintro _ ⟨⟩
              exact add_le_of_le_size storage (Nat.le_of_not_lt tooMany) }

theorem byteAt_of_lt {b : StoredBuffer} {n : ℕ} (inside : n < b.str.length) :
    b.byteAt n = .ok b.str[n] := by
  rw [byteAt, List.getElem?_eq_getElem inside]

/-- Also when the string is let go, the bytes that remain are those behind the
ones that were discarded. -/
theorem removePrefix_of_le {b : StoredBuffer} {n : ℕ} (fits : n ≤ b.size) :
    ∃ next, b.removePrefix n = .ok next ∧ next.str = b.str.drop n := by
  unfold removePrefix
  rw [dif_neg (Nat.not_lt.mpr fits)]
  split
  next storage =>
    refine ⟨_, rfl, ?_⟩
    simp [str, storage]
  next string storage =>
    split
    next whole =>
      refine ⟨_, rfl, ?_⟩
      simp [str, storage, whole]
    next =>
      refine ⟨_, rfl, ?_⟩
      simp [str, storage]

end StoredBuffer

structure StoredParser where
  buffer : StoredBuffer
  error : ParseResult := .noError
  deriving DecidableEq

namespace StoredParser

abbrev Method := EStateM Exception StoredParser

def hasError (p : StoredParser) : Bool := p.error != .noError

def checkSize (p : StoredParser) (size : ℕ) : StoredParser :=
  if size > p.buffer.size then { p with error := .packetTooShort } else p

/-- One round of the loop in `_parse_int`, in the type of the result. -/
def shiftIn {w : ℕ} (buffer : StoredBuffer) (ret : BitVec w) (i : ℕ) :
    Except Exception (BitVec w) := do
  return ret <<< 8 + BitVec.ofNat w (← buffer.byteAt i).toNat

def parseInt (len : ℕ) : Method (BitVec (8 * len)) := do
  modify (·.checkSize len)
  let p ← get
  if p.hasError then return 0
  let ret ← MonadExcept.ofExcept ((List.range len).foldlM (shiftIn p.buffer) 0)
  let rest ← MonadExcept.ofExcept (p.buffer.removePrefix len)
  set { p with buffer := rest }
  return ret

def u32 : Method UInt32 := UInt32.ofBitVec <$> parseInt 4

def u16 : Method UInt16 := UInt16.ofBitVec <$> parseInt 2

def u8 : Method UInt8 := UInt8.ofBitVec <$> parseInt 1

def removePrefix (n : ℕ) : Method Unit := do
  modify (·.checkSize n)
  let p ← get
  if p.hasError then return
  let rest ← MonadExcept.ofExcept (p.buffer.removePrefix n)
  set { p with buffer := rest }

/-- The parser on the bytes that remain. -/
def view (p : StoredParser) : NetParser where
  buffer := p.buffer.str
  error := p.error

theorem view_new (b : StoredBuffer) : view { buffer := b } = { buffer := b.str } := rfl

variable {p : StoredParser} {n len : ℕ}

theorem view_checkSize (p : StoredParser) (n : ℕ) : (p.checkSize n).view = p.view.checkSize n := by
  unfold checkSize NetParser.checkSize
  split_ifs
  all_goals first | rfl | contradiction

theorem checkSize_of_le (enough : n ≤ p.buffer.size) : p.checkSize n = p :=
  if_neg (Nat.not_lt.mpr enough)

/-- A check that finds no error finds enough bytes. -/
theorem of_checkSize (passed : (p.checkSize n).hasError = false) :
    n ≤ p.buffer.size ∧ p.checkSize n = p := by
  unfold checkSize at passed ⊢
  split_ifs at passed ⊢
  next => contradiction
  next enough => exact ⟨Nat.le_of_not_lt enough, rfl⟩

/-- A byte is shifted in, and what does not fit falls out. -/
theorem shiftIn_run {w value i : ℕ} {buffer : StoredBuffer} (inside : i < buffer.str.length) :
    shiftIn buffer (BitVec.ofNat w value) i =
      .ok (BitVec.ofNat w (value * 256 + buffer.str[i].toNat)) := by
  have shifted : BitVec.ofNat w value <<< 8 + BitVec.ofNat w buffer.str[i].toNat =
      BitVec.ofNat w (value * 256 + buffer.str[i].toNat) := by
    apply BitVec.eq_of_toNat_eq
    simp [Nat.shiftLeft_eq, Nat.add_mod, Nat.mul_mod]
  rw [shiftIn, StoredBuffer.byteAt_of_lt inside, ← shifted]
  rfl

/-- Whatever the width, the loop gives the number in the bytes, cut to it. -/
theorem foldlM_shiftIn {w : ℕ} {buffer : StoredBuffer} (enough : len ≤ buffer.size) :
    (List.range len).foldlM (shiftIn buffer) (0 : BitVec w) =
      .ok (BitVec.ofNat w (BigEndian.decode (buffer.str.take len))) := by
  induction len with
  | zero => rfl
  | succ len inductionHypothesis =>
      have inside : len < buffer.str.length := enough
      rw [List.range_succ, List.foldlM_append, inductionHypothesis (Nat.le_of_lt inside),
        List.take_succ_eq_append_getElem inside, BigEndian.decode_concat]
      exact (bind_pure _).trans (shiftIn_run inside)

theorem parseInt_failed (failed : (p.checkSize len).hasError = true) :
    parseInt len p = .ok 0 (p.checkSize len) := by
  simp only [parseInt, modify_bind_run, get_bind_run, failed, if_true, pure_run]

theorem removePrefix_failed (failed : (p.checkSize n).hasError = true) :
    removePrefix n p = .ok () (p.checkSize n) := by
  simp only [removePrefix, modify_bind_run, get_bind_run, failed, if_true, pure_run]

/-- Both methods check the size first and discard that many bytes last. -/
theorem simulates_of_checkSize {α : Type} {x : Method α} {y : StateM NetParser α}
    (failed : ∀ p, (p.checkSize n).hasError = true →
      ∃ a, x p = .ok a (p.checkSize n) ∧ y p.view = (a, p.view.checkSize n))
    (passed : ∀ p rest, p.hasError = false → n ≤ p.buffer.size →
      p.buffer.removePrefix n = .ok rest →
      ∃ a, x p = .ok a { p with buffer := rest } ∧
        y p.view = (a, { p.view with buffer := p.view.buffer.drop n })) :
    Simulates view x y := by
  intro p
  cases error : (p.checkSize n).hasError with
  | true =>
      obtain ⟨a, ran, seen⟩ := failed p error
      rw [seen]
      exact ⟨_, ran, view_checkSize p n⟩
  | false =>
      obtain ⟨enough, same⟩ := of_checkSize error
      obtain ⟨rest, removed, remaining⟩ := StoredBuffer.removePrefix_of_le enough
      obtain ⟨a, ran, seen⟩ := passed p rest (same ▸ error) enough removed
      rw [seen]
      refine ⟨_, ran, ?_⟩
      rw [view, remaining]
      rfl

theorem simulates_parseInt (len : ℕ) :
    Simulates view (parseInt len) (BitVec.ofNat (8 * len) <$> NetParser.parseInt len) := by
  apply simulates_of_checkSize
  · intro p failed
    have seen : (p.view.checkSize len).hasError = true := view_checkSize p len ▸ failed
    refine ⟨0, parseInt_failed failed, ?_⟩
    rw [NetParser.map_apply, NetParser.parseInt, if_pos seen]
    rfl
  · intro p rest passed enough removed
    have seen : p.view.hasError = false := passed
    refine ⟨BitVec.ofNat _ (BigEndian.decode (p.buffer.str.take len)), ?_, ?_⟩
    · simp only [parseInt, modify_bind_run, get_bind_run, checkSize_of_le enough, passed,
        Bool.false_eq_true, if_false, foldlM_shiftIn enough, removed, ofExcept_ok_bind,
        set_bind_run, pure_run]
    · simp only [NetParser.map_apply, NetParser.parseInt, ← view_checkSize,
        checkSize_of_le enough, seen, Bool.false_eq_true, if_false]
      rfl

theorem simulates_removePrefix (n : ℕ) :
    Simulates view (removePrefix n) (NetParser.removePrefix n) := by
  apply simulates_of_checkSize
  · intro p failed
    have seen : (p.view.checkSize n).hasError = true := view_checkSize p n ▸ failed
    refine ⟨(), removePrefix_failed failed, ?_⟩
    rw [NetParser.removePrefix, if_pos seen]
  · intro p rest passed enough removed
    have seen : p.view.hasError = false := passed
    refine ⟨(), ?_, ?_⟩
    · simp only [removePrefix, modify_bind_run, get_bind_run, checkSize_of_le enough, passed,
        Bool.false_eq_true, if_false, removed, ofExcept_ok_bind]
      rfl
    · simp only [NetParser.removePrefix, ← view_checkSize, checkSize_of_le enough, seen,
        Bool.false_eq_true, if_false]

theorem simulates_u32 : Simulates view u32 NetParser.u32 :=
  (simulates_parseInt 4).map UInt32.ofBitVec

theorem simulates_u16 : Simulates view u16 NetParser.u16 :=
  (simulates_parseInt 2).map UInt16.ofBitVec

theorem simulates_u8 : Simulates view u8 NetParser.u8 :=
  (simulates_parseInt 1).map UInt8.ofBitVec

end StoredParser

namespace NetUnparser

/-- The byte that a round of the loop in `_unparse_int` pushes. -/
def theByte {w : ℕ} (len : ℕ) (val : BitVec w) (i : ℕ) : UInt8 :=
  UInt8.ofNat ((val >>> ((len - i - 1) * 8)).toNat &&& 0xff)

/-- Append a number to a string. -/
def unparseInt (len : ℕ) (s : Buffer) (val : BitVec (8 * len)) : Buffer :=
  (List.range len).foldl (fun s i => s ++ [theByte len val i]) s

theorem theByte_eq {w : ℕ} (len : ℕ) (val : BitVec w) (i : ℕ) :
    theByte len val i = UInt8.ofNat (val.toNat >>> ((len - i - 1) * 8)) := by
  apply UInt8.toNat_inj.mp
  rw [theByte, UInt8.toNat_ofNat', UInt8.toNat_ofNat', BitVec.toNat_ushiftRight,
    show (0xff : ℕ) = 2 ^ 8 - 1 from rfl, Nat.and_two_pow_sub_one_eq_mod, Nat.mod_mod]

theorem unparseInt_eq (len : ℕ) (s : Buffer) (val : BitVec (8 * len)) :
    unparseInt len s val = s ++ BigEndian.encode len val.toNat := by
  have pushed (indices : List ℕ) :
      indices.foldl (fun s i => s ++ [theByte len val i]) s =
        s ++ indices.map (theByte len val) := by
    induction indices using List.reverseRecOn with
    | nil => exact (List.append_nil s).symm
    | append_singleton before last inductionHypothesis =>
        rw [List.foldl_concat, inductionHypothesis, List.map_append, List.append_assoc]
        rfl
  rw [unparseInt, pushed, BigEndian.encode]
  exact congrArg (s ++ ·) (List.map_congr_left fun i _ => theByte_eq len val i)

end NetUnparser

end Sponge
