import Sponge.Lib.BigEndian
import Mathlib.Data.List.Basic

/-!
# Buffers, NetParser and NetUnparser

Packets are parsed from a buffer that shrinks from the front, and written by
appending to a string.  A parser that has run out of bytes remembers it: from
then on it returns zeros.
-/

namespace Sponge

open Lib

/-- What the functions throw, with the text of the exception. -/
inductive Exception where
  | runtimeError (what : String)
  | outOfRange (what : String)
  deriving DecidableEq, Repr

/-- A string that can discard bytes from the front. -/
abbrev Buffer := List UInt8

/-- A string in several pieces. -/
abbrev BufferList := List Buffer

namespace BufferList

/-- Only a list of at most one piece can be taken for a buffer. -/
def toBuffer : BufferList → Except Exception Buffer
  | [] => .ok []
  | [buffer] => .ok buffer
  | _ => .error (.runtimeError
      "BufferList: please use concatenate() to combine a multi-Buffer BufferList into one Buffer")

theorem toBuffer_of_length_le {buffers : BufferList} (single : buffers.length ≤ 1) :
    ∃ buffer, buffers.toBuffer = .ok buffer := by
  match buffers, single with
  | [], _ => exact ⟨[], rfl⟩
  | [buffer], _ => exact ⟨buffer, rfl⟩

def concatenate (buffers : BufferList) : Buffer := buffers.flatten

def size (buffers : BufferList) : Nat := (buffers.map List.length).sum

end BufferList

inductive ParseResult where
  | noError
  | badChecksum
  | packetTooShort
  | wrongIPVersion
  | headerTooShort
  | truncatedPacket
  | unsupported
  deriving DecidableEq, Repr

structure NetParser where
  buffer : Buffer
  /-- Result of parsing so far. -/
  error : ParseResult := .noError
  deriving DecidableEq, Repr

namespace NetParser

def hasError (p : NetParser) : Bool := p.error != .noError

/-- Check that there is sufficient data to parse the next token. -/
def checkSize (p : NetParser) (size : Nat) : NetParser :=
  if size > p.buffer.length then { p with error := .packetTooShort } else p

/-- Generic integer parsing method; the number fits in `len` bytes. -/
def parseInt (len : Nat) : StateM NetParser Nat := fun p =>
  let p := p.checkSize len
  if p.hasError then (0, p)
  else (BigEndian.decode (p.buffer.take len), { p with buffer := p.buffer.drop len })

def u32 : StateM NetParser UInt32 := UInt32.ofNat <$> parseInt 4

def u16 : StateM NetParser UInt16 := UInt16.ofNat <$> parseInt 2

def u8 : StateM NetParser UInt8 := UInt8.ofNat <$> parseInt 1

def removePrefix (n : Nat) : StateM NetParser Unit := fun p =>
  let p := p.checkSize n
  if p.hasError then ((), p) else ((), { p with buffer := p.buffer.drop n })

end NetParser

namespace NetUnparser

/-- Cut a string to `n` bytes, or fill it up with zeros. -/
def resize (n : Nat) (buffer : Buffer) : Buffer :=
  buffer.take n ++ List.replicate (n - buffer.length) 0

def u32 (value : UInt32) : Buffer := BigEndian.encode 4 value.toNat

def u16 (value : UInt16) : Buffer := BigEndian.encode 2 value.toNat

def u8 (value : UInt8) : Buffer := BigEndian.encode 1 value.toNat

@[simp]
theorem length_u32 (value : UInt32) : (u32 value).length = 4 := BigEndian.length_encode 4 _

@[simp]
theorem length_u16 (value : UInt16) : (u16 value).length = 2 := BigEndian.length_encode 2 _

@[simp]
theorem length_u8 (value : UInt8) : (u8 value).length = 1 := BigEndian.length_encode 1 _

/-- Making a string longer. -/
theorem resize_of_le {n : ℕ} {buffer : Buffer} (short : buffer.length ≤ n) :
    resize n buffer = buffer ++ List.replicate (n - buffer.length) 0 := by
  rw [resize, List.take_of_length_le short]

end NetUnparser

namespace NetParser

section Running

variable {α β : Type} (x : StateM NetParser α) (p : NetParser)

-- Not by definition: the kernel would have to run a parser as a whole, and the
-- conditions of a parser would not be rewritten.
@[simp]
theorem bind_apply (f : α → StateM NetParser β) : (x >>= f) p = f (x p).1 (x p).2 := (rfl)

@[simp]
theorem map_apply (f : α → β) : (f <$> x) p = (f (x p).1, (x p).2) := rfl

@[simp]
theorem pure_apply (a : α) : (pure a : StateM NetParser α) p = (a, p) := rfl

@[simp]
theorem get_apply : (get : StateM NetParser NetParser) p = (p, p) := (rfl)

theorem branch_apply (c : Prop) [Decidable c] (y : StateM NetParser α) :
    (if c then x else y) p = if c then x p else y p := by
  split_ifs <;> rfl

end Running

theorem parseInt_of_le {len : ℕ} {buffer : Buffer} (enough : len ≤ buffer.length) :
    parseInt len { buffer } =
      (BigEndian.decode (buffer.take len), { buffer := buffer.drop len }) := by
  have sized : checkSize { buffer } len = { buffer } := if_neg (Nat.not_lt.mpr enough)
  simp only [parseInt, sized, hasError, bne_self_eq_false, Bool.false_eq_true, if_false]

theorem removePrefix_of_le {n : ℕ} {buffer : Buffer} (enough : n ≤ buffer.length) :
    removePrefix n { buffer } = ((), { buffer := buffer.drop n }) := by
  have sized : checkSize { buffer } n = { buffer } := if_neg (Nat.not_lt.mpr enough)
  simp only [removePrefix, sized, hasError, bne_self_eq_false, Bool.false_eq_true, if_false]

section Taking

variable {α β : Type} {m n : ℕ}

/-- A parser that takes exactly `n` bytes off the buffer, says so when there are
fewer, and does nothing about an earlier lack of bytes. -/
structure Takes (n : ℕ) (x : StateM NetParser α) : Prop where
  rest : ∀ buffer : Buffer, n ≤ buffer.length → (x { buffer }).2 = { buffer := buffer.drop n }
  short : ∀ buffer : Buffer, buffer.length < n → (x { buffer }).2.error = .packetTooShort
  failed : ∀ p : NetParser, p.error = .packetTooShort → (x p).2.error = .packetTooShort

theorem takes_pure (a : α) : Takes 0 (pure a : StateM NetParser α) :=
  ⟨fun _ _ => rfl, fun _ short => absurd short (Nat.not_lt_zero _), fun _ => id⟩

theorem Takes.map {x : StateM NetParser α} (takes : Takes n x) (f : α → β) : Takes n (f <$> x) :=
  ⟨takes.rest, takes.short, takes.failed⟩

theorem Takes.bind {x : StateM NetParser α} {f : α → StateM NetParser β} (first : Takes m x)
    (second : ∀ a, Takes n (f a)) : Takes (m + n) (x >>= f) := by
  refine ⟨?_, ?_, ?_⟩
  · intro buffer enough
    rw [bind_apply, first.rest buffer (by omega), (second _).rest _ (by simp; omega),
      List.drop_drop]
  · intro buffer short
    rw [bind_apply]
    by_cases enough : m ≤ buffer.length
    · rw [first.rest buffer enough]
      exact (second _).short _ (by simp; omega)
    · exact (second _).failed _ (first.short buffer (Nat.lt_of_not_le enough))
  · intro p error
    rw [bind_apply]
    exact (second _).failed _ (first.failed p error)

theorem checkSize_failed {p : NetParser} (error : p.error = .packetTooShort) (size : ℕ) :
    (p.checkSize size).error = .packetTooShort := by
  rw [checkSize]
  split_ifs
  · rfl
  · exact error

theorem parseInt_failed {p : NetParser} {len : ℕ}
    (error : (p.checkSize len).error = .packetTooShort) : parseInt len p = (0, p.checkSize len) := by
  rw [parseInt, if_pos]
  rw [hasError, error]
  rfl

theorem removePrefix_failed {p : NetParser} {n : ℕ}
    (error : (p.checkSize n).error = .packetTooShort) : removePrefix n p = ((), p.checkSize n) := by
  rw [removePrefix, if_pos]
  rw [hasError, error]
  rfl

theorem checkSize_short {buffer : Buffer} {size : ℕ} (short : buffer.length < size) :
    (checkSize { buffer } size).error = .packetTooShort := by
  rw [checkSize, if_pos short]

/-- A parser that checks the size first and then takes as much. -/
theorem takes_of_checkSize {x : StateM NetParser α}
    (rest : ∀ buffer : Buffer, n ≤ buffer.length → (x { buffer }).2 = { buffer := buffer.drop n })
    (failed : ∀ p : NetParser, (p.checkSize n).error = .packetTooShort →
      (x p).2 = p.checkSize n) : Takes n x where
  rest := rest
  short buffer short := by
    rw [failed _ (checkSize_short short)]
    exact checkSize_short short
  failed p error := by
    rw [failed p (checkSize_failed error n)]
    exact checkSize_failed error n

theorem takes_parseInt (len : ℕ) : Takes len (parseInt len) :=
  takes_of_checkSize (fun _ enough => congrArg Prod.snd (parseInt_of_le enough))
    fun _ error => congrArg Prod.snd (parseInt_failed error)

theorem takes_removePrefix (n : ℕ) : Takes n (removePrefix n) :=
  takes_of_checkSize (fun _ enough => congrArg Prod.snd (removePrefix_of_le enough))
    fun _ error => congrArg Prod.snd (removePrefix_failed error)

theorem takes_u32 : Takes 4 u32 := (takes_parseInt 4).map UInt32.ofNat

theorem takes_u16 : Takes 2 u16 := (takes_parseInt 2).map UInt16.ofNat

theorem takes_u8 : Takes 1 u8 := (takes_parseInt 1).map UInt8.ofNat

end Taking

/-- The number in a position of a buffer. -/
def octet (buffer : Buffer) (i : ℕ) : ℕ := (buffer.getD i 0).toNat

theorem octet_drop (buffer : Buffer) (n i : ℕ) : octet (buffer.drop n) i = octet buffer (n + i) := by
  simp [octet]

theorem octet_append (before rest : Buffer) (i : ℕ) :
    octet (before ++ rest) (before.length + i) = octet rest i := by
  rw [← octet_drop, List.drop_left]

theorem u8_toNat {buffer : Buffer} (enough : 1 ≤ buffer.length) :
    (u8 { buffer }).1.toNat = octet buffer 0 := by
  match buffer, enough with
  | byte :: rest, enough =>
      rw [u8, map_apply, parseInt_of_le enough]
      simp [BigEndian.decode, octet]

theorem u16_toNat {buffer : Buffer} (enough : 2 ≤ buffer.length) :
    (u16 { buffer }).1.toNat = octet buffer 0 * 256 + octet buffer 1 := by
  match buffer, enough with
  | high :: low :: rest, enough =>
      have bound := high.toNat_lt
      have bound' := low.toNat_lt
      rw [u16, map_apply, parseInt_of_le enough]
      simp [BigEndian.decode, octet, Nat.shiftLeft_eq]
      omega

/-- Reading back a number that was written in front of `rest`. -/
theorem parseInt_encode {len value : ℕ} (fits : value < 256 ^ len) (rest : Buffer) :
    parseInt len { buffer := BigEndian.encode len value ++ rest } =
      (value, { buffer := rest }) := by
  have length := BigEndian.length_encode len value
  rw [parseInt_of_le (by rw [List.length_append, length]; omega), List.take_left' length,
    List.drop_left' length, BigEndian.decode_encode, Nat.mod_eq_of_lt fits]

/-- Skipping bytes in front of `rest`. -/
theorem removePrefix_append {n : ℕ} {skipped : Buffer} (length : skipped.length = n)
    (rest : Buffer) : removePrefix n { buffer := skipped ++ rest } = ((), { buffer := rest }) := by
  rw [removePrefix_of_le (by rw [List.length_append]; omega), List.drop_left' length]

@[simp]
theorem u32_written (value : UInt32) (rest : Buffer) :
    u32 { buffer := NetUnparser.u32 value ++ rest } = (value, { buffer := rest }) := by
  rw [u32, map_apply, NetUnparser.u32, parseInt_encode value.toNat_lt, UInt32.ofNat_toNat]

@[simp]
theorem u16_written (value : UInt16) (rest : Buffer) :
    u16 { buffer := NetUnparser.u16 value ++ rest } = (value, { buffer := rest }) := by
  rw [u16, map_apply, NetUnparser.u16, parseInt_encode value.toNat_lt, UInt16.ofNat_toNat]

@[simp]
theorem u8_written (value : UInt8) (rest : Buffer) :
    u8 { buffer := NetUnparser.u8 value ++ rest } = (value, { buffer := rest }) := by
  rw [u8, map_apply, NetUnparser.u8, parseInt_encode value.toNat_lt, UInt8.ofNat_toNat]

/-- A reader and a writer of values of `n` bytes that undo each other. -/
structure Codec {α : Type} (n : ℕ) (reader : StateM NetParser α) (writer : α → Buffer) : Prop where
  length : ∀ a, (writer a).length = n
  read : ∀ a rest, reader { buffer := writer a ++ rest } = (a, { buffer := rest })
  onto : ∀ bytes : Buffer, bytes.length = n → ∃ a, writer a = bytes

/-- If there are enough bytes, they start with a value, and enough are left for
what comes behind it. -/
theorem Codec.exists_written {α : Type} {m n : ℕ} {reader : StateM NetParser α}
    {writer : α → Buffer} (codec : Codec n reader writer) {buffer : Buffer}
    (enough : n + m ≤ buffer.length) :
    ∃ a rest, writer a ++ rest = buffer ∧ m ≤ rest.length := by
  have first : (buffer.take n).length = n :=
    List.length_take_of_le ((Nat.le_add_right n m).trans enough)
  obtain ⟨a, written⟩ := codec.onto (buffer.take n) first
  refine ⟨a, buffer.drop n, ?_, ?_⟩
  · rw [written, List.take_append_drop]
  · rw [List.length_drop]
    exact Nat.le_sub_of_add_le' enough

theorem codec_u32 : Codec 4 u32 NetUnparser.u32 where
  length := NetUnparser.length_u32
  read := u32_written
  onto bytes length := ⟨UInt32.ofNat (BigEndian.decode bytes), BigEndian.encode_decode_mod length⟩

theorem codec_u16 : Codec 2 u16 NetUnparser.u16 where
  length := NetUnparser.length_u16
  read := u16_written
  onto bytes length := ⟨UInt16.ofNat (BigEndian.decode bytes), BigEndian.encode_decode_mod length⟩

theorem codec_u8 : Codec 1 u8 NetUnparser.u8 where
  length := NetUnparser.length_u8
  read := u8_written
  onto bytes length := ⟨UInt8.ofNat (BigEndian.decode bytes), BigEndian.encode_decode_mod length⟩

end NetParser

end Sponge
