import Counterpart.Text.Basic
import Counterpart.Text.Quoted

/-! File contents are UTF-8. A first byte fixes how many bytes follow it and the range of the next
one; the bytes after that are continuation bytes. The first place where no character can be read is
reported with the bytes that could still have begun one. -/

namespace Counterpart

inductive DecodeFault where
  | startByte
  | continuationByte
  | endOfData
deriving DecidableEq

structure DecodeError where
  fault : DecodeFault
  /-- The offset of the first byte that cannot be read. -/
  start : Nat
  /-- How many bytes are given up, at least one. -/
  count : Nat
  first : UInt8
deriving DecidableEq

def DecodeFault.reason : DecodeFault → Text
  | .startByte => "invalid start byte"
  | .continuationByte => "invalid continuation byte"
  | .endOfData => "unexpected end of data"

def DecodeError.message (e : DecodeError) : Text :=
  (if e.count = 1 then
    "'utf-8' codec can't decode byte 0x" ++ Text.hex 2 e.first.toNat ++ " in position " ++
      Text.ofNat e.start
  else
    "'utf-8' codec can't decode bytes in position " ++ Text.ofNat e.start ++ "-" ++
      Text.ofNat (e.start + e.count - 1)) ++ ": " ++ e.fault.reason

/-- What a first byte starts: the bits it gives, the ranges of the bytes that must follow. -/
structure Lead where
  bits : Nat
  follow : List (Nat × Nat)

def continuation : Nat × Nat := (0x80, 0xBF)

def lead? (b : Nat) : Option Lead :=
  if b < 0x80 then some ⟨b, []⟩
  else if b < 0xC2 then none
  else if b < 0xE0 then some ⟨b - 0xC0, [continuation]⟩
  else if b = 0xE0 then some ⟨0, [(0xA0, 0xBF), continuation]⟩
  else if b = 0xED then some ⟨0xD, [(0x80, 0x9F), continuation]⟩
  else if b < 0xF0 then some ⟨b - 0xE0, [continuation, continuation]⟩
  else if b = 0xF0 then some ⟨0, [(0x90, 0xBF), continuation, continuation]⟩
  else if b < 0xF4 then some ⟨b - 0xF0, [continuation, continuation, continuation]⟩
  else if b = 0xF4 then some ⟨4, [(0x80, 0x8F), continuation, continuation]⟩
  else none

/-- The character being read, or nothing between characters. -/
structure Partial where
  start : Nat
  first : UInt8
  /-- Bytes read so far. -/
  count : Nat
  bits : Nat
  follow : List (Nat × Nat)

def Partial.error (p : Partial) (fault : DecodeFault) : DecodeError :=
  ⟨fault, p.start, p.count, p.first⟩

/-- Reads the bytes from `offset` on, after the open character if there is one. -/
def decodeFrom (offset : Nat) : Option Partial → List UInt8 → Except DecodeError Text
  | none, [] => .ok []
  | some p, [] => .error (p.error .endOfData)
  | none, b :: rest =>
    match lead? b.toNat with
    | none => .error ⟨.startByte, offset, 1, b⟩
    | some ⟨bits, []⟩ => (decodeFrom (offset + 1) none rest).map (Char.ofNat bits :: ·)
    | some ⟨bits, follow⟩ => decodeFrom (offset + 1) (some ⟨offset, b, 1, bits, follow⟩) rest
  | some p, b :: rest =>
    match p.follow with
    | [] => .error (p.error .continuationByte)
    | (lo, hi) :: follow =>
      if lo ≤ b.toNat ∧ b.toNat ≤ hi then
        let bits := p.bits * 64 + (b.toNat - 0x80)
        match follow with
        | [] => (decodeFrom (offset + 1) none rest).map (Char.ofNat bits :: ·)
        | follow =>
          decodeFrom (offset + 1) (some { p with count := p.count + 1, bits, follow }) rest
      else .error (p.error .continuationByte)

def decode (bytes : List UInt8) : Except DecodeError Text := decodeFrom 0 none bytes

def encode (text : Text) : List UInt8 := (String.ofList text).toUTF8.toList

/-- Bytes that a text takes when it is encoded. -/
def encodedLength (text : Text) : Nat := (String.ofList text).utf8ByteSize

end Counterpart
