import TestImpact.Text.Printable

/-
  Texts as bytes.

  `decodeStep` reads one character from a list of bytes. Only the shortest form
  of a character counts, and neither surrogates nor code points above 10FFFF
  have one. Where there is no character, the fault names what is wrong and how
  many bytes belong to it: the longest front part of a character that stands
  there, or one byte.

  `decode` stops at the first fault; `decodeDropping` leaves the faulty bytes
  out and goes on. Bytes are handled as numbers inside.
-/

namespace TestImpact.Text

/-- What is wrong with bytes that hold no character. -/
inductive ByteFault where
  | invalidStart
  | invalidContinuation
  | unexpectedEnd
  deriving DecidableEq, Repr

/-- The first fault of a list of bytes: its place, its length, its first byte. -/
structure DecodeError where
  fault : ByteFault
  position : Nat
  length : Nat
  byte : Nat
  deriving DecidableEq, Repr

def DecodeError.message (e : DecodeError) : String :=
  let reason := match e.fault with
    | .invalidStart => "invalid start byte"
    | .invalidContinuation => "invalid continuation byte"
    | .unexpectedEnd => "unexpected end of data"
  let place :=
    if e.length = 1 then
      "byte 0x" ++ String.ofList (hexDigits 2 e.byte) ++ s!" in position {e.position}"
    else s!"bytes in position {e.position}-{e.position + e.length - 1}"
  s!"'utf-8' codec can't decode {place}: {reason}"

/-- How a character of more than one byte goes on: the bounds of its second byte, the number
of bytes after that, and the bits that the first byte gives. -/
structure Lead where
  low : Nat
  high : Nat
  more : Nat
  bits : Nat

/-- What a first byte above ASCII announces. -/
def Lead.of? (b : Nat) : Option Lead :=
  if b < 0xc2 then none
  else if b < 0xe0 then some ⟨0x80, 0xbf, 0, b - 0xc0⟩
  else if b = 0xe0 then some ⟨0xa0, 0xbf, 1, 0⟩
  else if b = 0xed then some ⟨0x80, 0x9f, 1, 13⟩
  else if b < 0xf0 then some ⟨0x80, 0xbf, 1, b - 0xe0⟩
  else if b = 0xf0 then some ⟨0x90, 0xbf, 2, 0⟩
  else if b < 0xf4 then some ⟨0x80, 0xbf, 2, b - 0xf0⟩
  else if b = 0xf4 then some ⟨0x80, 0x8f, 2, 4⟩
  else none

/-- Reads the bytes after the first: the next one within bounds, then `more` others. `count`
is the number of bytes read so far. -/
def decodeRest (low high : Nat) (count bits : Nat) :
    (more : Nat) → List Nat → Except (ByteFault × Nat) Nat
  | _, [] => .error (.unexpectedEnd, count)
  | more, b :: rest =>
    if b < low || high < b then .error (.invalidContinuation, count)
    else match more with
      | 0 => .ok (64 * bits + (b - 0x80))
      | k + 1 => decodeRest 0x80 0xbf (count + 1) (64 * bits + (b - 0x80)) k rest

/-- The character that bytes begin with, and how many of them it takes after the first. -/
def decodeStep (b : Nat) (rest : List Nat) : Except (ByteFault × Nat) (Char × Nat) :=
  if b < 0x80 then .ok (Char.ofNat b, 0)
  else match Lead.of? b with
    | none => .error (.invalidStart, 1)
    | some lead =>
      (decodeRest lead.low lead.high 1 lead.bits lead.more rest).map fun n =>
        (Char.ofNat n, lead.more + 1)

/-- The characters of a list of bytes, up to the first fault; `position` is that of the first. -/
def decodeFrom (position : Nat) (bytes : List Nat) : Except DecodeError (List Char) :=
  match bytes with
  | [] => .ok []
  | b :: rest =>
    match decodeStep b rest with
    | .error (fault, n) => .error ⟨fault, position, n, b⟩
    | .ok (c, n) => (decodeFrom (position + 1 + n) (rest.drop n)).map (c :: ·)
  termination_by bytes.length

/-- The characters of a list of bytes, faulty bytes left out. -/
def decodeLossy (bytes : List Nat) : List Char :=
  match bytes with
  | [] => []
  | b :: rest =>
    match decodeStep b rest with
    | .error (_, n) => decodeLossy (rest.drop (n - 1))
    | .ok (c, n) => c :: decodeLossy (rest.drop n)
  termination_by bytes.length

def decode (bytes : List UInt8) : Except DecodeError (List Char) :=
  decodeFrom 0 (bytes.map (·.toNat))

/-- The characters of bytes, faulty ones left out. -/
def decodeDropping (bytes : List UInt8) : List Char := decodeLossy (bytes.map (·.toNat))

def encode (s : String) : List UInt8 := s.toUTF8.toList

end TestImpact.Text
