import LinePipe.Text.Quoted

/-!
# UTF-8

Texts as octets and back. Decoding is strict: the shortest form only, no surrogates, nothing beyond
the last code point; the first fault is reported with its place and its kind.

## Main definitions

- `Utf8.encode`: the octets of a text
- `Utf8.decode`: the text that octets stand for, or the first fault in them
- `Utf8.Fault`: a fault, with its message
-/

namespace LinePipe

/-- Eight-bit units, the contents of files and streams. -/
abbrev Octets := List UInt8

namespace Utf8

/-- What is wrong with a sequence of octets. -/
inductive FaultKind where
  /-- No character starts with this octet. -/
  | invalidStart
  /-- An octet that should continue a character does not. -/
  | invalidContinuation
  /-- The octets end in the middle of a character. -/
  | unexpectedEnd
  deriving Repr, DecidableEq

/-- The first fault in octets that are not UTF-8: the `length` octets from position `start`, the
first of which is `lead`. -/
structure Fault where
  kind : FaultKind
  lead : UInt8
  start : Nat
  length : Nat
  deriving Repr, DecidableEq

def FaultKind.reason : FaultKind → Text
  | .invalidStart => "invalid start byte".toList
  | .invalidContinuation => "invalid continuation byte".toList
  | .unexpectedEnd => "unexpected end of data".toList

/-- What to tell about a fault: the octet if it is one, the positions if there are several. -/
def Fault.message (f : Fault) : Text :=
  (if f.length == 1 then
    "'utf-8' codec can't decode byte 0x".toList ++ Text.hexDigits 2 f.lead.toNat ++
      " in position ".toList ++ Text.ofNat f.start
  else
    "'utf-8' codec can't decode bytes in position ".toList ++ Text.ofNat f.start ++ ['-'] ++
      Text.ofNat (f.start + f.length - 1)) ++
  [':', ' '] ++ f.kind.reason

def encodeChar (c : Char) : Octets :=
  let n := c.toNat
  if n < 0x80 then [UInt8.ofNat n]
  else if n < 0x800 then [UInt8.ofNat (0xC0 + n / 0x40), UInt8.ofNat (0x80 + n % 0x40)]
  else if n < 0x10000 then
    [UInt8.ofNat (0xE0 + n / 0x1000), UInt8.ofNat (0x80 + n / 0x40 % 0x40),
      UInt8.ofNat (0x80 + n % 0x40)]
  else
    [UInt8.ofNat (0xF0 + n / 0x40000), UInt8.ofNat (0x80 + n / 0x1000 % 0x40),
      UInt8.ofNat (0x80 + n / 0x40 % 0x40), UInt8.ofNat (0x80 + n % 0x40)]

def encode (t : Text) : Octets :=
  t.flatMap encodeChar

def continues (b : UInt8) : Bool :=
  0x80 ≤ b && b < 0xC0

/-- Whether `b` may come second after the lead octet of a character of three or four octets: it
continues, and it makes the form neither too long, nor a surrogate, nor too great. -/
def mayFollow (lead b : UInt8) : Bool :=
  continues b &&
    !(lead == 0xE0 && b < 0xA0) && !(lead == 0xED && 0xA0 ≤ b) &&
    !(lead == 0xF0 && b < 0x90) && !(lead == 0xF4 && 0x90 ≤ b)

/-- The six bits that a continuing octet carries. -/
def payload (b : UInt8) : Nat :=
  b.toNat - 0x80

/-- The text that octets stand for, when they start at position `pos` of the whole. -/
def decodeFrom (pos : Nat) : Octets → Except Fault Text
  | [] => .ok []
  | a :: rest =>
    let fault (kind : FaultKind) (length : Nat) : Except Fault Text :=
      .error ⟨kind, a, pos, length⟩
    if a < 0x80 then (decodeFrom (pos + 1) rest).map (Char.ofNat a.toNat :: ·)
    else if a < 0xC2 then fault .invalidStart 1
    else if a < 0xE0 then
      match rest with
      | [] => fault .unexpectedEnd 1
      | b :: rest =>
        if !continues b then fault .invalidContinuation 1
        else
          let n := (a.toNat - 0xC0) * 0x40 + payload b
          (decodeFrom (pos + 2) rest).map (Char.ofNat n :: ·)
    else if a < 0xF0 then
      match rest with
      | [] => fault .unexpectedEnd 1
      | b :: rest =>
        if !mayFollow a b then fault .invalidContinuation 1
        else
          match rest with
          | [] => fault .unexpectedEnd 2
          | c :: rest =>
            if !continues c then fault .invalidContinuation 2
            else
              let n := ((a.toNat - 0xE0) * 0x40 + payload b) * 0x40 + payload c
              (decodeFrom (pos + 3) rest).map (Char.ofNat n :: ·)
    else if a < 0xF5 then
      match rest with
      | [] => fault .unexpectedEnd 1
      | b :: rest =>
        if !mayFollow a b then fault .invalidContinuation 1
        else
          match rest with
          | [] => fault .unexpectedEnd 2
          | c :: rest =>
            if !continues c then fault .invalidContinuation 2
            else
              match rest with
              | [] => fault .unexpectedEnd 3
              | d :: rest =>
                if !continues d then fault .invalidContinuation 3
                else
                  let n :=
                    (((a.toNat - 0xF0) * 0x40 + payload b) * 0x40 + payload c) * 0x40 + payload d
                  (decodeFrom (pos + 4) rest).map (Char.ofNat n :: ·)
    else fault .invalidStart 1

/-- The text that octets stand for, or the first fault in them. -/
def decode (octets : Octets) : Except Fault Text :=
  decodeFrom 0 octets

end Utf8

end LinePipe
