import IssueTracker.Text.Digits

/-!
# UTF-8

Texts as bytes.  Decoding stops at the first sequence that encodes no character and says where it
stands and what is wrong with it.
-/

namespace IssueTracker

/-- Bytes, such as the content of a file. -/
abbrev Bytes := List UInt8

namespace Text

/-- The bytes of a character. -/
def encodeChar (c : Char) : Bytes :=
  let n := c.toNat
  if n < 0x80 then [n.toUInt8]
  else if n < 0x800 then [(0xC0 + n / 64).toUInt8, (0x80 + n % 64).toUInt8]
  else if n < 0x10000 then
    [(0xE0 + n / 4096).toUInt8, (0x80 + n / 64 % 64).toUInt8, (0x80 + n % 64).toUInt8]
  else
    [(0xF0 + n / 262144).toUInt8, (0x80 + n / 4096 % 64).toUInt8, (0x80 + n / 64 % 64).toUInt8,
      (0x80 + n % 64).toUInt8]

/-- The bytes of a text. -/
def encodeUtf8 (cs : List Char) : Bytes := cs.flatMap encodeChar

/-- What is wrong with a sequence of bytes. -/
inductive Utf8Problem
  | invalidStart
  | invalidContinuation
  | unexpectedEnd
deriving Repr, DecidableEq

/-- A sequence of bytes that encodes no character: its first byte, where it stands and how many
    bytes belong to it. -/
structure Utf8Fault where
  problem : Utf8Problem
  position : Nat
  length : Nat
  first : UInt8
deriving Repr, DecidableEq

/-- The explanation of a problem. -/
def Utf8Problem.reason : Utf8Problem → String
  | invalidStart => "invalid start byte"
  | invalidContinuation => "invalid continuation byte"
  | unexpectedEnd => "unexpected end of data"

/-- What is reported of bytes that encode no text. -/
def Utf8Fault.message (f : Utf8Fault) : String :=
  "'utf-8' codec can't decode " ++
    (if f.length = 1 then
      "byte 0x" ++ String.ofList (hexDigits 2 f.first.toNat) ++ s!" in position {f.position}"
    else s!"bytes in position {f.position}-{f.position + f.length - 1}") ++
    ": " ++ f.problem.reason

/-- A byte that goes on with a character. -/
def isContinuation (b : UInt8) : Bool := 0x80 ≤ b && b ≤ 0xBF

/-- The bytes that may follow the first byte of a character. -/
def secondRange (first : UInt8) : UInt8 × UInt8 :=
  if first = 0xE0 then (0xA0, 0xBF)
  else if first = 0xED then (0x80, 0x9F)
  else if first = 0xF0 then (0x90, 0xBF)
  else if first = 0xF4 then (0x80, 0x8F)
  else (0x80, 0xBF)

/-- Whether a byte may follow the first byte of a character. -/
def isSecond (first b : UInt8) : Bool :=
  (secondRange first).1 ≤ b && b ≤ (secondRange first).2

/-- The low six bits of a byte. -/
def lowBits (b : UInt8) : Nat := b.toNat % 64

/-- The text of bytes that begin at a position. -/
def decodeFrom (position : Nat) : Bytes → Except Utf8Fault (List Char)
  | [] => .ok []
  | b0 :: rest =>
    let fault (problem : Utf8Problem) (length : Nat) : Except Utf8Fault (List Char) :=
      .error ⟨problem, position, length, b0⟩
    if b0 < 0x80 then
      (decodeFrom (position + 1) rest).map (Char.ofNat b0.toNat :: ·)
    else if b0 < 0xC2 ∨ 0xF4 < b0 then fault .invalidStart 1
    else match rest with
      | [] => fault .unexpectedEnd 1
      | b1 :: rest =>
        if !isSecond b0 b1 then fault .invalidContinuation 1
        else if b0 < 0xE0 then
          (decodeFrom (position + 2) rest).map
            (Char.ofNat ((b0.toNat - 0xC0) * 64 + lowBits b1) :: ·)
        else match rest with
          | [] => fault .unexpectedEnd 2
          | b2 :: rest =>
            if !isContinuation b2 then fault .invalidContinuation 2
            else if b0 < 0xF0 then
              (decodeFrom (position + 3) rest).map
                (Char.ofNat (((b0.toNat - 0xE0) * 64 + lowBits b1) * 64 + lowBits b2) :: ·)
            else match rest with
              | [] => fault .unexpectedEnd 3
              | b3 :: rest =>
                if !isContinuation b3 then fault .invalidContinuation 3
                else
                  (decodeFrom (position + 4) rest).map
                    (Char.ofNat ((((b0.toNat - 0xF0) * 64 + lowBits b1) * 64 + lowBits b2) * 64 +
                      lowBits b3) :: ·)

/-- The text of a sequence of bytes. -/
def decodeUtf8 (bytes : Bytes) : Except Utf8Fault (List Char) := decodeFrom 0 bytes

/-- A text in which every line ends in a line feed: a carriage return, with or without a line feed
    after it, becomes one. -/
def unifyLineEnds : List Char → List Char
  | [] => []
  | '\r' :: '\n' :: rest => '\n' :: unifyLineEnds rest
  | c :: rest => (if c = '\r' then '\n' else c) :: unifyLineEnds rest

end Text

end IssueTracker
