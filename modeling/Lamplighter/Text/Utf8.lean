/-
Lamplighter.Text.Utf8 — text from bytes.

* `Undecodable` — the first bytes that are no UTF-8, and why.
* `decode` — the characters of a sequence of bytes. The first byte of a character tells how many follow
  and what the second may be, so that neither surrogates nor overlong forms are accepted.
* `joinLines` — each kind of line break becomes a line feed.
-/

namespace Lamplighter

namespace Text

/-- Why bytes are no UTF-8. -/
inductive ByteFault where
  | badStart
  | badContinuation
  | unexpectedEnd
  deriving DecidableEq, Repr

/-- The text of a byte fault. -/
def ByteFault.message : ByteFault → String
  | badStart => "invalid start byte"
  | badContinuation => "invalid continuation byte"
  | unexpectedEnd => "unexpected end of data"

/-- The first bytes that are no UTF-8: `count` of them from `start`, of which `byte` is the first. -/
structure Undecodable where
  fault : ByteFault
  start : Nat
  count : Nat
  byte : Nat
  deriving DecidableEq, Repr

/-- A byte as two digits in base 16. -/
def hexByte (n : Nat) : String :=
  String.ofList [Nat.digitChar (n / 16 % 16), Nat.digitChar (n % 16)]

/-- The text of undecodable bytes. -/
def Undecodable.message (u : Undecodable) : String :=
  if u.count = 1 then
    s!"'utf-8' codec can't decode byte 0x{hexByte u.byte} in position {u.start}: {u.fault.message}"
  else
    s!"'utf-8' codec can't decode bytes in position {u.start}-{u.start + u.count - 1}: " ++
      u.fault.message

/-- A byte that continues a character. -/
def isTail (b : Nat) : Bool := 0x80 ≤ b && b < 0xC0

/-- Whether `b` may be the second byte of a character that starts with `first`. -/
def isSecond (first b : Nat) : Bool :=
  isTail b &&
    (if first = 0xE0 then 0xA0 ≤ b
    else if first = 0xED then b < 0xA0
    else if first = 0xF0 then 0x90 ≤ b
    else if first = 0xF4 then b < 0x90
    else true)

/-- The bytes that follow the first byte of a character, and the part of its code in the first byte. -/
def lead? (first : Nat) : Option (Nat × Nat) :=
  if first < 0x80 then some (0, first)
  else if first < 0xC2 then none
  else if first < 0xE0 then some (1, first % 32)
  else if first < 0xF0 then some (2, first % 16)
  else if first < 0xF5 then some (3, first % 8)
  else none

/-- The code of a character and the bytes after it, once `got` bytes of it are read and `need` are
missing. -/
def readTails (first start got : Nat) (code : Nat) :
    Nat → List Nat → Except Undecodable (Nat × List Nat)
  | 0, rest => .ok (code, rest)
  | _ + 1, [] => .error ⟨.unexpectedEnd, start, got, first⟩
  | need + 1, b :: rest =>
    if (if got = 1 then isSecond first b else isTail b) then
      readTails first start (got + 1) (code * 64 + b % 64) need rest
    else .error ⟨.badContinuation, start, got, first⟩

/-- The characters of bytes, of which the first is at `start`. Each character takes one byte at
least, so that `fuel` has to be no less than the number of bytes. -/
def decodeFrom (start : Nat) : (fuel : Nat) → List Nat → Except Undecodable (List Char)
  | _, [] => .ok []
  | 0, _ => .ok []
  | fuel + 1, first :: rest =>
    match lead? first with
    | none => .error ⟨.badStart, start, 1, first⟩
    | some (need, code) =>
      match readTails first start 1 code need rest with
      | .error u => .error u
      | .ok (code, rest) =>
        (decodeFrom (start + need + 1) fuel rest).map (Char.ofNat code :: ·)

/-- The characters of bytes. -/
def decode (bytes : List Nat) : Except Undecodable (List Char) :=
  decodeFrom 0 bytes.length bytes

/-- A text in which every line break is a line feed: a carriage return counts as one, and so does a
carriage return with the line feed after it. -/
def joinLines : List Char → List Char
  | [] => []
  | '\r' :: '\n' :: rest => '\n' :: joinLines rest
  | '\r' :: rest => '\n' :: joinLines rest
  | c :: rest => c :: joinLines rest

end Text

end Lamplighter
