/-!
# Reading UTF-8

Bytes that ought to be UTF-8 are read leniently: every maximal piece that cannot start or continue
a character becomes one replacement character. Read strictly, such bytes have no text.

## Main definitions

* `scalar`: the character at the head of bytes, or the length of the piece to replace
* `lenient`: bytes as text, with replacements
* `strict?`: bytes as text, if they are UTF-8 throughout
-/

namespace SourceGuard.Text.Utf8

/-- What stands at the head of bytes. -/
inductive Piece where
  /-- A character, and the bytes it takes. -/
  | char (c : Char) (length : Nat)
  /-- Bytes that are no character. -/
  | broken (length : Nat)
deriving DecidableEq, Repr

/-- Whether a byte continues a character. -/
def isTail (b : UInt8) : Bool := 0x80 ≤ b && b ≤ 0xBF

/-- The bits that a continuation byte adds to a code point. -/
def push (n : Nat) (b : UInt8) : Nat := n * 64 + (b.toNat - 0x80)

/-- A two-byte character. -/
def two (a : UInt8) : List UInt8 → Piece
  | b :: _ => if isTail b then .char (Char.ofNat (push (a.toNat - 0xC0) b)) 2 else .broken 1
  | [] => .broken 1

/-- A three-byte character; the second byte is bounded so that the shortest form is used and no
surrogate is spelled. -/
def three (a : UInt8) : List UInt8 → Piece
  | b :: rest =>
    let low : UInt8 := if a = 0xE0 then 0xA0 else 0x80
    let high : UInt8 := if a = 0xED then 0x9F else 0xBF
    if low ≤ b && b ≤ high then
      match rest with
      | c :: _ => if isTail c then .char (Char.ofNat (push (push (a.toNat - 0xE0) b) c)) 3 else .broken 2
      | [] => .broken 2
    else .broken 1
  | [] => .broken 1

/-- A four-byte character; the second byte is bounded so that the shortest form is used and the
code point exists. -/
def four (a : UInt8) : List UInt8 → Piece
  | b :: rest =>
    let low : UInt8 := if a = 0xF0 then 0x90 else 0x80
    let high : UInt8 := if a = 0xF4 then 0x8F else 0xBF
    if low ≤ b && b ≤ high then
      match rest with
      | c :: rest =>
        if isTail c then
          match rest with
          | d :: _ =>
            if isTail d then .char (Char.ofNat (push (push (push (a.toNat - 0xF0) b) c) d)) 4
            else .broken 3
          | [] => .broken 3
        else .broken 2
      | [] => .broken 2
    else .broken 1
  | [] => .broken 1

/-- What stands at the head of bytes that start with `a`. -/
def scalar (a : UInt8) (rest : List UInt8) : Piece :=
  if a < 0x80 then .char (Char.ofNat a.toNat) 1
  else if a < 0xC2 then .broken 1
  else if a < 0xE0 then two a rest
  else if a < 0xF0 then three a rest
  else if a < 0xF5 then four a rest
  else .broken 1

/-- The pieces of bytes; `skip` bytes at the head belong to a piece already taken. -/
def pieces : (skip : Nat) → List UInt8 → List Piece
  | _, [] => []
  | skip + 1, _ :: rest => pieces skip rest
  | 0, a :: rest =>
    match scalar a rest with
    | .char c length => .char c length :: pieces (length - 1) rest
    | .broken length => .broken length :: pieces (length - 1) rest

/-- The character that stands for a piece. -/
def Piece.shown : Piece → Char
  | .char c _ => c
  | .broken _ => '\uFFFD'

/-- The character of a piece that is one. -/
def Piece.char? : Piece → Option Char
  | .char c _ => some c
  | .broken _ => none

/-- Bytes as text, each maximal broken piece as one replacement character. -/
def lenient (bytes : List UInt8) : String := String.ofList ((pieces 0 bytes).map Piece.shown)

/-- Bytes as text, if every piece is a character. -/
def strict? (bytes : List UInt8) : Option String :=
  ((pieces 0 bytes).mapM Piece.char?).map String.ofList

end SourceGuard.Text.Utf8
