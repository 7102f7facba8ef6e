import Datalink.Text.Encoding

/-!
# Bytes of texts

A code point has one to four bytes: a first byte that says how many tail bytes follow,
and the tail bytes with six bits each.  The second byte of some code points has a
narrower range than other tail bytes, so that every code point has one form only and
surrogates have none.

Input: bytes that may be no text.  `pieces` cuts them into code points and stray bytes,
where a start of a code point that is not carried on is one piece.  `ofBytes` lets the
surrogates from U+DC80 to U+DCFF stand for stray bytes, and `toBytes` takes them back.
-/

namespace Datalink

/-- The surrogate that stands for a byte that is no text. -/
def CodePoint.ofStrayByte (b : UInt8) : CodePoint := .ofCode (0xDC00 + b.toNat)

/-- The byte that a surrogate stands for, if it stands for one. -/
def CodePoint.strayByte? (c : CodePoint) : Option UInt8 :=
  if 0xDC80 ≤ c.code ∧ c.code < 0xDD00 then some (UInt8.ofNat (c.code - 0xDC00)) else none

namespace Utf8

/-- A tail byte with the lowest six bits of a number. -/
def tailByte (n : Nat) : UInt8 := UInt8.ofNat (0x80 + n % 64)

/-- The bytes of the code point of a number. -/
def ofCode (n : Nat) : List UInt8 :=
  if n < 0x80 then [UInt8.ofNat n]
  else if n < 0x800 then [UInt8.ofNat (0xC0 + n / 64), tailByte n]
  else if n < 0x10000 then
    [UInt8.ofNat (0xE0 + n / 4096), tailByte (n / 64), tailByte n]
  else
    [UInt8.ofNat (0xF0 + n / 262144), tailByte (n / 4096), tailByte (n / 64), tailByte n]

/-- What a first byte promises: its own bits, the number of tail bytes, and the range of
the first tail byte. -/
structure Lead where
  bits : Nat
  tails : Nat
  low : UInt8
  high : UInt8

/-- What a byte promises as the first byte of a code point. -/
def lead? (b : UInt8) : Option Lead :=
  if b < 0x80 then some ⟨b.toNat, 0, 0x80, 0xBF⟩
  else if b < 0xC2 then none
  else if b < 0xE0 then some ⟨b.toNat - 0xC0, 1, 0x80, 0xBF⟩
  else if b < 0xF0 then
    some ⟨b.toNat - 0xE0, 2, if b = 0xE0 then 0xA0 else 0x80, if b = 0xED then 0x9F else 0xBF⟩
  else if b < 0xF5 then
    some ⟨b.toNat - 0xF0, 3, if b = 0xF0 then 0x90 else 0x80, if b = 0xF4 then 0x8F else 0xBF⟩
  else none

/-- The tail bytes at the start of a run, at most as many as promised; the first one has
a range of its own. -/
def takeTails : Nat → UInt8 → UInt8 → List UInt8 → List UInt8
  | 0, _, _, _ => []
  | _, _, _, [] => []
  | count + 1, low, high, b :: rest =>
      if low ≤ b ∧ b ≤ high then b :: takeTails count 0x80 0xBF rest else []

/-- A piece of a run of bytes. -/
inductive Piece where
  | point (c : CodePoint)
  /-- Bytes that start a code point but are not carried on, or that start none. -/
  | stray (data : List UInt8)
deriving Inhabited

/-- The piece that starts with a byte. -/
def piece (b : UInt8) (rest : List UInt8) : Piece × List UInt8 :=
  match lead? b with
  | none => (.stray [b], rest)
  | some lead =>
      let tails := takeTails lead.tails lead.low lead.high rest
      let found : Piece :=
        if tails.length = lead.tails then
          .point (.ofCode (tails.foldl (fun n t => 64 * n + (t.toNat - 0x80)) lead.bits))
        else
          .stray (b :: tails)
      (found, rest.drop tails.length)

theorem length_piece_le
    (b : UInt8) (rest : List UInt8) :
    (piece b rest).2.length ≤ rest.length := by
  unfold piece
  split <;> simp

/-- A run of bytes in pieces. -/
def pieces : List UInt8 → List Piece
  | [] => []
  | b :: rest => (piece b rest).1 :: pieces (piece b rest).2
termination_by data => data.length
decreasing_by
  have := length_piece_le b rest
  simp
  omega

end Utf8

namespace Text

/-- The bytes of a text, where stray bytes are taken back. -/
def toBytes (t : Text) : List UInt8 :=
  t.flatMap fun c =>
    match c.strayByte? with
    | some b => [b]
    | none => Utf8.ofCode c.code

/-- The text of bytes, with surrogates for stray bytes. -/
def ofBytes (data : List UInt8) : Text :=
  (Utf8.pieces data).flatMap fun
    | .point c => [c]
    | .stray data => data.map CodePoint.ofStrayByte

/-- The text of bytes, if they are a text. -/
def decode? (data : List UInt8) : Option Text :=
  (Utf8.pieces data).mapM fun
    | .point c => some c
    | .stray _ => none

end Text
end Datalink
