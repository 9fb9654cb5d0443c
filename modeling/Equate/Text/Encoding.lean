import Equate.Text.Basic

/-!
# Texts as bytes

Files and streams hold bytes. A text becomes its UTF-8 form. Bytes become a text in two
ways: strictly, where one byte that fits nowhere refuses the whole, or leniently, where
each longest run of bytes that starts a character without completing it, and each byte
that starts none, stands for one replacement character.
-/
namespace Equate

abbrev Bytes := List UInt8

namespace Text

/-- The UTF-8 form. -/
def toBytes (t : Text) : Bytes := (String.ofList t).toUTF8.data.toList

/-- The text of which the bytes are the UTF-8 form, if there is one. -/
def ofBytes? (bytes : Bytes) : Option Text :=
  (ByteArray.mk bytes.toArray).utf8Decode?.map Array.toList

/-- What is written can be read back. -/
theorem ofBytes?_toBytes (t : Text) : ofBytes? (toBytes t) = some t := by
  have h : ByteArray.mk (toBytes t).toArray = t.utf8Encode := by
    simp only [toBytes, Array.toArray_toList, String.toUTF8_eq_toByteArray, String.toByteArray_ofList]
  rw [ofBytes?, h, List.utf8Decode?_utf8Encode, Option.map_some]

/-- A character that has begun: how many bytes are still to come, the range of the next
one, and the bits that the bytes so far have given. -/
structure Pending where
  missing : Nat
  low : UInt8
  high : UInt8
  bits : Nat

/-- What a first byte begins; `none` for a byte that no longer character starts with. -/
def begin? (b : UInt8) : Option Pending :=
  if 0xC2 ≤ b && b ≤ 0xDF then some ⟨1, 0x80, 0xBF, b.toNat - 0xC0⟩
  else if 0xE0 ≤ b && b ≤ 0xEF then
    some ⟨2, if b == 0xE0 then 0xA0 else 0x80, if b == 0xED then 0x9F else 0xBF, b.toNat - 0xE0⟩
  else if 0xF0 ≤ b && b ≤ 0xF4 then
    some ⟨3, if b == 0xF0 then 0x90 else 0x80, if b == 0xF4 then 0x8F else 0xBF, b.toNat - 0xF0⟩
  else none

/-- The character that stands for bytes without a meaning. -/
def replacement : Char := '\uFFFD'

/-- A byte at the start of a character: what is complete, and what has begun. -/
def first (b : UInt8) : Text × Option Pending :=
  if b < 0x80 then ([Char.ofNat b.toNat], none)
  else
    match begin? b with
    | some p => ([], some p)
    | none => ([replacement], none)

/-- The same for a byte behind what has begun. -/
def next (p : Pending) (b : UInt8) : Text × Option Pending :=
  if p.low ≤ b && b ≤ p.high then
    let bits := p.bits * 64 + (b.toNat - 0x80)
    if p.missing ≤ 1 then ([Char.ofNat bits], none)
    else ([], some ⟨p.missing - 1, 0x80, 0xBF, bits⟩)
  else
    let (done, begun) := first b
    (replacement :: done, begun)

/-- The lenient reading, with what has begun in front of the bytes. -/
def lenient : Option Pending → Bytes → Text
  | none, [] => []
  | some _, [] => [replacement]
  | pending, b :: rest =>
    let (done, begun) := match pending with
      | none => first b
      | some p => next p b
    done ++ lenient begun rest

/-- The text of any bytes. -/
def ofBytes (bytes : Bytes) : Text := lenient none bytes

end Text
end Equate
