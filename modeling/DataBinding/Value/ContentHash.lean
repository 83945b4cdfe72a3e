import DataBinding.Text.Utf8
import DataBinding.Json.Text

namespace DataBinding

/-!
# Content hashes

A value is identified by a hash of 64 bits over the bytes of its JSON text.  The
bytes are folded into two lanes by products of 128 bits, sixteen bytes at a
time, and the last sixteen bytes are always folded in at the end.
-/

namespace ContentHash

/-- The two halves of a product of 128 bits, combined by exclusive or. -/
def mix
    (left right : UInt64) : UInt64 :=
  let product := left.toNat * right.toNat
  UInt64.ofNat product ^^^ UInt64.ofNat (product / Nat.pow 2 64)

/-- Bytes as a word, the least significant byte first. -/
def word : List UInt8 → UInt64
  | [] => 0
  | byte :: rest => byte.toUInt64 ||| (word rest <<< 8)

/-- The starting values of the two lanes. -/
def firstSeed : UInt64 :=
  0x243f6a8885a308d3

def secondSeed : UInt64 :=
  0x13198a2e03707344

/-- The word that sets the second half of each block of sixteen bytes apart. -/
def blockSeed : UInt64 :=
  0xa4093822299f31d0

/-- The word by which the state of the hash is multiplied. -/
def multiplier : UInt64 :=
  0xf1357aea2e62a9c5

/-- Folds all the blocks of sixteen bytes that have a byte after them into the
two lanes. -/
def foldBlocks
    (first second : UInt64)
    (bytes : List UInt8) : UInt64 × UInt64 :=
  if _long : 16 < bytes.length then
    let folded :=
      mix (first ^^^ word (bytes.take 8)) (blockSeed ^^^ word ((bytes.drop 8).take 8))
    foldBlocks second folded (bytes.drop 16)
  else
    (first, second)
  termination_by bytes.length
  decreasing_by
    simp only [List.length_drop]
    omega

/-- The lanes after all bytes. -/
def lanes (bytes : List UInt8) : UInt64 × UInt64 :=
  let length := bytes.length
  let last (count : Nat) := bytes.drop (length - count)
  if 16 < length then
    let (first, second) := foldBlocks firstSeed secondSeed bytes
    (first ^^^ word ((last 16).take 8), second ^^^ word (last 8))
  else if 8 ≤ length then
    (firstSeed ^^^ word (bytes.take 8), secondSeed ^^^ word (last 8))
  else if 4 ≤ length then
    (firstSeed ^^^ word (bytes.take 4), secondSeed ^^^ word (last 4))
  else
    match bytes with
    | [] => (firstSeed, secondSeed)
    | head :: _ =>
        let middle := (bytes.drop (length / 2)).take 1
        (firstSeed ^^^ head.toUInt64, secondSeed ^^^ word (middle ++ last 1))

/-- A word with its bits moved towards the most significant end, those that
leave coming in at the other. -/
def rotateLeft
    (value : UInt64)
    (count : UInt64) : UInt64 :=
  (value <<< count) ||| (value >>> (64 - count))

/-- The hash of bytes. -/
def ofBytes (bytes : List UInt8) : UInt64 :=
  let (first, second) := lanes bytes
  let folded := mix first second ^^^ UInt64.ofNat bytes.length
  rotateLeft (folded * multiplier) 26

/-- A word as sixteen digits. -/
def hexText (value : UInt64) : String :=
  let digits := Nat.toDigits 16 value.toNat
  String.ofList (List.replicate (16 - digits.length) '0' ++ digits)

end ContentHash

/-- The hash of the JSON text of a value. -/
def Value.contentHash (value : Value) : String :=
  ContentHash.hexText (ContentHash.ofBytes (Text.utf8 value.json.toList))

end DataBinding
