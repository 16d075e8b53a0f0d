import TreeOutline.Text.Utf8

namespace TreeOutline

/-!
# Bytes as characters

Where text and arbitrary bytes meet, each byte is written as the character with its number, so that
both are texts.

* `octets` — the bytes of a text in this writing; `octetBytes` — the bytes that are written so.
-/

/-- Bytes, each written as the character with its number. -/
def octetsOfBytes (bytes : Bytes) : List Char := bytes.map fun b => Char.ofNat b.toNat

/-- The bytes of a text, each written as a character. -/
def octets (text : String) : List Char := octetsOfBytes (encodeText text)

/-- The bytes that characters stand for. -/
def octetBytes (chars : List Char) : Bytes := chars.map fun c => UInt8.ofNat c.toNat

end TreeOutline
