/-!
# Words as bytes

Fixed-width words in both byte orders. The big-endian forms are the ones that stored hashes use, so
they are defined through `Nat`, where writing and reading back are plain arithmetic.
-/

namespace Credentials.Bytes

/-- The four bytes of a word, most significant first. -/
def be32 (w : UInt32) : List UInt8 :=
  [.ofNat (w.toNat / 0x1000000), .ofNat (w.toNat / 0x10000), .ofNat (w.toNat / 0x100),
    .ofNat w.toNat]

/-- The word whose bytes, most significant first, are the given ones. -/
def ofBE32 (a b c d : UInt8) : UInt32 :=
  .ofNat (a.toNat * 0x1000000 + b.toNat * 0x10000 + c.toNat * 0x100 + d.toNat)

/-- Every word has a four-byte form. -/
@[simp] theorem be32_length (w : UInt32) : (be32 w).length = 4 := rfl

/-- Reading the bytes of a word gives the word back. -/
theorem ofBE32_be32 (w : UInt32) :
    ofBE32 (.ofNat (w.toNat / 0x1000000)) (.ofNat (w.toNat / 0x10000)) (.ofNat (w.toNat / 0x100))
      (.ofNat w.toNat) = w := by
  have hw := w.toNat_lt
  apply UInt32.toNat_inj.mp
  simp only [ofBE32, UInt32.toNat_ofNat', UInt8.toNat_ofNat']
  omega

/-- Four bytes are the bytes of the word that they spell. -/
theorem be32_ofBE32 (a b c d : UInt8) : be32 (ofBE32 a b c d) = [a, b, c, d] := by
  have ha := a.toNat_lt
  have hb := b.toNat_lt
  have hc := c.toNat_lt
  have hd := d.toNat_lt
  simp only [be32, ofBE32, List.cons.injEq, ← UInt8.toNat_inj, UInt32.toNat_ofNat',
    UInt8.toNat_ofNat', and_true]
  omega

/-- The four bytes of a word, least significant first. -/
def le32 (w : UInt32) : List UInt8 := (be32 w).reverse

/-- The eight bytes of a word, least significant first. -/
def le64 (w : UInt64) : List UInt8 :=
  (List.range 8).map fun i => (w >>> (8 * UInt64.ofNat i)).toUInt8

/-- The eight bytes of a word, most significant first. -/
def be64 (w : UInt64) : List UInt8 := (le64 w).reverse

/-- Reads up to eight bytes as a word, least significant first. -/
def ofLE64 (bytes : List UInt8) : UInt64 :=
  bytes.foldr (fun b w => (w <<< 8) ||| b.toUInt64) 0

/-- Reads up to eight bytes as a word, most significant first. -/
def ofBE64 (bytes : List UInt8) : UInt64 :=
  bytes.foldl (fun w b => (w <<< 8) ||| b.toUInt64) 0

end Credentials.Bytes
