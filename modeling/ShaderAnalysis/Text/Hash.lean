import ShaderAnalysis.Text.Slice

/-!
# Content hashes

The 64-bit FNV-1a hash of a text: for every byte, xor it in and multiply by the prime.
-/

namespace ShaderAnalysis.Text

/-- One round of the hash. -/
def hashByte (h : UInt64) (b : UInt8) : UInt64 :=
  (h ^^^ b.toUInt64) * 0x100000001b3

/-- The hash of a sequence of bytes. -/
def hashBytes (bs : List UInt8) : UInt64 :=
  bs.foldl hashByte 0xcbf29ce484222325

/-- The hash of the UTF-8 form of a text. -/
def contentHash (s : String) : UInt64 :=
  hashBytes (bytes s)

theorem hashBytes_append_singleton (bs : List UInt8) (b : UInt8) :
    hashBytes (bs ++ [b]) = hashByte (hashBytes bs) b := by
  simp [hashBytes]

end ShaderAnalysis.Text
