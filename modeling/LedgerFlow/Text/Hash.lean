import LedgerFlow.Text.Hex
/-!
A short key for a text: the FNV-1 hash of its UTF-8 bytes, 32 bits wide.
-/
namespace LedgerFlow.Text

def fnvOffset : UInt32 := 0x811C9DC5

def fnvPrime : UInt32 := 0x01000193

def fnvStep (hash : UInt32) (byte : UInt8) : UInt32 := hash * fnvPrime ^^^ byte.toUInt32

def fnv (bytes : List UInt8) : UInt32 := bytes.foldl fnvStep fnvOffset

def hashKey (s : String) : String := String.ofList (hexDigits (fnv s.toUTF8.toList).toNat)

end LedgerFlow.Text
