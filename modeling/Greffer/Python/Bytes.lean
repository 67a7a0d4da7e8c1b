/-! # Byte strings -/
namespace Greffer

abbrev Bytes := List UInt8

/-- `text.encode("latin-1")`, of characters up to 255. -/
def latin1 (text : String) : Bytes := text.toList.map fun c => c.toNat.toUInt8

/-- `bytes.decode("latin-1")`. -/
def ofLatin1 (bytes : Bytes) : String := String.ofList (bytes.map fun b => Char.ofNat b.toNat)

/-- `bytes.lower()`. -/
def lowerBytes (bytes : Bytes) : Bytes := bytes.map fun b => if 65 ≤ b ∧ b ≤ 90 then b + 32 else b

end Greffer
