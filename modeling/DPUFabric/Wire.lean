import DPUFabric.Identity

/-!
# Bounded wire reader and writer, and CRC-32

A `Reader` walks a byte buffer; the model keeps the bytes from its position
on.  Every read that would pass the end throws a typed error.  A `Writer`
appends to its buffer, and refuses a string that no reader would take.
-/

namespace DPUFabric.Wire

/-- `kMaxStringBytes`, 1 MiB. -/
def kMaxStringBytes : Nat := 2 ^ 20

/-- `kMaxContainerCount`. -/
def kMaxContainerCount : Nat := 2 ^ 20

/-- A read: the bytes still ahead, and a typed error or a value. -/
abbrev ReaderM := EStateM Fault (List UInt8)

/-- `require(n)` and the advance past the `n` bytes. -/
def take (n : Nat) : ReaderM (List UInt8) := fun ahead =>
  if n > ahead.length then
    .error (.error .protocolError "truncated message") ahead
  else .ok (ahead.take n) (ahead.drop n)

/-- The value of little-endian bytes, each shifted into its place. -/
def littleEndian (bytes : List UInt8) : Nat :=
  bytes.foldr (fun byte rest => byte.toNat + 256 * rest) 0

def u8 : ReaderM UInt8 := do
  return UInt8.ofNat (littleEndian (← take 1))

def u16 : ReaderM UInt16 := do
  return UInt16.ofNat (littleEndian (← take 2))

def u32 : ReaderM UInt32 := do
  return UInt32.ofNat (littleEndian (← take 4))

/-- Two 32-bit halves, the low one first. -/
def u64 : ReaderM UInt64 := do
  let lo ← u32
  let hi ← u32
  return UInt64.ofNat (lo.toNat + 2 ^ 32 * hi.toNat)

def i32 : ReaderM Int32 := do
  return (← u32).toInt32

/-- A length-prefixed string. -/
def str : ReaderM Text := do
  let len ← u32
  if len.toNat > kMaxStringBytes then
    throw (.error .invalidArgument "string length exceeds bound")
  take len.toNat

/-- A boolean is any byte but zero. -/
def flag : ReaderM Bool := do
  return (← u8) != 0

/-- `for (i = 0; i < n; ++i) out.push_back(read(r))`. -/
def many {α : Type} (read : ReaderM α) : Nat → ReaderM (List α)
  | 0 => return []
  | n + 1 => do
      let first ← read
      let rest ← many read n
      return first :: rest

/-- `expect_end`. -/
def expectEnd : ReaderM Unit := do
  unless (← get).isEmpty do
    throw (.error .protocolError "trailing bytes after message")

/-! ## Writer -/

/-- A write: the buffer so far, and a typed error or nothing. -/
abbrev WriterM := EStateM Fault (List UInt8)

namespace Writer

/-- `raw`. -/
def raw (s : List UInt8) : WriterM Unit := modify (· ++ s)

def u8 (v : UInt8) : WriterM Unit := raw [v]

def u16 (v : UInt16) : WriterM Unit := do
  u8 (v &&& 0xFF).toUInt8
  u8 ((v >>> 8) &&& 0xFF).toUInt8

def u32 (v : UInt32) : WriterM Unit := do
  u16 (v &&& 0xFFFF).toUInt16
  u16 ((v >>> 16) &&& 0xFFFF).toUInt16

def u64 (v : UInt64) : WriterM Unit := do
  u32 (v &&& 0xFFFFFFFF).toUInt32
  u32 ((v >>> 32) &&& 0xFFFFFFFF).toUInt32

def i32 (v : Int32) : WriterM Unit := u32 v.toUInt32

/-- A length-prefixed string. -/
def str (s : Text) : WriterM Unit := do
  if s.length > kMaxStringBytes then
    throw (.error .invalidArgument "string too long to encode")
  u32 (UInt32.ofNat s.length)
  raw s

/-- A boolean is written as one or zero. -/
def flag (b : Bool) : WriterM Unit := u8 (if b then 1 else 0)

/-- A container's size, cut to 32 bits, and its elements. -/
def counted {α : Type} (write : α → WriterM Unit) (elements : List α) : WriterM Unit := do
  u32 (UInt32.ofNat elements.length)
  elements.forM write

end Writer

/-! ## CRC-32 -/

/-- One bit of the reflected CRC. -/
def crcBit (crc : UInt32) : UInt32 :=
  let mask := 0 - (crc &&& 1)
  (crc >>> 1) ^^^ (0xEDB88320 &&& mask)

def crcByte (crc : UInt32) (byte : UInt8) : UInt32 :=
  Nat.repeat crcBit 8 (crc ^^^ byte.toUInt32)

/-- `Crc32::compute` with its default seed. -/
def crc32 (data : List UInt8) : UInt32 :=
  ~~~ data.foldl crcByte 0xFFFFFFFF

example : crc32 (text "123456789") = 0xCBF43926 := by decide +kernel

end DPUFabric.Wire
