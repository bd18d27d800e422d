import BufferedHttp.Duration
import BufferedHttp.Error

/-!
# Configuration

Chunk bounds for reading and writing, and timeouts that are handed on to the host. A
configuration may hold any numbers; `limits` gives the bounds of a usable one, with the proofs
that the transfer loops need.
-/

namespace BufferedHttp

/-- The most bytes that a host takes in one blocking write. -/
def maxWriteSize : Nat := 4096

structure RequestOptions where
  connect : Option Duration
  firstByte : Option Duration
  betweenBytes : Option Duration
  deriving DecidableEq

def RequestOptions.isEmpty (o : RequestOptions) : Bool :=
  o.connect.isNone && o.firstByte.isNone && o.betweenBytes.isNone

/-- Bounds that a transfer can work with. -/
structure Limits where
  read : Nat
  write : Nat
  read_pos : 0 < read
  write_pos : 0 < write
  write_le : write ≤ maxWriteSize

structure Config where
  readChunkSize : UInt64
  writeChunkSize : UInt64
  connectTimeoutMs : Option UInt64
  firstByteTimeoutMs : Option UInt64
  betweenBytesTimeoutMs : Option UInt64
  deriving DecidableEq

namespace Config

def default : Config := ⟨16384, 4096, none, none, none⟩

instance : Inhabited Config := ⟨default⟩

inductive Fault where
  | readChunkSize
  | writeChunkSize (size : UInt64)
  deriving DecidableEq

def Fault.message : Fault → String
  | .readChunkSize => "read_chunk_size must be > 0"
  | .writeChunkSize n => s!"write_chunk_size must be between 1 and {maxWriteSize}, got {n}"

def Fault.toError (f : Fault) : Error := .config f.message

/-- The bounds of a usable configuration. The read bound is looked at first. -/
def limits (c : Config) : Except Fault Limits :=
  if hr : 0 < c.readChunkSize.toNat then
    if hw : 0 < c.writeChunkSize.toNat ∧ c.writeChunkSize.toNat ≤ maxWriteSize then
      .ok ⟨c.readChunkSize.toNat, c.writeChunkSize.toNat, hr, hw.1, hw.2⟩
    else
      .error (.writeChunkSize c.writeChunkSize)
  else
    .error .readChunkSize

def validate (c : Config) : Except Fault Unit := c.limits.map fun _ => ()

def withTimeouts (c : Config) (connect firstByte betweenBytes : Option Duration) : Config :=
  { c with
    connectTimeoutMs := connect.map Duration.toMilliseconds
    firstByteTimeoutMs := firstByte.map Duration.toMilliseconds
    betweenBytesTimeoutMs := betweenBytes.map Duration.toMilliseconds }

/-- What is handed on to the host: nothing when no timeout is set. -/
def requestOptions (c : Config) : Option RequestOptions :=
  let options : RequestOptions :=
    ⟨c.connectTimeoutMs.map .ofMilliseconds, c.firstByteTimeoutMs.map .ofMilliseconds,
      c.betweenBytesTimeoutMs.map .ofMilliseconds⟩
  if options.isEmpty then none else some options

end Config

end BufferedHttp
