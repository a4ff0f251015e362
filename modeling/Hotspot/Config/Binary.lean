/-
# The configuration file

All integers are big-endian; a string is a 16-bit length and that many bytes of
modified UTF-8.

| field | form | present |
| --- | --- | --- |
| version | 32 bits, 1 or 2 | always |
| network name | string | always |
| band | 32 bits, signed | from version 2 on |
| channel | 32 bits, signed | from version 2 on |
| key-management code | 32 bits, 0 to 4 | always |
| key | string | unless the code is 0 |

Both versions are read, and version 2 is written. Bytes after the last field
are ignored.
-/

import Hotspot.Config.Basic
import Hotspot.StoredString
import Hotspot.Text.DigitLimit

namespace Hotspot
namespace Config

/-! ## Reading -/

/-- Why bytes are no configuration. -/
inductive DecodeError
  /-- Fewer bytes than a version takes. -/
  | missingVersion (available : Nat)
  /-- A version that is neither 1 nor 2. -/
  | unknownVersion (version : Int)
  /-- Fewer bytes than the next field takes. -/
  | truncated (needed offset available : Nat)
  /-- A code that stands for no scheme. -/
  | unknownScheme (code : Int)
  /-- A string that has no text. -/
  | malformedString (fault : Utf8.Fault)
  deriving DecidableEq, Repr

/-- The two kinds of failure to load a configuration. -/
inductive FailureKind
  | badVersion
  | ioFailure
  deriving DecidableEq, Repr

/-- The name of a kind. -/
def FailureKind.name : FailureKind → Text
  | .badVersion => "bad_version"
  | .ioFailure => "io_failure"

/-- The kind of a name. -/
def FailureKind.ofName? (t : Text) : Option FailureKind :=
  [.badVersion, .ioFailure].find? (·.name = t)

/-- The wording of a failure: its kind, and the detail if there is one. -/
def FailureKind.message (kind : FailureKind) (detail : Option Text) : Text :=
  match detail with
  | none | some [] => kind.name
  | some detail => kind.name ++ ": " ++ detail

namespace DecodeError

/-- A failure is about the version or about what follows it. -/
def kind : DecodeError → FailureKind
  | .missingVersion _ | .unknownVersion _ => .badVersion
  | .truncated .. | .unknownScheme _ | .malformedString _ => .ioFailure

/-- The wording of a lack of bytes. -/
def lack (needed offset available : Nat) : Text :=
  "need " ++ Text.ofNat needed ++ " bytes at offset " ++ Text.ofNat offset ++
    ", have " ++ Text.ofNat available

/-- The wording of a failure, without its kind. -/
def detail : DecodeError → Text
  | .missingVersion available => lack 4 0 available
  | .unknownVersion version => "version=" ++ Text.ofInt version
  | .truncated needed offset available => lack needed offset available
  | .unknownScheme code => "unknown_auth_type=" ++ Text.ofInt code
  | .malformedString fault => fault.message

end DecodeError

/-- A place in the bytes being read: how many are behind, and those ahead. -/
structure Cursor where
  offset : Nat
  ahead : Bytes
  deriving DecidableEq, Repr

namespace Cursor

/-- The next `n` bytes. -/
def take (c : Cursor) (n : Nat) : Except DecodeError (Bytes × Cursor) :=
  if c.ahead.length < n then .error (.truncated n c.offset c.ahead.length)
  else .ok (c.ahead.take n, ⟨c.offset + n, c.ahead.drop n⟩)

end Cursor

/-- The number of big-endian bytes. -/
def unsigned (bytes : Bytes) : Nat :=
  bytes.foldl (fun n b => n * 0x100 + b.toNat) 0

/-- The number of four big-endian bytes in two's complement. -/
def signed (bytes : Bytes) : Int :=
  let n := unsigned bytes
  if n < 0x80000000 then n else (n : Int) - 0x100000000

/-- Reads a 32-bit integer. -/
def readInt (c : Cursor) : Except DecodeError (Int × Cursor) := do
  let (bytes, c) ← c.take 4
  pure (signed bytes, c)

/-- Reads a string. -/
def readString (c : Cursor) : Except DecodeError (Text × Cursor) := do
  let (length, c) ← c.take 2
  let (bytes, c) ← c.take (unsigned length)
  match StoredString.decode bytes with
  | .ok text => pure (text, c)
  | .error fault => throw (.malformedString fault)

/-- Reads band and channel, which version 1 does not have. -/
def readRadio (version : Int) (c : Cursor) : Except DecodeError (Int × Int × Cursor) :=
  if version = 1 then pure (0, 0, c)
  else do
    let (band, c) ← readInt c
    let (channel, c) ← readInt c
    pure (band, channel, c)

/-- Reads the key-management scheme. -/
def readScheme (c : Cursor) : Except DecodeError (KeyManagement × Cursor) := do
  let (code, c) ← readInt c
  match KeyManagement.ofCode? code with
  | some k => pure (k, c)
  | none => throw (.unknownScheme code)

/-- Reads the key, which an open network does not have. -/
def readKey (k : KeyManagement) (c : Cursor) : Except DecodeError (Option Text × Cursor) :=
  match k with
  | .none => pure (none, c)
  | _ => do
    let (key, c) ← readString c
    pure (some key, c)

/-- Reads what follows the version. -/
def decodeBody (version : Int) (c : Cursor) : Except DecodeError Config := do
  let (ssid, c) ← readString c
  let (band, channel, c) ← readRadio version c
  let (k, c) ← readScheme c
  let (key, _) ← readKey k c
  pure {
    ssid := some ssid
    band := band
    channel := channel
    keyManagement := some (KeySet.singleton k.code)
    key := key
    networkId := noNetworkId }

/-- The configuration of a file's bytes. -/
def decode (bytes : Bytes) : Except DecodeError Config :=
  if bytes.length < 4 then .error (.missingVersion bytes.length)
  else
    let version := signed (bytes.take 4)
    if version = 1 ∨ version = 2 then decodeBody version ⟨4, bytes.drop 4⟩
    else .error (.unknownVersion version)

/-! ## Writing -/

/-- The fields that a bound may refuse. -/
inductive Field
  | ssid
  | band
  | channel
  | key
  deriving DecidableEq, Repr

/-- The name of a field in a refusal. -/
def Field.name : Field → Text
  | .ssid => "ssid"
  | .band => "ap_band"
  | .channel => "ap_channel"
  | .key => "pre_shared_key"

/-- Why a configuration has no bytes. -/
inductive EncodeError
  /-- The key-management set comes to no scheme. -/
  | noScheme (failure : AuthFailure)
  /-- A string takes more bytes than a length can say. -/
  | tooLong (field : Field) (size : Nat)
  /-- A number does not fit 32 bits. -/
  | outOfRange (field : Field) (value : Int)
  /-- A number does not fit 32 bits and is too long even for the refusal. -/
  | unwritable (field : Field)
  deriving DecidableEq, Repr

/-- The wording of a refusal. -/
def EncodeError.message : EncodeError → Text
  | .noScheme failure => "auth_type_" ++ failure.name
  | .tooLong field size => field.name ++ "_too_long_" ++ Text.ofNat size
  | .outOfRange field value => field.name ++ "_out_of_range_" ++ Text.ofInt value
  | .unwritable _ => tooManyDigitsWritten

/-- The `n` low-order bytes of a number, big-endian. -/
def bigEndian : Nat → Nat → Bytes
  | 0, _ => []
  | n + 1, value => bigEndian n (value / 0x100) ++ [UInt8.ofNat value]

/-- The numbers of 32 bits in two's complement. -/
def FitsInt32 (i : Int) : Prop :=
  -0x80000000 ≤ i ∧ i ≤ 0x7FFFFFFF

instance (i : Int) : Decidable (FitsInt32 i) :=
  inferInstanceAs (Decidable (_ ∧ _))

/-- A 32-bit integer in two's complement. -/
def int32 (i : Int) : Bytes :=
  bigEndian 4 (i % 0x100000000).toNat

/-- Writes a number. -/
def writeInt (field : Field) (i : Int) : Except EncodeError Bytes :=
  if FitsInt32 i then .ok (int32 i)
  else if writable i then .error (.outOfRange field i)
  else .error (.unwritable field)

/-- Writes a string, an absent one as an empty one. -/
def writeString (field : Field) (t : Option Text) : Except EncodeError Bytes :=
  let bytes := StoredString.encode (t.getD [])
  if bytes.length ≤ 0xFFFF then .ok (bigEndian 2 bytes.length ++ bytes)
  else .error (.tooLong field bytes.length)

/-- Writes the key, which an open network does not have. -/
def writeKey (k : KeyManagement) (key : Option Text) : Except EncodeError Bytes :=
  match k with
  | .none => .ok []
  | _ => writeString .key key

/-- The version that is written. -/
def currentVersion : Int := 2

/-- The bytes of a configuration. -/
def encode (c : Config) : Except EncodeError Bytes := do
  let k ← c.auth.mapError .noScheme
  let ssid ← writeString .ssid c.ssid
  let band ← writeInt .band c.band
  let channel ← writeInt .channel c.channel
  let key ← writeKey k c.key
  pure (int32 currentVersion ++ ssid ++ band ++ channel ++ int32 k.code ++ key)

end Config
end Hotspot
