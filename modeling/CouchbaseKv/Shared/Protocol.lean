import CouchbaseKv.Shared.Bytes

set_option autoImplicit false

namespace CouchbaseKv

-- Modelled from the spec: PROTOCOL_BINARY_REQ (protocol_binary.h is not under src/).
def protocolBinaryReq : UInt8 := 0x80

-- Modelled from the spec: PROTOCOL_BINARY_AREQ.
def protocolBinaryAreq : UInt8 := 0x08

-- Modelled from the spec: PROTOCOL_BINARY_RAW_BYTES.
def protocolBinaryRawBytes : UInt8 := 0x00

-- Modelled from the spec: the opcodes of protocol_binary.h.
def protocolBinaryCmdDelete : UInt8 := 0x04

-- Modelled from the spec: PROTOCOL_BINARY_CMD_TOUCH.
def protocolBinaryCmdTouch : UInt8 := 0x1c

-- Modelled from the spec: PROTOCOL_BINARY_CMD_COLLECTIONS_GET_MANIFEST.
def protocolBinaryCmdCollectionsGetManifest : UInt8 := 0xba

-- Modelled from the spec: PROTOCOL_BINARY_CMD_COLLECTIONS_GET_CID.
def protocolBinaryCmdCollectionsGetCid : UInt8 := 0xbb

-- Modelled from the spec: MCREQ_PKT_BASESIZE.
def mcreqPktBasesize : Nat := 24

-- keylen, vbucket, bodylen and cas go on the wire big-endian, the opaque as it is.
structure ProtocolBinaryRequestHeader where
  magic : UInt8
  opcode : UInt8
  keylen : UInt16
  extlen : UInt8
  datatype : UInt8
  vbucket : UInt16
  bodylen : UInt32
  opaqueId : UInt32
  cas : UInt64
  deriving DecidableEq, Repr

namespace ProtocolBinaryRequestHeader

-- `protocol_binary_request_header hdr = {0}`
def zero : ProtocolBinaryRequestHeader :=
  ⟨0, 0, 0, 0, 0, 0, 0, 0, 0⟩

def bytes (hdr : ProtocolBinaryRequestHeader) : List UInt8 :=
  bytesBE 1 hdr.magic.toNat ++ bytesBE 1 hdr.opcode.toNat ++ bytesBE 2 hdr.keylen.toNat ++
    bytesBE 1 hdr.extlen.toNat ++ bytesBE 1 hdr.datatype.toNat ++ bytesBE 2 hdr.vbucket.toNat ++
    bytesBE 4 hdr.bodylen.toNat ++ bytesLE 4 hdr.opaqueId.toNat ++ bytesBE 8 hdr.cas.toNat

@[simp] theorem length_bytes (hdr : ProtocolBinaryRequestHeader) :
    hdr.bytes.length = mcreqPktBasesize := by
  simp [bytes, mcreqPktBasesize]

end ProtocolBinaryRequestHeader

structure DecodedRequest where
  magic : Nat
  opcode : Nat
  datatype : Nat
  vbucket : Nat
  opaqueId : Nat
  cas : Nat
  framingExtras : List UInt8
  extras : List UInt8
  key : List UInt8
  value : List UInt8
  deriving DecidableEq, Repr

def keyLengths (magic : Nat) (lengths : List UInt8) : Option (Nat × Nat) :=
  if magic = protocolBinaryReq.toNat then some (0, readBE lengths)
  else if magic = protocolBinaryAreq.toNat then some (readBE (lengths.take 1), readBE (lengths.drop 1))
  else none

structure RawHeader where
  magic : List UInt8
  opcode : List UInt8
  lengths : List UInt8
  extlen : List UInt8
  datatype : List UInt8
  vbucket : List UInt8
  bodylen : List UInt8
  opaqueId : List UInt8
  cas : List UInt8

def decodeHeader (stream : List UInt8) : Option (RawHeader × List UInt8) := do
  let (magic, rest) ← takeBytes 1 stream
  let (opcode, rest) ← takeBytes 1 rest
  let (lengths, rest) ← takeBytes 2 rest
  let (extlen, rest) ← takeBytes 1 rest
  let (datatype, rest) ← takeBytes 1 rest
  let (vbucket, rest) ← takeBytes 2 rest
  let (bodylen, rest) ← takeBytes 4 rest
  let (opaqueId, rest) ← takeBytes 4 rest
  let (cas, rest) ← takeBytes 8 rest
  pure (⟨magic, opcode, lengths, extlen, datatype, vbucket, bodylen, opaqueId, cas⟩, rest)

def decodeRequest (stream : List UInt8) : Option (DecodedRequest × List UInt8) := do
  let (raw, rest) ← decodeHeader stream
  let (framingLength, keyLength) ← keyLengths (readBE raw.magic) raw.lengths
  let (body, rest) ← takeBytes (readBE raw.bodylen) rest
  let (framing, body) ← takeBytes framingLength body
  let (extras, body) ← takeBytes (readBE raw.extlen) body
  let (key, value) ← takeBytes keyLength body
  pure ({ magic := readBE raw.magic, opcode := readBE raw.opcode, datatype := readBE raw.datatype,
          vbucket := readBE raw.vbucket, opaqueId := readLE raw.opaqueId, cas := readBE raw.cas,
          framingExtras := framing, extras := extras, key := key, value := value }, rest)

@[simp] theorem takeBytes_zero (bytes : List UInt8) : takeBytes 0 bytes = some ([], bytes) := by
  simp [takeBytes]

theorem takeBytes_length_append (front rest : List UInt8) :
    takeBytes front.length (front ++ rest) = some (front, rest) :=
  takeBytes_append _ _ rfl

theorem mod_two_pow_16_le_mod_two_pow_32 (n : Nat) : n % 2 ^ 16 ≤ n % 2 ^ 32 :=
  calc n % 2 ^ 16 = n % 2 ^ 32 % 2 ^ 16 := (Nat.mod_mod_of_dvd _ (by norm_num)).symm
    _ ≤ n % 2 ^ 32 := Nat.mod_le _ _

theorem decodeHeader_bytes (hdr : ProtocolBinaryRequestHeader) (rest : List UInt8) :
    decodeHeader (hdr.bytes ++ rest) =
      some (⟨bytesBE 1 hdr.magic.toNat, bytesBE 1 hdr.opcode.toNat, bytesBE 2 hdr.keylen.toNat,
        bytesBE 1 hdr.extlen.toNat, bytesBE 1 hdr.datatype.toNat, bytesBE 2 hdr.vbucket.toNat,
        bytesBE 4 hdr.bodylen.toNat, bytesLE 4 hdr.opaqueId.toNat, bytesBE 8 hdr.cas.toNat⟩, rest) := by
  simp only [decodeHeader, ProtocolBinaryRequestHeader.bytes, List.append_assoc,
    takeBytes_bytesBE_append, takeBytes_bytesLE_append, Option.bind_eq_bind, Option.bind]
  rfl

theorem decodeRequest_req (hdr : ProtocolBinaryRequestHeader) (extras key value rest : List UInt8)
    (magic : hdr.magic = protocolBinaryReq) (extlen : hdr.extlen.toNat = extras.length)
    (keylen : hdr.keylen.toNat = key.length)
    (bodylen : hdr.bodylen.toNat = extras.length + key.length + value.length) :
    decodeRequest (hdr.bytes ++ extras ++ key ++ value ++ rest) =
      some ({ magic := protocolBinaryReq.toNat, opcode := hdr.opcode.toNat,
              datatype := hdr.datatype.toNat, vbucket := hdr.vbucket.toNat,
              opaqueId := hdr.opaqueId.toNat, cas := hdr.cas.toNat, framingExtras := [],
              extras := extras, key := key, value := value }, rest) := by
  have body : takeBytes hdr.bodylen.toNat (extras ++ (key ++ (value ++ rest))) =
      some (extras ++ (key ++ value), rest) := by
    simpa using takeBytes_append (extras ++ (key ++ value)) rest (by simp [bodylen, Nat.add_assoc])
  simp (disch := with_unfolding_all exact BitVec.isLt _) only [decodeRequest, List.append_assoc, decodeHeader_bytes,
    Option.bind_eq_bind, Option.bind, readBE_bytesBE, readLE_bytesLE, Nat.mod_eq_of_lt, keyLengths, magic,
    if_true, body, takeBytes_zero]
  simp only [extlen, keylen, takeBytes_length_append, Option.bind]
  rfl

theorem decodeRequest_req_payload (hdr : ProtocolBinaryRequestHeader) (extras payload : List UInt8)
    (magic : hdr.magic = protocolBinaryReq) (extlen : hdr.extlen.toNat = extras.length)
    (keyWithin : extras.length + hdr.keylen.toNat ≤ hdr.bodylen.toNat)
    (bodyWithin : hdr.bodylen.toNat ≤ extras.length + payload.length) :
    decodeRequest (hdr.bytes ++ extras ++ payload) =
      some ({ magic := protocolBinaryReq.toNat, opcode := hdr.opcode.toNat,
              datatype := hdr.datatype.toNat, vbucket := hdr.vbucket.toNat,
              opaqueId := hdr.opaqueId.toNat, cas := hdr.cas.toNat, framingExtras := [],
              extras := extras, key := payload.take hdr.keylen.toNat,
              value := (payload.drop hdr.keylen.toNat).take
                (hdr.bodylen.toNat - extras.length - hdr.keylen.toNat) },
            payload.drop (hdr.bodylen.toNat - extras.length)) := by
  have decoded := decodeRequest_req hdr extras (payload.take hdr.keylen.toNat)
    ((payload.drop hdr.keylen.toNat).take (hdr.bodylen.toNat - extras.length - hdr.keylen.toNat))
    (payload.drop (hdr.bodylen.toNat - extras.length)) magic extlen (by simp; omega) (by simp; omega)
  rwa [List.append_assoc _ _ (List.drop _ _), List.append_assoc _ (List.take _ _),
    take_append_drop_take_append_drop payload (by omega)] at decoded

end CouchbaseKv
