import CouchbaseKv.Shared.Mcreq

set_option autoImplicit false

namespace CouchbaseKv

structure CmdRemove where
  key : List UInt8
  cas : UInt64
  durLevel : UInt8
  durTimeout : UInt16
  cid : UInt32
  deriving DecidableEq, Repr

-- calloc'd, so every field is zero.
def lcbCmdremoveCreate : CmdRemove := ⟨[], 0, 0, 0, 0⟩

-- The body only returns: the timeout is not stored.
def lcbCmdremoveTimeout (cmd : CmdRemove) (_timeout : UInt32) : LcbStatus × CmdRemove :=
  (.success, cmd)

def lcbCmdremoveCollectionId (cmd : CmdRemove) (cid : UInt32) : LcbStatus × CmdRemove :=
  (.success, { cmd with cid := cid })

-- The body is `/* TODO */`: scope and collection are dropped.
def lcbCmdremoveCollection (cmd : CmdRemove) (_scope _collection : List UInt8) :
    LcbStatus × CmdRemove :=
  (.success, cmd)

def lcbCmdremoveKey (cmd : CmdRemove) (key : List UInt8) : LcbStatus × CmdRemove :=
  (.success, { cmd with key := key })

def lcbCmdremoveCas (cmd : CmdRemove) (cas : UInt64) : LcbStatus × CmdRemove :=
  (.success, { cmd with cas := cas })

def lcbCmdremoveDurability (cmd : CmdRemove) (level : UInt8) : LcbStatus × CmdRemove :=
  (.success, { cmd with durLevel := level, durTimeout := 0 })

structure ProtocolBinaryRequestDelete where
  header : ProtocolBinaryRequestHeader
  altMeta : UInt8
  altLevel : UInt8
  altTimeout : UInt16
  deriving DecidableEq, Repr

namespace ProtocolBinaryRequestDelete

-- `protocol_binary_request_delete req = {0}`
def zero : ProtocolBinaryRequestDelete := ⟨.zero, 0, 0, 0⟩

def bytes (req : ProtocolBinaryRequestDelete) : List UInt8 :=
  req.header.bytes ++ [req.altMeta, req.altLevel] ++ bytesBE 2 req.altTimeout.toNat

theorem take_bytes_header (req : ProtocolBinaryRequestDelete) :
    req.bytes.take mcreqPktBasesize = req.header.bytes := by
  simp [bytes, List.append_assoc, List.take_left' (ProtocolBinaryRequestHeader.length_bytes _)]

theorem take_bytes_all (req : ProtocolBinaryRequestDelete) :
    req.bytes.take (mcreqPktBasesize + 4) = req.bytes :=
  List.take_of_length_le (by simp [bytes, mcreqPktBasesize])

end ProtocolBinaryRequestDelete

def lcbRemove (inst : Instance) (cookie : Nat) (cmd : CmdRemove) : LcbStatus × Instance :=
  let req := ProtocolBinaryRequestDelete.zero
  let newDurabilitySupported := inst.supportSyncReplication
  durablePacket inst cmd.key cmd.cid cmd.durLevel req.header 0 fun ffextlen cq hdr pkt pl =>
    let hsize := hdr.extlen.toNat + mcreqPktBasesize + ffextlen
    let hdr := { hdr with
      datatype := protocolBinaryRawBytes, magic := protocolBinaryReq,
      opcode := protocolBinaryCmdDelete, cas := cmd.cas, opaqueId := pkt.opaqueId,
      bodylen := UInt32.ofNat (ffextlen + hdr.extlen.toNat + hdr.keylen.toNat) }
    let req := if cmd.durLevel ≠ 0 ∧ newDurabilitySupported = true then
        { req with header := hdr, altMeta := (1 : UInt8) <<< 4 ||| 3, altLevel := cmd.durLevel,
                   altTimeout := cmd.durTimeout }
      else { req with header := hdr }
    let pkt := { pkt with cookie := cookie }.copyToSpan (req.bytes.take hsize)
    (.success, { inst with cmdq := lcbSchedAdd cq pl pkt })

def removeHeader (cmd : CmdRemove) (key : List UInt8) (vbucket seq : Nat) :
    ProtocolBinaryRequestHeader :=
  { magic := protocolBinaryReq, opcode := protocolBinaryCmdDelete,
    keylen := UInt16.ofNat key.length, extlen := 0, datatype := protocolBinaryRawBytes,
    vbucket := UInt16.ofNat vbucket,
    bodylen := UInt32.ofNat ((if cmd.durLevel ≠ 0 then 4 else 0) + (UInt16.ofNat key.length).toNat),
    opaqueId := UInt32.ofNat seq, cas := cmd.cas }

section Remove

variable {inst inst' : Instance} {cookie : Nat} {cmd : CmdRemove} {err : LcbStatus}

theorem lcbRemove_success (scheduled : lcbRemove inst cookie cmd = (.success, inst')) :
    ∃ config pl, inst.cmdq.config = some config ∧ inst' = { inst with cmdq := inst'.cmdq } ∧
      inst.cmdq.Schedules inst'.cmdq pl
        { opaqueId := UInt32.ofNat inst.cmdq.seq, nocid := false, cookie := cookie
          khSpan := some ((removeHeader cmd
              (keyWithCollection inst.settings.useCollections false cmd.cid cmd.key)
              (config.mapKey cmd.key).1 inst.cmdq.seq).bytes ++
            (if cmd.durLevel ≠ 0 then durabilityFrameBytes cmd.durLevel cmd.durTimeout else []) ++
            keyWithCollection inst.settings.useCollections false cmd.cid cmd.key) } := by
  obtain ⟨hdr0, ffextlen, cq, hdr, pkt, pl, -, framed, built, filled⟩ := durablePacket_success scheduled
  obtain ⟨supported, frameLength, -⟩ := durabilityFraming_ok framed
  obtain ⟨config, configured, routed, rfl, rfl, schedule, routing, counter⟩ := mcreqBasicPacket_ok built
  simp only [Prod.mk.injEq, true_and] at filled
  subst filled
  refine ⟨config, pl, configured, rfl, ?_⟩
  have live := mcreqRoute_live routed
  by_cases durable : cmd.durLevel = 0
  · simp only [durable, ne_eq, not_true_eq_false, if_false, false_and] at frameLength ⊢
    subst frameLength
    rw [show (UInt8.ofNat 0).toNat + mcreqPktBasesize + 0 = mcreqPktBasesize from rfl,
      ProtocolBinaryRequestDelete.take_bytes_header,
      Packet.copyToSpan_reserved _ _ rfl (by simp [mcreqPktBasesize])]
    refine lcbSchedAdd_schedules ?_ live schedule routing rfl counter
    simp [removeHeader, durable]
  · simp only [durable, ne_eq, not_false_eq_true, if_true, supported durable, and_self] at frameLength ⊢
    subst frameLength
    rw [show (UInt8.ofNat 0).toNat + mcreqPktBasesize + 4 = mcreqPktBasesize + 4 from rfl,
      ProtocolBinaryRequestDelete.take_bytes_all,
      Packet.copyToSpan_reserved _ _ rfl (by simp [ProtocolBinaryRequestDelete.bytes, mcreqPktBasesize])]
    refine lcbSchedAdd_schedules ?_ live schedule routing rfl counter
    simp [removeHeader, durable, ProtocolBinaryRequestDelete.bytes, durabilityFrameBytes]

theorem lcbRemove_failure (failed : lcbRemove inst cookie cmd = (err, inst'))
    (notOk : err ≠ .success) :
    inst' = { inst with cmdq := inst'.cmdq } ∧ inst.cmdq.Unchanged inst'.cmdq :=
  durablePacket_failure failed notOk fun _ _ _ _ _ => rfl

theorem lcbRemove_ready {config : VbConfig} {pl : PipelineRef} (present : cmd.key ≠ [])
    (supported : cmd.durLevel ≠ 0 → inst.supportSyncReplication = true) (configured : inst.cmdq.config = some config)
    (routed : mcreqRoute inst.cmdq (config.mapKey cmd.key).2 true = some pl)
    (pooled : (inst.cmdq.pipelines pl).reqpool ≠ 0)
    (room : mcreqPktBasesize + (if cmd.durLevel ≠ 0 then 4 else 0) +
      (keyWithCollection inst.settings.useCollections false cmd.cid cmd.key).length ≤ (inst.cmdq.pipelines pl).nbmgr) :
    (lcbRemove inst cookie cmd).1 = .success :=
  durablePacket_ready present supported configured routed pooled (by rwa [Nat.add_zero]) fun _ _ _ _ _ => rfl

end Remove

end CouchbaseKv
