import CouchbaseKv.Shared.Mcreq

set_option autoImplicit false

namespace CouchbaseKv

structure CmdTouch where
  key : List UInt8
  exptime : UInt32
  durLevel : UInt8
  durTimeout : UInt16
  cid : UInt32
  deriving DecidableEq, Repr

-- calloc'd, so every field is zero.
def lcbCmdtouchCreate : CmdTouch := ⟨[], 0, 0, 0, 0⟩

-- The body only returns: the timeout is not stored.
def lcbCmdtouchTimeout (cmd : CmdTouch) (_timeout : UInt32) : LcbStatus × CmdTouch :=
  (.success, cmd)

def lcbCmdtouchCollectionId (cmd : CmdTouch) (cid : UInt32) : LcbStatus × CmdTouch :=
  (.success, { cmd with cid := cid })

-- The body is `/* TODO */`: scope and collection are dropped.
def lcbCmdtouchCollection (cmd : CmdTouch) (_scope _collection : List UInt8) :
    LcbStatus × CmdTouch :=
  (.success, cmd)

def lcbCmdtouchKey (cmd : CmdTouch) (key : List UInt8) : LcbStatus × CmdTouch :=
  (.success, { cmd with key := key })

def lcbCmdtouchExpiration (cmd : CmdTouch) (expiration : UInt32) : LcbStatus × CmdTouch :=
  (.success, { cmd with exptime := expiration })

def lcbCmdtouchDurability (cmd : CmdTouch) (level : UInt8) : LcbStatus × CmdTouch :=
  (.success, { cmd with durLevel := level, durTimeout := 0 })

structure ProtocolBinaryRequestTouch where
  header : ProtocolBinaryRequestHeader
  body : List UInt8
  body_length : body.length = 8

namespace ProtocolBinaryRequestTouch

def store (req : ProtocolBinaryRequestTouch) (offset : Nat) (value : List UInt8)
    (fits : offset + value.length ≤ 8) : ProtocolBinaryRequestTouch :=
  { req with
    body := storeAt req.body offset value
    body_length := by rw [length_storeAt (req.body_length ▸ fits), req.body_length] }

def setNormExpiration (req : ProtocolBinaryRequestTouch) (expiration : UInt32) :
    ProtocolBinaryRequestTouch :=
  req.store 0 (bytesBE 4 expiration.toNat) (by simp)

def setAltMeta (req : ProtocolBinaryRequestTouch) (value : UInt8) : ProtocolBinaryRequestTouch :=
  req.store 0 [value] (by simp)

def setAltLevel (req : ProtocolBinaryRequestTouch) (level : UInt8) : ProtocolBinaryRequestTouch :=
  req.store 1 [level] (by simp)

def setAltTimeout (req : ProtocolBinaryRequestTouch) (timeout : UInt16) :
    ProtocolBinaryRequestTouch :=
  req.store 2 (bytesBE 2 timeout.toNat) (by simp)

def setAltExpiration (req : ProtocolBinaryRequestTouch) (expiration : UInt32) :
    ProtocolBinaryRequestTouch :=
  req.store 4 (bytesBE 4 expiration.toNat) (by simp)

def bytes (req : ProtocolBinaryRequestTouch) : List UInt8 := req.header.bytes ++ req.body

theorem take_body_setNormExpiration (req : ProtocolBinaryRequestTouch) (expiration : UInt32) :
    (req.setNormExpiration expiration).body.take 4 = bytesBE 4 expiration.toNat := by
  simp [setNormExpiration, store, storeAt]

theorem body_setAlt (req : ProtocolBinaryRequestTouch) (value level : UInt8) (timeout : UInt16)
    (expiration : UInt32) :
    ((((req.setAltMeta value).setAltLevel level).setAltTimeout timeout).setAltExpiration
      expiration).body = [value, level] ++ bytesBE 2 timeout.toNat ++ bytesBE 4 expiration.toNat := by
  have fits (extra : Nat) (within : extra ≤ 8) : extra ≤ req.body.length := by
    rw [req.body_length]; exact within
  simp only [setAltExpiration, setAltTimeout, setAltLevel, setAltMeta, store]
  rw [storeAt_storeAt req.body [value] [level] 0 1 rfl (fits _ (by simp)),
    storeAt_storeAt req.body ([value] ++ [level]) (bytesBE 2 timeout.toNat) 0 2 rfl (fits _ (by simp)),
    storeAt_storeAt req.body _ (bytesBE 4 expiration.toNat) 0 4 (by simp) (fits _ (by simp)),
    storeAt_whole _ _ (by simp [req.body_length])]
  rfl

theorem take_bytes_setNormExpiration (req : ProtocolBinaryRequestTouch) (expiration : UInt32) :
    (req.setNormExpiration expiration).bytes.take (mcreqPktBasesize + 4) =
      req.header.bytes ++ bytesBE 4 expiration.toNat := by
  rw [bytes, List.take_append_eq_append_take, List.take_of_length_le (by simp [mcreqPktBasesize])]
  simp [mcreqPktBasesize, take_body_setNormExpiration]
  rfl

theorem take_bytes_setAlt (req : ProtocolBinaryRequestTouch) (level : UInt8) (timeout : UInt16)
    (expiration : UInt32) :
    ((((req.setAltMeta ((1 : UInt8) <<< 4 ||| 3)).setAltLevel level).setAltTimeout
      timeout).setAltExpiration expiration).bytes.take (mcreqPktBasesize + 4 + 4) =
      req.header.bytes ++ durabilityFrameBytes level timeout ++ bytesBE 4 expiration.toNat := by
  rw [bytes, body_setAlt, List.take_of_length_le (by simp [mcreqPktBasesize])]
  simp only [durabilityFrameBytes, List.append_assoc]
  rfl

end ProtocolBinaryRequestTouch

-- tcmd is the request on lcb_touch's stack, uninitialized: whatever the stack held.
def lcbTouch (inst : Instance) (cookie : Nat) (cmd : CmdTouch) (tcmd : ProtocolBinaryRequestTouch) :
    LcbStatus × Instance :=
  let newDurabilitySupported := inst.supportSyncReplication
  durablePacket inst cmd.key cmd.cid cmd.durLevel tcmd.header 4 fun ffextlen cq hdr pkt pl =>
    let hsize := hdr.extlen.toNat + mcreqPktBasesize + ffextlen
    let hdr := { hdr with
      magic := protocolBinaryReq, opcode := protocolBinaryCmdTouch, cas := 0,
      datatype := protocolBinaryRawBytes, opaqueId := pkt.opaqueId,
      bodylen := UInt32.ofNat (4 + ffextlen + hdr.keylen.toNat) }
    let tcmd := { tcmd with header := hdr }
    let tcmd := if cmd.durLevel ≠ 0 ∧ newDurabilitySupported = true then
        ((tcmd.setAltMeta ((1 : UInt8) <<< 4 ||| 3)).setAltLevel cmd.durLevel
          |>.setAltTimeout cmd.durTimeout).setAltExpiration cmd.exptime
      else tcmd.setNormExpiration cmd.exptime
    let pkt := { pkt.copyToSpan (tcmd.bytes.take hsize) with cookie := cookie }
    (.success, { inst with cmdq := lcbSchedAdd cq pl pkt })

def touchHeader (cmd : CmdTouch) (key : List UInt8) (vbucket seq : Nat) :
    ProtocolBinaryRequestHeader :=
  { magic := protocolBinaryReq, opcode := protocolBinaryCmdTouch,
    keylen := UInt16.ofNat key.length, extlen := 4, datatype := protocolBinaryRawBytes,
    vbucket := UInt16.ofNat vbucket,
    bodylen := UInt32.ofNat (4 + (if cmd.durLevel ≠ 0 then 4 else 0) + (UInt16.ofNat key.length).toNat),
    opaqueId := UInt32.ofNat seq, cas := 0 }

def touchBody (cmd : CmdTouch) : List UInt8 :=
  (if cmd.durLevel ≠ 0 then durabilityFrameBytes cmd.durLevel cmd.durTimeout else []) ++
    bytesBE 4 cmd.exptime.toNat

section Touch

variable {inst inst' : Instance} {cookie : Nat} {cmd : CmdTouch} {tcmd : ProtocolBinaryRequestTouch}
  {err : LcbStatus}

theorem lcbTouch_success (scheduled : lcbTouch inst cookie cmd tcmd = (.success, inst')) :
    ∃ config pl, inst.cmdq.config = some config ∧ inst' = { inst with cmdq := inst'.cmdq } ∧
      inst.cmdq.Schedules inst'.cmdq pl
        { opaqueId := UInt32.ofNat inst.cmdq.seq, nocid := false, cookie := cookie
          khSpan := some ((touchHeader cmd
              (keyWithCollection inst.settings.useCollections false cmd.cid cmd.key)
              (config.mapKey cmd.key).1 inst.cmdq.seq).bytes ++ touchBody cmd ++
            keyWithCollection inst.settings.useCollections false cmd.cid cmd.key) } := by
  obtain ⟨hdr0, ffextlen, cq, hdr, pkt, pl, -, framed, built, filled⟩ := durablePacket_success scheduled
  obtain ⟨supported, frameLength, -⟩ := durabilityFraming_ok framed
  obtain ⟨config, configured, routed, rfl, rfl, schedule, routing, counter⟩ := mcreqBasicPacket_ok built
  simp only [Prod.mk.injEq, true_and] at filled
  subst filled
  refine ⟨config, pl, configured, rfl, ?_⟩
  have live := mcreqRoute_live routed
  by_cases durable : cmd.durLevel = 0
  · simp only [durable, ne_eq, not_true_eq_false, if_false, false_and] at frameLength ⊢
    subst frameLength
    rw [show (UInt8.ofNat 4).toNat + mcreqPktBasesize + 0 = mcreqPktBasesize + 4 from rfl,
      ProtocolBinaryRequestTouch.take_bytes_setNormExpiration,
      Packet.copyToSpan_reserved _ _ rfl (by simp [mcreqPktBasesize])]
    refine lcbSchedAdd_schedules ?_ live schedule routing rfl counter
    simp [touchHeader, touchBody, durable]
  · simp only [durable, ne_eq, not_false_eq_true, if_true, supported durable, and_self] at frameLength ⊢
    subst frameLength
    rw [show (UInt8.ofNat 4).toNat + mcreqPktBasesize + 4 = mcreqPktBasesize + 4 + 4 from rfl,
      ProtocolBinaryRequestTouch.take_bytes_setAlt,
      Packet.copyToSpan_reserved _ _ rfl (by simp [mcreqPktBasesize])]
    refine lcbSchedAdd_schedules ?_ live schedule routing rfl counter
    simp [touchHeader, touchBody, durable]

theorem lcbTouch_failure (failed : lcbTouch inst cookie cmd tcmd = (err, inst'))
    (notOk : err ≠ .success) :
    inst' = { inst with cmdq := inst'.cmdq } ∧ inst.cmdq.Unchanged inst'.cmdq :=
  durablePacket_failure failed notOk fun _ _ _ _ _ => rfl

theorem lcbTouch_ready {config : VbConfig} {pl : PipelineRef} (present : cmd.key ≠ [])
    (supported : cmd.durLevel ≠ 0 → inst.supportSyncReplication = true) (configured : inst.cmdq.config = some config)
    (routed : mcreqRoute inst.cmdq (config.mapKey cmd.key).2 true = some pl)
    (pooled : (inst.cmdq.pipelines pl).reqpool ≠ 0)
    (room : mcreqPktBasesize + 4 + (if cmd.durLevel ≠ 0 then 4 else 0) +
      (keyWithCollection inst.settings.useCollections false cmd.cid cmd.key).length ≤ (inst.cmdq.pipelines pl).nbmgr) :
    (lcbTouch inst cookie cmd tcmd).1 = .success :=
  durablePacket_ready present supported configured routed pooled room fun _ _ _ _ _ => rfl

end Touch

theorem lcbTouch_stack_independent (inst : Instance) (cookie : Nat) (cmd : CmdTouch)
    (stack stack' : ProtocolBinaryRequestTouch) :
    lcbTouch inst cookie cmd stack = lcbTouch inst cookie cmd stack' := by
  by_cases empty : cmd.key = []
  · simp [lcbTouch, durablePacket, empty]
  by_cases durable : cmd.durLevel = 0
  · have framing (hdr : ProtocolBinaryRequestHeader) :
        durabilityFraming cmd.durLevel inst.supportSyncReplication hdr = .ok (hdr, 0) := by
      simp [durabilityFraming, durable]
    simp only [lcbTouch, durablePacket, empty, if_false, framing]
    rw [mcreqBasicPacket_header stack.header stack'.header]
    rcases built : mcreqBasicPacket inst.cmdq inst.settings.useCollections cmd.key cmd.cid
      stack.header 4 0 true with ⟨cq, err | ⟨hdr, pkt, pl⟩⟩
    · rfl
    · obtain ⟨config, -, -, rfl, -, -, -, -⟩ := mcreqBasicPacket_ok built
      simp only [Except.map, durable, ne_eq, not_true_eq_false, false_and, if_false,
        show (UInt8.ofNat 4).toNat + mcreqPktBasesize + 0 = mcreqPktBasesize + 4 from rfl,
        ProtocolBinaryRequestTouch.take_bytes_setNormExpiration]
  by_cases supported : inst.supportSyncReplication = true
  · have framing (hdr : ProtocolBinaryRequestHeader) :
        durabilityFraming cmd.durLevel inst.supportSyncReplication hdr =
          .ok ({ hdr with magic := protocolBinaryAreq }, 4) := by
      simp [durabilityFraming, durable, supported]
    simp only [lcbTouch, durablePacket, empty, if_false, framing]
    rw [mcreqBasicPacket_header { stack.header with magic := protocolBinaryAreq }
      { stack'.header with magic := protocolBinaryAreq }]
    rcases built : mcreqBasicPacket inst.cmdq inst.settings.useCollections cmd.key cmd.cid
      { stack.header with magic := protocolBinaryAreq } 4 4 true with ⟨cq, err | ⟨hdr, pkt, pl⟩⟩
    · rfl
    · obtain ⟨config, -, -, rfl, -, -, -, -⟩ := mcreqBasicPacket_ok built
      simp only [Except.map, durable, supported, ne_eq, not_false_eq_true, and_self, if_true,
        show (UInt8.ofNat 4).toNat + mcreqPktBasesize + 4 = mcreqPktBasesize + 4 + 4 from rfl,
        ProtocolBinaryRequestTouch.take_bytes_setAlt]
  · simp [lcbTouch, durablePacket, empty, durabilityFraming, durable, supported]

end CouchbaseKv
