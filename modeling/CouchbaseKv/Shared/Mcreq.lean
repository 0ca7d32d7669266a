import CouchbaseKv.Shared.Protocol
import Mathlib.Logic.Function.Basic

set_option autoImplicit false

namespace CouchbaseKv

inductive LcbStatus
  | success
  | emptyKey
  | notSupported
  | clientEtmpfail
  | noMatchingServer
  | clientEnomem
  | einval
  deriving DecidableEq, Repr

-- A span whose reservation failed has no buffer behind it: none.
structure Packet where
  opaqueId : UInt32
  nocid : Bool
  khSpan : Option (List UInt8)
  cookie : Nat
  deriving DecidableEq, Repr

structure Pipeline where
  ctxqueued : List Packet
  reqpool : Nat
  nbmgr : Nat
  deriving DecidableEq, Repr

namespace Pipeline

def allocate (p : Pipeline) : Pipeline := { p with reqpool := p.reqpool - 1 }
def reserve (p : Pipeline) (size : Nat) : Pipeline := { p with nbmgr := p.nbmgr - size }
def release (p : Pipeline) (size : Nat) : Pipeline :=
  { p with reqpool := p.reqpool + 1, nbmgr := p.nbmgr + size }
def enqueue (p : Pipeline) (pkt : Packet) : Pipeline := { p with ctxqueued := p.ctxqueued ++ [pkt] }

@[simp] theorem ctxqueued_allocate (p : Pipeline) : p.allocate.ctxqueued = p.ctxqueued := rfl
@[simp] theorem ctxqueued_reserve (p : Pipeline) (size : Nat) :
    (p.reserve size).ctxqueued = p.ctxqueued := rfl
@[simp] theorem nbmgr_allocate (p : Pipeline) : p.allocate.nbmgr = p.nbmgr := rfl
@[simp] theorem ctxqueued_release (p : Pipeline) (size : Nat) :
    (p.release size).ctxqueued = p.ctxqueued := rfl
@[simp] theorem ctxqueued_enqueue (p : Pipeline) (pkt : Packet) :
    (p.enqueue pkt).ctxqueued = p.ctxqueued ++ [pkt] := rfl

theorem release_allocate (p : Pipeline) (available : p.reqpool ≠ 0) : p.allocate.release 0 = p := by
  obtain ⟨queued, pool, bytes⟩ := p
  simp only [allocate, release, mk.injEq, true_and] at available ⊢
  omega

end Pipeline

inductive PipelineRef
  | server (index : Nat)
  | fallback
  deriving DecidableEq, Repr

-- mcreq_map_key: the vbucket and server index of a key, -1 when no server owns the vbucket.
structure VbConfig where
  mapKey : List UInt8 → Nat × Int

-- pipelines (.server i) is cq->pipelines[i] for i < npipelines, pipelines .fallback is cq->fallback.
structure CmdQueue where
  config : Option VbConfig
  npipelines : Nat
  pipelines : PipelineRef → Pipeline
  hasFallback : Bool
  seq : Nat

structure LcbSettings where
  useCollections : Bool

structure Instance where
  cmdq : CmdQueue
  settings : LcbSettings
  supportSyncReplication : Bool

namespace CmdQueue

def schedule (cq : CmdQueue) (pl : PipelineRef) : List Packet := (cq.pipelines pl).ctxqueued

def Live (cq : CmdQueue) : PipelineRef → Prop
  | .server index => index < cq.npipelines
  | .fallback => cq.hasFallback = true

-- The routing data, which no request changes.
def routing (cq : CmdQueue) : Option VbConfig × Nat × Bool := (cq.config, cq.npipelines, cq.hasFallback)

def modifyPipeline (cq : CmdQueue) (pl : PipelineRef) (f : Pipeline → Pipeline) : CmdQueue :=
  { cq with pipelines := Function.update cq.pipelines pl (f (cq.pipelines pl)) }

@[simp] theorem modifyPipeline_config (cq : CmdQueue) (pl : PipelineRef) (f : Pipeline → Pipeline) :
    (cq.modifyPipeline pl f).config = cq.config := rfl
@[simp] theorem modifyPipeline_npipelines (cq : CmdQueue) (pl : PipelineRef)
    (f : Pipeline → Pipeline) : (cq.modifyPipeline pl f).npipelines = cq.npipelines := rfl
@[simp] theorem modifyPipeline_hasFallback (cq : CmdQueue) (pl : PipelineRef)
    (f : Pipeline → Pipeline) : (cq.modifyPipeline pl f).hasFallback = cq.hasFallback := rfl
@[simp] theorem modifyPipeline_routing (cq : CmdQueue) (pl : PipelineRef) (f : Pipeline → Pipeline) :
    (cq.modifyPipeline pl f).routing = cq.routing := rfl
@[simp] theorem modifyPipeline_seq (cq : CmdQueue) (pl : PipelineRef) (f : Pipeline → Pipeline) :
    (cq.modifyPipeline pl f).seq = cq.seq := rfl

@[simp] theorem modifyPipeline_pipelines (cq : CmdQueue) (pl other : PipelineRef)
    (f : Pipeline → Pipeline) :
    (cq.modifyPipeline pl f).pipelines other =
      if other = pl then f (cq.pipelines pl) else cq.pipelines other := by
  by_cases same : other = pl
  · subst same; simp [modifyPipeline]
  · simp [modifyPipeline, Function.update_noteq same, same]

theorem modifyPipeline_modifyPipeline (cq : CmdQueue) (pl : PipelineRef)
    (f g : Pipeline → Pipeline) :
    (cq.modifyPipeline pl f).modifyPipeline pl g = cq.modifyPipeline pl (g ∘ f) := by
  simp [modifyPipeline]

theorem pipelines_modifyPipeline_of_fixed (cq : CmdQueue) (pl : PipelineRef) (f : Pipeline → Pipeline)
    (fixed : f (cq.pipelines pl) = cq.pipelines pl) : (cq.modifyPipeline pl f).pipelines = cq.pipelines := by
  simp [modifyPipeline, fixed]

@[simp] theorem schedule_modifyPipeline (cq : CmdQueue) (pl other : PipelineRef)
    (f : Pipeline → Pipeline) :
    (cq.modifyPipeline pl f).schedule other =
      if other = pl then (f (cq.pipelines pl)).ctxqueued else cq.schedule other := by
  simp only [schedule, modifyPipeline_pipelines]; split <;> rfl

structure Schedules (cq cq' : CmdQueue) (pl : PipelineRef) (pkt : Packet) : Prop where
  live : cq.Live pl
  schedule : cq'.schedule = Function.update cq.schedule pl (cq.schedule pl ++ [pkt])
  routing : cq'.routing = cq.routing
  tagged : pkt.opaqueId = UInt32.ofNat cq.seq
  counter : cq'.seq = cq.seq + 1

structure Unchanged (cq cq' : CmdQueue) : Prop where
  pipelines : cq'.pipelines = cq.pipelines
  routing : cq'.routing = cq.routing
  counter : cq.seq ≤ cq'.seq ∧ cq'.seq ≤ cq.seq + 1

@[simp] theorem unchanged_refl (cq : CmdQueue) : cq.Unchanged cq := ⟨rfl, rfl, le_refl _, Nat.le_succ _⟩

structure Abandons (cq cq' : CmdQueue) (pl : PipelineRef) (header : Nat) : Prop where
  others : ∀ other, other ≠ pl → cq'.pipelines other = cq.pipelines other
  queued : (cq'.pipelines pl).ctxqueued = (cq.pipelines pl).ctxqueued
  pool : (cq'.pipelines pl).reqpool + 1 = (cq.pipelines pl).reqpool
  buffer : (cq'.pipelines pl).nbmgr + header = (cq.pipelines pl).nbmgr
  routing : cq'.routing = cq.routing
  counter : cq'.seq = cq.seq + 1

theorem Abandons.schedule {cq cq' : CmdQueue} {pl : PipelineRef} {header : Nat} (abandons : cq.Abandons cq' pl header) :
    cq'.schedule = cq.schedule := by
  funext other
  by_cases here : other = pl
  · subst here
    exact abandons.queued
  · simp only [CmdQueue.schedule, abandons.others other here]

theorem schedule_modifyPipeline_of_keeps (cq : CmdQueue) (pl : PipelineRef) (f : Pipeline → Pipeline)
    (keeps : ∀ p, (f p).ctxqueued = p.ctxqueued) : (cq.modifyPipeline pl f).schedule = cq.schedule := by
  funext other
  simp only [schedule_modifyPipeline, keeps]
  split
  · subst other; rfl
  · rfl

@[simp] theorem schedule_allocate (cq : CmdQueue) (pl : PipelineRef) :
    (cq.modifyPipeline pl Pipeline.allocate).schedule = cq.schedule :=
  cq.schedule_modifyPipeline_of_keeps pl _ Pipeline.ctxqueued_allocate

@[simp] theorem schedule_seq (cq : CmdQueue) (seq : Nat) : { cq with seq := seq }.schedule = cq.schedule :=
  rfl

@[simp] theorem routing_seq (cq : CmdQueue) (seq : Nat) : { cq with seq := seq }.routing = cq.routing :=
  rfl

theorem Schedules.unique {cq cq' : CmdQueue} {pl pl' : PipelineRef} {pkt pkt' : Packet}
    (first : cq.Schedules cq' pl pkt) (second : cq.Schedules cq' pl' pkt') : pl = pl' ∧ pkt = pkt' := by
  have after := congrFun (first.schedule.symm.trans second.schedule) pl
  by_cases same : pl = pl'
  · subst same
    simpa using after
  · have lengths := congrArg List.length after
    simp [Function.update_noteq same] at lengths

end CmdQueue

-- Modelled from the spec: mcreq_allocate_packet (not under src/).
def mcreqAllocatePacket (cq : CmdQueue) (pl : PipelineRef) : Option (Packet × CmdQueue) :=
  if (cq.pipelines pl).reqpool = 0 then none
  else some ({ opaqueId := UInt32.ofNat cq.seq, nocid := false, khSpan := some [], cookie := 0 },
    { cq with seq := cq.seq + 1 }.modifyPipeline pl Pipeline.allocate)

theorem mcreqAllocatePacket_of_pooled (cq : CmdQueue) (pl : PipelineRef)
    (pooled : (cq.pipelines pl).reqpool ≠ 0) :
    mcreqAllocatePacket cq pl =
      some ({ opaqueId := UInt32.ofNat cq.seq, nocid := false, khSpan := some [], cookie := 0 },
        { cq with seq := cq.seq + 1 }.modifyPipeline pl Pipeline.allocate) := by
  simp [mcreqAllocatePacket, pooled]

-- Modelled from the spec: mcreq_release_packet.
def mcreqReleasePacket (cq : CmdQueue) (pl : PipelineRef) (pkt : Packet) : CmdQueue :=
  cq.modifyPipeline pl fun p => p.release ((pkt.khSpan.map List.length).getD 0)

def reserveSpan (cq : CmdQueue) (pl : PipelineRef) (pkt : Packet) (span : List UInt8) :
    LcbStatus × Packet × CmdQueue :=
  if span.length ≤ (cq.pipelines pl).nbmgr then
    (.success, { pkt with khSpan := some span }, cq.modifyPipeline pl fun p => p.reserve span.length)
  else (.clientEnomem, { pkt with khSpan := none }, cq)

-- Modelled from the spec: mcreq_reserve_header.
def mcreqReserveHeader (cq : CmdQueue) (pl : PipelineRef) (pkt : Packet) (hdrsize : Nat) :
    LcbStatus × Packet × CmdQueue :=
  reserveSpan cq pl pkt (List.replicate hdrsize 0)

-- Modelled from the spec: the collection id that leads a key, in unsigned LEB128.
def leb128Encode : Nat → Nat → List UInt8
  | 0, _ => []
  | groups + 1, value =>
    if value < 128 then [UInt8.ofNat value]
    else UInt8.ofNat (value % 128 + 128) :: leb128Encode groups (value / 128)

def keyWithCollection (useCollections nocid : Bool) (cid : UInt32) (key : List UInt8) : List UInt8 :=
  (if useCollections && !nocid then leb128Encode 5 cid.toNat else []) ++ key

@[simp] theorem keyWithCollection_nocid (useCollections : Bool) (cid : UInt32) (key : List UInt8) :
    keyWithCollection useCollections true cid key = key := by
  simp [keyWithCollection]

-- Modelled from the spec: mcreq_reserve_key.
def mcreqReserveKey (cq : CmdQueue) (pl : PipelineRef) (pkt : Packet) (hdrsize : Nat)
    (key : List UInt8) (cid : UInt32) (useCollections : Bool) : LcbStatus × Packet × CmdQueue :=
  reserveSpan cq pl pkt (List.replicate hdrsize 0 ++ keyWithCollection useCollections pkt.nocid cid key)

def Packet.copyToSpan (pkt : Packet) (bytes : List UInt8) : Packet :=
  { pkt with khSpan := pkt.khSpan.map fun span => bytes ++ span.drop bytes.length }

@[simp] theorem Packet.opaqueId_copyToSpan (pkt : Packet) (bytes : List UInt8) :
    (pkt.copyToSpan bytes).opaqueId = pkt.opaqueId := rfl
@[simp] theorem Packet.nocid_copyToSpan (pkt : Packet) (bytes : List UInt8) :
    (pkt.copyToSpan bytes).nocid = pkt.nocid := rfl
@[simp] theorem Packet.cookie_copyToSpan (pkt : Packet) (bytes : List UInt8) :
    (pkt.copyToSpan bytes).cookie = pkt.cookie := rfl

theorem Packet.copyToSpan_reserved (pkt : Packet) {size : Nat} {rest : List UInt8} (bytes : List UInt8)
    (reserved : pkt.khSpan = some (List.replicate size 0 ++ rest)) (length : bytes.length = size) :
    pkt.copyToSpan bytes = { pkt with khSpan := some (bytes ++ rest) } := by
  subst length
  simp [Packet.copyToSpan, reserved]

-- Modelled from the spec: mcreq_write_hdr.
def mcreqWriteHdr (pkt : Packet) (hdr : ProtocolBinaryRequestHeader) : Packet :=
  pkt.copyToSpan hdr.bytes

def mcreqRoute (cq : CmdQueue) (srvix : Int) (fallbackOk : Bool) : Option PipelineRef :=
  if 0 ≤ srvix ∧ srvix < cq.npipelines then some (.server srvix.toNat)
  else if fallbackOk && cq.hasFallback then some .fallback
  else none

-- Modelled from the spec: mcreq_basic_packet (not under src/).
def mcreqBasicPacket (cq : CmdQueue) (useCollections : Bool) (key : List UInt8) (cid : UInt32)
    (req : ProtocolBinaryRequestHeader) (extlen ffextlen : Nat) (fallbackOk : Bool) :
    CmdQueue × Except LcbStatus (ProtocolBinaryRequestHeader × Packet × PipelineRef) :=
  match cq.config with
  | none => (cq, .error .clientEtmpfail)
  | some config =>
    match mcreqRoute cq (config.mapKey key).2 fallbackOk with
    | none => (cq, .error .noMatchingServer)
    | some pl =>
      match mcreqAllocatePacket cq pl with
      | none => (cq, .error .clientEnomem)
      | some (pkt, cq) =>
        match mcreqReserveKey cq pl pkt (mcreqPktBasesize + extlen + ffextlen) key cid useCollections with
        | (.success, pkt, cq) =>
          (cq, .ok ({ req with
              keylen := UInt16.ofNat (keyWithCollection useCollections false cid key).length
              vbucket := UInt16.ofNat (config.mapKey key).1
              extlen := UInt8.ofNat extlen }, pkt, pl))
        | (err, pkt, cq) => (mcreqReleasePacket cq pl pkt, .error err)

section ReserveSpan

variable (cq : CmdQueue) (pl : PipelineRef) (pkt : Packet) (span : List UInt8)

@[simp] theorem reserveSpan_packet : (reserveSpan cq pl pkt span).2.1 =
    { pkt with khSpan := if span.length ≤ (cq.pipelines pl).nbmgr then some span else none } := by
  unfold reserveSpan; split <;> simp_all

@[simp] theorem schedule_reserveSpan : (reserveSpan cq pl pkt span).2.2.schedule = cq.schedule := by
  unfold reserveSpan; split
  · exact cq.schedule_modifyPipeline_of_keeps pl _ fun p => p.ctxqueued_reserve _
  · rfl

@[simp] theorem routing_reserveSpan : (reserveSpan cq pl pkt span).2.2.routing = cq.routing := by
  unfold reserveSpan; split <;> rfl

@[simp] theorem seq_reserveSpan : (reserveSpan cq pl pkt span).2.2.seq = cq.seq := by
  unfold reserveSpan; split <;> rfl

@[simp] theorem nbmgr_reserveSpan : ((reserveSpan cq pl pkt span).2.2.pipelines pl).nbmgr =
    if span.length ≤ (cq.pipelines pl).nbmgr then (cq.pipelines pl).nbmgr - span.length
    else (cq.pipelines pl).nbmgr := by
  unfold reserveSpan; split <;> simp_all [Pipeline.reserve]

end ReserveSpan

theorem abandons_reserveHeader {cq cq' : CmdQueue} {pl : PipelineRef} {pkt : Packet}
    (allocated : mcreqAllocatePacket cq pl = some (pkt, cq')) :
    cq.Abandons (mcreqReserveHeader cq' pl pkt mcreqPktBasesize).2.2 pl
      (if mcreqPktBasesize ≤ (cq.pipelines pl).nbmgr then mcreqPktBasesize else 0) := by
  unfold mcreqAllocatePacket at allocated
  split_ifs at allocated with empty
  cases allocated
  have taken : ({ cq with seq := cq.seq + 1 }.modifyPipeline pl Pipeline.allocate).pipelines pl =
      (cq.pipelines pl).allocate := by simp
  unfold mcreqReserveHeader reserveSpan
  simp only [List.length_replicate, taken, Pipeline.nbmgr_allocate]
  split_ifs with room
  · refine ⟨fun other apart => by simp [apart], by simp, ?_, ?_, by simp, by simp⟩ <;>
      simp [Pipeline.reserve, Pipeline.allocate] <;> omega
  · refine ⟨fun other apart => by simp [apart], by simp, ?_, by simp, by simp, by simp⟩
    simp [Pipeline.allocate]
    omega

theorem mcreqRoute_live {cq : CmdQueue} {srvix : Int} {fallbackOk : Bool} {pl : PipelineRef}
    (routed : mcreqRoute cq srvix fallbackOk = some pl) : cq.Live pl := by
  unfold mcreqRoute at routed
  split at routed
  · cases routed; simp [CmdQueue.Live]; omega
  · split at routed
    · cases routed; simp_all [CmdQueue.Live]
    · cases routed

-- Modelled from the spec: LCB_SCHED_ADD.
def lcbSchedAdd (cq : CmdQueue) (pl : PipelineRef) (pkt : Packet) : CmdQueue :=
  cq.modifyPipeline pl fun p => p.enqueue pkt

def durabilityFrameBytes (level : UInt8) (timeout : UInt16) : List UInt8 :=
  [(1 : UInt8) <<< 4 ||| 3, level] ++ bytesBE 2 timeout.toNat

@[simp] theorem length_durabilityFrameBytes (level : UInt8) (timeout : UInt16) :
    (durabilityFrameBytes level timeout).length = 4 := rfl

def durabilityFraming (durLevel : UInt8) (newDurabilitySupported : Bool)
    (hdr : ProtocolBinaryRequestHeader) : Except LcbStatus (ProtocolBinaryRequestHeader × Nat) :=
  if durLevel ≠ 0 then
    if newDurabilitySupported then .ok ({ hdr with magic := protocolBinaryAreq }, 4)
    else .error .notSupported
  else .ok (hdr, 0)

theorem durabilityFraming_ok {durLevel : UInt8} {newDurabilitySupported : Bool}
    {hdr hdr' : ProtocolBinaryRequestHeader} {ffextlen : Nat}
    (framed : durabilityFraming durLevel newDurabilitySupported hdr = .ok (hdr', ffextlen)) :
    (durLevel ≠ 0 → newDurabilitySupported = true) ∧ ffextlen = (if durLevel ≠ 0 then 4 else 0) ∧
      hdr' = (if durLevel ≠ 0 then { hdr with magic := protocolBinaryAreq } else hdr) := by
  unfold durabilityFraming at framed
  by_cases durable : durLevel ≠ 0
  · cases newDurabilitySupported <;> simp_all
  · simp_all

theorem durabilityFraming_error {durLevel : UInt8} {newDurabilitySupported : Bool}
    {hdr : ProtocolBinaryRequestHeader} {err : LcbStatus}
    (failed : durabilityFraming durLevel newDurabilitySupported hdr = .error err) :
    err = .notSupported := by
  unfold durabilityFraming at failed
  split_ifs at failed
  cases failed; rfl

-- The checks lcb_remove and lcb_touch share before they fill their request.
def durablePacket (inst : Instance) (key : List UInt8) (cid : UInt32) (durLevel : UInt8)
    (req : ProtocolBinaryRequestHeader) (extlen : Nat)
    (fill : Nat → CmdQueue → ProtocolBinaryRequestHeader → Packet → PipelineRef → LcbStatus × Instance) :
    LcbStatus × Instance :=
  if key = [] then (.emptyKey, inst)
  else match durabilityFraming durLevel inst.supportSyncReplication req with
  | .error err => (err, inst)
  | .ok (hdr, ffextlen) =>
    match mcreqBasicPacket inst.cmdq inst.settings.useCollections key cid hdr extlen ffextlen true with
    | (cq, .error err) => (err, { inst with cmdq := cq })
    | (cq, .ok (hdr, pkt, pl)) => fill ffextlen cq hdr pkt pl

theorem lcbSchedAdd_schedules {cq cq' : CmdQueue} {pl : PipelineRef} {pkt pkt' : Packet}
    (same : pkt = pkt') (live : cq.Live pl) (schedule : cq'.schedule = cq.schedule)
    (routing : cq'.routing = cq.routing) (tagged : pkt'.opaqueId = UInt32.ofNat cq.seq)
    (counter : cq'.seq = cq.seq + 1) : cq.Schedules (lcbSchedAdd cq' pl pkt) pl pkt' := by
  subst same
  refine ⟨live, ?_, by simp [lcbSchedAdd, routing], tagged, counter⟩
  funext other
  by_cases same : other = pl
  · subst same
    simpa [lcbSchedAdd] using congrFun schedule other
  · simp [lcbSchedAdd, same, schedule]

def sampleInstance (room : Nat) : Instance :=
  { cmdq := { config := some ⟨fun _ => (7, 0)⟩, npipelines := 1,
              pipelines := fun _ => ⟨[], 4, room⟩, hasFallback := false, seq := 42 },
    settings := ⟨true⟩, supportSyncReplication := true }

theorem sampleInstance_live {room : Nat} {pl : PipelineRef} (live : (sampleInstance room).cmdq.Live pl) :
    pl = .server 0 := by
  cases pl with
  | server index =>
    have : index < 1 := live
    rw [Nat.lt_one_iff.mp this]
  | fallback => exact absurd (show false = true from live) Bool.false_ne_true

section BasicPacket

variable {cq cq' : CmdQueue} {useCollections : Bool} {key : List UInt8} {cid : UInt32}
  {req hdr : ProtocolBinaryRequestHeader} {extlen ffextlen : Nat} {fallbackOk : Bool}
  {pkt : Packet} {pl : PipelineRef} {err : LcbStatus}

theorem mcreqBasicPacket_error
    (failed : mcreqBasicPacket cq useCollections key cid req extlen ffextlen fallbackOk =
      (cq', .error err)) :
    err ≠ .success ∧ cq.Unchanged cq' := by
  rcases configured : cq.config with _ | config
  · simp only [mcreqBasicPacket, configured, Prod.mk.injEq, Except.error.injEq] at failed
    obtain ⟨rfl, rfl⟩ := failed
    simp
  rcases routed : mcreqRoute cq (config.mapKey key).2 fallbackOk with _ | target
  · simp only [mcreqBasicPacket, configured, routed, Prod.mk.injEq, Except.error.injEq] at failed
    obtain ⟨rfl, rfl⟩ := failed
    simp
  by_cases pool : (cq.pipelines target).reqpool = 0
  · simp only [mcreqBasicPacket, configured, routed, mcreqAllocatePacket, pool, if_true,
      Prod.mk.injEq, Except.error.injEq] at failed
    obtain ⟨rfl, rfl⟩ := failed
    simp
  by_cases room : mcreqPktBasesize + extlen + ffextlen +
      (keyWithCollection useCollections false cid key).length ≤ (cq.pipelines target).nbmgr
  · simp_all [mcreqBasicPacket, mcreqAllocatePacket, mcreqReserveKey, reserveSpan]
  · simp [mcreqBasicPacket, configured, routed, mcreqAllocatePacket, pool, mcreqReserveKey,
      reserveSpan, room] at failed
    obtain ⟨rfl, rfl⟩ := failed
    simp only [mcreqReleasePacket, CmdQueue.modifyPipeline_modifyPipeline, Option.map_none',
      Option.getD_none]
    refine ⟨by simp, CmdQueue.pipelines_modifyPipeline_of_fixed _ _ _ (Pipeline.release_allocate _ pool),
      by simp [CmdQueue.routing, configured], by simp [CmdQueue.modifyPipeline]⟩

theorem mcreqBasicPacket_built
    (ok : mcreqBasicPacket cq useCollections key cid req extlen ffextlen fallbackOk =
      (cq', .ok (hdr, pkt, pl))) :
    ∃ config, cq.config = some config ∧ mcreqRoute cq (config.mapKey key).2 fallbackOk = some pl ∧
      (cq.pipelines pl).reqpool ≠ 0 ∧
      mcreqPktBasesize + extlen + ffextlen + (keyWithCollection useCollections false cid key).length ≤
        (cq.pipelines pl).nbmgr ∧
      hdr = { req with
        keylen := UInt16.ofNat (keyWithCollection useCollections false cid key).length,
        vbucket := UInt16.ofNat (config.mapKey key).1, extlen := UInt8.ofNat extlen } ∧
      pkt = { opaqueId := UInt32.ofNat cq.seq, nocid := false, cookie := 0
              khSpan := some (List.replicate (mcreqPktBasesize + extlen + ffextlen) 0 ++
                keyWithCollection useCollections false cid key) } ∧
      cq' = ({ cq with seq := cq.seq + 1 }.modifyPipeline pl Pipeline.allocate).modifyPipeline pl
        fun p => p.reserve (mcreqPktBasesize + extlen + ffextlen +
          (keyWithCollection useCollections false cid key).length) := by
  rcases configured : cq.config with _ | config
  · simp_all [mcreqBasicPacket]
  rcases routed : mcreqRoute cq (config.mapKey key).2 fallbackOk with _ | target
  · simp_all [mcreqBasicPacket]
  by_cases pool : (cq.pipelines target).reqpool = 0
  · simp_all [mcreqBasicPacket, mcreqAllocatePacket]
  by_cases room : mcreqPktBasesize + extlen + ffextlen +
      (keyWithCollection useCollections false cid key).length ≤ (cq.pipelines target).nbmgr <;>
    simp [mcreqBasicPacket, configured, routed, mcreqAllocatePacket, pool, mcreqReserveKey,
      reserveSpan, room] at ok
  obtain ⟨rfl, ⟨rfl, rfl, rfl⟩⟩ := ok
  exact ⟨config, rfl, routed, pool, room, rfl, rfl, rfl⟩

theorem mcreqBasicPacket_ok
    (ok : mcreqBasicPacket cq useCollections key cid req extlen ffextlen fallbackOk =
      (cq', .ok (hdr, pkt, pl))) :
    ∃ config, cq.config = some config ∧ mcreqRoute cq (config.mapKey key).2 fallbackOk = some pl ∧
      hdr = { req with
        keylen := UInt16.ofNat (keyWithCollection useCollections false cid key).length,
        vbucket := UInt16.ofNat (config.mapKey key).1, extlen := UInt8.ofNat extlen } ∧
      pkt = { opaqueId := UInt32.ofNat cq.seq, nocid := false, cookie := 0
              khSpan := some (List.replicate (mcreqPktBasesize + extlen + ffextlen) 0 ++
                keyWithCollection useCollections false cid key) } ∧
      cq'.schedule = cq.schedule ∧ cq'.routing = cq.routing ∧ cq'.seq = cq.seq + 1 := by
  obtain ⟨config, configured, routed, -, -, rfl, rfl, rfl⟩ := mcreqBasicPacket_built ok
  refine ⟨config, configured, routed, rfl, rfl, ?_, by simp [CmdQueue.routing], rfl⟩
  rw [CmdQueue.schedule_modifyPipeline_of_keeps _ _ _ fun p => p.ctxqueued_reserve _,
    CmdQueue.schedule_allocate, CmdQueue.schedule_seq]

section DurablePacket

variable {inst inst' : Instance} {durLevel : UInt8}
  {fill : Nat → CmdQueue → ProtocolBinaryRequestHeader → Packet → PipelineRef → LcbStatus × Instance}

theorem durablePacket_success
    (sent : durablePacket inst key cid durLevel req extlen fill = (.success, inst')) :
    ∃ hdr0 ffextlen cq hdr pkt pl, key ≠ [] ∧
      durabilityFraming durLevel inst.supportSyncReplication req = .ok (hdr0, ffextlen) ∧
      mcreqBasicPacket inst.cmdq inst.settings.useCollections key cid hdr0 extlen ffextlen true =
        (cq, .ok (hdr, pkt, pl)) ∧
      fill ffextlen cq hdr pkt pl = (.success, inst') := by
  unfold durablePacket at sent
  split_ifs at sent with empty
  · cases sent
  rcases framed : durabilityFraming durLevel inst.supportSyncReplication req with err | ⟨hdr0, ffextlen⟩
  · cases durabilityFraming_error framed
    simp only [framed] at sent
    cases sent
  rcases built : mcreqBasicPacket inst.cmdq inst.settings.useCollections key cid hdr0 extlen ffextlen
      true with ⟨cq, err | ⟨hdr, pkt, pl⟩⟩
  · simp only [framed, built, Prod.mk.injEq] at sent
    exact absurd sent.1 (mcreqBasicPacket_error built).1
  · simp only [framed, built] at sent
    exact ⟨hdr0, ffextlen, cq, hdr, pkt, pl, empty, rfl, built, sent⟩

theorem durablePacket_failure
    (failed : durablePacket inst key cid durLevel req extlen fill = (err, inst'))
    (notOk : err ≠ .success) (fills : ∀ ffextlen cq hdr pkt pl, (fill ffextlen cq hdr pkt pl).1 = .success) :
    inst' = { inst with cmdq := inst'.cmdq } ∧ inst.cmdq.Unchanged inst'.cmdq := by
  unfold durablePacket at failed
  split_ifs at failed
  · cases failed
    simp
  rcases framed : durabilityFraming durLevel inst.supportSyncReplication req with err | ⟨hdr0, ffextlen⟩
  · simp only [framed, Prod.mk.injEq] at failed
    obtain ⟨-, rfl⟩ := failed
    simp
  rcases built : mcreqBasicPacket inst.cmdq inst.settings.useCollections key cid hdr0 extlen ffextlen
      true with ⟨cq, err | ⟨hdr, pkt, pl⟩⟩
  · simp only [framed, built, Prod.mk.injEq] at failed
    obtain ⟨-, rfl⟩ := failed
    exact ⟨rfl, (mcreqBasicPacket_error built).2⟩
  · simp only [framed, built] at failed
    exact absurd ((congrArg Prod.fst failed).symm.trans (fills _ _ _ _ _)) notOk

theorem durablePacket_ready {config : VbConfig} (present : key ≠ [])
    (supported : durLevel ≠ 0 → inst.supportSyncReplication = true) (configured : inst.cmdq.config = some config)
    (routed : mcreqRoute inst.cmdq (config.mapKey key).2 true = some pl)
    (pooled : (inst.cmdq.pipelines pl).reqpool ≠ 0)
    (room : mcreqPktBasesize + extlen + (if durLevel ≠ 0 then 4 else 0) +
      (keyWithCollection inst.settings.useCollections false cid key).length ≤ (inst.cmdq.pipelines pl).nbmgr)
    (fills : ∀ ffextlen cq hdr pkt pl, (fill ffextlen cq hdr pkt pl).1 = .success) :
    (durablePacket inst key cid durLevel req extlen fill).1 = .success := by
  by_cases durable : durLevel = 0 <;>
    simp [durablePacket, present, durabilityFraming, durable, supported, mcreqBasicPacket, configured, routed,
      mcreqAllocatePacket, pooled, mcreqReserveKey, reserveSpan, fills] at room ⊢ <;>
    simp [room, fills]

end DurablePacket

theorem mcreqBasicPacket_header (req req' : ProtocolBinaryRequestHeader) :
    mcreqBasicPacket cq useCollections key cid req' extlen ffextlen fallbackOk =
      ((mcreqBasicPacket cq useCollections key cid req extlen ffextlen fallbackOk).1,
        (mcreqBasicPacket cq useCollections key cid req extlen ffextlen fallbackOk).2.map fun filled =>
          ({ req' with keylen := filled.1.keylen, vbucket := filled.1.vbucket,
                       extlen := filled.1.extlen }, filled.2)) := by
  unfold mcreqBasicPacket
  split
  · rfl
  split
  · rfl
  split
  · rfl
  split <;> rfl

end BasicPacket

end CouchbaseKv
