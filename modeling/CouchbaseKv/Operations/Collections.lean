import CouchbaseKv.Shared.Mcreq

set_option autoImplicit false

namespace CouchbaseKv

-- none while the pointer is NULL.
structure CmdGetcid where
  scope : Option (List UInt8)
  collection : Option (List UInt8)
  deriving DecidableEq, Repr

-- calloc'd: both pointers NULL.
def lcbCmdgetcidCreate : LcbStatus × CmdGetcid := (.success, ⟨none, none⟩)

def lcbCmdgetcidScope (cmd : CmdGetcid) (scope : Option (List UInt8)) : LcbStatus × CmdGetcid :=
  (.success, { cmd with scope := scope })

def lcbCmdgetcidCollection (cmd : CmdGetcid) (collection : Option (List UInt8)) :
    LcbStatus × CmdGetcid :=
  (.success, { cmd with collection := collection })

def getmanifestHeader (opaqueId : UInt32) : ProtocolBinaryRequestHeader :=
  { ProtocolBinaryRequestHeader.zero with
    magic := protocolBinaryReq, opcode := protocolBinaryCmdCollectionsGetManifest,
    datatype := protocolBinaryRawBytes, opaqueId := opaqueId }

def lcbGetmanifest (inst : Instance) (cookie : Nat) : LcbStatus × Instance :=
  let cq := inst.cmdq
  if cq.config.isNone then (.clientEtmpfail, inst)
  else if !inst.settings.useCollections then (.notSupported, inst)
  else if cq.npipelines < 1 then (.noMatchingServer, inst)
  else
    let pl := PipelineRef.server 0
    match mcreqAllocatePacket cq pl with
    | none => (.clientEnomem, inst)
    | some (pkt, cq) =>
      let (_, pkt, cq) := mcreqReserveHeader cq pl pkt mcreqPktBasesize
      let pkt := { pkt.copyToSpan (getmanifestHeader pkt.opaqueId).bytes with cookie := cookie }
      (.success, { inst with cmdq := lcbSchedAdd cq pl pkt })

def collectionPath (scope collection : List UInt8) : List UInt8 := scope ++ [0x2e] ++ collection

@[simp] theorem length_collectionPath (scope collection : List UInt8) :
    (collectionPath scope collection).length = scope.length + 1 + collection.length := by
  simp [collectionPath]; omega

-- Key length and body length are the path's length through ntohs and htonl: modulo 2^16 and 2^32.
def getcidHeader (opaqueId : UInt32) (path : List UInt8) : ProtocolBinaryRequestHeader :=
  { ProtocolBinaryRequestHeader.zero with
    magic := protocolBinaryReq, opcode := protocolBinaryCmdCollectionsGetCid,
    datatype := protocolBinaryRawBytes, opaqueId := opaqueId,
    keylen := UInt16.ofNat path.length, bodylen := UInt32.ofNat path.length }

-- How a call ends: it returns a status, or std::bad_alloc escapes from it.
inductive Outcome
  | returns (status : LcbStatus)
  | throwsBadAlloc
  deriving DecidableEq, Repr

-- newOk says whether operator new gives the std::string path its memory.
def lcbGetcid (inst : Instance) (cookie : Nat) (cmd : CmdGetcid) (newOk : Bool) : Outcome × Instance :=
  let cq := inst.cmdq
  if cq.config.isNone then (.returns .clientEtmpfail, inst)
  else if !inst.settings.useCollections then (.returns .notSupported, inst)
  else match cmd.scope, cmd.collection with
  | some scope, some collection =>
    if scope = [] ∨ collection = [] then (.returns .einval, inst)
    else if cq.npipelines < 1 then (.returns .noMatchingServer, inst)
    else
      let pl := PipelineRef.server 0
      match mcreqAllocatePacket cq pl with
      | none => (.returns .clientEnomem, inst)
      | some (pkt, cq) =>
        let (_, pkt, cq) := mcreqReserveHeader cq pl pkt mcreqPktBasesize
        if newOk then
          let path := collectionPath scope collection
          let pkt := { pkt with nocid := true }
          let (_, pkt, cq) :=
            mcreqReserveKey cq pl pkt mcreqPktBasesize path 0 inst.settings.useCollections
          let pkt := { mcreqWriteHdr pkt (getcidHeader pkt.opaqueId path) with cookie := cookie }
          (.returns .success, { inst with cmdq := lcbSchedAdd cq pl pkt })
        else (.throwsBadAlloc, { inst with cmdq := cq })
  | _, _ => (.returns .einval, inst)

section Spec

variable {inst inst' : Instance} {cookie : Nat} {cmd : CmdGetcid} {newOk : Bool} {err : LcbStatus}

theorem lcbGetmanifest_success (sent : lcbGetmanifest inst cookie = (.success, inst')) :
    inst.cmdq.config.isSome ∧ inst.settings.useCollections = true ∧ 0 < inst.cmdq.npipelines ∧
      inst' = { inst with cmdq := inst'.cmdq } ∧
      inst.cmdq.Schedules inst'.cmdq (.server 0)
        { opaqueId := UInt32.ofNat inst.cmdq.seq, nocid := false, cookie := cookie
          khSpan := if mcreqPktBasesize ≤ (inst.cmdq.pipelines (.server 0)).nbmgr
            then some (getmanifestHeader (UInt32.ofNat inst.cmdq.seq)).bytes else none } := by
  rcases configured : inst.cmdq.config with _ | config
  · simp [lcbGetmanifest, configured] at sent
  by_cases collections : inst.settings.useCollections = true; swap
  · simp [lcbGetmanifest, configured, collections] at sent
  by_cases served : inst.cmdq.npipelines < 1
  · simp [lcbGetmanifest, configured, collections, served] at sent
  by_cases pooled : (inst.cmdq.pipelines (.server 0)).reqpool = 0
  · simp [lcbGetmanifest, configured, collections, served, mcreqAllocatePacket, pooled] at sent
  simp only [lcbGetmanifest, configured, collections, served, mcreqAllocatePacket_of_pooled _ _ pooled,
    mcreqReserveHeader, Option.isNone_some, Bool.not_true, if_false, Bool.false_eq_true, Prod.mk.injEq,
    true_and] at sent
  subst sent
  have live : inst.cmdq.Live (.server 0) := by show 0 < _; omega
  refine ⟨rfl, collections, by omega, rfl, ?_⟩
  simp only [reserveSpan_packet, Packet.opaqueId_copyToSpan, Packet.nocid_copyToSpan]
  refine lcbSchedAdd_schedules ?_ live ?_ ?_ rfl ?_
  · by_cases room : mcreqPktBasesize ≤ (inst.cmdq.pipelines (.server 0)).nbmgr <;>
      simp [Packet.copyToSpan, room]
  · simp only [schedule_reserveSpan, CmdQueue.schedule_allocate]; rfl
  · rw [routing_reserveSpan, CmdQueue.modifyPipeline_routing]
    simp [CmdQueue.routing, configured]
  · simp only [seq_reserveSpan, CmdQueue.modifyPipeline_seq]

theorem lcbGetmanifest_failure (failed : lcbGetmanifest inst cookie = (err, inst'))
    (notOk : err ≠ .success) : inst' = inst := by
  simp only [lcbGetmanifest] at failed
  split_ifs at failed <;> try exact (Prod.mk.inj failed).2.symm
  split at failed
  · exact (Prod.mk.inj failed).2.symm
  · exact absurd (Prod.mk.inj failed).1.symm notOk

theorem lcbGetcid_failure (failed : lcbGetcid inst cookie cmd newOk = (.returns err, inst'))
    (notOk : err ≠ .success) : inst' = inst := by
  obtain ⟨_ | scope, _ | collection⟩ := cmd <;> simp only [lcbGetcid] at failed <;>
    split_ifs at failed <;> try exact (Prod.mk.inj failed).2.symm
  all_goals split at failed
  all_goals first
    | exact (Prod.mk.inj failed).2.symm
    | exact absurd (Outcome.returns.inj (Prod.mk.inj failed).1).symm notOk
    | cases (Prod.mk.inj failed).1

theorem lcbGetcid_throws (threw : lcbGetcid inst cookie cmd newOk = (.throwsBadAlloc, inst')) :
    newOk = false ∧ inst' = { inst with cmdq := inst'.cmdq } ∧
      inst.cmdq.Abandons inst'.cmdq (.server 0)
        (if mcreqPktBasesize ≤ (inst.cmdq.pipelines (.server 0)).nbmgr then mcreqPktBasesize else 0) := by
  obtain ⟨_ | scope, _ | collection⟩ := cmd <;> simp only [lcbGetcid] at threw <;>
    split_ifs at threw <;> try cases (Prod.mk.inj threw).1
  all_goals split at threw
  all_goals try cases (Prod.mk.inj threw).1
  rename_i refused _ _ _ allocated
  obtain ⟨-, rfl⟩ := Prod.mk.inj threw
  exact ⟨by simpa using refused, rfl, abandons_reserveHeader allocated⟩

theorem lcbGetcid_success (sent : lcbGetcid inst cookie cmd newOk = (.returns .success, inst')) :
    ∃ scope collection, cmd.scope = some scope ∧ cmd.collection = some collection ∧
      scope ≠ [] ∧ collection ≠ [] ∧
      inst.cmdq.config.isSome ∧ inst.settings.useCollections = true ∧ 0 < inst.cmdq.npipelines ∧
      inst' = { inst with cmdq := inst'.cmdq } ∧
      inst.cmdq.Schedules inst'.cmdq (.server 0)
        { opaqueId := UInt32.ofNat inst.cmdq.seq, nocid := true, cookie := cookie
          khSpan := if mcreqPktBasesize + (mcreqPktBasesize + (collectionPath scope collection).length) ≤
              (inst.cmdq.pipelines (.server 0)).nbmgr
            then some ((getcidHeader (UInt32.ofNat inst.cmdq.seq) (collectionPath scope collection)).bytes ++
              collectionPath scope collection)
            else none } := by
  rcases configured : inst.cmdq.config with _ | config
  · simp [lcbGetcid, configured] at sent
  by_cases collections : inst.settings.useCollections = true; swap
  · simp [lcbGetcid, configured, collections] at sent
  rcases named : cmd.scope with _ | scope
  · simp [lcbGetcid, configured, collections, named] at sent
  rcases chosen : cmd.collection with _ | collection
  · simp [lcbGetcid, configured, collections, named, chosen] at sent
  by_cases empty : scope = [] ∨ collection = []
  · simp only [lcbGetcid, configured, collections, named, chosen, empty] at sent
    simp at sent
  by_cases served : inst.cmdq.npipelines < 1
  · simp [lcbGetcid, configured, collections, named, chosen, empty, served] at sent
  by_cases pooled : (inst.cmdq.pipelines (.server 0)).reqpool = 0
  · simp [lcbGetcid, configured, collections, named, chosen, empty, served, mcreqAllocatePacket, pooled] at sent
  cases newOk
  · simp [lcbGetcid, configured, collections, named, chosen, empty, served,
      mcreqAllocatePacket_of_pooled _ _ pooled] at sent
  simp only [lcbGetcid, configured, collections, named, chosen, empty, served,
    mcreqAllocatePacket_of_pooled _ _ pooled, mcreqReserveHeader, mcreqReserveKey, Option.isNone_some,
    Bool.not_true, if_false, Bool.false_eq_true, ↓reduceIte, Prod.mk.injEq, true_and] at sent
  subst sent
  have live : inst.cmdq.Live (.server 0) := by show 0 < _; omega
  refine ⟨scope, collection, rfl, rfl, by tauto, by tauto, rfl, collections, by omega, rfl, ?_⟩
  simp only [reserveSpan_packet, mcreqWriteHdr, Packet.opaqueId_copyToSpan, Packet.nocid_copyToSpan, keyWithCollection_nocid]
  refine lcbSchedAdd_schedules ?_ live ?_ ?_ rfl ?_
  · simp only [Packet.copyToSpan, reserveSpan_packet, nbmgr_reserveSpan, CmdQueue.modifyPipeline_pipelines,
      if_true, Pipeline.nbmgr_allocate, List.length_append, List.length_replicate]
    split_ifs <;> first | omega | simp
  · simp only [schedule_reserveSpan, CmdQueue.schedule_allocate]; rfl
  · rw [routing_reserveSpan, routing_reserveSpan, CmdQueue.modifyPipeline_routing]
    simp [CmdQueue.routing, configured]
  · simp only [seq_reserveSpan, CmdQueue.modifyPipeline_seq]
end Spec

theorem outcome_eq_success {α : Type} {outcome : α × Instance} {status : α} (ok : outcome.1 = status) :
    outcome = (status, outcome.2) := Prod.ext ok rfl

section Ready

variable (inst : Instance) (cookie : Nat)
  (configured : inst.cmdq.config.isSome) (collections : inst.settings.useCollections = true)
  (served : 0 < inst.cmdq.npipelines) (pooled : (inst.cmdq.pipelines (.server 0)).reqpool ≠ 0)
include configured collections served pooled

theorem lcbGetmanifest_ready : (lcbGetmanifest inst cookie).1 = .success := by
  simp [lcbGetmanifest, Option.isNone_iff_eq_none, ← Option.not_isSome_iff_eq_none, configured,
    collections, Nat.not_lt.mpr served, mcreqAllocatePacket_of_pooled _ _ pooled]

theorem lcbGetcid_ready (scope collection : List UInt8) (named : scope ≠ [] ∧ collection ≠ []) :
    (lcbGetcid inst cookie ⟨some scope, some collection⟩ true).1 = .returns .success := by
  simp [lcbGetcid, Option.isNone_iff_eq_none, ← Option.not_isSome_iff_eq_none, configured,
    collections, Nat.not_lt.mpr served, mcreqAllocatePacket_of_pooled _ _ pooled, named]

theorem schedules_unreserved (exhausted : (inst.cmdq.pipelines (.server 0)).nbmgr < mcreqPktBasesize)
    (scope collection : List UInt8) (named : scope ≠ [] ∧ collection ≠ []) :
    (lcbGetmanifest inst cookie).1 = .success ∧
      inst.cmdq.Schedules (lcbGetmanifest inst cookie).2.cmdq (.server 0)
        { opaqueId := UInt32.ofNat inst.cmdq.seq, nocid := false, khSpan := none, cookie := cookie } ∧
      (lcbGetcid inst cookie ⟨some scope, some collection⟩ true).1 = .returns .success ∧
      inst.cmdq.Schedules (lcbGetcid inst cookie ⟨some scope, some collection⟩ true).2.cmdq (.server 0)
        { opaqueId := UInt32.ofNat inst.cmdq.seq, nocid := true, khSpan := none, cookie := cookie } := by
  have manifest := lcbGetmanifest_ready inst cookie configured collections served pooled
  have cid := lcbGetcid_ready inst cookie configured collections served pooled scope collection named
  obtain ⟨-, -, -, -, manifestScheduled⟩ := lcbGetmanifest_success (outcome_eq_success manifest)
  obtain ⟨_, _, named, chosen, -, -, -, -, -, -, cidScheduled⟩ := lcbGetcid_success (outcome_eq_success cid)
  cases Option.some.inj named
  cases Option.some.inj chosen
  refine ⟨manifest, ?_, cid, ?_⟩
  · simpa [Nat.not_le.mpr exhausted] using manifestScheduled
  · have : ¬ mcreqPktBasesize + (mcreqPktBasesize + (collectionPath scope collection).length) ≤
        (inst.cmdq.pipelines (.server 0)).nbmgr := by omega
    simpa only [this, if_false] using cidScheduled

end Ready

theorem schedules_unreserved_sample :
    (sampleInstance 10).cmdq.config.isSome ∧ (sampleInstance 10).settings.useCollections = true ∧
      0 < (sampleInstance 10).cmdq.npipelines ∧ ((sampleInstance 10).cmdq.pipelines (.server 0)).reqpool ≠ 0 ∧
      ((sampleInstance 10).cmdq.pipelines (.server 0)).nbmgr < mcreqPktBasesize ∧
      ([0x5f] ≠ [] ∧ [0x63] ≠ []) ∧
      ((lcbGetmanifest (sampleInstance 10) 0).1 = .success ∧
      (sampleInstance 10).cmdq.Schedules (lcbGetmanifest (sampleInstance 10) 0).2.cmdq (.server 0)
        { opaqueId := 42, nocid := false, khSpan := none, cookie := 0 } ∧
      (lcbGetcid (sampleInstance 10) 0 ⟨some [0x5f], some [0x63]⟩ true).1 = .returns .success ∧
      (sampleInstance 10).cmdq.Schedules (lcbGetcid (sampleInstance 10) 0 ⟨some [0x5f], some [0x63]⟩ true).2.cmdq
        (.server 0) { opaqueId := 42, nocid := true, khSpan := none, cookie := 0 }) :=
  ⟨rfl, rfl, by decide, by decide, by decide, by decide,
    schedules_unreserved (sampleInstance 10) 0 rfl rfl (by decide) (by decide) (by decide) [0x5f] [0x63]
      (by decide)⟩

theorem decodeRequest_getmanifest (opaqueId : UInt32) :
    decodeRequest (getmanifestHeader opaqueId).bytes =
      some ({ magic := protocolBinaryReq.toNat, opcode := protocolBinaryCmdCollectionsGetManifest.toNat,
              datatype := protocolBinaryRawBytes.toNat, vbucket := 0, opaqueId := opaqueId.toNat, cas := 0,
              framingExtras := [], extras := [], key := [], value := [] }, []) := by
  simpa [getmanifestHeader] using
    decodeRequest_req_payload (getmanifestHeader opaqueId) [] [] rfl rfl (le_refl 0) (le_refl 0)

theorem decodeRequest_getcid (opaqueId : UInt32) (path : List UInt8) :
    decodeRequest ((getcidHeader opaqueId path).bytes ++ path) =
      some ({ magic := protocolBinaryReq.toNat, opcode := protocolBinaryCmdCollectionsGetCid.toNat,
              datatype := protocolBinaryRawBytes.toNat, vbucket := 0, opaqueId := opaqueId.toNat, cas := 0,
              framingExtras := [], extras := [], key := path.take (path.length % 2^16),
              value := (path.drop (path.length % 2^16)).take (path.length % 2^32 - path.length % 2^16) },
            path.drop (path.length % 2^32)) := by
  simpa [getcidHeader] using decodeRequest_req_payload (getcidHeader opaqueId path) [] path rfl rfl
    (by simpa [getcidHeader] using mod_two_pow_16_le_mod_two_pow_32 path.length)
    (by simpa [getcidHeader] using Nat.mod_le path.length (2 ^ 32))

theorem collectionPath_inj {scope scope' collection collection' : List UInt8}
    (undotted : 0x2e ∉ scope) (undotted' : 0x2e ∉ scope')
    (same : collectionPath scope collection = collectionPath scope' collection') :
    scope = scope' ∧ collection = collection' := by
  induction scope generalizing scope' with
  | nil =>
    cases scope' with
    | nil => simpa [collectionPath] using same
    | cons byte rest =>
      simp only [collectionPath, List.nil_append, List.cons_append, List.singleton_append,
        List.cons.injEq] at same
      simp [← same.1] at undotted'
  | cons byte rest ih =>
    cases scope' with
    | nil =>
      simp only [collectionPath, List.nil_append, List.cons_append, List.singleton_append,
        List.cons.injEq] at same
      simp [same.1] at undotted
    | cons byte' rest' =>
      simp only [collectionPath, List.cons_append, List.cons.injEq] at same
      obtain ⟨rfl, same⟩ := same
      have tails := ih (List.not_mem_of_not_mem_cons undotted) (List.not_mem_of_not_mem_cons undotted') same
      exact ⟨by rw [tails.1], tails.2⟩

section Scheduled

variable {inst inst' : Instance} {cookie : Nat} {cmd : CmdGetcid} {newOk : Bool} {pl : PipelineRef} {pkt : Packet}

theorem lcbGetmanifest_request (sent : lcbGetmanifest inst cookie = (.success, inst'))
    (scheduled : inst.cmdq.Schedules inst'.cmdq pl pkt) (reserved : pkt.khSpan.isSome) :
    ∃ span, pkt.khSpan = some span ∧
      decodeRequest span =
        some ({ magic := protocolBinaryReq.toNat, opcode := protocolBinaryCmdCollectionsGetManifest.toNat,
                datatype := protocolBinaryRawBytes.toNat, vbucket := 0, opaqueId := pkt.opaqueId.toNat,
                cas := 0, framingExtras := [], extras := [], key := [], value := [] }, []) := by
  obtain ⟨-, -, -, -, built⟩ := lcbGetmanifest_success sent
  obtain ⟨-, rfl⟩ := built.unique scheduled
  split_ifs at reserved ⊢ with room
  · exact ⟨_, rfl, decodeRequest_getmanifest _⟩
  · simp at reserved

theorem lcbGetcid_reserved_packet (sent : lcbGetcid inst cookie cmd newOk = (.returns .success, inst'))
    (scheduled : inst.cmdq.Schedules inst'.cmdq pl pkt) (reserved : pkt.khSpan.isSome) :
    ∃ scope collection, cmd = ⟨some scope, some collection⟩ ∧ pkt.nocid = true ∧
      pkt.khSpan = some ((getcidHeader pkt.opaqueId (collectionPath scope collection)).bytes ++
        collectionPath scope collection) := by
  obtain ⟨scope, collection, named, chosen, -, -, -, -, -, -, built⟩ := lcbGetcid_success sent
  obtain ⟨-, rfl⟩ := built.unique scheduled
  refine ⟨scope, collection, by cases cmd; simp_all, rfl, ?_⟩
  split_ifs at reserved ⊢ with room
  · rfl
  · simp at reserved

theorem lcbGetcid_key_layout (sent : lcbGetcid inst cookie cmd newOk = (.returns .success, inst'))
    (scheduled : inst.cmdq.Schedules inst'.cmdq pl pkt) (reserved : pkt.khSpan.isSome) :
    ∃ scope collection span, cmd = ⟨some scope, some collection⟩ ∧ pkt.nocid = true ∧
      pkt.khSpan = some span ∧ span.drop mcreqPktBasesize = collectionPath scope collection ∧
      ∃ decoded rest, decodeRequest span = some (decoded, rest) ∧
        decoded.opcode = protocolBinaryCmdCollectionsGetCid.toNat ∧ decoded.extras = [] ∧
        decoded.key = (collectionPath scope collection).take
          ((collectionPath scope collection).length % 2 ^ 16) ∧
        decoded.key.length + decoded.value.length = (collectionPath scope collection).length % 2 ^ 32 ∧
        (decoded.key = collectionPath scope collection ↔ (collectionPath scope collection).length < 2 ^ 16) := by
  obtain ⟨scope, collection, rfl, flagged, span⟩ := lcbGetcid_reserved_packet sent scheduled reserved
  refine ⟨scope, collection, _, rfl, flagged, span, List.drop_left' (by simp), _, _,
    decodeRequest_getcid _ _, rfl, rfl, rfl, ?_, ?_⟩
  · have keyBody := mod_two_pow_16_le_mod_two_pow_32 (collectionPath scope collection).length
    have bodyWithin := Nat.mod_le (collectionPath scope collection).length (2 ^ 32)
    simp only [List.length_take, List.length_drop]
    omega
  · rw [List.take_eq_self_iff]
    constructor
    · intro whole
      exact lt_of_le_of_lt whole (Nat.mod_lt _ (by norm_num))
    · intro short
      rw [Nat.mod_eq_of_lt short]

end Scheduled

theorem lcbGetmanifest_request_sample :
    let packet : Packet :=
      { opaqueId := 42, nocid := false, cookie := 0, khSpan := some (getmanifestHeader 42).bytes }
    lcbGetmanifest (sampleInstance 100) 0 = (.success, (lcbGetmanifest (sampleInstance 100) 0).2) ∧
    (sampleInstance 100).cmdq.Schedules (lcbGetmanifest (sampleInstance 100) 0).2.cmdq (.server 0) packet ∧
    packet.khSpan.isSome ∧
    ∃ span, packet.khSpan = some span ∧
      decodeRequest span =
        some ({ magic := protocolBinaryReq.toNat, opcode := protocolBinaryCmdCollectionsGetManifest.toNat,
                datatype := protocolBinaryRawBytes.toNat, vbucket := 0, opaqueId := packet.opaqueId.toNat,
                cas := 0, framingExtras := [], extras := [], key := [], value := [] }, []) := by
  intro packet
  have sent : lcbGetmanifest (sampleInstance 100) 0 = (.success, (lcbGetmanifest (sampleInstance 100) 0).2) :=
    outcome_eq_success (lcbGetmanifest_ready (sampleInstance 100) 0 rfl rfl (by decide) (by decide))
  obtain ⟨-, -, -, -, built⟩ := lcbGetmanifest_success sent
  have scheduled : (sampleInstance 100).cmdq.Schedules (lcbGetmanifest (sampleInstance 100) 0).2.cmdq
      (.server 0) packet := by
    simpa [sampleInstance, mcreqPktBasesize] using built
  exact ⟨sent, scheduled, rfl, lcbGetmanifest_request sent scheduled rfl⟩

theorem sample_getcid_scheduled (collection : List UInt8) (named : collection ≠ [])
    (short : collection.length ≤ 50) :
    (sampleInstance 100).cmdq.Schedules (lcbGetcid (sampleInstance 100) 0 ⟨some [0x73], some collection⟩ true).2.cmdq
      (.server 0)
      { opaqueId := 42, nocid := true, cookie := 0,
        khSpan := some ((getcidHeader 42 (collectionPath [0x73] collection)).bytes ++
          collectionPath [0x73] collection) } := by
  obtain ⟨_, _, scope, chosen, -, -, -, -, -, -, scheduled⟩ := lcbGetcid_success (outcome_eq_success
    (lcbGetcid_ready (sampleInstance 100) 0 rfl rfl (by decide) (by decide) [0x73] collection ⟨by decide, named⟩))
  cases Option.some.inj scope
  cases Option.some.inj chosen
  have room : mcreqPktBasesize + (mcreqPktBasesize + (collectionPath [0x73] collection).length) ≤
      ((sampleInstance 100).cmdq.pipelines (.server 0)).nbmgr := by
    simp only [length_collectionPath, mcreqPktBasesize, sampleInstance]; simp; omega
  simpa only [room, if_true] using scheduled

theorem lcbGetcid_key_layout_sample :
    let cmd : CmdGetcid := ⟨some [0x73], some [0x63]⟩
    let packet : Packet :=
      { opaqueId := 42, nocid := true, cookie := 0,
        khSpan := some ((getcidHeader 42 (collectionPath [0x73] [0x63])).bytes ++ collectionPath [0x73] [0x63]) }
    lcbGetcid (sampleInstance 100) 0 cmd true = (.returns .success, (lcbGetcid (sampleInstance 100) 0 cmd true).2) ∧
    (sampleInstance 100).cmdq.Schedules (lcbGetcid (sampleInstance 100) 0 cmd true).2.cmdq (.server 0) packet ∧
    packet.khSpan.isSome ∧
    ∃ scope collection span, cmd = ⟨some scope, some collection⟩ ∧ packet.nocid = true ∧
      packet.khSpan = some span ∧ span.drop mcreqPktBasesize = collectionPath scope collection ∧
      ∃ decoded rest, decodeRequest span = some (decoded, rest) ∧
        decoded.opcode = protocolBinaryCmdCollectionsGetCid.toNat ∧ decoded.extras = [] ∧
        decoded.key = (collectionPath scope collection).take
          ((collectionPath scope collection).length % 2 ^ 16) ∧
        decoded.key.length + decoded.value.length = (collectionPath scope collection).length % 2 ^ 32 ∧
        (decoded.key = collectionPath scope collection ↔ (collectionPath scope collection).length < 2 ^ 16) := by
  intro cmd packet
  have sent : lcbGetcid (sampleInstance 100) 0 cmd true =
      (.returns .success, (lcbGetcid (sampleInstance 100) 0 cmd true).2) := outcome_eq_success rfl
  have scheduled := sample_getcid_scheduled [0x63] (by decide) (by decide)
  exact ⟨sent, scheduled, rfl, lcbGetcid_key_layout sent scheduled rfl⟩

theorem getcid_long_path_truncated :
    ∃ inst' span, lcbGetcid (sampleInstance (2 ^ 17)) 0 ⟨some (List.replicate 65535 0x61), some [0x63]⟩ true =
        (.returns .success, inst') ∧
      (inst'.cmdq.schedule (.server 0)).map Packet.khSpan = [some span] ∧
      (collectionPath (List.replicate 65535 0x61) [0x63]).length = 65537 ∧
      (decodeRequest span).map (fun decoded => decoded.1.key) = some [0x61] := by
  have length : (collectionPath (List.replicate 65535 0x61) [0x63]).length = 65537 := by
    rw [length_collectionPath, List.length_replicate, List.length_singleton]
  have ready := lcbGetcid_ready (sampleInstance (2 ^ 17)) 0 rfl rfl (by decide) (by decide)
    (List.replicate 65535 0x61) [0x63]
    ⟨List.ne_nil_of_length_pos (by rw [List.length_replicate]; norm_num), List.cons_ne_nil _ _⟩
  obtain ⟨_, _, scope, chosen, -, -, -, -, -, -, scheduled⟩ := lcbGetcid_success (outcome_eq_success ready)
  cases Option.some.inj scope
  cases Option.some.inj chosen
  have room : mcreqPktBasesize + (mcreqPktBasesize + (collectionPath (List.replicate 65535 0x61) [0x63]).length) ≤
      ((sampleInstance (2 ^ 17)).cmdq.pipelines (.server 0)).nbmgr := by
    rw [length]; decide
  refine ⟨_, (getcidHeader 42 (collectionPath (List.replicate 65535 0x61) [0x63])).bytes ++
    collectionPath (List.replicate 65535 0x61) [0x63], outcome_eq_success ready, ?_, length, ?_⟩
  · rw [scheduled.schedule]
    simp only [Function.update_same, room, if_true]
    rfl
  · rw [decodeRequest_getcid, length]
    simp only [Nat.reducePow, Nat.reduceMod, Option.map_some']
    rw [collectionPath, List.append_assoc, List.take_append_of_le_length (by rw [List.length_replicate]; norm_num),
      List.take_replicate]
    rfl

theorem lcbGetcid_keys_distinct {inst inst' other other' : Instance} {cookie otherCookie : Nat}
    {cmd otherCmd : CmdGetcid} {newOk otherNewOk : Bool} {pl otherPl : PipelineRef} {pkt otherPkt : Packet}
    (sent : lcbGetcid inst cookie cmd newOk = (.returns .success, inst'))
    (otherSent : lcbGetcid other otherCookie otherCmd otherNewOk = (.returns .success, other'))
    (scheduled : inst.cmdq.Schedules inst'.cmdq pl pkt)
    (otherScheduled : other.cmdq.Schedules other'.cmdq otherPl otherPkt)
    (reserved : pkt.khSpan.isSome) (otherReserved : otherPkt.khSpan.isSome)
    (undotted : ∀ scope, cmd.scope = some scope → 0x2e ∉ scope)
    (otherUndotted : ∀ scope, otherCmd.scope = some scope → 0x2e ∉ scope)
    (different : cmd ≠ otherCmd) :
    pkt.khSpan.map (List.drop mcreqPktBasesize) ≠ otherPkt.khSpan.map (List.drop mcreqPktBasesize) := by
  obtain ⟨scope, collection, rfl, -, span⟩ := lcbGetcid_reserved_packet sent scheduled reserved
  obtain ⟨scope', collection', rfl, -, otherSpan⟩ :=
    lcbGetcid_reserved_packet otherSent otherScheduled otherReserved
  rw [span, otherSpan]
  intro same
  simp only [Option.map_some', Option.some.injEq] at same
  rw [List.drop_left' (by simp), List.drop_left' (by simp)] at same
  obtain ⟨rfl, rfl⟩ := collectionPath_inj (undotted scope rfl) (otherUndotted scope' rfl) same
  exact different rfl

theorem lcbGetcid_keys_distinct_sample :
    let first : CmdGetcid := ⟨some [0x73], some [0x61]⟩
    let second : CmdGetcid := ⟨some [0x73], some [0x62]⟩
    let packet := fun collection : List UInt8 =>
      ({ opaqueId := 42, nocid := true, cookie := 0,
         khSpan := some ((getcidHeader 42 (collectionPath [0x73] collection)).bytes ++
           collectionPath [0x73] collection) } : Packet)
    lcbGetcid (sampleInstance 100) 0 first true =
      (.returns .success, (lcbGetcid (sampleInstance 100) 0 first true).2) ∧
    lcbGetcid (sampleInstance 100) 0 second true =
      (.returns .success, (lcbGetcid (sampleInstance 100) 0 second true).2) ∧
    (sampleInstance 100).cmdq.Schedules (lcbGetcid (sampleInstance 100) 0 first true).2.cmdq (.server 0)
      (packet [0x61]) ∧
    (sampleInstance 100).cmdq.Schedules (lcbGetcid (sampleInstance 100) 0 second true).2.cmdq (.server 0)
      (packet [0x62]) ∧
    (packet [0x61]).khSpan.isSome ∧ (packet [0x62]).khSpan.isSome ∧
    (∀ scope, first.scope = some scope → 0x2e ∉ scope) ∧ (∀ scope, second.scope = some scope → 0x2e ∉ scope) ∧
    first ≠ second ∧
    (packet [0x61]).khSpan.map (List.drop mcreqPktBasesize) ≠
      (packet [0x62]).khSpan.map (List.drop mcreqPktBasesize) := by
  intro first second packet
  have undotted : ∀ scope, some [0x73] = some scope → (0x2e : UInt8) ∉ scope := by
    rintro _ ⟨⟩; decide
  have sentFirst : lcbGetcid (sampleInstance 100) 0 first true =
      (.returns .success, (lcbGetcid (sampleInstance 100) 0 first true).2) := outcome_eq_success rfl
  have sentSecond : lcbGetcid (sampleInstance 100) 0 second true =
      (.returns .success, (lcbGetcid (sampleInstance 100) 0 second true).2) := outcome_eq_success rfl
  have scheduledFirst := sample_getcid_scheduled [0x61] (by decide) (by decide)
  have scheduledSecond := sample_getcid_scheduled [0x62] (by decide) (by decide)
  exact ⟨sentFirst, sentSecond, scheduledFirst, scheduledSecond, rfl, rfl, undotted, undotted, by decide,
    lcbGetcid_keys_distinct sentFirst sentSecond scheduledFirst scheduledSecond rfl rfl undotted undotted
      (by decide)⟩

theorem getcid_path_collision :
    (⟨some [0x61, 0x2e, 0x62], some [0x63]⟩ : CmdGetcid) ≠ ⟨some [0x61], some [0x62, 0x2e, 0x63]⟩ ∧
      ∀ inst cookie, lcbGetcid inst cookie ⟨some [0x61, 0x2e, 0x62], some [0x63]⟩ =
        lcbGetcid inst cookie ⟨some [0x61], some [0x62, 0x2e, 0x63]⟩ :=
  ⟨by decide, fun _ _ => rfl⟩

end CouchbaseKv
