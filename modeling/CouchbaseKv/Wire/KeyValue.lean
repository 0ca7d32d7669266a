import CouchbaseKv.Operations.Remove
import CouchbaseKv.Operations.Touch

set_option autoImplicit false

namespace CouchbaseKv

section Decode

variable (key : List UInt8) (vbucket seq : Nat)

theorem decodeRequest_remove_cut (cmd : CmdRemove) (plain : cmd.durLevel = 0) :
    decodeRequest ((removeHeader cmd key vbucket seq).bytes ++ key) =
      some ({ magic := protocolBinaryReq.toNat, opcode := protocolBinaryCmdDelete.toNat,
              datatype := protocolBinaryRawBytes.toNat, vbucket := vbucket % 2 ^ 16, opaqueId := seq % 2 ^ 32,
              cas := cmd.cas.toNat, framingExtras := [], extras := [],
              key := key.take (key.length % 2 ^ 16), value := [] }, key.drop (key.length % 2 ^ 16)) := by
  have keylen : (removeHeader cmd key vbucket seq).keylen.toNat = key.length % 2 ^ 16 := rfl
  have bodylen : (removeHeader cmd key vbucket seq).bodylen.toNat = key.length % 2 ^ 16 := by
    change ((if cmd.durLevel ≠ 0 then 4 else 0) + key.length % 2 ^ 16) % 2 ^ 32 = _
    simp only [plain, ne_eq, not_true_eq_false, if_false, Nat.zero_add]
    exact Nat.mod_eq_of_lt (by omega)
  have decoded := decodeRequest_req_payload (removeHeader cmd key vbucket seq) [] key rfl rfl
    (by simp [keylen, bodylen]) (by simpa [bodylen] using Nat.mod_le _ _)
  rw [keylen, bodylen] at decoded
  simpa using decoded

theorem decodeRequest_remove_plain (cmd : CmdRemove) (plain : cmd.durLevel = 0) (short : key.length < 2 ^ 16) :
    decodeRequest ((removeHeader cmd key vbucket seq).bytes ++ key) =
      some ({ magic := protocolBinaryReq.toNat, opcode := protocolBinaryCmdDelete.toNat,
              datatype := protocolBinaryRawBytes.toNat, vbucket := vbucket % 2 ^ 16, opaqueId := seq % 2 ^ 32,
              cas := cmd.cas.toNat, framingExtras := [], extras := [], key := key, value := [] }, []) := by
  have cut := decodeRequest_remove_cut key vbucket seq cmd plain
  rwa [Nat.mod_eq_of_lt short, List.take_length, List.drop_length] at cut

theorem decodeRequest_remove_durable (cmd : CmdRemove) (durable : cmd.durLevel ≠ 0) :
    decodeRequest ((removeHeader cmd key vbucket seq).bytes ++
        durabilityFrameBytes cmd.durLevel cmd.durTimeout ++ key) =
      some ({ magic := protocolBinaryReq.toNat, opcode := protocolBinaryCmdDelete.toNat,
              datatype := protocolBinaryRawBytes.toNat, vbucket := vbucket % 2 ^ 16, opaqueId := seq % 2 ^ 32,
              cas := cmd.cas.toNat, framingExtras := [], extras := [],
              key := (durabilityFrameBytes cmd.durLevel cmd.durTimeout ++ key).take (key.length % 2 ^ 16),
              value := ((durabilityFrameBytes cmd.durLevel cmd.durTimeout ++ key).drop
                (key.length % 2 ^ 16)).take 4 },
            (durabilityFrameBytes cmd.durLevel cmd.durTimeout ++ key).drop (4 + key.length % 2 ^ 16)) := by
  have bodylen : (removeHeader cmd key vbucket seq).bodylen.toNat = 4 + key.length % 2 ^ 16 := by
    change ((if cmd.durLevel ≠ 0 then 4 else 0) + key.length % 2 ^ 16) % 2 ^ 32 = _
    simp only [durable, ne_eq, not_false_eq_true, if_true]
    exact Nat.mod_eq_of_lt (by omega)
  have keylen : (removeHeader cmd key vbucket seq).keylen.toNat = key.length % 2 ^ 16 := rfl
  have decoded := decodeRequest_req_payload (removeHeader cmd key vbucket seq) []
    (durabilityFrameBytes cmd.durLevel cmd.durTimeout ++ key) rfl rfl
    (by simp only [keylen, bodylen, List.length_nil]; omega) (by simp [bodylen]; omega)
  simp only [keylen, bodylen, List.length_nil, Nat.sub_zero, Nat.add_sub_cancel, List.append_nil] at decoded
  rw [List.append_assoc]
  exact decoded

theorem decodeRequest_touch_cut (cmd : CmdTouch) (plain : cmd.durLevel = 0) :
    decodeRequest ((touchHeader cmd key vbucket seq).bytes ++ touchBody cmd ++ key) =
      some ({ magic := protocolBinaryReq.toNat, opcode := protocolBinaryCmdTouch.toNat,
              datatype := protocolBinaryRawBytes.toNat, vbucket := vbucket % 2 ^ 16, opaqueId := seq % 2 ^ 32,
              cas := 0, framingExtras := [], extras := bytesBE 4 cmd.exptime.toNat,
              key := key.take (key.length % 2 ^ 16), value := [] }, key.drop (key.length % 2 ^ 16)) := by
  have keylen : (touchHeader cmd key vbucket seq).keylen.toNat = key.length % 2 ^ 16 := rfl
  have bodylen : (touchHeader cmd key vbucket seq).bodylen.toNat = 4 + key.length % 2 ^ 16 := by
    change (4 + (if cmd.durLevel ≠ 0 then 4 else 0) + key.length % 2 ^ 16) % 2 ^ 32 = _
    simp only [plain, ne_eq, not_true_eq_false, if_false, Nat.add_zero]
    exact Nat.mod_eq_of_lt (by omega)
  have decoded := decodeRequest_req_payload (touchHeader cmd key vbucket seq) (bytesBE 4 cmd.exptime.toNat)
    key rfl rfl (by simp [keylen, bodylen]) (by simpa [bodylen] using Nat.mod_le _ _)
  simp only [keylen, bodylen, length_bytesBE, Nat.add_sub_cancel_left, Nat.sub_self,
    List.take_zero] at decoded
  simpa [touchBody, plain] using decoded

theorem decodeRequest_touch_plain (cmd : CmdTouch) (plain : cmd.durLevel = 0) (short : key.length < 2 ^ 16) :
    decodeRequest ((touchHeader cmd key vbucket seq).bytes ++ touchBody cmd ++ key) =
      some ({ magic := protocolBinaryReq.toNat, opcode := protocolBinaryCmdTouch.toNat,
              datatype := protocolBinaryRawBytes.toNat, vbucket := vbucket % 2 ^ 16, opaqueId := seq % 2 ^ 32,
              cas := 0, framingExtras := [], extras := bytesBE 4 cmd.exptime.toNat, key := key,
              value := [] }, []) := by
  have cut := decodeRequest_touch_cut key vbucket seq cmd plain
  rwa [Nat.mod_eq_of_lt short, List.take_length, List.drop_length] at cut

theorem decodeRequest_touch_durable (cmd : CmdTouch) (durable : cmd.durLevel ≠ 0) :
    decodeRequest ((touchHeader cmd key vbucket seq).bytes ++ touchBody cmd ++ key) =
      some ({ magic := protocolBinaryReq.toNat, opcode := protocolBinaryCmdTouch.toNat,
              datatype := protocolBinaryRawBytes.toNat, vbucket := vbucket % 2 ^ 16, opaqueId := seq % 2 ^ 32,
              cas := 0, framingExtras := [], extras := durabilityFrameBytes cmd.durLevel cmd.durTimeout,
              key := (bytesBE 4 cmd.exptime.toNat ++ key).take (key.length % 2 ^ 16),
              value := ((bytesBE 4 cmd.exptime.toNat ++ key).drop (key.length % 2 ^ 16)).take 4 },
            (bytesBE 4 cmd.exptime.toNat ++ key).drop (4 + key.length % 2 ^ 16)) := by
  have keylen : (touchHeader cmd key vbucket seq).keylen.toNat = key.length % 2 ^ 16 := rfl
  have bodylen : (touchHeader cmd key vbucket seq).bodylen.toNat = 4 + (4 + key.length % 2 ^ 16) := by
    change (4 + (if cmd.durLevel ≠ 0 then 4 else 0) + key.length % 2 ^ 16) % 2 ^ 32 = _
    simp only [durable, ne_eq, not_false_eq_true, if_true, Nat.add_assoc]
    exact Nat.mod_eq_of_lt (by omega)
  have decoded := decodeRequest_req_payload (touchHeader cmd key vbucket seq)
    (durabilityFrameBytes cmd.durLevel cmd.durTimeout) (bytesBE 4 cmd.exptime.toNat ++ key) rfl rfl
    (by simp only [keylen, bodylen, length_durabilityFrameBytes]; omega) (by simp [bodylen]; omega)
  simp only [keylen, bodylen, length_durabilityFrameBytes, Nat.add_sub_cancel_left, Nat.add_sub_cancel]
    at decoded
  simpa [touchBody, durable, List.append_assoc] using decoded

end Decode

section Scheduled

variable {inst inst' : Instance} {cookie : Nat} {pl : PipelineRef} {pkt : Packet}

theorem lcbRemove_scheduled_packet {cmd : CmdRemove} (sent : lcbRemove inst cookie cmd = (.success, inst'))
    (scheduled : inst.cmdq.Schedules inst'.cmdq pl pkt) :
    ∃ config, inst.cmdq.config = some config ∧
      pkt = { opaqueId := UInt32.ofNat inst.cmdq.seq, nocid := false, cookie := cookie
              khSpan := some ((removeHeader cmd
                  (keyWithCollection inst.settings.useCollections false cmd.cid cmd.key)
                  (config.mapKey cmd.key).1 inst.cmdq.seq).bytes ++
                (if cmd.durLevel ≠ 0 then durabilityFrameBytes cmd.durLevel cmd.durTimeout else []) ++
                keyWithCollection inst.settings.useCollections false cmd.cid cmd.key) } := by
  obtain ⟨config, _, configured, -, built⟩ := lcbRemove_success sent
  exact ⟨config, configured, (built.unique scheduled).2.symm⟩

theorem lcbTouch_scheduled_packet {cmd : CmdTouch} {tcmd : ProtocolBinaryRequestTouch}
    (sent : lcbTouch inst cookie cmd tcmd = (.success, inst'))
    (scheduled : inst.cmdq.Schedules inst'.cmdq pl pkt) :
    ∃ config, inst.cmdq.config = some config ∧
      pkt = { opaqueId := UInt32.ofNat inst.cmdq.seq, nocid := false, cookie := cookie
              khSpan := some ((touchHeader cmd
                  (keyWithCollection inst.settings.useCollections false cmd.cid cmd.key)
                  (config.mapKey cmd.key).1 inst.cmdq.seq).bytes ++ touchBody cmd ++
                keyWithCollection inst.settings.useCollections false cmd.cid cmd.key) } := by
  obtain ⟨config, _, configured, -, built⟩ := lcbTouch_success sent
  exact ⟨config, configured, (built.unique scheduled).2.symm⟩

theorem lcbRemove_plain_frame {cmd : CmdRemove} (sent : lcbRemove inst cookie cmd = (.success, inst'))
    (plain : cmd.durLevel = 0)
    (short : (keyWithCollection inst.settings.useCollections false cmd.cid cmd.key).length < 2 ^ 16)
    (scheduled : inst.cmdq.Schedules inst'.cmdq pl pkt) :
    ∃ config span, inst.cmdq.config = some config ∧ pkt.khSpan = some span ∧
      decodeRequest span =
        some ({ magic := protocolBinaryReq.toNat, opcode := protocolBinaryCmdDelete.toNat,
                datatype := protocolBinaryRawBytes.toNat, vbucket := (config.mapKey cmd.key).1 % 2 ^ 16,
                opaqueId := pkt.opaqueId.toNat, cas := cmd.cas.toNat, framingExtras := [], extras := [],
                key := keyWithCollection inst.settings.useCollections false cmd.cid cmd.key,
                value := [] }, []) := by
  obtain ⟨config, configured, rfl⟩ := lcbRemove_scheduled_packet sent scheduled
  simp only [plain, ne_eq, not_true_eq_false, if_false, List.append_nil]
  exact ⟨config, _, configured, rfl, decodeRequest_remove_plain _ _ _ _ plain short⟩

theorem lcbTouch_plain_frame {cmd : CmdTouch} {tcmd : ProtocolBinaryRequestTouch}
    (sent : lcbTouch inst cookie cmd tcmd = (.success, inst')) (plain : cmd.durLevel = 0)
    (short : (keyWithCollection inst.settings.useCollections false cmd.cid cmd.key).length < 2 ^ 16)
    (scheduled : inst.cmdq.Schedules inst'.cmdq pl pkt) :
    ∃ config span, inst.cmdq.config = some config ∧ pkt.khSpan = some span ∧
      decodeRequest span =
        some ({ magic := protocolBinaryReq.toNat, opcode := protocolBinaryCmdTouch.toNat,
                datatype := protocolBinaryRawBytes.toNat, vbucket := (config.mapKey cmd.key).1 % 2 ^ 16,
                opaqueId := pkt.opaqueId.toNat, cas := 0, framingExtras := [],
                extras := bytesBE 4 cmd.exptime.toNat,
                key := keyWithCollection inst.settings.useCollections false cmd.cid cmd.key,
                value := [] }, []) := by
  obtain ⟨config, configured, rfl⟩ := lcbTouch_scheduled_packet sent scheduled
  exact ⟨config, _, configured, rfl, decodeRequest_touch_plain _ _ _ _ plain short⟩

end Scheduled

theorem sample_remove_ready (room : Nat) (cmd : CmdRemove) (present : cmd.key ≠ []) (plain : cmd.durLevel = 0)
    (fits : mcreqPktBasesize + (keyWithCollection true false cmd.cid cmd.key).length ≤ room) :
    (lcbRemove (sampleInstance room) 0 cmd).1 = .success :=
  lcbRemove_ready present (fun durable => absurd plain durable) rfl rfl (by simp [sampleInstance])
    (by simpa [plain, sampleInstance] using fits)

theorem sample_touch_ready (room : Nat) (cmd : CmdTouch) (stack : ProtocolBinaryRequestTouch)
    (present : cmd.key ≠ []) (plain : cmd.durLevel = 0)
    (fits : mcreqPktBasesize + 4 + (keyWithCollection true false cmd.cid cmd.key).length ≤ room) :
    (lcbTouch (sampleInstance room) 0 cmd stack).1 = .success :=
  lcbTouch_ready present (fun durable => absurd plain durable) rfl rfl (by simp [sampleInstance])
    (by simpa [plain, sampleInstance] using fits)

theorem sample_remove_scheduled (room : Nat) (cmd : CmdRemove)
    (sent : (lcbRemove (sampleInstance room) 0 cmd).1 = .success) :
    (sampleInstance room).cmdq.Schedules (lcbRemove (sampleInstance room) 0 cmd).2.cmdq (.server 0)
      { opaqueId := 42, nocid := false, cookie := 0,
        khSpan := some ((removeHeader cmd (keyWithCollection true false cmd.cid cmd.key) 7 42).bytes ++
          (if cmd.durLevel ≠ 0 then durabilityFrameBytes cmd.durLevel cmd.durTimeout else []) ++
          keyWithCollection true false cmd.cid cmd.key) } := by
  obtain ⟨config, pl, configured, -, built⟩ := lcbRemove_success (Prod.ext sent rfl)
  cases Option.some.inj configured
  cases sampleInstance_live built.live
  exact built

theorem sample_remove_plain_scheduled (room : Nat) (cmd : CmdRemove)
    (sent : (lcbRemove (sampleInstance room) 0 cmd).1 = .success) (plain : cmd.durLevel = 0) :
    (sampleInstance room).cmdq.Schedules (lcbRemove (sampleInstance room) 0 cmd).2.cmdq (.server 0)
      { opaqueId := 42, nocid := false, cookie := 0,
        khSpan := some ((removeHeader cmd (keyWithCollection true false cmd.cid cmd.key) 7 42).bytes ++
          keyWithCollection true false cmd.cid cmd.key) } := by
  simpa [plain] using sample_remove_scheduled room cmd sent

theorem sample_touch_scheduled (room : Nat) (cmd : CmdTouch) (stack : ProtocolBinaryRequestTouch)
    (sent : (lcbTouch (sampleInstance room) 0 cmd stack).1 = .success) :
    (sampleInstance room).cmdq.Schedules (lcbTouch (sampleInstance room) 0 cmd stack).2.cmdq (.server 0)
      { opaqueId := 42, nocid := false, cookie := 0,
        khSpan := some ((touchHeader cmd (keyWithCollection true false cmd.cid cmd.key) 7 42).bytes ++
          touchBody cmd ++ keyWithCollection true false cmd.cid cmd.key) } := by
  obtain ⟨config, pl, configured, -, built⟩ := lcbTouch_success (Prod.ext sent rfl)
  cases Option.some.inj configured
  cases sampleInstance_live built.live
  exact built

theorem durability_frame_misread :
    (∀ {inst inst' : Instance} {cookie : Nat} {cmd : CmdRemove} {pl : PipelineRef} {pkt : Packet},
      lcbRemove inst cookie cmd = (.success, inst') → cmd.durLevel ≠ 0 →
      inst.cmdq.Schedules inst'.cmdq pl pkt →
      ∃ span decoded rest, pkt.khSpan = some span ∧ decodeRequest span = some (decoded, rest) ∧
        decoded.magic = protocolBinaryReq.toNat ∧ decoded.framingExtras = [] ∧
        decoded.key = (durabilityFrameBytes cmd.durLevel cmd.durTimeout ++
          keyWithCollection inst.settings.useCollections false cmd.cid cmd.key).take
            ((keyWithCollection inst.settings.useCollections false cmd.cid cmd.key).length % 2 ^ 16)) ∧
    (∀ {inst inst' : Instance} {cookie : Nat} {cmd : CmdTouch} {tcmd : ProtocolBinaryRequestTouch}
      {pl : PipelineRef} {pkt : Packet},
      lcbTouch inst cookie cmd tcmd = (.success, inst') → cmd.durLevel ≠ 0 →
      inst.cmdq.Schedules inst'.cmdq pl pkt →
      ∃ span decoded rest, pkt.khSpan = some span ∧ decodeRequest span = some (decoded, rest) ∧
        decoded.magic = protocolBinaryReq.toNat ∧ decoded.framingExtras = [] ∧
        decoded.extras = durabilityFrameBytes cmd.durLevel cmd.durTimeout) := by
  constructor
  · intro inst inst' cookie cmd pl pkt sent durable scheduled
    obtain ⟨config, -, rfl⟩ := lcbRemove_scheduled_packet sent scheduled
    simp only [durable, ne_eq, not_false_eq_true, if_true]
    exact ⟨_, _, _, rfl, decodeRequest_remove_durable _ _ _ _ durable, rfl, rfl, rfl⟩
  · intro inst inst' cookie cmd tcmd pl pkt sent durable scheduled
    obtain ⟨config, -, rfl⟩ := lcbTouch_scheduled_packet sent scheduled
    exact ⟨_, _, _, rfl, decodeRequest_touch_durable _ _ _ _ durable, rfl, rfl, rfl⟩

theorem durability_frame_misread_sample :
    let remove : CmdRemove := ⟨[0x6b], 0, 1, 0, 0⟩
    let touch : CmdTouch := ⟨[0x6b], 0, 1, 0, 0⟩
    let stack : ProtocolBinaryRequestTouch := ⟨.zero, [1, 2, 3, 4, 5, 6, 7, 8], rfl⟩
    let removePacket : Packet :=
      { opaqueId := 42, nocid := false, cookie := 0,
        khSpan := some ((removeHeader remove [0, 0x6b] 7 42).bytes ++ durabilityFrameBytes 1 0 ++ [0, 0x6b]) }
    let touchPacket : Packet :=
      { opaqueId := 42, nocid := false, cookie := 0,
        khSpan := some ((touchHeader touch [0, 0x6b] 7 42).bytes ++ touchBody touch ++ [0, 0x6b]) }
    (lcbRemove (sampleInstance 100) 0 remove = (.success, (lcbRemove (sampleInstance 100) 0 remove).2) ∧
      remove.durLevel ≠ 0 ∧
      (sampleInstance 100).cmdq.Schedules (lcbRemove (sampleInstance 100) 0 remove).2.cmdq (.server 0)
        removePacket ∧
      ∃ span decoded rest, removePacket.khSpan = some span ∧ decodeRequest span = some (decoded, rest) ∧
        decoded.magic = protocolBinaryReq.toNat ∧ decoded.framingExtras = [] ∧
        decoded.key = (durabilityFrameBytes 1 0 ++ [0, 0x6b]).take 2) ∧
    (lcbTouch (sampleInstance 100) 0 touch stack = (.success, (lcbTouch (sampleInstance 100) 0 touch stack).2) ∧
      touch.durLevel ≠ 0 ∧
      (sampleInstance 100).cmdq.Schedules (lcbTouch (sampleInstance 100) 0 touch stack).2.cmdq (.server 0)
        touchPacket ∧
      ∃ span decoded rest, touchPacket.khSpan = some span ∧ decodeRequest span = some (decoded, rest) ∧
        decoded.magic = protocolBinaryReq.toNat ∧ decoded.framingExtras = [] ∧
        decoded.extras = durabilityFrameBytes 1 0) := by
  intro remove touch stack removePacket touchPacket
  have removed : lcbRemove (sampleInstance 100) 0 remove =
      (.success, (lcbRemove (sampleInstance 100) 0 remove).2) := Prod.ext rfl rfl
  have touched : lcbTouch (sampleInstance 100) 0 touch stack =
      (.success, (lcbTouch (sampleInstance 100) 0 touch stack).2) := Prod.ext rfl rfl
  have removeScheduled := sample_remove_scheduled 100 remove rfl
  have touchScheduled := sample_touch_scheduled 100 touch stack rfl
  exact ⟨⟨removed, by decide, removeScheduled,
      durability_frame_misread.1 removed (by decide) removeScheduled⟩,
    ⟨touched, by decide, touchScheduled, durability_frame_misread.2 touched (by decide) touchScheduled⟩⟩

theorem plain_request_round_trip :
    (∀ {inst inst' : Instance} {cookie : Nat} {cmd : CmdRemove} {pl : PipelineRef} {pkt : Packet},
      lcbRemove inst cookie cmd = (.success, inst') → cmd.durLevel = 0 →
      (keyWithCollection inst.settings.useCollections false cmd.cid cmd.key).length < 2 ^ 16 →
      inst.cmdq.Schedules inst'.cmdq pl pkt →
      ∃ config span, inst.cmdq.config = some config ∧ pkt.khSpan = some span ∧
        decodeRequest span =
          some ({ magic := protocolBinaryReq.toNat, opcode := protocolBinaryCmdDelete.toNat,
                  datatype := protocolBinaryRawBytes.toNat, vbucket := (config.mapKey cmd.key).1 % 2 ^ 16,
                  opaqueId := pkt.opaqueId.toNat, cas := cmd.cas.toNat, framingExtras := [], extras := [],
                  key := keyWithCollection inst.settings.useCollections false cmd.cid cmd.key,
                  value := [] }, [])) ∧
    (∀ {inst inst' : Instance} {cookie : Nat} {cmd : CmdTouch} {tcmd : ProtocolBinaryRequestTouch}
      {pl : PipelineRef} {pkt : Packet},
      lcbTouch inst cookie cmd tcmd = (.success, inst') → cmd.durLevel = 0 →
      (keyWithCollection inst.settings.useCollections false cmd.cid cmd.key).length < 2 ^ 16 →
      inst.cmdq.Schedules inst'.cmdq pl pkt →
      ∃ config span, inst.cmdq.config = some config ∧ pkt.khSpan = some span ∧
        decodeRequest span =
          some ({ magic := protocolBinaryReq.toNat, opcode := protocolBinaryCmdTouch.toNat,
                  datatype := protocolBinaryRawBytes.toNat, vbucket := (config.mapKey cmd.key).1 % 2 ^ 16,
                  opaqueId := pkt.opaqueId.toNat, cas := 0, framingExtras := [],
                  extras := bytesBE 4 cmd.exptime.toNat,
                  key := keyWithCollection inst.settings.useCollections false cmd.cid cmd.key,
                  value := [] }, [])) :=
  ⟨lcbRemove_plain_frame, lcbTouch_plain_frame⟩

theorem plain_request_round_trip_sample :
    let remove : CmdRemove := ⟨[0x6b], 5, 0, 0, 0⟩
    let touch : CmdTouch := ⟨[0x6b], 60, 0, 0, 0⟩
    let stack : ProtocolBinaryRequestTouch := ⟨.zero, [1, 2, 3, 4, 5, 6, 7, 8], rfl⟩
    let removePacket : Packet :=
      { opaqueId := 42, nocid := false, cookie := 0,
        khSpan := some ((removeHeader remove [0, 0x6b] 7 42).bytes ++ [0, 0x6b]) }
    let touchPacket : Packet :=
      { opaqueId := 42, nocid := false, cookie := 0,
        khSpan := some ((touchHeader touch [0, 0x6b] 7 42).bytes ++ touchBody touch ++ [0, 0x6b]) }
    (lcbRemove (sampleInstance 100) 0 remove = (.success, (lcbRemove (sampleInstance 100) 0 remove).2) ∧
      remove.durLevel = 0 ∧ [0, 0x6b].length < 2 ^ 16 ∧
      (sampleInstance 100).cmdq.Schedules (lcbRemove (sampleInstance 100) 0 remove).2.cmdq (.server 0)
        removePacket ∧
      ∃ config span, (sampleInstance 100).cmdq.config = some config ∧ removePacket.khSpan = some span ∧
        decodeRequest span =
          some ({ magic := protocolBinaryReq.toNat, opcode := protocolBinaryCmdDelete.toNat,
                  datatype := protocolBinaryRawBytes.toNat, vbucket := (config.mapKey [0x6b]).1 % 2 ^ 16,
                  opaqueId := 42, cas := 5, framingExtras := [], extras := [], key := [0, 0x6b],
                  value := [] }, [])) ∧
    (lcbTouch (sampleInstance 100) 0 touch stack = (.success, (lcbTouch (sampleInstance 100) 0 touch stack).2) ∧
      touch.durLevel = 0 ∧ [0, 0x6b].length < 2 ^ 16 ∧
      (sampleInstance 100).cmdq.Schedules (lcbTouch (sampleInstance 100) 0 touch stack).2.cmdq (.server 0)
        touchPacket ∧
      ∃ config span, (sampleInstance 100).cmdq.config = some config ∧ touchPacket.khSpan = some span ∧
        decodeRequest span =
          some ({ magic := protocolBinaryReq.toNat, opcode := protocolBinaryCmdTouch.toNat,
                  datatype := protocolBinaryRawBytes.toNat, vbucket := (config.mapKey [0x6b]).1 % 2 ^ 16,
                  opaqueId := 42, cas := 0, framingExtras := [], extras := bytesBE 4 60, key := [0, 0x6b],
                  value := [] }, [])) := by
  intro remove touch stack removePacket touchPacket
  have removed : lcbRemove (sampleInstance 100) 0 remove =
      (.success, (lcbRemove (sampleInstance 100) 0 remove).2) := Prod.ext rfl rfl
  have touched : lcbTouch (sampleInstance 100) 0 touch stack =
      (.success, (lcbTouch (sampleInstance 100) 0 touch stack).2) := Prod.ext rfl rfl
  have removeScheduled := sample_remove_plain_scheduled 100 remove rfl rfl
  have touchScheduled := sample_touch_scheduled 100 touch stack rfl
  exact ⟨⟨removed, rfl, by decide, removeScheduled,
      plain_request_round_trip.1 removed rfl (by decide) removeScheduled⟩,
    ⟨touched, rfl, by decide, touchScheduled,
      plain_request_round_trip.2 touched rfl (by decide) touchScheduled⟩⟩

theorem collection_names_unused :
    (∀ {inst inst' : Instance} {cookie : Nat} {cmd : CmdRemove} {scope collection : List UInt8}
      {pl : PipelineRef} {pkt : Packet},
      lcbRemove inst cookie (lcbCmdremoveCollection cmd scope collection).2 = (.success, inst') →
      inst.cmdq.Schedules inst'.cmdq pl pkt →
      (lcbCmdremoveCollection cmd scope collection).1 = .success ∧ pkt.nocid = false ∧
      ∃ header, pkt.khSpan = some (header ++ keyWithCollection inst.settings.useCollections false cmd.cid cmd.key) ∧
        header.length = mcreqPktBasesize + (if cmd.durLevel ≠ 0 then 4 else 0)) ∧
    (∀ {inst inst' : Instance} {cookie : Nat} {cmd : CmdTouch} {tcmd : ProtocolBinaryRequestTouch}
      {scope collection : List UInt8} {pl : PipelineRef} {pkt : Packet},
      lcbTouch inst cookie (lcbCmdtouchCollection cmd scope collection).2 tcmd = (.success, inst') →
      inst.cmdq.Schedules inst'.cmdq pl pkt →
      (lcbCmdtouchCollection cmd scope collection).1 = .success ∧ pkt.nocid = false ∧
      ∃ header, pkt.khSpan = some (header ++ keyWithCollection inst.settings.useCollections false cmd.cid cmd.key) ∧
        header.length = mcreqPktBasesize + 4 + (if cmd.durLevel ≠ 0 then 4 else 0)) := by
  constructor
  · intro inst inst' cookie cmd scope collection pl pkt sent scheduled
    obtain ⟨config, -, rfl⟩ := lcbRemove_scheduled_packet sent scheduled
    refine ⟨rfl, rfl, _, rfl, ?_⟩
    by_cases durable : cmd.durLevel = 0 <;> simp [lcbCmdremoveCollection, durable, mcreqPktBasesize]
  · intro inst inst' cookie cmd tcmd scope collection pl pkt sent scheduled
    obtain ⟨config, -, rfl⟩ := lcbTouch_scheduled_packet sent scheduled
    refine ⟨rfl, rfl, _, rfl, ?_⟩
    by_cases durable : cmd.durLevel = 0 <;> simp [lcbCmdtouchCollection, touchBody, durable, mcreqPktBasesize]

theorem collection_names_unused_sample :
    let remove : CmdRemove := ⟨[0x6b], 0, 0, 0, 0⟩
    let touch : CmdTouch := ⟨[0x6b], 0, 0, 0, 0⟩
    let stack : ProtocolBinaryRequestTouch := ⟨.zero, [1, 2, 3, 4, 5, 6, 7, 8], rfl⟩
    let removed := (lcbCmdremoveCollection remove [0x73] [0x63]).2
    let touched := (lcbCmdtouchCollection touch [0x73] [0x63]).2
    let removePacket : Packet :=
      { opaqueId := 42, nocid := false, cookie := 0,
        khSpan := some ((removeHeader removed [0, 0x6b] 7 42).bytes ++ [0, 0x6b]) }
    let touchPacket : Packet :=
      { opaqueId := 42, nocid := false, cookie := 0,
        khSpan := some ((touchHeader touched [0, 0x6b] 7 42).bytes ++ touchBody touched ++ [0, 0x6b]) }
    (lcbRemove (sampleInstance 100) 0 removed = (.success, (lcbRemove (sampleInstance 100) 0 removed).2) ∧
      (sampleInstance 100).cmdq.Schedules (lcbRemove (sampleInstance 100) 0 removed).2.cmdq (.server 0)
        removePacket ∧
      (lcbCmdremoveCollection remove [0x73] [0x63]).1 = .success ∧ removePacket.nocid = false ∧
      ∃ header, removePacket.khSpan = some (header ++ [0, 0x6b]) ∧ header.length = mcreqPktBasesize + 0) ∧
    (lcbTouch (sampleInstance 100) 0 touched stack =
        (.success, (lcbTouch (sampleInstance 100) 0 touched stack).2) ∧
      (sampleInstance 100).cmdq.Schedules (lcbTouch (sampleInstance 100) 0 touched stack).2.cmdq (.server 0)
        touchPacket ∧
      (lcbCmdtouchCollection touch [0x73] [0x63]).1 = .success ∧ touchPacket.nocid = false ∧
      ∃ header, touchPacket.khSpan = some (header ++ [0, 0x6b]) ∧ header.length = mcreqPktBasesize + 4 + 0) := by
  intro remove touch stack removed touched removePacket touchPacket
  have removeSent : lcbRemove (sampleInstance 100) 0 removed =
      (.success, (lcbRemove (sampleInstance 100) 0 removed).2) := Prod.ext rfl rfl
  have touchSent : lcbTouch (sampleInstance 100) 0 touched stack =
      (.success, (lcbTouch (sampleInstance 100) 0 touched stack).2) := Prod.ext rfl rfl
  have removeScheduled := sample_remove_plain_scheduled 100 removed rfl rfl
  have touchScheduled := sample_touch_scheduled 100 touched stack rfl
  exact ⟨⟨removeSent, removeScheduled, collection_names_unused.1 removeSent removeScheduled⟩,
    ⟨touchSent, touchScheduled, collection_names_unused.2 touchSent touchScheduled⟩⟩

end CouchbaseKv
