import CouchbaseKv.Wire.KeyValue

set_option autoImplicit false

namespace CouchbaseKv

inductive RemoveSetter
  | timeout (timeout : UInt32)
  | collectionId (cid : UInt32)
  | collection (scope collection : List UInt8)
  | key (key : List UInt8)
  | cas (cas : UInt64)
  | durability (level : UInt8)

def RemoveSetter.apply : RemoveSetter → CmdRemove → LcbStatus × CmdRemove
  | .timeout value, cmd => lcbCmdremoveTimeout cmd value
  | .collectionId cid, cmd => lcbCmdremoveCollectionId cmd cid
  | .collection scopeName collectionName, cmd => lcbCmdremoveCollection cmd scopeName collectionName
  | .key bytes, cmd => lcbCmdremoveKey cmd bytes
  | .cas value, cmd => lcbCmdremoveCas cmd value
  | .durability level, cmd => lcbCmdremoveDurability cmd level

inductive TouchSetter
  | timeout (timeout : UInt32)
  | collectionId (cid : UInt32)
  | collection (scope collection : List UInt8)
  | key (key : List UInt8)
  | expiration (expiration : UInt32)
  | durability (level : UInt8)

def TouchSetter.apply : TouchSetter → CmdTouch → LcbStatus × CmdTouch
  | .timeout value, cmd => lcbCmdtouchTimeout cmd value
  | .collectionId cid, cmd => lcbCmdtouchCollectionId cmd cid
  | .collection scopeName collectionName, cmd => lcbCmdtouchCollection cmd scopeName collectionName
  | .key bytes, cmd => lcbCmdtouchKey cmd bytes
  | .expiration value, cmd => lcbCmdtouchExpiration cmd value
  | .durability level, cmd => lcbCmdtouchDurability cmd level

def buildRemove (setters : List RemoveSetter) : CmdRemove :=
  setters.foldl (fun cmd setter => (setter.apply cmd).2) lcbCmdremoveCreate

def buildTouch (setters : List TouchSetter) : CmdTouch :=
  setters.foldl (fun cmd setter => (setter.apply cmd).2) lcbCmdtouchCreate

-- lcb_cmd*_timeout stores nothing and lcb_cmd*_durability resets the timeout.
theorem RemoveSetter.durTimeout_apply (setter : RemoveSetter) {cmd : CmdRemove} (zero : cmd.durTimeout = 0) :
    (setter.apply cmd).2.durTimeout = 0 := by
  cases setter <;> first | exact zero | rfl

theorem TouchSetter.durTimeout_apply (setter : TouchSetter) {cmd : CmdTouch} (zero : cmd.durTimeout = 0) :
    (setter.apply cmd).2.durTimeout = 0 := by
  cases setter <;> first | exact zero | rfl

theorem buildRemove_durTimeout (setters : List RemoveSetter) : (buildRemove setters).durTimeout = 0 :=
  List.foldlRecOn (motive := fun cmd => cmd.durTimeout = 0) setters _ lcbCmdremoveCreate rfl
    fun _ zero setter _ => setter.durTimeout_apply zero

theorem buildTouch_durTimeout (setters : List TouchSetter) : (buildTouch setters).durTimeout = 0 :=
  List.foldlRecOn (motive := fun cmd => cmd.durTimeout = 0) setters _ lcbCmdtouchCreate rfl
    fun _ zero setter _ => setter.durTimeout_apply zero

theorem durabilityFrameBytes_zero (level : UInt8) : durabilityFrameBytes level 0 = [0x13, level, 0, 0] := rfl

theorem built_durability_timeout_zero :
    (∀ (setters : List RemoveSetter) {inst inst' : Instance} {cookie : Nat} {pl : PipelineRef}
      {pkt : Packet},
      lcbRemove inst cookie (buildRemove setters) = (.success, inst') →
      inst.cmdq.Schedules inst'.cmdq pl pkt → (buildRemove setters).durLevel ≠ 0 →
      ∃ header rest, header.length = mcreqPktBasesize ∧
        pkt.khSpan = some (header ++ [0x13, (buildRemove setters).durLevel, 0, 0] ++ rest)) ∧
    (∀ (setters : List TouchSetter) {inst inst' : Instance} {cookie : Nat}
      {tcmd : ProtocolBinaryRequestTouch} {pl : PipelineRef} {pkt : Packet},
      lcbTouch inst cookie (buildTouch setters) tcmd = (.success, inst') →
      inst.cmdq.Schedules inst'.cmdq pl pkt → (buildTouch setters).durLevel ≠ 0 →
      ∃ header rest, header.length = mcreqPktBasesize ∧
        pkt.khSpan = some (header ++ [0x13, (buildTouch setters).durLevel, 0, 0] ++ rest)) := by
  constructor
  · intro setters inst inst' cookie pl pkt sent scheduled durable
    obtain ⟨config, -, rfl⟩ := lcbRemove_scheduled_packet sent scheduled
    rw [if_pos durable, buildRemove_durTimeout, durabilityFrameBytes_zero]
    exact ⟨_, _, ProtocolBinaryRequestHeader.length_bytes _, rfl⟩
  · intro setters inst inst' cookie tcmd pl pkt sent scheduled durable
    obtain ⟨config, -, rfl⟩ := lcbTouch_scheduled_packet sent scheduled
    rw [touchBody, if_pos durable, buildTouch_durTimeout, durabilityFrameBytes_zero]
    simp only [List.append_assoc]
    exact ⟨_, _, ProtocolBinaryRequestHeader.length_bytes _, rfl⟩

theorem built_durability_timeout_zero_sample :
    let removeSetters := [RemoveSetter.key [0x6b], .durability 1]
    let touchSetters := [TouchSetter.key [0x6b], .expiration 60, .durability 1]
    let stack : ProtocolBinaryRequestTouch := ⟨.zero, [1, 2, 3, 4, 5, 6, 7, 8], rfl⟩
    let removePacket : Packet :=
      { opaqueId := 42, nocid := false, cookie := 0,
        khSpan := some ((removeHeader (buildRemove removeSetters) [0, 0x6b] 7 42).bytes ++
          durabilityFrameBytes 1 0 ++ [0, 0x6b]) }
    let touchPacket : Packet :=
      { opaqueId := 42, nocid := false, cookie := 0,
        khSpan := some ((touchHeader (buildTouch touchSetters) [0, 0x6b] 7 42).bytes ++
          touchBody (buildTouch touchSetters) ++ [0, 0x6b]) }
    (lcbRemove (sampleInstance 100) 0 (buildRemove removeSetters) =
        (.success, (lcbRemove (sampleInstance 100) 0 (buildRemove removeSetters)).2) ∧
      (sampleInstance 100).cmdq.Schedules
        (lcbRemove (sampleInstance 100) 0 (buildRemove removeSetters)).2.cmdq (.server 0) removePacket ∧
      (buildRemove removeSetters).durLevel ≠ 0 ∧
      ∃ header rest, header.length = mcreqPktBasesize ∧
        removePacket.khSpan = some (header ++ [0x13, 1, 0, 0] ++ rest)) ∧
    (lcbTouch (sampleInstance 100) 0 (buildTouch touchSetters) stack =
        (.success, (lcbTouch (sampleInstance 100) 0 (buildTouch touchSetters) stack).2) ∧
      (sampleInstance 100).cmdq.Schedules
        (lcbTouch (sampleInstance 100) 0 (buildTouch touchSetters) stack).2.cmdq (.server 0) touchPacket ∧
      (buildTouch touchSetters).durLevel ≠ 0 ∧
      ∃ header rest, header.length = mcreqPktBasesize ∧
        touchPacket.khSpan = some (header ++ [0x13, 1, 0, 0] ++ rest)) := by
  intro removeSetters touchSetters stack removePacket touchPacket
  have removed : lcbRemove (sampleInstance 100) 0 (buildRemove removeSetters) =
      (.success, (lcbRemove (sampleInstance 100) 0 (buildRemove removeSetters)).2) := Prod.ext rfl rfl
  have touched : lcbTouch (sampleInstance 100) 0 (buildTouch touchSetters) stack =
      (.success, (lcbTouch (sampleInstance 100) 0 (buildTouch touchSetters) stack).2) := Prod.ext rfl rfl
  have removeScheduled := sample_remove_scheduled 100 (buildRemove removeSetters) rfl
  have touchScheduled := sample_touch_scheduled 100 (buildTouch touchSetters) stack rfl
  exact ⟨⟨removed, removeScheduled, by decide,
      built_durability_timeout_zero.1 removeSetters removed removeScheduled (by decide)⟩,
    ⟨touched, touchScheduled, by decide,
      built_durability_timeout_zero.2 touchSetters touched touchScheduled (by decide)⟩⟩

end CouchbaseKv
