import CouchbaseKv.Scheduling.Run
import CouchbaseKv.Wire.KeyValue

set_option autoImplicit false

namespace CouchbaseKv

section Framing

def Resumes {α : Type} (read : List UInt8 → Option (α × List UInt8)) : Prop :=
  ∀ (stream rest : List UInt8) (value : α) (more : List UInt8),
    read stream = some (value, rest) → read (stream ++ more) = some (value, rest ++ more)

theorem Resumes.bind {α β : Type} {first : List UInt8 → Option (α × List UInt8)}
    {next : α → List UInt8 → Option (β × List UInt8)} (resumes : Resumes first)
    (resumesNext : ∀ value, Resumes (next value)) :
    Resumes fun stream => first stream >>= fun (value, rest) => next value rest := by
  intro stream rest value more read
  obtain ⟨⟨front, mid⟩, firstRead, nextRead⟩ := Option.bind_eq_some.1 read
  exact Option.bind_eq_some.2
    ⟨(front, mid ++ more), resumes _ _ _ more firstRead, resumesNext front _ _ _ more nextRead⟩

theorem Resumes.pure {α : Type} (value : α) : Resumes fun stream => (pure (value, stream) : Option _) := by
  rintro stream rest result more ⟨⟩
  rfl

theorem takeBytes_resumes (count : Nat) : Resumes (takeBytes count) := by
  intro bytes rest front more split
  unfold takeBytes at split ⊢
  split_ifs at split with fits
  cases split
  rw [if_pos (by simp; omega), List.take_append_of_le_length fits, List.drop_append_of_le_length fits]

theorem decodeHeader_resumes : Resumes decodeHeader := by
  unfold decodeHeader
  exact Resumes.bind (takeBytes_resumes 1) fun _ => Resumes.bind (takeBytes_resumes 1) fun _ =>
    Resumes.bind (takeBytes_resumes 2) fun _ => Resumes.bind (takeBytes_resumes 1) fun _ =>
    Resumes.bind (takeBytes_resumes 1) fun _ => Resumes.bind (takeBytes_resumes 2) fun _ =>
    Resumes.bind (takeBytes_resumes 4) fun _ => Resumes.bind (takeBytes_resumes 4) fun _ =>
    Resumes.bind (takeBytes_resumes 8) fun _ => Resumes.pure _

theorem decodeRequest_resumes : Resumes decodeRequest := by
  intro stream rest request more decoded
  simp only [decodeRequest, Option.bind_eq_bind, Option.bind_eq_some, Prod.exists] at decoded
  obtain ⟨raw, r1, header, framingLength, keyLength, lengths, body, r2, cut, framing, b1, framed, extras, b2,
    extended, key, value, keyed, done⟩ := decoded
  simp only [pure, Option.some.injEq, Prod.mk.injEq] at done
  obtain ⟨rfl, rfl⟩ := done
  simp only [decodeRequest, Option.bind_eq_bind, Option.bind, decodeHeader_resumes _ _ _ more header, lengths,
    takeBytes_resumes _ _ _ _ more cut, framed, extended, keyed]
  rfl

end Framing

def decodeFrames : Nat → List UInt8 → Option (List DecodedRequest × List UInt8)
  | 0, stream => some ([], stream)
  | count + 1, stream => do
    let (request, stream) ← decodeRequest stream
    let (requests, stream) ← decodeFrames count stream
    pure (request :: requests, stream)

-- Modelled from the spec: the bytes a pipeline's flush writes, in schedule order.
def flushBytes : List Packet → Option (List UInt8)
  | [] => some []
  | pkt :: rest => do
    let span ← pkt.khSpan
    let more ← flushBytes rest
    pure (span ++ more)

def Packet.Frame (pkt : Packet) (request : DecodedRequest) : Prop :=
  ∃ span, pkt.khSpan = some span ∧ decodeRequest span = some (request, [])

structure Sent where
  pl : PipelineRef
  pkt : Packet
  request : DecodedRequest

def Sent.on (pl : PipelineRef) (sent : List Sent) : List Sent :=
  sent.filter fun entry => entry.pl = pl

theorem Sent.schedule_cons {cq mid cq' : CmdQueue} {entry : Sent} {sent : List Sent}
    (scheduled : cq.Schedules mid entry.pl entry.pkt)
    (rest : ∀ other, cq'.schedule other = mid.schedule other ++ (Sent.on other sent).map Sent.pkt)
    (other : PipelineRef) :
    cq'.schedule other = cq.schedule other ++ (Sent.on other (entry :: sent)).map Sent.pkt := by
  rw [rest other, scheduled.schedule_append other, List.append_assoc]
  by_cases here : entry.pl = other <;> simp [Sent.on, List.filter_cons, here]

theorem decodeFrames_flushBytes (entries : List Sent) (framed : ∀ entry ∈ entries, entry.pkt.Frame entry.request)
    (rest : List UInt8) :
    ∃ bytes, flushBytes (entries.map Sent.pkt) = some bytes ∧
      decodeFrames entries.length (bytes ++ rest) = some (entries.map Sent.request, rest) := by
  induction entries with
  | nil => exact ⟨[], rfl, rfl⟩
  | cons entry entries ih =>
    obtain ⟨span, spanned, decoded⟩ := framed entry (List.mem_cons_self _ _)
    obtain ⟨bytes, flushed, read⟩ := ih fun other member => framed other (List.mem_cons_of_mem _ member)
    refine ⟨span ++ bytes, by simp [flushBytes, spanned, flushed], ?_⟩
    have first := decodeRequest_resumes _ _ _ (bytes ++ rest) decoded
    simp only [List.nil_append] at first
    simp [decodeFrames, List.append_assoc, first, read]

def plainRequest (opcode : UInt8) (vbucket opaqueId cas : Nat) (extras key : List UInt8) : DecodedRequest :=
  { magic := protocolBinaryReq.toNat, opcode := opcode.toNat, datatype := protocolBinaryRawBytes.toNat,
    vbucket := vbucket % 2 ^ 16, opaqueId := opaqueId % 2 ^ 32, cas := cas, framingExtras := [],
    extras := extras, key := key, value := [] }

-- From the spec, not the source: the request a call asks the server for.
def Call.request (inst : Instance) : Call → Option DecodedRequest
  | .getmanifest _ => some (plainRequest protocolBinaryCmdCollectionsGetManifest 0 inst.cmdq.seq 0 [] [])
  | .getcid _ cmd _ =>
    match cmd.scope, cmd.collection with
    | some scope, some collection =>
      some (plainRequest protocolBinaryCmdCollectionsGetCid 0 inst.cmdq.seq 0 [] (collectionPath scope collection))
    | _, _ => none
  | .remove _ cmd => inst.cmdq.config.map fun config =>
    plainRequest protocolBinaryCmdDelete (config.mapKey cmd.key).1 inst.cmdq.seq cmd.cas.toNat []
      (keyWithCollection inst.settings.useCollections false cmd.cid cmd.key)
  | .touch _ cmd _ => inst.cmdq.config.map fun config =>
    plainRequest protocolBinaryCmdTouch (config.mapKey cmd.key).1 inst.cmdq.seq 0 (bytesBE 4 cmd.exptime.toNat)
      (keyWithCollection inst.settings.useCollections false cmd.cid cmd.key)

def runRequests (inst : Instance) : List Call → List DecodedRequest
  | [] => []
  | call :: rest =>
    (if (call.run inst).1 = .returns .success then (call.request inst).toList else []) ++
      runRequests (call.run inst).2 rest

def Call.Framed (useCollections : Bool) : Call → Prop
  | .getmanifest _ => True
  | .getcid _ cmd _ =>
    ∀ scope collection, cmd.scope = some scope → cmd.collection = some collection →
      (collectionPath scope collection).length < 2 ^ 16
  | .remove _ cmd =>
    cmd.durLevel = 0 ∧ (keyWithCollection useCollections false cmd.cid cmd.key).length < 2 ^ 16
  | .touch _ cmd _ =>
    cmd.durLevel = 0 ∧ (keyWithCollection useCollections false cmd.cid cmd.key).length < 2 ^ 16

section Frame

variable {inst inst' : Instance} {cookie : Nat} {pl : PipelineRef} {pkt : Packet}

theorem lcbGetmanifest_frame (sent : lcbGetmanifest inst cookie = (.success, inst'))
    (scheduled : inst.cmdq.Schedules inst'.cmdq pl pkt) :
    ∃ request, (Call.getmanifest cookie).request inst = some request ∧ (pkt.khSpan = none ∨ pkt.Frame request) := by
  obtain ⟨-, -, -, -, built⟩ := lcbGetmanifest_success sent
  obtain ⟨-, rfl⟩ := built.unique scheduled
  refine ⟨_, rfl, ?_⟩
  split_ifs
  · exact .inr ⟨_, rfl, decodeRequest_getmanifest _⟩
  · exact .inl rfl

theorem lcbGetcid_frame {cmd : CmdGetcid} {newOk : Bool}
    (sent : lcbGetcid inst cookie cmd newOk = (.returns .success, inst'))
    (scheduled : inst.cmdq.Schedules inst'.cmdq pl pkt)
    (short : ∀ scope collection, cmd.scope = some scope → cmd.collection = some collection →
      (collectionPath scope collection).length < 2 ^ 16) :
    ∃ request, (Call.getcid cookie cmd newOk).request inst = some request ∧
      (pkt.khSpan = none ∨ pkt.Frame request) := by
  obtain ⟨scope, collection, named, chosen, -, -, -, -, -, -, built⟩ := lcbGetcid_success sent
  obtain ⟨-, rfl⟩ := built.unique scheduled
  have requested : (Call.getcid cookie cmd newOk).request inst = some (plainRequest protocolBinaryCmdCollectionsGetCid 0
      inst.cmdq.seq 0 [] (collectionPath scope collection)) := by
    simp only [Call.request, named, chosen]
  refine ⟨_, requested, ?_⟩
  split_ifs
  · have fits := short scope collection named chosen
    have within : (collectionPath scope collection).length < 2 ^ 32 := by omega
    have decoded := decodeRequest_getcid (UInt32.ofNat inst.cmdq.seq) (collectionPath scope collection)
    rw [Nat.mod_eq_of_lt fits, Nat.mod_eq_of_lt within] at decoded
    simp only [List.take_length, List.drop_length, Nat.sub_self, List.take_zero] at decoded
    exact .inr ⟨_, rfl, decoded⟩
  · exact .inl rfl

theorem lcbRemove_frame {cmd : CmdRemove} (sent : lcbRemove inst cookie cmd = (.success, inst'))
    (scheduled : inst.cmdq.Schedules inst'.cmdq pl pkt) (plain : cmd.durLevel = 0)
    (short : (keyWithCollection inst.settings.useCollections false cmd.cid cmd.key).length < 2 ^ 16) :
    ∃ request, (Call.remove cookie cmd).request inst = some request ∧ pkt.Frame request := by
  obtain ⟨config, span, configured, spanned, decoded⟩ := lcbRemove_plain_frame sent plain short scheduled
  rw [scheduled.tagged] at decoded
  exact ⟨_, by rw [Call.request, configured]; rfl, span, spanned, decoded⟩

theorem lcbTouch_frame {cmd : CmdTouch} {tcmd : ProtocolBinaryRequestTouch}
    (sent : lcbTouch inst cookie cmd tcmd = (.success, inst'))
    (scheduled : inst.cmdq.Schedules inst'.cmdq pl pkt) (plain : cmd.durLevel = 0)
    (short : (keyWithCollection inst.settings.useCollections false cmd.cid cmd.key).length < 2 ^ 16) :
    ∃ request, (Call.touch cookie cmd tcmd).request inst = some request ∧ pkt.Frame request := by
  obtain ⟨config, span, configured, spanned, decoded⟩ := lcbTouch_plain_frame sent plain short scheduled
  rw [scheduled.tagged] at decoded
  exact ⟨_, by rw [Call.request, configured]; rfl, span, spanned, decoded⟩

end Frame

def CutFrame (span key : List UInt8) : Prop :=
  ∃ request : DecodedRequest, request.key = key.take (key.length % 2 ^ 16) ∧
    ∀ more, decodeRequest (span ++ more) = some (request, key.drop (key.length % 2 ^ 16) ++ more)

theorem plain_key_overrun :
    (∀ {inst inst' : Instance} {cookie : Nat} {cmd : CmdRemove} {pl : PipelineRef} {pkt : Packet},
      lcbRemove inst cookie cmd = (.success, inst') → inst.cmdq.Schedules inst'.cmdq pl pkt →
      cmd.durLevel = 0 →
      ∃ span, pkt.khSpan = some span ∧
        CutFrame span (keyWithCollection inst.settings.useCollections false cmd.cid cmd.key)) ∧
    (∀ {inst inst' : Instance} {cookie : Nat} {cmd : CmdTouch} {tcmd : ProtocolBinaryRequestTouch}
      {pl : PipelineRef} {pkt : Packet},
      lcbTouch inst cookie cmd tcmd = (.success, inst') → inst.cmdq.Schedules inst'.cmdq pl pkt →
      cmd.durLevel = 0 →
      ∃ span, pkt.khSpan = some span ∧
        CutFrame span (keyWithCollection inst.settings.useCollections false cmd.cid cmd.key)) := by
  constructor
  · intro inst inst' cookie cmd pl pkt sent scheduled plain
    obtain ⟨config, -, rfl⟩ := lcbRemove_scheduled_packet sent scheduled
    simp only [plain, ne_eq, not_true_eq_false, if_false, List.append_nil]
    refine ⟨_, rfl, _, ?_, fun more => decodeRequest_resumes _ _ _ more (decodeRequest_remove_cut _ _ _ cmd plain)⟩
    rfl
  · intro inst inst' cookie cmd tcmd pl pkt sent scheduled plain
    obtain ⟨config, -, rfl⟩ := lcbTouch_scheduled_packet sent scheduled
    refine ⟨_, rfl, _, ?_, fun more => decodeRequest_resumes _ _ _ more (decodeRequest_touch_cut _ _ _ cmd plain)⟩
    rfl

-- A key of 2^16 bytes behind the one-byte collection id is declared as 1 byte long.
theorem plain_key_overrun_long :
    let remove : CmdRemove := ⟨List.replicate 65536 0x6b, 0, 0, 0, 0⟩
    let touch : CmdTouch := ⟨List.replicate 65536 0x6b, 60, 0, 0, 0⟩
    let stack : ProtocolBinaryRequestTouch := ⟨.zero, [1, 2, 3, 4, 5, 6, 7, 8], rfl⟩
    let removePacket : Packet :=
      { opaqueId := 42, nocid := false, cookie := 0,
        khSpan := some ((removeHeader remove (keyWithCollection true false remove.cid remove.key) 7 42).bytes ++
          keyWithCollection true false remove.cid remove.key) }
    let touchPacket : Packet :=
      { opaqueId := 42, nocid := false, cookie := 0,
        khSpan := some ((touchHeader touch (keyWithCollection true false touch.cid touch.key) 7 42).bytes ++
          touchBody touch ++ keyWithCollection true false touch.cid touch.key) }
    (keyWithCollection true false remove.cid remove.key).length = 2 ^ 16 + 1 ∧
    (lcbRemove (sampleInstance (2 ^ 17)) 0 remove =
        (.success, (lcbRemove (sampleInstance (2 ^ 17)) 0 remove).2) ∧
      (sampleInstance (2 ^ 17)).cmdq.Schedules (lcbRemove (sampleInstance (2 ^ 17)) 0 remove).2.cmdq (.server 0)
        removePacket ∧ remove.durLevel = 0 ∧
      ∃ span, removePacket.khSpan = some span ∧ CutFrame span (keyWithCollection true false remove.cid remove.key)) ∧
    (lcbTouch (sampleInstance (2 ^ 17)) 0 touch stack =
        (.success, (lcbTouch (sampleInstance (2 ^ 17)) 0 touch stack).2) ∧
      (sampleInstance (2 ^ 17)).cmdq.Schedules (lcbTouch (sampleInstance (2 ^ 17)) 0 touch stack).2.cmdq (.server 0)
        touchPacket ∧ touch.durLevel = 0 ∧
      ∃ span, touchPacket.khSpan = some span ∧ CutFrame span (keyWithCollection true false touch.cid touch.key)) := by
  intro remove touch stack removePacket touchPacket
  have length : (keyWithCollection true false 0 (List.replicate 65536 0x6b)).length = 2 ^ 16 + 1 := by
    rw [keyWithCollection, List.length_append, List.length_replicate]
    rfl
  have present : List.replicate 65536 (0x6b : UInt8) ≠ [] :=
    List.ne_nil_of_length_pos (by rw [List.length_replicate]; norm_num)
  have removeReady := sample_remove_ready (2 ^ 17) remove present rfl
    (show mcreqPktBasesize + (keyWithCollection true false 0 (List.replicate 65536 0x6b)).length ≤ 2 ^ 17 by
      rw [length]; decide)
  have touchReady := sample_touch_ready (2 ^ 17) touch stack present rfl
    (show mcreqPktBasesize + 4 + (keyWithCollection true false 0 (List.replicate 65536 0x6b)).length ≤ 2 ^ 17 by
      rw [length]; decide)
  have removed := outcome_eq_success removeReady
  have touched := outcome_eq_success touchReady
  have removeScheduled := sample_remove_plain_scheduled (2 ^ 17) remove removeReady rfl
  have touchScheduled := sample_touch_scheduled (2 ^ 17) touch stack touchReady
  have removeCut := plain_key_overrun.1 removed removeScheduled rfl
  have touchCut := plain_key_overrun.2 touched touchScheduled rfl
  exact ⟨length, ⟨removed, removeScheduled, rfl, removeCut⟩, ⟨touched, touchScheduled, rfl, touchCut⟩⟩

theorem Call.framed_packet {call : Call} {inst : Instance} {pl : PipelineRef} {pkt : Packet}
    (framed : call.Framed inst.settings.useCollections) (ok : (call.run inst).1 = .returns .success)
    (scheduled : inst.cmdq.Schedules (call.run inst).2.cmdq pl pkt) :
    ∃ request, call.request inst = some request ∧ (pkt.khSpan = none ∨ pkt.Frame request) := by
  cases call with
  | getmanifest cookie => exact lcbGetmanifest_frame (returned_success ok) scheduled
  | getcid cookie cmd newOk => exact lcbGetcid_frame (outcome_eq_success ok) scheduled framed
  | remove cookie cmd =>
    obtain ⟨request, requested, frame⟩ := lcbRemove_frame (returned_success ok) scheduled framed.1 framed.2
    exact ⟨request, requested, .inr frame⟩
  | touch cookie cmd stack =>
    obtain ⟨request, requested, frame⟩ := lcbTouch_frame (returned_success ok) scheduled framed.1 framed.2
    exact ⟨request, requested, .inr frame⟩

theorem run_sent_frames (inst : Instance) (calls : List Call)
    (framed : ∀ call ∈ calls, call.Framed inst.settings.useCollections) :
    ∃ sent : List Sent,
      (∀ pl, (run inst calls).cmdq.schedule pl = inst.cmdq.schedule pl ++ (Sent.on pl sent).map Sent.pkt) ∧
      sent.map Sent.request = runRequests inst calls ∧
      ∀ entry ∈ sent, entry.pkt.khSpan = none ∨ entry.pkt.Frame entry.request := by
  induction calls generalizing inst with
  | nil => exact ⟨[], fun _ => by simp [run, Sent.on], rfl, by simp⟩
  | cons call rest ih =>
    have step := call.step inst
    have settled : (call.run inst).2.settings = inst.settings := by rw [step.same]
    obtain ⟨sent, schedule, requested, frames⟩ := ih (call.run inst).2 fun other member =>
      settled ▸ framed other (List.mem_cons_of_mem _ member)
    by_cases ok : (call.run inst).1 = .returns .success
    · obtain ⟨pl, pkt, scheduled⟩ := step.scheduled_of_success ok
      obtain ⟨request, asked, frame⟩ := Call.framed_packet (framed call (List.mem_cons_self _ _)) ok scheduled
      refine ⟨⟨pl, pkt, request⟩ :: sent, Sent.schedule_cons scheduled schedule, ?_, ?_⟩
      · simp [runRequests, ok, asked, requested]
      · rintro entry (_ | ⟨_, member⟩)
        · exact frame
        · exact frames entry member
    · refine ⟨sent, fun other => ?_, by simp [runRequests, ok, requested], frames⟩
      rw [run, schedule other, (step.quiet ok).1]

theorem run_frames (inst : Instance) (calls : List Call)
    (framed : ∀ call ∈ calls, call.Framed inst.settings.useCollections) :
    ∃ sent : List Sent,
      (∀ pl, (run inst calls).cmdq.schedule pl = inst.cmdq.schedule pl ++ (Sent.on pl sent).map Sent.pkt) ∧
      sent.map Sent.request = runRequests inst calls ∧
      ∀ pl, (∀ entry ∈ Sent.on pl sent, entry.pkt.khSpan.isSome) →
        ∃ bytes, flushBytes ((Sent.on pl sent).map Sent.pkt) = some bytes ∧
          decodeFrames (Sent.on pl sent).length bytes = some ((Sent.on pl sent).map Sent.request, []) := by
  obtain ⟨sent, schedule, requested, frames⟩ := run_sent_frames inst calls framed
  refine ⟨sent, schedule, requested, fun pl reserved => ?_⟩
  have framedOn : ∀ entry ∈ Sent.on pl sent, entry.pkt.Frame entry.request := by
    intro entry member
    refine (frames entry (List.mem_of_mem_filter member)).resolve_left fun unreserved => ?_
    simpa [unreserved] using reserved entry member
  simpa using decodeFrames_flushBytes (Sent.on pl sent) framedOn []

theorem run_frames_sample :
    let stack : ProtocolBinaryRequestTouch := ⟨.zero, [1, 2, 3, 4, 5, 6, 7, 8], rfl⟩
    let calls := [Call.getmanifest 0, .remove 1 ⟨[0x6b], 0, 0, 0, 0⟩, .touch 2 ⟨[0x6b], 60, 0, 0, 0⟩ stack]
    (∀ call ∈ calls, call.Framed (sampleInstance 100).settings.useCollections) ∧
      ∃ sent : List Sent,
        (∀ pl, (run (sampleInstance 100) calls).cmdq.schedule pl =
          (sampleInstance 100).cmdq.schedule pl ++ (Sent.on pl sent).map Sent.pkt) ∧
        sent.map Sent.request = runRequests (sampleInstance 100) calls ∧
        ∀ pl, (∀ entry ∈ Sent.on pl sent, entry.pkt.khSpan.isSome) →
          ∃ bytes, flushBytes ((Sent.on pl sent).map Sent.pkt) = some bytes ∧
            decodeFrames (Sent.on pl sent).length bytes = some ((Sent.on pl sent).map Sent.request, []) := by
  intro stack calls
  have framed : ∀ call ∈ calls, call.Framed (sampleInstance 100).settings.useCollections := by
    intro call member
    simp only [calls, List.mem_cons, List.not_mem_nil, or_false] at member
    rcases member with rfl | rfl | rfl
    · trivial
    · exact ⟨rfl, by decide⟩
    · exact ⟨rfl, by decide⟩
  exact ⟨framed, run_frames (sampleInstance 100) calls framed⟩

end CouchbaseKv
