import CouchbaseKv.Scheduling.Run
import Mathlib.Algebra.BigOperators.Group.List

set_option autoImplicit false

namespace CouchbaseKv

def Packet.spanSize (pkt : Packet) : Nat := (pkt.khSpan.map List.length).getD 0

theorem Packet.spanSize_copyToSpan (pkt : Packet) (bytes : List UInt8)
    (fits : ∀ span, pkt.khSpan = some span → bytes.length ≤ span.length) :
    (pkt.copyToSpan bytes).spanSize = pkt.spanSize := by
  rcases spanned : pkt.khSpan with _ | span
  · simp [Packet.spanSize, Packet.copyToSpan, spanned]
  · have := fits span spanned
    simp [Packet.spanSize, Packet.copyToSpan, spanned]
    omega

@[simp] theorem Packet.spanSize_reserveSpan (cq : CmdQueue) (pl : PipelineRef) (pkt : Packet)
    (span : List UInt8) :
    (reserveSpan cq pl pkt span).2.1.spanSize =
      if span.length ≤ (cq.pipelines pl).nbmgr then span.length else 0 := by
  simp only [reserveSpan_packet, Packet.spanSize]
  split <;> rfl

namespace Pipeline

def pooled (p : Pipeline) : Nat := p.reqpool + p.ctxqueued.length

def held (p : Pipeline) : Nat := p.nbmgr + (p.ctxqueued.map Packet.spanSize).sum

end Pipeline

structure CmdQueue.Accounts (cq cq' : CmdQueue) (pl : PipelineRef) (lost leaked : Nat) : Prop where
  pooled : ∀ other,
    (cq'.pipelines other).pooled + (if other = pl then lost else 0) = (cq.pipelines other).pooled
  held : ∀ other,
    (cq'.pipelines other).held + (if other = pl then leaked else 0) = (cq.pipelines other).held

namespace CmdQueue.Accounts

variable {cq mid cq' : CmdQueue} {pl : PipelineRef} {lost leaked fewer more : Nat}

theorem of_pipelines (same : cq'.pipelines = cq.pipelines) : cq.Accounts cq' pl 0 0 :=
  ⟨fun _ => by simp [same], fun _ => by simp [same]⟩

theorem retarget (accounts : cq.Accounts cq' pl 0 0) (other : PipelineRef) : cq.Accounts cq' other 0 0 :=
  ⟨fun target => by simpa using accounts.pooled target, fun target => by simpa using accounts.held target⟩

theorem congr_leaked (accounts : cq.Accounts cq' pl lost leaked) (same : leaked = more) :
    cq.Accounts cq' pl lost more :=
  same ▸ accounts

theorem trans (first : cq.Accounts mid pl lost leaked) (second : mid.Accounts cq' pl fewer more) :
    cq.Accounts cq' pl (lost + fewer) (leaked + more) := by
  constructor <;> intro other
  · have before := first.pooled other
    have after := second.pooled other
    split_ifs at before after ⊢ <;> omega
  · have before := first.held other
    have after := second.held other
    split_ifs at before after ⊢ <;> omega

end CmdQueue.Accounts

theorem CmdQueue.Abandons.accounts {cq cq' : CmdQueue} {pl : PipelineRef} {header : Nat}
    (abandons : cq.Abandons cq' pl header) : cq.Accounts cq' pl 1 header := by
  constructor <;> intro other <;> by_cases here : other = pl
  · subst here
    have := abandons.pool
    simp only [Pipeline.pooled, abandons.queued, if_true]
    omega
  · simp [abandons.others other here, here]
  · subst here
    have := abandons.buffer
    simp only [Pipeline.held, abandons.queued, if_true]
    omega
  · simp [abandons.others other here, here]

structure CmdQueue.Lends (cq cq' : CmdQueue) (pl : PipelineRef) (pkt : Packet) (leaked : Nat) :
    Prop where
  others : ∀ other, other ≠ pl → cq'.pipelines other = cq.pipelines other
  queued : (cq'.pipelines pl).ctxqueued = (cq.pipelines pl).ctxqueued
  pool : (cq'.pipelines pl).reqpool + 1 = (cq.pipelines pl).reqpool
  buffer : (cq'.pipelines pl).nbmgr + pkt.spanSize + leaked = (cq.pipelines pl).nbmgr

namespace CmdQueue.Lends

variable {cq mid : CmdQueue} {pl : PipelineRef} {pkt : Packet} {leaked : Nat}

theorem allocate {cq' : CmdQueue} (allocated : mcreqAllocatePacket cq pl = some (pkt, cq')) :
    cq.Lends cq' pl pkt 0 := by
  unfold mcreqAllocatePacket at allocated
  split_ifs at allocated with empty
  cases allocated
  refine ⟨fun other apart => by simp [apart], by simp, ?_, by simp [Packet.spanSize]⟩
  simp [Pipeline.allocate]
  omega

theorem basicPacket {cq' : CmdQueue} {useCollections : Bool} {key : List UInt8} {cid : UInt32}
    {req hdr : ProtocolBinaryRequestHeader} {extlen ffextlen : Nat} {fallbackOk : Bool}
    (built : mcreqBasicPacket cq useCollections key cid req extlen ffextlen fallbackOk =
      (cq', .ok (hdr, pkt, pl))) :
    cq.Lends cq' pl pkt 0 := by
  obtain ⟨-, -, -, available, room, -, rfl, rfl⟩ := mcreqBasicPacket_built built
  refine ⟨fun other apart => by simp [apart], by simp, ?_, ?_⟩
  · simp [Pipeline.allocate, Pipeline.reserve]
    omega
  · simp [Pipeline.allocate, Pipeline.reserve, Packet.spanSize]
    omega

theorem reserveSpan (lends : cq.Lends mid pl pkt leaked) (span : List UInt8) :
    cq.Lends (reserveSpan mid pl pkt span).2.2 pl (reserveSpan mid pl pkt span).2.1
      (leaked + pkt.spanSize) := by
  have buffer := lends.buffer
  simp only [Packet.spanSize] at buffer
  unfold CouchbaseKv.reserveSpan
  split_ifs with room
  · refine ⟨fun other apart => by simp [apart, lends.others other apart], by simp [lends.queued],
      by simp [Pipeline.reserve, lends.pool], ?_⟩
    simp [Pipeline.reserve, Packet.spanSize]
    omega
  · exact ⟨lends.others, lends.queued, lends.pool, by simp [Packet.spanSize]; omega⟩

theorem resize {pkt' : Packet} (lends : cq.Lends mid pl pkt leaked)
    (sized : pkt'.spanSize = pkt.spanSize) :
    cq.Lends mid pl pkt' leaked :=
  ⟨lends.others, lends.queued, lends.pool, sized ▸ lends.buffer⟩

theorem withNocid (lends : cq.Lends mid pl pkt leaked) (nocid : Bool) :
    cq.Lends mid pl { pkt with nocid := nocid } leaked :=
  lends.resize rfl

theorem copyToSpan (lends : cq.Lends mid pl pkt leaked) (bytes : List UInt8)
    (fits : ∀ span, pkt.khSpan = some span → bytes.length ≤ span.length) :
    cq.Lends mid pl (pkt.copyToSpan bytes) leaked :=
  lends.resize (Packet.spanSize_copyToSpan pkt bytes fits)

theorem basicPacket_copyHeader {cq' : CmdQueue} {useCollections : Bool} {key : List UInt8} {cid : UInt32}
    {req hdr : ProtocolBinaryRequestHeader} {extlen ffextlen : Nat} {fallbackOk : Bool}
    (built : mcreqBasicPacket cq useCollections key cid req extlen ffextlen fallbackOk =
      (cq', .ok (hdr, pkt, pl))) (small : extlen < 2 ^ 8) (cookie : Nat) (bytes : List UInt8) :
    cq.Lends cq' pl ({ pkt with cookie := cookie }.copyToSpan
      (bytes.take (hdr.extlen.toNat + mcreqPktBasesize + ffextlen))) 0 := by
  refine (basicPacket built).resize (Packet.spanSize_copyToSpan _ _ fun span spanned => ?_)
  obtain ⟨-, -, -, -, -, rfl, rfl, -⟩ := mcreqBasicPacket_built built
  simp only [Option.some.injEq] at spanned
  subst spanned
  have extlenBound : (UInt8.ofNat extlen).toNat = extlen := Nat.mod_eq_of_lt small
  exact (List.length_take_le _ _).trans
    (by simp only [extlenBound, List.length_append, List.length_replicate]; omega)

theorem schedule (lends : cq.Lends mid pl pkt leaked) :
    cq.Accounts (lcbSchedAdd mid pl pkt) pl 0 leaked := by
  constructor <;> intro other <;> by_cases here : other = pl
  · subst here
    have := lends.pool
    simp [lcbSchedAdd, Pipeline.pooled, Pipeline.enqueue, lends.queued]
    omega
  · simp [lcbSchedAdd, here, lends.others other here]
  · subst here
    have := lends.buffer
    simp [lcbSchedAdd, Pipeline.held, Pipeline.enqueue, lends.queued, List.sum_append]
    omega
  · simp [lcbSchedAdd, here, lends.others other here]

end CmdQueue.Lends

section Books

variable {inst inst' : Instance} {cookie : Nat}

theorem lcbRemove_accounts {cmd : CmdRemove} (sent : lcbRemove inst cookie cmd = (.success, inst'))
    (pl : PipelineRef) : inst.cmdq.Accounts inst'.cmdq pl 0 0 := by
  obtain ⟨hdr0, ffextlen, cq, hdr, pkt, target, -, -, built, filled⟩ := durablePacket_success sent
  simp only [Prod.mk.injEq, true_and] at filled
  subst filled
  exact ((CmdQueue.Lends.basicPacket_copyHeader built (by decide) cookie _).schedule).retarget pl

theorem lcbTouch_accounts {cmd : CmdTouch} {tcmd : ProtocolBinaryRequestTouch}
    (sent : lcbTouch inst cookie cmd tcmd = (.success, inst')) (pl : PipelineRef) :
    inst.cmdq.Accounts inst'.cmdq pl 0 0 := by
  obtain ⟨hdr0, ffextlen, cq, hdr, pkt, target, -, -, built, filled⟩ := durablePacket_success sent
  simp only [Prod.mk.injEq, true_and] at filled
  subst filled
  exact ((CmdQueue.Lends.basicPacket_copyHeader built (by decide) cookie _).schedule).retarget pl

theorem lcbGetmanifest_accounts (sent : lcbGetmanifest inst cookie = (.success, inst'))
    (pl : PipelineRef) :
    inst.cmdq.Accounts inst'.cmdq pl 0 0 := by
  obtain ⟨configured, collections, served, -, -⟩ := lcbGetmanifest_success sent
  have available : (inst.cmdq.pipelines (.server 0)).reqpool ≠ 0 := by
    intro empty
    simp [lcbGetmanifest, Option.isNone_iff_eq_none, ← Option.not_isSome_iff_eq_none, configured,
      collections, Nat.not_lt.mpr served, mcreqAllocatePacket, empty] at sent
  simp [lcbGetmanifest, Option.isNone_iff_eq_none, ← Option.not_isSome_iff_eq_none, configured,
      collections, Nat.not_lt.mpr served, mcreqAllocatePacket_of_pooled _ _ available] at sent
  subst sent
  have lends := (CmdQueue.Lends.allocate (mcreqAllocatePacket_of_pooled _ _ available)).reserveSpan
    (List.replicate mcreqPktBasesize 0)
  refine ((lends.resize ?_).schedule).retarget pl
  simp only [Packet.spanSize, Packet.copyToSpan, mcreqReserveHeader, reserveSpan_packet]
  split_ifs <;> simp

theorem lcbGetcid_accounts {cmd : CmdGetcid} {newOk : Bool}
    (sent : lcbGetcid inst cookie cmd newOk = (.returns .success, inst')) :
    inst.cmdq.Accounts inst'.cmdq (.server 0) 0
      (if mcreqPktBasesize ≤ (inst.cmdq.pipelines (.server 0)).nbmgr then mcreqPktBasesize else 0) := by
  obtain ⟨scope, collection, named, chosen, scopeNonempty, collectionNonempty, configured, collections,
    served, -, -⟩ := lcbGetcid_success sent
  have available : (inst.cmdq.pipelines (.server 0)).reqpool ≠ 0 := by
    intro empty
    simp [lcbGetcid, Option.isNone_iff_eq_none, ← Option.not_isSome_iff_eq_none, configured,
      collections, named, chosen, scopeNonempty, collectionNonempty, Nat.not_lt.mpr served,
      mcreqAllocatePacket, empty] at sent
  cases newOk <;> simp [lcbGetcid, Option.isNone_iff_eq_none, ← Option.not_isSome_iff_eq_none, configured,
      collections, named, chosen, scopeNonempty, collectionNonempty, Nat.not_lt.mpr served,
      mcreqAllocatePacket_of_pooled _ _ available] at sent
  subst sent
  have header := (CmdQueue.Lends.allocate (mcreqAllocatePacket_of_pooled _ _ available)).reserveSpan
    (List.replicate mcreqPktBasesize 0)
  have keyed := (header.withNocid true).reserveSpan
    (List.replicate mcreqPktBasesize 0 ++ keyWithCollection true true 0 (collectionPath scope collection))
  refine ((keyed.resize ?_).schedule).congr_leaked ?_
  · simp only [Packet.spanSize, Packet.copyToSpan, mcreqWriteHdr, mcreqReserveKey, mcreqReserveHeader,
      reserveSpan_packet]
    split_ifs <;> simp
  · simp [Packet.spanSize]
    split_ifs <;> rfl

end Books

theorem Step.accounts {inst inst' : Instance} {outcome : Outcome} (step : Step inst outcome inst')
    (notOk : outcome ≠ .returns .success) :
    inst.cmdq.Accounts inst'.cmdq (.server 0) (if outcome = .throwsBadAlloc then 1 else 0)
      (if outcome = .throwsBadAlloc then
        (if mcreqPktBasesize ≤ (inst.cmdq.pipelines (.server 0)).nbmgr then mcreqPktBasesize else 0) else 0) := by
  cases step with
  | scheduled => exact absurd rfl notOk
  | failed _ _ unchanged => simpa using CmdQueue.Accounts.of_pipelines unchanged.pipelines
  | threw _ abandons => simpa using abandons.accounts

-- lcb_getcid's mcreq_reserve_key replaces the span mcreq_reserve_header reserved.
def Call.leaked : Call → Instance → Nat
  | .getcid cookie cmd newOk, inst =>
    if ((lcbGetcid inst cookie cmd newOk).1 = .returns .success ∨
          (lcbGetcid inst cookie cmd newOk).1 = .throwsBadAlloc) ∧
        mcreqPktBasesize ≤ (inst.cmdq.pipelines (.server 0)).nbmgr then mcreqPktBasesize
    else 0
  | _, _ => 0

def Call.lost (call : Call) (inst : Instance) : Nat :=
  if (call.run inst).1 = .throwsBadAlloc then 1 else 0

def leakedBytes (inst : Instance) : List Call → Nat
  | [] => 0
  | call :: rest => call.leaked inst + leakedBytes (call.run inst).2 rest

def lostPackets (inst : Instance) : List Call → Nat
  | [] => 0
  | call :: rest => call.lost inst + lostPackets (call.run inst).2 rest

theorem Call.accounts_step (call : Call) (inst : Instance) :
    inst.cmdq.Accounts (call.run inst).2.cmdq (.server 0) (call.lost inst) (call.leaked inst) := by
  by_cases ok : (call.run inst).1 = .returns .success
  · have kept : call.lost inst = 0 := by simp [Call.lost, ok]
    rw [kept]
    cases call with
    | getmanifest cookie => exact lcbGetmanifest_accounts (returned_success ok) _
    | getcid cookie cmd newOk =>
      have sent : (lcbGetcid inst cookie cmd newOk).1 = .returns .success := ok
      exact (lcbGetcid_accounts (outcome_eq_success sent)).congr_leaked (by simp [Call.leaked, sent])
    | remove cookie cmd => exact lcbRemove_accounts (returned_success ok) _
    | touch cookie cmd stack => exact lcbTouch_accounts (returned_success ok) _
  · refine ((call.step inst).accounts ok).congr_leaked ?_
    cases call with
    | getcid cookie cmd newOk =>
      have failed : (lcbGetcid inst cookie cmd newOk).1 ≠ .returns .success := ok
      simp only [Call.leaked, Call.run, failed, false_or]
      split_ifs <;> simp_all
    | _ => simp [Call.leaked, Call.run]

example : leakedBytes (sampleInstance 100) [.getcid 0 ⟨some [0x73], some [0x63]⟩ false, .getmanifest 1] = 24 ∧
    lostPackets (sampleInstance 100) [.getcid 0 ⟨some [0x73], some [0x63]⟩ false, .getmanifest 1] = 1 :=
  ⟨by decide, by decide⟩

end CouchbaseKv
