import CouchbaseKv.Operations.Collections
import CouchbaseKv.Operations.Remove
import CouchbaseKv.Operations.Touch

set_option autoImplicit false

namespace CouchbaseKv

inductive Call
  | getmanifest (cookie : Nat)
  | getcid (cookie : Nat) (cmd : CmdGetcid) (newOk : Bool)
  | remove (cookie : Nat) (cmd : CmdRemove)
  | touch (cookie : Nat) (cmd : CmdTouch) (stack : ProtocolBinaryRequestTouch)

-- The run goes on after a std::bad_alloc, as for an application that catches it.
def Call.run : Call → Instance → Outcome × Instance
  | .getmanifest cookie, inst => Prod.map Outcome.returns id (lcbGetmanifest inst cookie)
  | .getcid cookie cmd newOk, inst => lcbGetcid inst cookie cmd newOk
  | .remove cookie cmd, inst => Prod.map Outcome.returns id (lcbRemove inst cookie cmd)
  | .touch cookie cmd stack, inst => Prod.map Outcome.returns id (lcbTouch inst cookie cmd stack)

theorem returned_success {result : LcbStatus × Instance}
    (ok : (Prod.map Outcome.returns id result).1 = .returns .success) : result = (.success, result.2) :=
  outcome_eq_success (Outcome.returns.inj ok)

def run (inst : Instance) : List Call → Instance
  | [] => inst
  | call :: rest => run (call.run inst).2 rest

-- The calls of a run that returned success, each with the instance it ran on.
def successes (inst : Instance) : List Call → List (Call × Instance)
  | [] => []
  | call :: rest =>
    (if (call.run inst).1 = .returns .success then [(call, inst)] else []) ++ successes (call.run inst).2 rest

inductive Step (inst : Instance) : Outcome → Instance → Prop
  | scheduled {inst' : Instance} {pl : PipelineRef} {pkt : Packet} (same : inst' = { inst with cmdq := inst'.cmdq })
      (scheduled : inst.cmdq.Schedules inst'.cmdq pl pkt) : Step inst (.returns .success) inst'
  | failed {inst' : Instance} {err : LcbStatus} (notOk : err ≠ .success) (same : inst' = { inst with cmdq := inst'.cmdq })
      (unchanged : inst.cmdq.Unchanged inst'.cmdq) : Step inst (.returns err) inst'
  | threw {inst' : Instance} (same : inst' = { inst with cmdq := inst'.cmdq })
      (abandons : inst.cmdq.Abandons inst'.cmdq (.server 0)
        (if mcreqPktBasesize ≤ (inst.cmdq.pipelines (.server 0)).nbmgr then mcreqPktBasesize else 0)) :
      Step inst .throwsBadAlloc inst'

namespace Step

variable {inst inst' : Instance} {outcome : Outcome}

theorem same (step : Step inst outcome inst') : inst' = { inst with cmdq := inst'.cmdq } := by
  cases step <;> assumption

theorem scheduled_of_success (step : Step inst outcome inst') (ok : outcome = .returns .success) :
    ∃ pl pkt, inst.cmdq.Schedules inst'.cmdq pl pkt := by
  cases step with
  | scheduled _ scheduled => exact ⟨_, _, scheduled⟩
  | failed notOk => exact absurd (Outcome.returns.inj ok) notOk
  | threw => cases ok

theorem quiet (step : Step inst outcome inst') (notOk : outcome ≠ .returns .success) :
    inst'.cmdq.schedule = inst.cmdq.schedule ∧ inst'.cmdq.routing = inst.cmdq.routing ∧
      inst.cmdq.seq ≤ inst'.cmdq.seq ∧ inst'.cmdq.seq ≤ inst.cmdq.seq + 1 := by
  cases step with
  | scheduled => exact absurd rfl notOk
  | failed _ _ unchanged =>
    exact ⟨funext fun pl => by simp only [CmdQueue.schedule, unchanged.pipelines], unchanged.routing,
      unchanged.counter⟩
  | threw _ abandons =>
    exact ⟨abandons.schedule, abandons.routing, by rw [abandons.counter]; omega, by rw [abandons.counter]⟩

theorem of_returns (result : LcbStatus × Instance)
    (succeeded : result.1 = .success →
      result.2 = { inst with cmdq := result.2.cmdq } ∧ ∃ pl pkt, inst.cmdq.Schedules result.2.cmdq pl pkt)
    (failed : result.1 ≠ .success →
      result.2 = { inst with cmdq := result.2.cmdq } ∧ inst.cmdq.Unchanged result.2.cmdq) :
    Step inst (Prod.map Outcome.returns id result).1 (Prod.map Outcome.returns id result).2 := by
  obtain ⟨status, inst'⟩ := result
  by_cases ok : status = .success
  · subst ok
    obtain ⟨same, _, _, scheduled⟩ := succeeded rfl
    exact .scheduled same scheduled
  · exact .failed ok (failed ok).1 (failed ok).2

end Step

theorem Call.step (call : Call) (inst : Instance) : Step inst (call.run inst).1 (call.run inst).2 := by
  cases call with
  | getmanifest cookie =>
    refine Step.of_returns (lcbGetmanifest inst cookie) (fun ok => ?_) fun notOk => ?_
    · obtain ⟨-, -, -, same, scheduled⟩ := lcbGetmanifest_success (outcome_eq_success ok)
      exact ⟨same, _, _, scheduled⟩
    · rw [lcbGetmanifest_failure (outcome_eq_success rfl) notOk]
      exact ⟨rfl, CmdQueue.unchanged_refl _⟩
  | getcid cookie cmd newOk =>
    show Step inst (lcbGetcid inst cookie cmd newOk).1 (lcbGetcid inst cookie cmd newOk).2
    rcases outcome : lcbGetcid inst cookie cmd newOk with ⟨status | _, inst'⟩
    · by_cases ok : status = .success
      · subst ok
        obtain ⟨_, _, -, -, -, -, -, -, -, same, scheduled⟩ := lcbGetcid_success outcome
        exact .scheduled same scheduled
      · cases lcbGetcid_failure outcome ok
        exact .failed ok rfl (CmdQueue.unchanged_refl _)
    · obtain ⟨-, same, abandons⟩ := lcbGetcid_throws outcome
      exact .threw same abandons
  | remove cookie cmd =>
    refine Step.of_returns (lcbRemove inst cookie cmd) (fun ok => ?_) fun notOk => lcbRemove_failure (outcome_eq_success rfl) notOk
    obtain ⟨_, _, -, same, scheduled⟩ := lcbRemove_success (outcome_eq_success ok)
    exact ⟨same, _, _, scheduled⟩
  | touch cookie cmd stack =>
    refine Step.of_returns (lcbTouch inst cookie cmd stack) (fun ok => ?_) fun notOk => lcbTouch_failure (outcome_eq_success rfl) notOk
    obtain ⟨_, _, -, same, scheduled⟩ := lcbTouch_success (outcome_eq_success ok)
    exact ⟨same, _, _, scheduled⟩

theorem Call.run_step (call : Call) (inst : Instance) :
    Step inst (call.run inst).1 (call.run inst).2 ∧
      ((call.run inst).1 = .throwsBadAlloc → ∃ cookie cmd, call = .getcid cookie cmd false) := by
  refine ⟨call.step inst, fun threw => ?_⟩
  cases call with
  | getcid cookie cmd newOk => exact ⟨cookie, cmd, by rw [(lcbGetcid_throws (outcome_eq_success threw)).1]⟩
  | getmanifest => cases threw
  | remove => cases threw
  | touch => cases threw

theorem CmdQueue.live_of_routing {cq cq' : CmdQueue} (same : cq'.routing = cq.routing) {pl : PipelineRef}
    (live : cq'.Live pl) : cq.Live pl := by
  simp only [CmdQueue.routing, Prod.mk.injEq] at same
  cases pl with
  | server index => show index < cq.npipelines; rw [← same.2.1]; exact live
  | fallback => show cq.hasFallback = true; rw [← same.2.2]; exact live

theorem CmdQueue.Schedules.schedule_append {cq cq' : CmdQueue} {pl : PipelineRef} {pkt : Packet}
    (scheduled : cq.Schedules cq' pl pkt) (other : PipelineRef) :
    cq'.schedule other = cq.schedule other ++ ([(pl, pkt)].filter fun entry => entry.1 = other).map Prod.snd := by
  rw [scheduled.schedule]
  by_cases here : other = pl
  · subst here
    simp
  · simp [Function.update_noteq here, Ne.symm here]

theorem schedule_cons {cq mid cq' : CmdQueue} {pl : PipelineRef} {pkt : Packet}
    {sent : List (PipelineRef × Packet)} (scheduled : cq.Schedules mid pl pkt)
    (rest : ∀ other, cq'.schedule other = mid.schedule other ++ (sent.filter fun entry => entry.1 = other).map Prod.snd)
    (other : PipelineRef) :
    cq'.schedule other = cq.schedule other ++ (((pl, pkt) :: sent).filter fun entry => entry.1 = other).map Prod.snd := by
  rw [rest other, scheduled.schedule_append other, List.append_assoc, ← List.map_append, ← List.filter_append]
  rfl

structure Record (inst inst' : Instance) (sent : List (PipelineRef × Packet)) (counters : List Nat) :
    Prop where
  live : ∀ entry ∈ sent, inst.cmdq.Live entry.1
  routing : inst'.cmdq.routing = inst.cmdq.routing
  settings : inst'.settings = inst.settings
  schedule : ∀ pl, inst'.cmdq.schedule pl =
    inst.cmdq.schedule pl ++ (sent.filter fun entry => entry.1 = pl).map Prod.snd
  tagged : sent.map (fun entry => entry.2.opaqueId) = counters.map UInt32.ofNat
  increasing : counters.Pairwise (· < ·)
  window : ∀ counter ∈ counters, inst.cmdq.seq ≤ counter ∧ counter < inst'.cmdq.seq
  advanced : inst.cmdq.seq ≤ inst'.cmdq.seq

namespace Record

variable {inst mid inst' : Instance} {sent : List (PipelineRef × Packet)} {counters : List Nat}

theorem refl (inst : Instance) : Record inst inst [] [] :=
  ⟨by simp, rfl, rfl, fun _ => by simp, rfl, List.Pairwise.nil, by simp, le_refl _⟩

theorem cons_success (same : mid = { inst with cmdq := mid.cmdq }) {pl : PipelineRef} {pkt : Packet}
    (scheduled : inst.cmdq.Schedules mid.cmdq pl pkt) (rest : Record mid inst' sent counters) :
    Record inst inst' ((pl, pkt) :: sent) (inst.cmdq.seq :: counters) where
  live := by
    rintro entry (_ | ⟨_, member⟩)
    · exact scheduled.live
    · exact CmdQueue.live_of_routing scheduled.routing (rest.live entry member)
  routing := rest.routing.trans scheduled.routing
  settings := rest.settings.trans (by rw [same])
  schedule := schedule_cons scheduled rest.schedule
  tagged := by simp [rest.tagged, scheduled.tagged]
  increasing := List.pairwise_cons.2
    ⟨fun counter member => by have := (rest.window counter member).1; have := scheduled.counter; omega,
      rest.increasing⟩
  window counter member := by
    have := rest.advanced
    have := scheduled.counter
    rcases List.mem_cons.1 member with rfl | member
    · omega
    · have := rest.window counter member
      omega
  advanced := by have := rest.advanced; have := scheduled.counter; omega

theorem cons_quiet (same : mid = { inst with cmdq := mid.cmdq }) (schedule : mid.cmdq.schedule = inst.cmdq.schedule)
    (routing : mid.cmdq.routing = inst.cmdq.routing) (advanced : inst.cmdq.seq ≤ mid.cmdq.seq)
    (rest : Record mid inst' sent counters) :
    Record inst inst' sent counters where
  live entry member := CmdQueue.live_of_routing routing (rest.live entry member)
  routing := rest.routing.trans routing
  settings := rest.settings.trans (by rw [same])
  schedule other := by rw [rest.schedule other, schedule]
  tagged := rest.tagged
  increasing := rest.increasing
  window counter member := by
    have := rest.window counter member
    omega
  advanced := le_trans advanced rest.advanced

end Record

theorem run_record (inst : Instance) (calls : List Call) :
    ∃ sent counters,
      List.Forall₂ (fun (entry : PipelineRef × Packet) (success : Call × Instance) =>
        success.2.cmdq.Schedules (success.1.run success.2).2.cmdq entry.1 entry.2) sent (successes inst calls) ∧
      (run inst calls).cmdq.seq ≤ inst.cmdq.seq + calls.length ∧ Record inst (run inst calls) sent counters := by
  induction calls generalizing inst with
  | nil => exact ⟨[], [], .nil, by simp [run], Record.refl inst⟩
  | cons call rest ih =>
    obtain ⟨sent, counters, made, bounded, record⟩ := ih (call.run inst).2
    have step := call.step inst
    by_cases ok : (call.run inst).1 = .returns .success
    · obtain ⟨pl, pkt, scheduled⟩ := step.scheduled_of_success ok
      have := scheduled.counter
      exact ⟨_, _, by simp only [successes, ok, if_true, List.singleton_append]; exact .cons scheduled made,
        by simp only [run, List.length_cons]; omega, record.cons_success step.same scheduled⟩
    · obtain ⟨schedule, routing, advanced, moved⟩ := step.quiet ok
      exact ⟨sent, counters, by simpa only [successes, ok, if_false, List.nil_append] using made, by simp only [run, List.length_cons]; omega,
        record.cons_quiet step.same schedule routing advanced⟩

theorem run_schedules (inst : Instance) (calls : List Call) :
    ∃ sent : List (PipelineRef × Packet),
      List.Forall₂ (fun (entry : PipelineRef × Packet) (success : Call × Instance) =>
        success.2.cmdq.Schedules (success.1.run success.2).2.cmdq entry.1 entry.2) sent (successes inst calls) ∧
      (∀ entry ∈ sent, inst.cmdq.Live entry.1) ∧
      (run inst calls).cmdq.routing = inst.cmdq.routing ∧
      (run inst calls).settings = inst.settings ∧
      ∀ pl, (run inst calls).cmdq.schedule pl =
        inst.cmdq.schedule pl ++ (sent.filter fun entry => entry.1 = pl).map Prod.snd := by
  obtain ⟨sent, _, made, -, record⟩ := run_record inst calls
  exact ⟨sent, made, record.live, record.routing, record.settings, record.schedule⟩

theorem nodup_map_ofNat {counters : List Nat} {low : Nat} (increasing : counters.Pairwise (· < ·))
    (window : ∀ counter ∈ counters, low ≤ counter ∧ counter < low + 2 ^ 32) :
    (counters.map UInt32.ofNat).Nodup := by
  refine List.pairwise_map.2 (increasing.imp_of_mem fun {a b} first second less same => ?_)
  have wrapped := congrArg UInt32.toNat same
  change a % 2 ^ 32 = b % 2 ^ 32 at wrapped
  have := window a first
  have := window b second
  omega

theorem run_opaques_distinct (inst : Instance) (calls : List Call) (fewer : calls.length ≤ 2 ^ 32) :
    ∃ sent : List (PipelineRef × Packet),
      (∀ pl, (run inst calls).cmdq.schedule pl =
        inst.cmdq.schedule pl ++ (sent.filter fun entry => entry.1 = pl).map Prod.snd) ∧
      (sent.map fun entry => entry.2.opaqueId).Nodup := by
  obtain ⟨sent, counters, -, bounded, record⟩ := run_record inst calls
  refine ⟨sent, record.schedule, ?_⟩
  rw [record.tagged]
  exact nodup_map_ofNat record.increasing fun counter member =>
    ⟨(record.window counter member).1, by have := (record.window counter member).2; omega⟩

theorem run_opaques_distinct_sample :
    [Call.getmanifest 0, Call.getmanifest 1].length ≤ 2 ^ 32 ∧
      ∃ sent : List (PipelineRef × Packet),
        (∀ pl, (run (sampleInstance 100) [.getmanifest 0, .getmanifest 1]).cmdq.schedule pl =
          (sampleInstance 100).cmdq.schedule pl ++ (sent.filter fun entry => entry.1 = pl).map Prod.snd) ∧
        (sent.map fun entry => entry.2.opaqueId).Nodup :=
  ⟨by decide, run_opaques_distinct (sampleInstance 100) [.getmanifest 0, .getmanifest 1] (by decide)⟩

end CouchbaseKv
