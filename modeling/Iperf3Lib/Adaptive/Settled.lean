import Iperf3Lib.Adaptive.Tested

/-!
# Settled rates

However the trials of an exploration come out, a rate is explored by one batch, its confirmations
follow acceptable measurements only, and once it is settled every longer history leaves it alone.
-/

namespace Iperf3Lib.Adaptive

open Py

variable {parse : IpParser} {maxStrDigits : ℕ} {prepared : PreparedAdaptiveUDP}

theorem Replay.Kept.rateSummariesV1 {s : Replay} (h : s.Kept) :
    rateSummariesV1 parse maxStrDigits prepared s.retained (some s.observed) =
      .ok (s.summaries prepared) :=
  rateSummariesV1_replay h.observed.length_eq.symm

/-- What a rate is settled at. -/
structure Replay.Settles (prepared : PreparedAdaptiveUDP) (s : Replay)
    (summary : AdaptiveRateSummary) : Prop where
  kept : s.Kept
  tested : Tested s.retained summary.rateBps
  eq : s.summary prepared summary.rateBps = summary
  status : summary.status ≠ .provisional

/-- A batch behind a settled rate is not about it and leaves it settled. -/
theorem Replay.Settles.step {s s' : Replay} {summary : AdaptiveRateSummary}
    (h : s.Settles prepared summary) {item : AdaptiveBatchResult}
    (hitem : replayItem parse maxStrDigits prepared s item = .ok s') :
    summary.rateBps ∉ item.batch.rates ∧ s'.Settles prepared summary := by
  obtain ⟨retained, observations, hadmits, hbatch, rfl⟩ :=
    replayItem_ok h.kept.observed.length_eq.symm hitem
  have hstatus : (s.summary prepared summary.rateBps).status ≠ .provisional := by
    rw [h.eq]
    exact h.status
  have hrate : summary.rateBps ∉ retained.batch.rates :=
    (hadmits.decided.advance h.kept.observed).not_mem_of_settled h.kept.observed h.tested hstatus
  refine ⟨hbatch ▸ hrate, h.kept.append hadmits, tested_append.mpr (.inl h.tested), ?_, h.status⟩
  rw [hadmits.summary_eq hrate, h.eq]

theorem Replay.Settles.run {more : List AdaptiveBatchResult} {s s' : Replay}
    {summary : AdaptiveRateSummary} (h : s.Settles prepared summary)
    (hmore : more.foldlM (replayItem parse maxStrDigits prepared) s = .ok s') :
    (∀ item ∈ more, summary.rateBps ∉ item.batch.rates) ∧ s'.Settles prepared summary :=
  foldlM_induct (P := fun front s => (∀ item ∈ front, summary.rateBps ∉ item.batch.rates) ∧
      s.Settles prepared summary)
    (fun front s item s' hfront hitem => by
      obtain ⟨hrate, hsettles⟩ := hfront.2.step hitem
      refine ⟨fun earlier hearlier => ?_, hsettles⟩
      rcases List.mem_append.mp hearlier with hearlier | hlast
      · exact hfront.1 earlier hearlier
      · obtain rfl := List.mem_singleton.mp hlast
        exact hrate)
    ⟨fun item hitem => absurd hitem List.not_mem_nil, h⟩ hmore

end Iperf3Lib.Adaptive
