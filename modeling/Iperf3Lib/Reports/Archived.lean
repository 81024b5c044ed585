import Iperf3Lib.Trials

/-!
# Archived plans

A plan behind the codec of the reports: typed values come back as they are, except that an address
object becomes its text. An admitted plan is admitted behind the codec.
-/

namespace Iperf3Lib

open Py

/-- A configuration behind the codec. -/
def ClientConfig.archived (c : ClientConfig) : ClientConfig := { c with server := .text c.server.str }

def TrialSpec.archived (spec : TrialSpec) : TrialSpec := { spec with config := spec.config.archived }

def PreparedPlan.archived (plan : PreparedPlan) : PreparedPlan :=
  { plan with trials := plan.trials.map TrialSpec.archived }

variable {parse : IpParser} {c c' : ClientConfig} {spec spec' : TrialSpec} {intent : Option RateIntent}

theorem ClientConfig.postInit_archived (h : c.postInit parse = .ok c') :
    c.archived.postInit parse = .ok c'.archived := by
  have hpin : c.archived.pinFamily = c.pinFamily.archived := by
    unfold pinFamily
    split
    · next hno => rw [if_pos (show c.dontFragment = true ∧ c.addressFamily = .auto from hno)]; rfl
    · next hno => rw [if_neg (show ¬ (c.dontFragment = true ∧ c.addressFamily = .auto) from hno)]
  simp only [postInit, bind_unit_eq_ok, pure, Except.pure, Except.ok.injEq] at h ⊢
  obtain ⟨hfields, hflow, hfragment, hcombinations, rfl⟩ := h
  exact ⟨hfields, hflow, hfragment, hcombinations, hpin⟩

theorem resolveRate_archived {rate : ResolvedRate} (h : resolveRate parse c intent = .ok rate) :
    resolveRate parse c.archived intent = .ok rate := by
  simp only [resolveRate, bind_eq_ok, exists_unit] at h ⊢
  obtain ⟨cfg, hcfg, hrest⟩ := h
  exact ⟨cfg.archived, ClientConfig.postInit_archived hcfg, hrest⟩

theorem estimateRun_archived {estimate : RunEstimate} (h : estimateRun parse c intent = .ok estimate) :
    estimateRun parse c.archived intent = .ok estimate := by
  simp only [estimateRun, bind_eq_ok] at h ⊢
  obtain ⟨cfg, hcfg, rate, hrate, hrest⟩ := h
  exact ⟨cfg.archived, ClientConfig.postInit_archived hcfg, rate, resolveRate_archived hrate, hrest⟩

theorem copySpec_archived (h : copySpec parse spec = .ok spec') :
    copySpec parse spec.archived = .ok spec'.archived := by
  simp only [copySpec, bind_eq_ok, exists_unit, pure, Except.pure, Except.ok.injEq] at h ⊢
  obtain ⟨hid, hcell, hcount, config, hconfig, hduration, hintent, rate, hrate, rfl⟩ := h
  exact ⟨hid, hcell, hcount, config.archived, ClientConfig.postInit_archived hconfig, hduration,
    hintent, rate, resolveRate_archived hrate, rfl⟩

theorem estimatePlan_archived {trials : List TrialSpec} {bytes seconds : Option ℤ}
    {estimate : PlanEstimate}
    (h : estimatePlan parse (trials.map fun spec => (spec.config, spec.rateIntent)) bytes seconds =
      .ok estimate) :
    estimatePlan parse ((trials.map TrialSpec.archived).map fun spec => (spec.config, spec.rateIntent))
      bytes seconds = .ok estimate := by
  simp only [estimatePlan, bind_eq_ok, exists_unit] at h ⊢
  obtain ⟨hbytes, hseconds, runs, hruns, hrest⟩ := h
  refine ⟨hbytes, hseconds, runs, ?_, hrest⟩
  rw [mapM_eq_ok, List.forall₂_map_left_iff] at hruns
  rw [mapM_eq_ok, List.map_map, List.forall₂_map_left_iff]
  exact hruns.imp fun _ _ h => estimateRun_archived h

theorem cellRuns_archived (trials : List TrialSpec) (cell : PyStr) :
    cellRuns (trials.map TrialSpec.archived) cell = cellRuns trials cell := by
  rw [cellRuns, List.filter_map, List.map_map]
  rfl

/-- An admitted plan is admitted behind the codec. -/
theorem PreparedPlan.Admitted.archived {plan : PreparedPlan} (h : plan.Admitted parse) :
    plan.archived.Admitted parse := by
  simp only [Admitted, preparePlan, bind_eq_ok, exists_unit, pure, Except.pure,
    Except.ok.injEq] at h ⊢
  obtain ⟨hpolicy, hbudget, hlength, hseed, admitted, hadmitted, hids, hcells, estimate, hestimate,
    hpauses, heq⟩ := h
  obtain rfl : admitted = plan.trials := congrArg PreparedPlan.trials heq
  have hmapped := mapM_map_of_mapM (a := TrialSpec.archived) (b := TrialSpec.archived)
    (fun _ _ h => copySpec_archived h) hadmitted
  have hsameIds : (plan.trials.map TrialSpec.archived).map TrialSpec.trialId =
      plan.trials.map TrialSpec.trialId := by
    rw [List.map_map]
    rfl
  have hsameCells : (plan.trials.map TrialSpec.archived).map TrialSpec.cellId =
      plan.trials.map TrialSpec.cellId := by
    rw [List.map_map]
    rfl
  refine ⟨hpolicy, hbudget, ?_, hseed, plan.trials.map TrialSpec.archived, hmapped, ?_, ?_, estimate,
    estimatePlan_archived hestimate, ?_, ?_⟩
  · rw [PreparedPlan.archived, List.length_map]
    exact hlength
  · rw [hsameIds]
    exact hids
  · simp only [hsameCells, cellRuns_archived]
    exact hcells
  · rw [List.length_map]
    exact hpauses
  · rw [List.length_map]
    exact congrArg PreparedPlan.archived heq

end Iperf3Lib
