import ReplicaPlacement.Proofs.Search.Trace
import ReplicaPlacement.Proofs.Selection.Select

namespace ReplicaPlacement

open Event (Tells)
open Traced (runs_bind_iff runs_pure_iff runs_ofExcept_iff runs_reportAll_bind_iff
  runs_report_bind_iff runs_report_pure_iff)

variable {resource : Option Resource} {candidates ranked : List Candidate}
variable {occupied : Occupancy} {events : List Event}

def openingEvents (resource : Option Resource) (candidates : List Candidate)
    (occupied : Occupancy) : List Event :=
  (candidates.filter (!·.score.isFinite)).map .scoreNotFinite ++
    ((Candidate.rank candidates).map .ranked ++ occupied.events resource)

theorem idle_openingEvents (resource : Option Resource) (candidates : List Candidate)
    (occupied : Occupancy) :
    ∀ e ∈ openingEvents resource candidates occupied,
      e.Idle ∧ ∀ required found, e ≠ .started required found := by
  intro e member
  rcases List.mem_append.mp member with unranked | member
  · obtain ⟨c, -, rfl⟩ := List.mem_map.mp unranked
    exact ⟨⟨rfl, fun _ => rfl⟩, nofun⟩
  rcases List.mem_append.mp member with ranked | scanned
  · obtain ⟨c, -, rfl⟩ := List.mem_map.mp ranked
    exact ⟨⟨rfl, fun _ => rfl⟩, nofun⟩
  · unfold Occupancy.events at scanned
    split at scanned
    next => contradiction
    next =>
      split at scanned <;> obtain rfl := List.mem_singleton.mp scanned <;>
        exact ⟨⟨rfl, fun _ => rfl⟩, nofun⟩

theorem runs_rankReported_iff :
    (Candidate.rankReported candidates).Runs events ranked ↔
      ranked = Candidate.rank candidates ∧
        events = (candidates.filter (!·.score.isFinite)).map .scoreNotFinite := by
  unfold Candidate.rankReported
  rw [runs_reportAll_bind_iff]
  simp [runs_pure_iff, eq_comm]

theorem events_eq_of_scan {mixing : MixingPolicy} {filter : PlacementFilter}
    (run : (Occupancy.scan mixing filter resource).Runs events occupied) :
    events = occupied.events resource := by
  unfold Occupancy.scan at run
  rw [runs_bind_iff] at run
  obtain ⟨found, _, _, first, rest, rfl⟩ := run
  obtain ⟨-, rfl⟩ := runs_ofExcept_iff.mp first
  obtain ⟨after, last, rfl⟩ := runs_reportAll_bind_iff.mp rest
  obtain ⟨rfl, rfl⟩ := runs_pure_iff.mp last
  rw [List.nil_append, List.append_nil]

namespace Selector

variable {s : Selector} {filter : PlacementFilter} {r : Option Selection}

theorem tells_of_select (run : (s.select filter resource candidates).Runs events r)
    (searched : ∃ required found, .started required found ∈ events) : Tells none r events := by
  unfold select at run
  rw [runs_bind_iff] at run
  obtain ⟨ranked, _, _, ranking, run, rfl⟩ := run
  obtain ⟨rfl, rfl⟩ := runs_rankReported_iff.mp ranking
  obtain ⟨_, scanning, rfl⟩ := runs_reportAll_bind_iff.mp run
  rw [runs_bind_iff] at scanning
  obtain ⟨occupied, _, after, scan, rest, rfl⟩ := scanning
  obtain rfl := events_eq_of_scan scan
  have opening := idle_openingEvents resource candidates occupied
  have opens : (candidates.filter (!·.score.isFinite)).map .scoreNotFinite ++
      ((Candidate.rank candidates).map .ranked ++ (occupied.events resource ++ after)) =
        openingEvents resource candidates occupied ++ after := by
    simp [openingEvents, List.append_assoc]
  rw [opens] at searched ⊢
  refine Tells.idle_append (fun e member => (opening e member).1) ?_
  dsimp only at rest
  split at rest
  next =>
    -- Where nothing is required, no search begins.
    obtain ⟨rfl, rfl⟩ := runs_report_pure_iff.mp rest
    obtain ⟨required, found, member⟩ := searched
    rcases List.mem_append.mp member with opened | satisfied
    · exact absurd rfl ((opening _ opened).2 required found)
    · exact absurd (List.mem_singleton.mp satisfied) nofun
  next some =>
    obtain ⟨_, readying, rfl⟩ := runs_report_bind_iff.mp rest
    refine .idle_cons ⟨rfl, fun _ => rfl⟩ ?_
    rw [runs_bind_iff] at readying
    obtain ⟨fresh, _, _, ready, searching, rfl⟩ := readying
    obtain ⟨-, rfl⟩ := runs_ofExcept_iff.mp ready
    rw [runs_bind_iff] at searching
    obtain ⟨best, told, _, search, closing, rfl⟩ := searching
    have tells := Constraints.tells_of_search (Nat.pos_of_ne_zero some) search
    rw [List.nil_append]
    cases best with
    | none =>
        obtain ⟨rfl, rfl⟩ := runs_report_pure_iff.mp closing
        exact tells.append_idle (Event.Idle.singleton ⟨rfl, fun _ => rfl⟩)
    | some selection =>
        obtain ⟨rfl, rfl⟩ := runs_report_pure_iff.mp closing
        exact tells.append_idle (Event.Idle.singleton ⟨rfl, fun _ => rfl⟩)

/-- The picks added and not removed within an attempt are those that it ends with, each combination
found scores more than the one found before it, and the last one found, if any, is selected. -/
theorem trace_explains_result (run : (s.select filter resource candidates).outcome = .ok r)
    (searched : ∃ required found,
      .started required found ∈ (s.select filter resource candidates).events) :
    let trace := (s.select filter resource candidates).events
    (∀ steps ending, Event.Attempt trace steps ending →
      Event.replay [] steps = ending.leftOver?) ∧
    (trace.filterMap Event.improvement?).IsChain (fun a b => a.score < b.score) ∧
    r = (trace.filterMap Event.improvement?).getLast? := by
  intro trace
  have tells : Tells none r trace := tells_of_select ⟨run, rfl⟩ searched
  exact ⟨fun steps ending => tells.explained.replay_eq, tells.improving, tells.result_eq⟩

def pairedBySite : List Candidate :=
  [{ name := "p", node := "a", kind := .lvm, score := ⟨0x4024000000000000⟩ },
    { name := "p", node := "b", kind := .lvm, score := ⟨0x4022000000000000⟩ },
    { name := "p", node := "c", kind := .lvm, score := ⟨0x4020000000000000⟩ },
    { name := "p", node := "d", kind := .lvm, score := ⟨0x3ff0000000000000⟩ }]

theorem trace_explains_result_pairedBySite :
    let filter : PlacementFilter := { replicaCount := some 2, sameRules := [⟨"site", none⟩] }
    let site (node : String) : String := if node = "a" ∨ node = "d" then "s1" else "s2"
    let s : Selector :=
      { properties := fun node _ => .ok (some (site node)), mixing := .standard, prune := false }
    let run := s.select filter none pairedBySite
    let steps : List Event :=
      [.added pairedBySite[2], .rejected pairedBySite[3] (.valueDiffers "site" (some "s1") "s2"),
        .removed pairedBySite[2], .added pairedBySite[3], .removed pairedBySite[3]]
    let best : Selection := ⟨[pairedBySite[1], pairedBySite[2]], ⟨0x4031000000000000⟩⟩
    run.outcome = .ok (some best) ∧ Event.Attempt run.events steps (.noCombination 2) ∧
      Event.replay [] steps = some [] ∧
      (run.events.filterMap Event.improvement?).length = 2 ∧
      (run.events.filterMap Event.improvement?).IsChain (fun a b => a.score < b.score) ∧
      some best = (run.events.filterMap Event.improvement?).getLast? := by
  intro filter site s run steps best
  have outcome : run.outcome = .ok (some best) := by decide +kernel
  have attempt : Event.Attempt run.events steps (.noCombination 2) := by
    have follows : (run.events.take 13).getLast?.all (·.leftOver?.isSome) = true := by
      decide +kernel
    refine ⟨⟨run.events.take 13, run.events.drop 19, by decide +kernel, fun e last => ?_⟩,
      by decide, rfl⟩
    rw [last] at follows
    exact follows
  obtain ⟨replayed, improving, last⟩ :=
    trace_explains_result outcome ⟨2, 4, by decide +kernel⟩
  exact ⟨outcome, attempt, replayed _ _ attempt, by decide +kernel, improving, last⟩

end Selector

end ReplicaPlacement
