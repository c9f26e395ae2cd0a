import ReplicaPlacement.Proofs.Search.Complete

namespace ReplicaPlacement

open Traced (Agree)

/-- The same tracker but for the order of its kinds. -/
inductive Tracker.Alike (t : Tracker) : Tracker → Prop where
  | reordered {kinds : List ProviderKind} : t.kinds.Perm kinds → Alike t { t with kinds }

namespace Constraints

/-- The same constraints but for what is occupied, of which a search sees the same. -/
inductive Alike (k : Constraints) : Constraints → Prop where
  | replaced {occupied : Occupancy} :
      k.occupied.nodes = occupied.nodes → k.occupied.sharedNames = occupied.sharedNames →
      k.seedKinds.Perm { k with occupied }.seedKinds → Alike k { k with occupied }

variable {k k' : Constraints} {t u : Tracker}

namespace Alike

theorem rebuild_eq (constraints : k.Alike k') (t : Tracker) : k'.rebuild t = k.rebuild t := by
  cases constraints
  rfl

theorem admissible_eq (constraints : k.Alike k') (t : Tracker) (c : Candidate) :
    k'.admissible t c = k.admissible t c := by
  cases constraints
  rfl

theorem select_eq (constraints : k.Alike k') (t : Tracker) (c : Candidate) :
    k'.select t c = k.select t c := by
  cases constraints
  rfl

theorem seedKinds_perm (constraints : k.Alike k') : k.seedKinds.Perm k'.seedKinds := by
  cases constraints with
  | replaced _ _ permutation => exact permutation

end Alike

structure AlikeReplies {ε : Type} (p q : Tracker × Option ε) : Prop where
  tracker : p.1.Alike q.1
  failure : p.2 = q.2

theorem rebuild_alike (constraints : k.Alike k') (trackers : t.Alike u) :
    AlikeReplies (k.rebuild t) (k'.rebuild u) := by
  rw [constraints.rebuild_eq]
  obtain ⟨permutation⟩ := trackers
  unfold rebuild
  dsimp only
  cases runAll (k.addExpectation t.nodes) ∅ k.filter.sameRules with
  | mk same failure =>
      cases failure with
      | some e => exact ⟨.reordered permutation, rfl⟩
      | none => exact ⟨.reordered permutation, rfl⟩

theorem reset_alike (constraints : k.Alike k') (trackers : t.Alike u) :
    AlikeReplies (k.reset t) (k'.reset u) := by
  apply rebuild_alike constraints
  obtain ⟨nodes_eq, sharedNames_eq, permutation⟩ := constraints
  cases trackers
  rw [nodes_eq, sharedNames_eq]
  exact .reordered permutation

theorem admissible_alike (constraints : k.Alike k') (trackers : t.Alike u) (c : Candidate) :
    k.admissible t c = k'.admissible u c := by
  rw [constraints.admissible_eq]
  obtain ⟨permutation⟩ := trackers
  apply admissible_congr
  case kinds => exact permutation
  all_goals rfl

theorem select_alike (constraints : k.Alike k') (trackers : t.Alike u) (c : Candidate) :
    AlikeReplies (k.select t c) (k'.select u c) := by
  rw [constraints.select_eq]
  obtain ⟨permutation⟩ := trackers
  unfold select
  dsimp only
  cases runAll (k.fixExpectation c.node) t.same t.same.toList with
  | mk same failure =>
      cases failure with
      | some e => exact ⟨.reordered permutation, rfl⟩
      | none =>
          cases runAll (k.takeValue c.node) t.taken t.taken.toList with
          | mk taken failure =>
              cases failure with
              | some e => exact ⟨.reordered permutation, rfl⟩
              | none => exact ⟨.reordered (permutation.append_right _), rfl⟩

theorem withdraw_alike (trackers : t.Alike u) (c : Candidate) :
    (withdraw t c).Alike (withdraw u c) := by
  obtain ⟨permutation⟩ := trackers
  refine .reordered ?_
  change (eraseLast c.kind t.kinds).Perm (eraseLast c.kind _)
  rw [← Multiset.coe_eq_coe, coe_eraseLast, coe_eraseLast, Multiset.coe_eq_coe.mpr permutation]

theorem keepsSeed_alike (constraints : k.Alike k') (trackers : t.Alike u) :
    k.keepsSeed t = k'.keepsSeed u := by
  obtain ⟨permutation⟩ := trackers
  rw [Bool.eq_iff_iff]
  simp only [keepsSeed, List.all_eq_true, List.contains_iff_mem, permutation.mem_iff,
    constraints.seedKinds_perm.mem_iff]

theorem unselect_alike (constraints : k.Alike k') (trackers : t.Alike u) (c : Candidate) :
    AlikeReplies (k.unselect t c) (k'.unselect u c) := by
  have withdrawn := withdraw_alike trackers c
  have rebuilt := rebuild_alike constraints withdrawn
  unfold unselect
  dsimp only
  rw [keepsSeed_alike constraints withdrawn]
  split
  · exact ⟨rebuilt.tracker, congrArg (Option.map PlacementError.accessDenied) rebuilt.failure⟩
  · exact ⟨withdrawn, rfl⟩

theorem AlikeReplies.agree {ε : Type} {p q : Tracker × Option ε} (alike : AlikeReplies p q)
    (fault : ε → PlacementError) : Agree Tracker.Alike (ofReply fault p) (ofReply fault q) := by
  obtain ⟨t, failure⟩ := p
  obtain ⟨u, other⟩ := q
  obtain rfl : failure = other := alike.failure
  cases failure with
  | none => exact .done rfl rfl alike.tracker
  | some e => exact .failed rfl rfl

theorem ofExcept_fresh (k : Constraints) :
    Traced.ofExcept (k.fresh.mapError .accessDenied) = ofReply .accessDenied (k.reset {}) := by
  unfold fresh
  cases k.reset {} with
  | mk t failure => cases failure <;> rfl

theorem fresh_alike (constraints : k.Alike k') :
    Agree Tracker.Alike (.ofExcept (k.fresh.mapError .accessDenied))
      (.ofExcept (k'.fresh.mapError .accessDenied)) := by
  have start : ({} : Tracker).Alike {} := .reordered (List.Perm.refl _)
  rw [ofExcept_fresh, ofExcept_fresh]
  exact (reset_alike constraints start).agree .accessDenied

theorem restart_alike (constraints : k.Alike k') (trackers : t.Alike u) :
    Agree Tracker.Alike (k.restart t) (k'.restart u) := by
  rw [restart_eq, restart_eq]
  exact (reset_alike constraints trackers).agree .accessDenied

theorem consider_alike (constraints : k.Alike k') (trackers : t.Alike u) (c : Candidate) :
    Agree (· = ·) (k.consider t c) (k'.consider u c) := by
  apply Agree.of_outcome_eq
  rw [outcome_consider, outcome_consider, admissible_alike constraints trackers]

theorem pick_alike (constraints : k.Alike k') (trackers : t.Alike u) (c : Candidate) :
    Agree Tracker.Alike (k.pick t c) (k'.pick u c) := by
  rw [pick_eq, pick_eq]
  refine (Agree.of_outcome_eq rfl).bind fun _ _ _ => ?_
  exact (select_alike constraints trackers c).agree .accessDenied

theorem undo_alike (constraints : k.Alike k') (trackers : t.Alike u) (c : Candidate) :
    Agree Tracker.Alike (k.undo t c) (k'.undo u c) := by
  rw [undo_eq, undo_eq]
  refine (Agree.of_outcome_eq rfl).bind fun _ _ _ => ?_
  exact (unselect_alike constraints trackers c).agree id

theorem complete_alike (constraints : k.Alike k') (required : Nat) (candidates : List Candidate)
    (trackers : t.Alike u) :
    Agree (fun r r' => r.1 = r'.1 ∧ r.2.Alike r'.2) (k.complete required candidates t)
      (k'.complete required candidates u) := by
  induction candidates generalizing t u with
  | nil =>
      obtain ⟨permutation⟩ := trackers
      exact .done rfl rfl ⟨rfl, .reordered permutation⟩
  | cons c rest induction =>
      rw [complete, complete]
      refine (consider_alike constraints trackers c).bind ?_
      rintro admitted _ rfl
      cases admitted with
      | false => exact induction trackers
      | true =>
          refine (pick_alike constraints trackers c).bind fun next next' picked => ?_
          have size_eq : next.size = next'.size := by
            cases picked
            rfl
          rw [size_eq]
          split
          · exact .done rfl rfl ⟨rfl, picked⟩
          · refine (induction picked).bind ?_
            rintro ⟨found, v⟩ ⟨_, v'⟩ ⟨rfl, left⟩
            cases found with
            | true => exact .done rfl rfl ⟨rfl, left⟩
            | false =>
                exact (undo_alike constraints left c).bind fun _ _ undone => induction undone

theorem search_alike (constraints : k.Alike k') (prune : Bool) (required start : Nat)
    (candidates : List Candidate) (trackers : t.Alike u) (best : Option Selection) :
    Agree (· = ·) (k.search prune required start candidates t best)
      (k'.search prune required start candidates u best) := by
  induction candidates generalizing start t u best with
  | nil => exact .of_outcome_eq rfl
  | cons c rest induction =>
      rw [search, search]
      split
      · exact .of_outcome_eq rfl
      · refine (restart_alike constraints trackers).bind fun _ _ restarted => ?_
        refine (complete_alike constraints required (c :: rest) restarted).bind ?_
        rintro ⟨found, v⟩ ⟨_, v'⟩ ⟨rfl, left⟩
        cases found with
        | false => exact .of_outcome_eq rfl
        | true =>
            -- The picks are the same in both, and with them the scores that compete.
            have selection_eq : v.selection = v'.selection := by
              cases left
              rfl
            dsimp only
            rw [selection_eq]
            refine (Agree.of_outcome_eq rfl).bind ?_
            rintro best _ rfl
            split
            · split
              · exact .of_outcome_eq rfl
              · exact (Agree.of_outcome_eq rfl).bind fun _ _ _ => induction _ left best
            · exact induction _ left best

end Constraints

end ReplicaPlacement
