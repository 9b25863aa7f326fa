import Mathlib.Data.List.Basic
import Mathlib.Data.Nat.Find
import Mathlib.Tactic.Common

/-!
# Hop-by-hop forwarding

A node forwards a packet over one of several links; a link that leads nowhere
is `none`.  `ArrivesWithin` says that every choice at every hop leads to the
goal, over a bounded number of links and without a dead end.  Where each node
chooses in a fixed way, `follow` is the path that results.  `linksLeft` is the
rank that goes down at every hop.

Everything here is independent of the kind of nodes and of how they choose.
-/

namespace Forwarding

variable {ν : Type*}

/-- Every way to forward from the node arrives within that many links. -/
def ArrivesWithin
    (hops : ν → List (Option ν))
    (goal : ν → Prop) :
    Nat → ν → Prop
  | 0, node => goal node
  | links + 1, node =>
      goal node ∨
        (hops node ≠ [] ∧
          ∀ hop ∈ hops node, ∃ next, hop = some next ∧
            ArrivesWithin hops goal links next)

variable {hops : ν → List (Option ν)} {goal : ν → Prop}

theorem ArrivesWithin.here
    {node : ν}
    (atGoal : goal node)
    (links : Nat) :
    ArrivesWithin hops goal links node := by
  cases links with
  | zero => exact atGoal
  | succ links => exact Or.inl atGoal

theorem ArrivesWithin.step
    {node : ν}
    {links : Nat}
    (forwarded : hops node ≠ [])
    (onward :
      ∀ hop ∈ hops node, ∃ next, hop = some next ∧
        ArrivesWithin hops goal links next) :
    ArrivesWithin hops goal (links + 1) node :=
  Or.inr ⟨forwarded, onward⟩

/-- A larger bound is met as well. -/
theorem ArrivesWithin.mono
    {node : ν}
    {links more : Nat}
    (arrives : ArrivesWithin hops goal links node)
    (atMost : links ≤ more) :
    ArrivesWithin hops goal more node := by
  induction links generalizing node more with
  | zero => exact .here arrives more
  | succ links inductionHypothesis =>
      cases more with
      | zero => omega
      | succ more =>
          rcases arrives with atGoal | ⟨forwarded, onward⟩
          · exact .here atGoal _
          · refine .step forwarded ?_
            intro hop member
            obtain ⟨next, isNext, arrives⟩ := onward hop member
            exact
              ⟨next, isNext,
                inductionHypothesis arrives (Nat.le_of_succ_le_succ atMost)⟩

/-- A goal that is part of another. -/
theorem ArrivesWithin.weaken
    {weaker : ν → Prop}
    (weakens : ∀ node, goal node → weaker node)
    {node : ν}
    {links : Nat}
    (arrives : ArrivesWithin hops goal links node) :
    ArrivesWithin hops weaker links node := by
  induction links generalizing node with
  | zero => exact weakens node arrives
  | succ links inductionHypothesis =>
      rcases arrives with atGoal | ⟨forwarded, onward⟩
      · exact .here (weakens node atGoal) _
      · refine .step forwarded fun hop member => ?_
        obtain ⟨next, isNext, arrives⟩ := onward hop member
        exact ⟨next, isNext, inductionHypothesis arrives⟩

/-! ## The links that are left -/

/-- Every way to forward from the node arrives. -/
def Arrives
    (hops : ν → List (Option ν))
    (goal : ν → Prop)
    (node : ν) :
    Prop :=
  ∃ links, ArrivesWithin hops goal links node

open Classical in
/-- The least bound on the links to the goal; zero where there is none. -/
noncomputable def linksLeft
    (hops : ν → List (Option ν))
    (goal : ν → Prop)
    (node : ν) :
    Nat :=
  if arrives : Arrives hops goal node then Nat.find arrives else 0

theorem Arrives.within_linksLeft
    {node : ν}
    (arrives : Arrives hops goal node) :
    ArrivesWithin hops goal (linksLeft hops goal node) node := by
  classical
  rw [linksLeft, dif_pos arrives]
  exact Nat.find_spec arrives

theorem linksLeft_le
    {node : ν}
    {links : Nat}
    (arrives : ArrivesWithin hops goal links node) :
    linksLeft hops goal node ≤ links := by
  classical
  have reached : Arrives hops goal node := ⟨links, arrives⟩
  rw [linksLeft, dif_pos reached]
  exact Nat.find_min' reached arrives

/-- Away from the goal there is a hop, and every hop leaves fewer links. -/
theorem Arrives.onward
    {node : ν}
    (arrives : Arrives hops goal node)
    (away : ¬ goal node) :
    hops node ≠ [] ∧
      ∀ hop ∈ hops node, ∃ next, hop = some next ∧
        Arrives hops goal next ∧
        linksLeft hops goal next < linksLeft hops goal node := by
  have within := arrives.within_linksLeft
  generalize linksLeft hops goal node = links at within
  cases links with
  | zero => exact absurd within away
  | succ links =>
      obtain ⟨forwarded, onward⟩ := within.resolve_left away
      refine ⟨forwarded, fun hop member => ?_⟩
      obtain ⟨next, isNext, later⟩ := onward hop member
      exact
        ⟨next, isNext, ⟨links, later⟩,
          Nat.lt_succ_of_le (linksLeft_le later)⟩

/-! ## Fixed choices -/

/-- The nodes on the path, as long as some node is next and links are left. -/
def follow (next : ν → Option ν) : Nat → ν → List ν
  | 0, node => [node]
  | links + 1, node =>
      node ::
        match next node with
        | some onward => follow next links onward
        | none => []

variable {next : ν → Option ν}

theorem follow_of_some
    {node onward : ν}
    (isNext : next node = some onward)
    (links : Nat) :
    follow next (links + 1) node = node :: follow next links onward := by
  simp [follow, isNext]

theorem follow_of_none
    {node : ν}
    (last : next node = none)
    (links : Nat) :
    follow next links node = [node] := by
  cases links with
  | zero => rfl
  | succ links => simp [follow, last]

/-- A path starts where it should. -/
theorem exists_follow
    (next : ν → Option ν)
    (links : Nat)
    (node : ν) :
    ∃ rest, follow next links node = node :: rest := by
  cases links with
  | zero => exact ⟨[], rfl⟩
  | succ links => exact ⟨_, rfl⟩

/-- Each node of a path is next after the one before it. -/
theorem next_of_follow
    {links : Nat}
    {start node onward : ν}
    {front rest : List ν}
    (path : follow next links start = front ++ node :: onward :: rest) :
    next node = some onward := by
  induction links generalizing start front with
  | zero =>
      have length := congrArg List.length path
      simp only [follow, List.length_cons, List.length_nil,
        List.length_append] at length
      omega
  | succ links inductionHypothesis =>
      cases isNext : next start with
      | none =>
          have length := congrArg List.length path
          simp only [follow_of_none isNext, List.length_cons,
            List.length_nil, List.length_append] at length
          omega
      | some second =>
          rw [follow_of_some isNext] at path
          cases front with
          | cons head front =>
              have rest := (List.cons.inj path).2
              exact inductionHypothesis rest
          | nil =>
              obtain ⟨rfl, tail⟩ := List.cons.inj path
              cases links with
              | zero =>
                  obtain ⟨rfl, _⟩ := List.cons.inj tail
                  exact isNext
              | succ links =>
                  obtain ⟨rfl, _⟩ := List.cons.inj tail
                  exact isNext

end Forwarding
