import SwitchV2P.TopologySpec

namespace SwitchV2P.FollowMe

/-!
# Where a migrated container is looked for

Three places turn the leaf that a container migrates to into an address.  The
follow-me rule divides by the pod width of the parameters, the mapping update
and the setup of the hosts by the one that `SimulationBase` derives.  The two
differ in a CLOS network, which is a single pod whatever the parameter says,
and where the parameter does not fit 32 bits.
-/

open DottedQuad

/-- The leaf that the container migrates to. -/
def dstLeaf (sim : TraceSimulation) : Nat :=
  sim.migrationParams.dstLeaf.toNat

/-- The host that the container migrates to. -/
def dstHost (sim : TraceSimulation) : Nat :=
  sim.migrationParams.dstHost.toNat

/--
The address to which the `SendFollowMeRule` of every host sends a misdelivered
packet; there is none if the division by `PodWidth` fails.
-/
def sendFollowMeRule (sim : TraceSimulation) : Option Ipv4Address :=
  if sim.simParameters.podWidth = 0 then
    none
  else
    some sim.setupApplications.followMeAddress

/-- The address that `UpdateMappings` installs. -/
def updateMappings (sim : TraceSimulation) : Ipv4Address :=
  sim.setupApplications.updateMappingsAddress

/-- The address to which `SetupTunnel` binds the socket of a host. -/
def setupTunnel (sim : TraceSimulation) (leaf host : Nat) : Ipv4Address :=
  IpUtils.getNodePhysicalAddress
    (leaf / sim.podWidth) (leaf % sim.podWidth) host

/-- All of these places mean the same host. -/
structure Agrees (sim : TraceSimulation) : Prop where
  followMe : sendFollowMeRule sim = some (updateMappings sim)
  tunnel : updateMappings sim = setupTunnel sim (dstLeaf sim) (dstHost sim)
  assigned :
    (sim.interfaces (.host (dstLeaf sim) (dstHost sim))).map
        Interface.address =
      [setupTunnel sim (dstLeaf sim) (dstHost sim)]

/-- When the parameter splits the leaf as the derived pod width does. -/
def SplitsLeaf (sim : TraceSimulation) : Prop :=
  match sim.simParameters.networkTopology with
  | .clos => dstLeaf sim < sim.simParameters.podWidth
  | .fattree =>
      sim.simParameters.podWidth < 2 ^ 32 ∨
        dstLeaf sim / sim.podWidth % 256 = 0

variable {sim : TraceSimulation}

/-! ## The mapping update -/

/-- The nodes are told the pod width that the topology has. -/
theorem podWidth_setupApplications (sim : TraceSimulation) :
    sim.setupApplications.podWidth = sim.podWidth := by
  rfl

theorem updateMappings_eq (sim : TraceSimulation) :
    updateMappings sim = setupTunnel sim (dstLeaf sim) (dstHost sim) := by
  rw [updateMappings, Network.updateMappingsAddress,
    podWidth_setupApplications]
  rfl

theorem assigned_eq
    (accepted : sim.Accepted)
    (present : sim.HasNode (.host (dstLeaf sim) (dstHost sim))) :
    (sim.interfaces (.host (dstLeaf sim) (dstHost sim))).map
        Interface.address =
      [setupTunnel sim (dstLeaf sim) (dstHost sim)] := by
  rw [accepted.interfaces_host present]
  rfl

/-! ## The follow-me rule -/

/-- Two ways to split a leaf name one host if the octets are the same. -/
theorem sendFollowMeRule_eq_iff (sim : TraceSimulation) :
    sendFollowMeRule sim = some (updateMappings sim) ↔
      sim.simParameters.podWidth ≠ 0 ∧
        (dstLeaf sim / sim.simParameters.podWidth + 1) % 256 =
          (dstLeaf sim / sim.podWidth + 1) % 256 ∧
        dstLeaf sim % sim.simParameters.podWidth % 256 =
          dstLeaf sim % sim.podWidth % 256 := by
  have followMe :
      sim.setupApplications.followMeAddress =
        ofOctets (dstLeaf sim / sim.simParameters.podWidth + 1)
          (dstLeaf sim % sim.simParameters.podWidth) (dstHost sim) 1 :=
    IpUtils.getNodePhysicalAddress_octets _ _ _
  have mapped :
      updateMappings sim =
        ofOctets (dstLeaf sim / sim.podWidth + 1)
          (dstLeaf sim % sim.podWidth) (dstHost sim) 1 := by
    rw [updateMappings_eq, setupTunnel,
      IpUtils.getNodePhysicalAddress_octets]
  rw [sendFollowMeRule]
  split
  next zero => simp [zero]
  next nonzero =>
    rw [followMe, mapped, Option.some.injEq, ofOctets_eq_iff]
    simp [nonzero]

/-- In a CLOS network the leaf is its own offset. -/
theorem splitsLeaf_clos
    (accepted : sim.Accepted)
    (present : dstLeaf sim < sim.leafCount)
    (clos : sim.simParameters.networkTopology = .clos) :
    sendFollowMeRule sim = some (updateMappings sim) ↔
      dstLeaf sim < sim.simParameters.podWidth := by
  have onePod : sim.podWidth = sim.leafCount := by
    simp [SimulationBase.podWidth, clos]
  have few := accepted.closLeaves clos
  rw [sendFollowMeRule_eq_iff, onePod, Nat.div_eq_of_lt present,
    Nat.mod_eq_of_lt present]
  generalize sim.simParameters.podWidth = width
  constructor
  · rintro ⟨nonzero, samePod, _⟩
    have quotient : dstLeaf sim / width ≤ dstLeaf sim :=
      Nat.div_le_self _ _
    have firstPod : dstLeaf sim / width = 0 := by
      generalize dstLeaf sim / width = pod at samePod quotient
      omega
    exact (Nat.div_eq_zero_iff.mp firstPod).resolve_left nonzero
  · intro inside
    rw [Nat.div_eq_of_lt inside, Nat.mod_eq_of_lt inside]
    exact ⟨by omega, rfl, rfl⟩

/-- In a fat tree only the truncation to 32 bits can make a difference. -/
theorem splitsLeaf_fattree
    (accepted : sim.Accepted)
    (fattree : sim.simParameters.networkTopology = .fattree) :
    sendFollowMeRule sim = some (updateMappings sim) ↔
      sim.simParameters.podWidth < 2 ^ 32 ∨
        dstLeaf sim / sim.podWidth % 256 = 0 := by
  have truncated :
      sim.podWidth = sim.simParameters.podWidth % 2 ^ 32 := by
    simp [SimulationBase.podWidth, fattree]
  have nonzero := accepted.podWidth_ne_zero
  rw [sendFollowMeRule_eq_iff]
  by_cases fits : sim.simParameters.podWidth < 2 ^ 32
  · rw [Nat.mod_eq_of_lt fits] at truncated
    rw [truncated] at nonzero ⊢
    exact ⟨fun _ => Or.inl fits, fun _ => ⟨nonzero, rfl, rfl⟩⟩
  · have leafSmall : dstLeaf sim < 2 ^ 32 :=
      sim.migrationParams.dstLeaf.toNat_lt
    have inside : dstLeaf sim < sim.simParameters.podWidth := by omega
    rw [Nat.div_eq_of_lt inside, Nat.mod_eq_of_lt inside]
    have split := Nat.div_add_mod (dstLeaf sim) sim.podWidth
    constructor
    · rintro ⟨_, samePod, _⟩
      exact Or.inr (by omega)
    · rintro (small | firstPod)
      · exact absurd small fits
      · refine ⟨by omega, by omega, ?_⟩
        -- Whole pods take up a multiple of 256 leaves.
        have whole :
            sim.podWidth * (dstLeaf sim / sim.podWidth) % 256 = 0 := by
          rw [Nat.mul_mod, firstPod, Nat.mul_zero, Nat.zero_mod]
        omega

/-- All places agree exactly when the parameter splits the leaf correctly. -/
theorem agrees_iff_splitsLeaf
    (accepted : sim.Accepted)
    (present : sim.HasNode (.host (dstLeaf sim) (dstHost sim))) :
    Agrees sim ↔ SplitsLeaf sim := by
  have followMe :
      sendFollowMeRule sim = some (updateMappings sim) ↔
        SplitsLeaf sim := by
    rw [SplitsLeaf]
    cases topology : sim.simParameters.networkTopology with
    | clos => exact splitsLeaf_clos accepted present.1 topology
    | fattree => exact splitsLeaf_fattree accepted topology
  rw [← followMe]
  constructor
  · exact fun agrees => agrees.followMe
  · exact fun same =>
      ⟨same, updateMappings_eq sim, assigned_eq accepted present⟩

/-- A CLOS network of eight leaves, with the given pod width parameter. -/
def eightLeaves (podWidth : Nat) : TraceSimulation :=
  { TraceSimulation.onePod .switchV2P with
    simParameters :=
      { (TraceSimulation.onePod .switchV2P).simParameters with
        networkTopology := .clos
        numOfPorts := 16
        podWidth := podWidth }
    hostCounts := List.replicate 8 1
    migrationParams :=
      { migration := true
        containerId := 2
        dstLeaf := 5
        dstHost := 0 } }

theorem accepted_eightLeaves (podWidth : Nat) :
    (eightLeaves podWidth).Accepted where
  podWidth_ne_zero := by
    change (8 : Nat) ≠ 0
    decide
  ports := by
    change 8 ≤ 16
    decide
  podWidth_le := by
    change (8 : Nat) ≤ 16 / 2
    decide
  closLeaves := by
    intro _
    change (8 : Nat) ≤ 255
    decide
  fullPods := by
    intro fattree
    exact absurd fattree (by simp [eightLeaves])
  coresDivide := Nat.zero_mod _
  podCount_le := by
    change (8 : Nat) / 8 ≤ 16
    decide
  octetFits := by
    change (8 : Nat) / 8 * 3 % 2 ^ 32 < 255
    decide
  hostCount_le := by
    intro leaf _
    simp only [eightLeaves, SimulationBase.hostCount,
      List.getD_eq_getElem?_getD, List.getElem?_replicate]
    split <;> decide

/-- The parameter may also be larger than the network. -/
theorem agrees_eightLeaves : Agrees (eightLeaves 8) :=
  (agrees_iff_splitsLeaf (accepted_eightLeaves 8) (by decide)).mpr
    (show 5 < 8 by decide)

/-- With a pod width of four, the rule names the second leaf of a second pod. -/
theorem disagrees_eightLeaves :
    ¬ ∀ sim : TraceSimulation, sim.Accepted →
        sim.HasNode (.host (dstLeaf sim) (dstHost sim)) → Agrees sim := by
  intro always
  have agrees :=
    always (eightLeaves 4) (accepted_eightLeaves 4) (by decide)
  exact absurd agrees.followMe (by decide)

end SwitchV2P.FollowMe
