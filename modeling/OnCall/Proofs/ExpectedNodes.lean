import Mathlib.Algebra.Order.BigOperators.Group.List
import Mathlib.Algebra.Order.Ring.Nat
import OnCall.Proofs.Machine
import OnCall.Proofs.ManagementRecords

/-!
# The number of nodes that is expected

How many nodes a cluster is expected to run is added up from what cluster management tells: the
nodes whose number is fixed, and those of every pool. Both ends of the range are added up alike, in
words of 32 bits.

* `NodePool.share`: what a pool contributes to an end of the range.
* `NodeCount.IsEnd.toNat_expected`: an end of the range is the exact sum, if that is a word.
* `ManagementService.Told`: what is fetched for the count, and in which order.
* `ManagementService.run_expectedNodes_ok_iff`: **when there is a count at all**;
  `ManagementService.told_spelledOut`: anything can be told.
* `ManagementService.expectedNodes_exact`: **the range of the number of nodes**, whatever the order
  of the pools, and how parts of them add up.
-/

namespace OnCall

open Program (Run)
open ManagementReply

/-! ## 1. Counting -/

/-- **An end of a range**: groups that are put together add up in it, and a fixed size is there as
it is. -/
structure NodeCount.IsEnd (part : NodeCount → UInt32) : Prop where
  add : ∀ a b : NodeCount, part (a.add b) = part a + part b
  fixed : ∀ n, part (.fixed n) = n

theorem NodeCount.isEnd_min : IsEnd NodeCount.min := ⟨fun _ _ => rfl, fun _ => rfl⟩

theorem NodeCount.isEnd_max : IsEnd NodeCount.max := ⟨fun _ _ => rfl, fun _ => rfl⟩

namespace NodePool

/-- **What a pool contributes** to an end of the range: that end of its autoscaling range if it has
one, else its size if it is given, else nothing. -/
def share (part : NodeCount → UInt32) (p : NodePool) : Nat :=
  ((p.autoscaling.map part).or p.replicas).elim 0 UInt32.toNat

/-- What some pools contribute together. -/
def shares (part : NodeCount → UInt32) (pools : List NodePool) : Nat :=
  (pools.map (share part)).sum

variable {part : NodeCount → UInt32} {pools others : List NodePool}

@[simp] theorem shares_nil : shares part [] = 0 := rfl

@[simp] theorem shares_cons (p : NodePool) (pools : List NodePool) :
    shares part (p :: pools) = p.share part + shares part pools := rfl

theorem shares_append (first second : List NodePool) :
    shares part (first ++ second) = shares part first + shares part second := by
  rw [shares, List.map_append, List.sum_append_nat]
  rfl

theorem shares_perm (perm : pools.Perm others) : shares part pools = shares part others :=
  (perm.map (share part)).sum_nat

/-- A pool contributes no more to the lower end than to the upper one if its range is in order. -/
theorem share_min_le {p : NodePool}
    (ordered : ∀ range, p.autoscaling = some range → range.min ≤ range.max) :
    p.share NodeCount.min ≤ p.share NodeCount.max := by
  unfold share
  cases scaled : p.autoscaling with
  | none => exact Nat.le_refl _
  | some range => exact UInt32.le_iff_toNat_le.mp (ordered range scaled)

theorem shares_min_le
    (ordered : ∀ p ∈ pools, ∀ range, p.autoscaling = some range → range.min ≤ range.max) :
    shares NodeCount.min pools ≤ shares NodeCount.max pools :=
  List.sum_le_sum fun p mem => share_min_le (ordered p mem)

end NodePool

theorem NodeCount.toNat_add_of_lt {a b : UInt32} (fits : a.toNat + b.toNat < UInt32.size) :
    (a + b).toNat = a.toNat + b.toNat := by
  rw [UInt32.toNat_add]
  exact Nat.mod_eq_of_lt fits

namespace NodeCount.IsEnd

variable {part : NodeCount → UInt32} {pools : List NodePool} {count : NodeCount}

/-- What a pool contributes is that end of its range. -/
theorem toNat_range (end_ : IsEnd part) (p : NodePool) : (part p.range).toNat = p.share part := by
  unfold NodePool.range NodePool.share
  cases p.autoscaling with
  | some range => rfl
  | none =>
    cases p.replicas with
    | some n => exact congrArg UInt32.toNat (end_.fixed n)
    | none => exact congrArg UInt32.toNat (end_.fixed 0)

/-- **One pool** is added without loss if the sum is a word. -/
theorem toNat_add_range (end_ : IsEnd part) {p : NodePool}
    (fits : (part count).toNat + p.share part < UInt32.size) :
    (part (count.add p.range)).toNat = (part count).toNat + p.share part := by
  rw [← end_.toNat_range] at fits ⊢
  rw [end_.add]
  exact NodeCount.toNat_add_of_lt fits

/-- **All pools**: what is counted after some of them is never more than the sum of all, so no
addition on the way leaves the words. -/
theorem toNat_foldl (end_ : IsEnd part)
    (fits : (part count).toNat + NodePool.shares part pools < UInt32.size) :
    (part (pools.foldl (fun count p => count.add p.range) count)).toNat =
      (part count).toNat + NodePool.shares part pools := by
  induction pools generalizing count with
  | nil => rfl
  | cons p pools ih =>
    rw [NodePool.shares_cons, ← Nat.add_assoc] at fits ⊢
    have step := end_.toNat_add_range (Nat.lt_of_le_of_lt (Nat.le_add_right _ _) fits)
    rw [← step] at fits ⊢
    exact ih fits

theorem toNat_expected (end_ : IsEnd part) {fixed : UInt32}
    (fits : fixed.toNat + NodePool.shares part pools < UInt32.size) :
    (part (.expected fixed pools)).toNat = fixed.toNat + NodePool.shares part pools := by
  rw [← end_.fixed fixed] at fits
  rw [NodeCount.expected, end_.toNat_foldl fits, end_.fixed]

end NodeCount.IsEnd

/-! ## 2. Fixed nodes -/

namespace Cluster

/-- **The fixed nodes that count**: those that the record of the cluster tells of, and none if the
control plane is hosted elsewhere. -/
def fixedNodes (c : Cluster) (nodes : Option FixedNodes) : Nat :=
  if c.hosted then 0 else nodes.elim 0 fun n => n.master.toNat + n.infra.toNat

/-- The same number as a word. -/
def fixedWord (c : Cluster) (nodes : Option FixedNodes) : UInt32 :=
  if c.hosted then 0 else (nodes.map fun n => n.master + n.infra).getD 0

/-- **What is expected of a cluster**, at both ends of the range. -/
structure Expects (c : Cluster) (nodes : Option FixedNodes) (pools : List NodePool)
    (count : NodeCount) : Prop where
  min : count.min.toNat = c.fixedNodes nodes + NodePool.shares NodeCount.min pools
  max : count.max.toNat = c.fixedNodes nodes + NodePool.shares NodeCount.max pools

/-- The sums at both ends are words. -/
structure WithinWords (c : Cluster) (nodes : Option FixedNodes) (pools : List NodePool) : Prop where
  min : c.fixedNodes nodes + NodePool.shares NodeCount.min pools < UInt32.size
  max : c.fixedNodes nodes + NodePool.shares NodeCount.max pools < UInt32.size

variable {c : Cluster} {nodes : Option FixedNodes} {pools others first second : List NodePool}
  {count : NodeCount}

theorem toNat_fixedWord (fits : c.fixedNodes nodes < UInt32.size) :
    (c.fixedWord nodes).toNat = c.fixedNodes nodes := by
  unfold fixedWord fixedNodes at *
  by_cases hosted : c.hosted = true
  · rw [if_pos hosted, if_pos hosted]
    rfl
  · rw [if_neg hosted] at fits
    rw [if_neg hosted, if_neg hosted]
    cases nodes with
    | none => rfl
    | some n => exact NodeCount.toNat_add_of_lt fits

theorem WithinWords.append_left (fits : c.WithinWords nodes (first ++ second)) :
    c.WithinWords nodes first := by
  obtain ⟨min, max⟩ := fits
  rw [NodePool.shares_append] at min max
  exact ⟨by omega, by omega⟩

theorem WithinWords.append_right (fits : c.WithinWords nodes (first ++ second)) :
    c.WithinWords nodes second := by
  obtain ⟨min, max⟩ := fits
  rw [NodePool.shares_append] at min max
  exact ⟨by omega, by omega⟩

theorem WithinWords.perm (fits : c.WithinWords nodes pools) (perm : pools.Perm others) :
    c.WithinWords nodes others :=
  ⟨NodePool.shares_perm perm ▸ fits.min, NodePool.shares_perm perm ▸ fits.max⟩

/-- **What is counted is what is expected**, if the sums are words. -/
theorem WithinWords.expects (fits : c.WithinWords nodes pools) :
    c.Expects nodes pools (.expected (c.fixedWord nodes) pools) := by
  have fixed := toNat_fixedWord (Nat.lt_of_le_of_lt (Nat.le_add_right _ _) fits.min)
  constructor
  · rw [NodeCount.isEnd_min.toNat_expected (by rw [fixed]; exact fits.min), fixed]
  · rw [NodeCount.isEnd_max.toNat_expected (by rw [fixed]; exact fits.max), fixed]

/-- One range is expected. -/
theorem Expects.unique {other : NodeCount} (expects : c.Expects nodes pools count)
    (again : c.Expects nodes pools other) : count = other := by
  cases count
  cases other
  exact congrArg₂ NodeCount.mk (UInt32.toNat_inj.mp (expects.min.trans again.min.symm))
    (UInt32.toNat_inj.mp (expects.max.trans again.max.symm))

theorem Expects.perm (expects : c.Expects nodes pools count) (perm : pools.Perm others) :
    c.Expects nodes others count :=
  ⟨NodePool.shares_perm perm ▸ expects.min, NodePool.shares_perm perm ▸ expects.max⟩

end Cluster

/-! ## 3. Fetching -/

namespace ManagementService

/-- **What is fetched for the count**: the pools of the cluster, and its record if its control plane
runs in the account of the customer. -/
inductive Told (s : ManagementService) (c : Cluster) :
    Option FixedNodes → List NodePool → List (Exchange web) → Prop where
  | hosted {nodes : Option FixedNodes} {pools : List NodePool} {log : List (Exchange web)}
      (hosted : c.hosted = true)
      (listed : s.Fetched (clusterPath c.id ++ "/node_pools")
        (IsItems (fun p => Json.Shaped (poolFields p)) pools) log) :
    Told s c nodes pools log
  | own {r : ClusterRecord} {pools : List NodePool} {first second : List (Exchange web)}
      (own : c.hosted = false)
      (listed : s.Fetched (clusterPath c.id ++ "/machine_pools")
        (IsItems (fun p => Json.Shaped (poolFields p)) pools) first)
      (recorded : s.Fetched (clusterPath c.id) (Json.Shaped r.fields) second) :
    Told s c r.nodes pools (first ++ second)

variable {s : ManagementService} {c : Cluster} {path : String} {log : List (Exchange web)}
  {nodes : Option FixedNodes} {pools : List NodePool} {count : NodeCount}

/-- The pools are known if they are spelled by what is fetched, whatever a failure were told as. -/
theorem run_pools_iff {text : String} :
    Run ((s.fetch path (items? pool?)).describe text).run log (.ok pools) ↔
      s.Fetched path (IsItems (fun p => Json.Shaped (poolFields p)) pools) log := by
  rw [WebWork.run_describe_ok_iff, run_fetch_ok_iff]
  simp only [pools?_iff]

/-- A cluster is known if a record of it is spelled. -/
theorem run_record_iff {reply : ClusterReply} :
    Run (s.fetch path cluster?).run log (.ok reply) ↔
      ∃ r : ClusterRecord, s.Fetched path (Json.Shaped r.fields) log ∧ r.reply = reply := by
  rw [run_fetch_ok_iff]
  simp only [cluster?_iff]
  constructor
  · intro fetched
    obtain ⟨sendable, good, parsed, r, shaped, same⟩ := fetched
    exact ⟨r, .intro sendable good parsed shaped, same⟩
  · intro known
    obtain ⟨r, ⟨sendable, good, parsed, shaped⟩, same⟩ := known
    exact .intro sendable good parsed ⟨r, shaped, same⟩

/-- Where the control plane is hosted elsewhere, the pools are all there is. -/
theorem expectedNodes_hosted (hosted : c.hosted = true) :
    s.expectedNodes c =
      ((s.fetch (clusterPath c.id ++ "/node_pools") (items? pool?)).describe
        ("failed to list machine pools of " ++ c.id) >>= fun pools =>
      pure (.expected 0 pools)) := by
  unfold expectedNodes
  rw [hosted]
  rfl

/-- Otherwise the record is fetched after the pools. -/
theorem expectedNodes_own (own : c.hosted = false) :
    s.expectedNodes c =
      ((s.fetch (clusterPath c.id ++ "/machine_pools") (items? pool?)).describe
        ("failed to list machine pools of " ++ c.id) >>= fun pools =>
      s.fetch (clusterPath c.id) cluster? >>= fun reply =>
      pure (.expected reply.fixedNodes pools)) := by
  unfold expectedNodes
  rw [own]
  rfl

/-- **When there is a count at all**: if everything is fetched for it. -/
theorem run_expectedNodes_ok_iff :
    Run (s.expectedNodes c).run log (.ok count) ↔ ∃ nodes pools,
      s.Told c nodes pools log ∧ count = .expected (c.fixedWord nodes) pools := by
  cases kind : c.hosted with
  | true =>
    have none_fixed : ∀ nodes, c.fixedWord nodes = 0 := fun _ => if_pos kind
    rw [expectedNodes_hosted kind, Program.run_bind_ok]
    constructor
    · intro run
      obtain ⟨_, pools, _, rfl, listed, last⟩ := run
      obtain ⟨rfl, same⟩ := Program.run_done.mp last
      cases same
      rw [List.append_nil]
      exact ⟨none, pools, .hosted kind (run_pools_iff.mp listed), by rw [none_fixed]⟩
    · intro known
      obtain ⟨nodes, pools, told, rfl⟩ := known
      cases told with
      | hosted _ listed =>
        rw [none_fixed]
        exact ⟨_, pools, [], (List.append_nil _).symm, run_pools_iff.mpr listed, .done _⟩
      | own own =>
        rw [kind] at own
        cases own
  | false =>
    have fixed : ∀ r : ClusterRecord, c.fixedWord r.nodes = r.reply.fixedNodes :=
      fun _ => if_neg (by rw [kind]; decide)
    rw [expectedNodes_own kind, Program.run_bind_ok]
    constructor
    · intro run
      obtain ⟨first, pools, _, rfl, listed, rest⟩ := run
      obtain ⟨second, reply, _, rfl, found, last⟩ := Program.run_bind_ok.mp rest
      obtain ⟨rfl, same⟩ := Program.run_done.mp last
      cases same
      obtain ⟨r, recorded, rfl⟩ := run_record_iff.mp found
      rw [List.append_nil]
      exact ⟨r.nodes, pools, .own kind (run_pools_iff.mp listed) recorded, by rw [fixed]⟩
    · intro known
      obtain ⟨nodes, pools, told, rfl⟩ := known
      cases told with
      | hosted hosted =>
        rw [kind] at hosted
        cases hosted
      | @own r _ first second _ listed recorded =>
        rw [fixed]
        exact ⟨first, pools, second, rfl, run_pools_iff.mpr listed,
          Program.run_bind_ok.mpr ⟨second, r.reply, [], (List.append_nil _).symm,
            run_record_iff.mpr ⟨r, recorded, rfl⟩, .done _⟩⟩

/-! ## 4. Services that tell -/

/-- An answer that is spelled out. -/
def answer (s : ManagementService) (path : String) (tree : Json) : Exchange web :=
  ⟨s.request .get path [] none, .answered 200 tree.write⟩

/-- All that is fetched for the count, spelled out. -/
def spelledOut (s : ManagementService) (c : Cluster) (nodes : Option FixedNodes)
    (pools : List NodePool) : List (Exchange web) :=
  if c.hosted then [s.answer (clusterPath c.id ++ "/node_pools") (poolsTree pools)]
  else [s.answer (clusterPath c.id ++ "/machine_pools") (poolsTree pools)] ++
    [s.answer (clusterPath c.id) (bareTree nodes)]

/-- Such an answer tells what its tree spells. -/
theorem fetched_answer (header : WebRequest.isHeaderText ("Bearer " ++ s.token) = true)
    {tree : Json} (proper : tree.Proper) {spelled : Json → Prop} (spells : spelled tree) :
    s.Fetched path spelled [s.answer path tree] := by
  have sendable : (s.request .get path [] none).isSendable = true := by
    simp [WebRequest.isSendable, request, header]
  exact .intro sendable (by decide) (Json.read?_write proper) spells

/-- **Any fixed nodes and any pools can be told**, if the service can be asked at all. -/
theorem told_spelledOut (header : WebRequest.isHeaderText ("Bearer " ++ s.token) = true)
    (c : Cluster) (nodes : Option FixedNodes) (pools : List NodePool) :
    s.Told c nodes pools (s.spelledOut c nodes pools) := by
  have listed (path : String) : s.Fetched path
      (IsItems (fun p => Json.Shaped (poolFields p)) pools) [s.answer path (poolsTree pools)] :=
    fetched_answer header (proper_poolsTree pools) (isItems_poolsTree pools)
  unfold spelledOut
  split
  · rename_i hosted
    exact .hosted hosted (listed _)
  · rename_i own
    have recorded : s.Fetched (clusterPath c.id) (Json.Shaped (bareRecord nodes).fields) _ :=
      fetched_answer header (proper_bareTree nodes) (shaped_bareTree nodes)
    exact .own (Bool.eq_false_of_not_eq_true own) (listed _) recorded

/-! ## 5. The range -/

/-- With these exchanges the nodes are counted, and nothing else comes of it. -/
def Returns (s : ManagementService) (c : Cluster) (log : List (Exchange web)) (count : NodeCount) :
    Prop :=
  ∀ r, Run (s.expectedNodes c).run log r ↔ r = .ok count

/-- **What is told is counted, and the count is what is expected.** -/
theorem Told.returns (told : s.Told c nodes pools log) (fits : c.WithinWords nodes pools)
    (expects : c.Expects nodes pools count) : s.Returns c log count := by
  rw [expects.unique fits.expects]
  have run := run_expectedNodes_ok_iff.mpr ⟨nodes, pools, told, rfl⟩
  intro r
  constructor
  · exact fun again => Program.run_unique again run
  · intro same
    rw [same]
    exact run

/-- **The range of the number of nodes.** If all that is asked for is told and the sums are words,
the count is returned: at both ends it is the sum of the fixed nodes and of what every pool
contributes. In another order the pools count the same. What they count beside the fixed nodes is
additive: if they are split, both parts together count the same and the fixed nodes once more. If
every autoscaling range is in order, so is the count. -/
theorem expectedNodes_exact (told : s.Told c nodes pools log) (fits : c.WithinWords nodes pools) :
    ∃ count, s.Returns c log count ∧ c.Expects nodes pools count ∧
      (∀ others log', pools.Perm others → s.Told c nodes others log' → s.Returns c log' count) ∧
      (∀ first second log₁ log₂, pools = first ++ second → s.Told c nodes first log₁ →
        s.Told c nodes second log₂ → ∃ count₁ count₂,
          s.Returns c log₁ count₁ ∧ s.Returns c log₂ count₂ ∧
          count.min.toNat + c.fixedNodes nodes = count₁.min.toNat + count₂.min.toNat ∧
          count.max.toNat + c.fixedNodes nodes = count₁.max.toNat + count₂.max.toNat) ∧
      ((∀ p ∈ pools, ∀ range, p.autoscaling = some range → range.min ≤ range.max) →
        count.min ≤ count.max) := by
  have expects := fits.expects
  refine ⟨_, told.returns fits expects, expects, ?_, ?_, ?_⟩
  · intro others log' perm told'
    exact told'.returns (fits.perm perm) (expects.perm perm)
  · intro first second log₁ log₂ parts told₁ told₂
    subst parts
    have expects₁ := fits.append_left.expects
    have expects₂ := fits.append_right.expects
    refine ⟨_, _, told₁.returns fits.append_left expects₁, told₂.returns fits.append_right expects₂,
      ?_, ?_⟩
    · rw [expects.min, expects₁.min, expects₂.min, NodePool.shares_append]
      omega
    · rw [expects.max, expects₁.max, expects₂.max, NodePool.shares_append]
      omega
  · intro ordered
    rw [UInt32.le_iff_toNat_le, expects.min, expects.max]
    exact Nat.add_le_add_left (NodePool.shares_min_le ordered) _

/-- A pool of varying size that also has a fixed one, a pool that says nothing, and one of fixed
size. -/
theorem expectedNodes_exact_mixed :
    let s : ManagementService := ⟨"https://api.openshift.com", "secret"⟩
    let c : Cluster :=
      ⟨"c1", "u1", "prod", .ready, .rosa, true, "aws", "eu-west-1", false, none, [], none⟩
    let nodes : Option FixedNodes := some ⟨3, 2⟩
    let scaled : NodePool := ⟨some 9, some ⟨2, 6⟩⟩
    let silent : NodePool := ⟨none, none⟩
    let sized : NodePool := ⟨some 3, none⟩
    let log := s.spelledOut c nodes
    (s.Told c nodes [scaled, silent, sized] (log [scaled, silent, sized]) ∧
      c.WithinWords nodes [scaled, silent, sized]) ∧
    s.Returns c (log [scaled, silent, sized]) ⟨10, 14⟩ ∧
    s.Returns c (log [sized, scaled, silent]) ⟨10, 14⟩ ∧
    (∃ count₁ count₂, s.Returns c (log [scaled]) count₁ ∧ s.Returns c (log [silent, sized]) count₂ ∧
      10 + 5 = count₁.min.toNat + count₂.min.toNat ∧
      14 + 5 = count₁.max.toNat + count₂.max.toNat) ∧
    (10 : UInt32) ≤ 14 := by
  intro s c nodes scaled silent sized log
  have header : WebRequest.isHeaderText ("Bearer " ++ s.token) = true := by decide +kernel
  have told (pools : List NodePool) : s.Told c nodes pools (log pools) :=
    told_spelledOut header c nodes pools
  have fits : c.WithinWords nodes [scaled, silent, sized] := ⟨by decide, by decide⟩
  have expects : c.Expects nodes [scaled, silent, sized] ⟨10, 14⟩ := ⟨by decide, by decide⟩
  have turned : ([scaled, silent] ++ [sized]).Perm ([sized] ++ [scaled, silent]) :=
    List.perm_append_comm
  obtain ⟨count, returned, expected, order, split, ordered⟩ := expectedNodes_exact (told _) fits
  cases expected.unique expects
  refine ⟨⟨told _, fits⟩, returned, order _ _ turned (told _),
    split [scaled] [silent, sized] _ _ rfl (told _) (told _), ordered ?_⟩
  have inOrder : ∀ p ∈ [scaled, silent, sized],
      p.autoscaling = none ∨ p.autoscaling = some ⟨2, 6⟩ := by
    simp [scaled, silent, sized]
  intro p mem range autoscaling
  rcases inOrder p mem with none | same
  · rw [none] at autoscaling
    cases autoscaling
  · rw [same] at autoscaling
    cases autoscaling
    decide

end ManagementService

end OnCall
