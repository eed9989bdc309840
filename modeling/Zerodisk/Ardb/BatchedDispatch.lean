import Zerodisk.Ardb.Cluster

/-!
# Batched dispatch keeps the input order

`DoForAll` promises a reply for each pair, in the order of the pairs. For a
`Cluster` and any list of pairs but a single one, this holds for every order in
which the servers' goroutines deliver their results: routing records, per
server, the input positions of its pairs in order; scattering one server's
replies fills exactly the slots of its pairs; and scatters of different servers
touch different slots, so the collecting loop ends with every slot filled
(`orderedReplies`).
-/

namespace Zerodisk
namespace Ardb

variable {Action Reply : Type}

/-! ## What the replies should be -/

section Spec

variable (route : Int → Int)

/-- The batch server `s` is sent: the actions of the pairs routed to it, in
input order. -/
def batchFor (pairs : List (IndexActionPair Action)) (s : Int) : List Action :=
  (pairs.filter fun pair => route pair.index = s).map (·.action)

/-- The place of pair `i` in the batch of server `s`: the number of pairs
before it routed to `s`. -/
def batchRank (pairs : List (IndexActionPair Action)) (i : Nat) (s : Int) : Nat :=
  ((pairs.take i).filter fun pair => route pair.index = s).length

/-- The replies in input order, from the replies `replies s` of each server's
batch: pair `i`'s reply is the one at its place in its server's batch. -/
def orderedReplies (replies : Int → List Reply) (pairs : List (IndexActionPair Action)) :
    List (Option Reply) :=
  pairs.mapIdx fun i pair => (replies (route pair.index))[batchRank route pairs i (route pair.index)]?

end Spec

/-- The servers whose batches answer one reply per action, or fail. -/
def ServerBehaviour.Pipelined (server : ServerBehaviour Action Reply) : Prop :=
  ∀ cfg actions replies, server.doBatch cfg actions = .ok replies → replies.length = actions.length

/-! ## The per-server maps -/

namespace ServerMaps

@[simp] theorem maps_add (servers : ServerMaps Action) (serverIndex index : Int) (action : Action)
    (s : Int) : (servers.add serverIndex index action).maps s =
      if s = serverIndex then (servers.maps s).add index action else servers.maps s := by
  by_cases same : s = serverIndex
  · subst same; simp [ServerMaps.add]
  · simp [ServerMaps.add, same]

@[simp] theorem mem_keys_add (servers : ServerMaps Action) (serverIndex index : Int)
    (action : Action) (s : Int) :
    s ∈ (servers.add serverIndex index action).keys ↔ s ∈ servers.keys ∨ s = serverIndex := by
  by_cases present : serverIndex ∈ servers.keys
  · simp only [ServerMaps.add, present, if_true]
    constructor
    · exact .inl
    · rintro (member | rfl) <;> assumption
  · simp [ServerMaps.add, present]

end ServerMaps

section Grouping

variable (route : Int → Int)

/-- The input positions, from `position` on, of the pairs routed to `s`. -/
def positionsFor (s : Int) : Nat → List (IndexActionPair Action) → List Int
  | _, [] => []
  | position, pair :: pairs =>
    if route pair.index = s then (position : Int) :: positionsFor s (position + 1) pairs
    else positionsFor s (position + 1) pairs

/-- The maps `DoForAll` builds when every pair routes: each pair, from input
position `position` on, added under its server. -/
def groupPairs : Nat → List (IndexActionPair Action) → ServerMaps Action → ServerMaps Action
  | _, [], servers => servers
  | position, pair :: pairs, servers =>
    groupPairs (position + 1) pairs (servers.add (route pair.index) position pair.action)

theorem batchFor_cons (pair : IndexActionPair Action) (pairs : List (IndexActionPair Action))
    (s : Int) : batchFor route (pair :: pairs) s =
      if route pair.index = s then pair.action :: batchFor route pairs s else batchFor route pairs s := by
  by_cases routedHere : route pair.index = s <;> simp [batchFor, List.filter_cons, routedHere]

theorem length_positionsFor (s : Int) (position : Nat) (pairs : List (IndexActionPair Action)) :
    (positionsFor route s position pairs).length = (batchFor route pairs s).length := by
  induction pairs generalizing position with
  | nil => rfl
  | cons pair pairs ih =>
    by_cases routedHere : route pair.index = s <;>
      simp [positionsFor, batchFor_cons, routedHere, ih]

/-- Under each server, the grouped maps hold the positions and the actions of
the pairs routed to it, after what it held before. -/
theorem maps_groupPairs (position : Nat) (pairs : List (IndexActionPair Action))
    (servers : ServerMaps Action) (s : Int) :
    (groupPairs route position pairs servers).maps s =
      ⟨(servers.maps s).indices ++ positionsFor route s position pairs,
        (servers.maps s).actions ++ batchFor route pairs s⟩ := by
  induction pairs generalizing position servers with
  | nil => simp [groupPairs, positionsFor, batchFor]
  | cons pair pairs ih =>
    rw [groupPairs, ih]
    by_cases routedHere : route pair.index = s
    · simp [positionsFor, batchFor_cons, routedHere, IndexActionMap.add]
    · simp [positionsFor, batchFor_cons, routedHere, Ne.symm routedHere]

/-- The grouped maps have a key for each server a pair is routed to, and no
other new key. -/
theorem mem_keys_groupPairs (position : Nat) (pairs : List (IndexActionPair Action))
    (servers : ServerMaps Action) (s : Int) :
    s ∈ (groupPairs route position pairs servers).keys ↔
      s ∈ servers.keys ∨ ∃ pair ∈ pairs, route pair.index = s := by
  induction pairs generalizing position servers with
  | nil => simp [groupPairs]
  | cons pair pairs ih =>
    rw [groupPairs, ih, ServerMaps.mem_keys_add]
    constructor
    · rintro ((member | rfl) | ⟨other, member, routedThere⟩)
      · exact .inl member
      · exact .inr ⟨pair, List.mem_cons_self _ _, rfl⟩
      · exact .inr ⟨other, List.mem_cons_of_mem _ member, routedThere⟩
    · rintro (member | ⟨other, member, routedThere⟩)
      · exact .inl (.inl member)
      · rcases List.mem_cons.mp member with rfl | later
        · exact .inl (.inr routedThere.symm)
        · exact .inr ⟨other, later, routedThere⟩

/-- When every pair routes, the sorting loop of `DoForAll` builds the grouped
maps. -/
theorem routePairs_of_routed (cluster : Cluster) {pairs : List (IndexActionPair Action)}
    (routed : ∀ pair ∈ pairs, computeServerIndex cluster.serverCount pair.index
      cluster.serverOperational = .returns (route pair.index, none))
    (position : Nat) (servers : ServerMaps Action) :
    cluster.routePairs position pairs servers = .returns (.ok (groupPairs route position pairs servers)) := by
  induction pairs generalizing position servers with
  | nil => rfl
  | cons pair pairs ih =>
    rw [Cluster.routePairs, routed pair (List.mem_cons_self _ _), Outcome.returns_bind]
    exact ih (fun other member => routed other (List.mem_cons_of_mem _ member)) _ _

end Grouping

/-! ## Scattering one server's replies -/

section Scatter

variable (route : Int → Int)

/-- The scatter of server `s`'s replies `vals` over slots `acc` aligned with
`pairs`: the slot of each pair routed to `s` takes the next reply. -/
def scatterAligned (s : Int) :
    List (IndexActionPair Action) → List Reply → List (Option Reply) → List (Option Reply)
  | pair :: pairs, vals, slot :: acc =>
    if route pair.index = s then vals.head? :: scatterAligned s pairs vals.tail acc
    else slot :: scatterAligned s pairs vals acc
  | _, _, acc => acc

/-- The slots of `orderedReplies` walked pair by pair, with only the servers
of `done` filled in: `counts s` pairs before this one were routed to `s`. -/
def repliesFrom (replies : Int → List Reply) (done : List Int) (counts : Int → Nat) :
    List (IndexActionPair Action) → List (Option Reply)
  | [] => []
  | pair :: pairs =>
    (if route pair.index ∈ done then (replies (route pair.index))[counts (route pair.index)]? else none) ::
      repliesFrom replies done (Function.update counts (route pair.index) (counts (route pair.index) + 1)) pairs

/-- The scatter loop of one server, from its `consumed.length`-th position:
its replies land in the slots aligned with the pairs routed to it. -/
theorem scatterReplies_positionsFor (s : Int) (pairs : List (IndexActionPair Action)) :
    ∀ (consumed : List Int) (vals : List Reply) (front back : List (Option Reply)),
      vals.length = (positionsFor route s front.length pairs).length →
      back.length = pairs.length →
      scatterReplies (consumed ++ positionsFor route s front.length pairs) consumed.length vals
        (front ++ back) = .returns (front ++ scatterAligned route s pairs vals back) := by
  induction pairs with
  | nil =>
    intro consumed vals front back enough aligned
    rw [List.length_eq_zero.mp enough, List.length_eq_zero.mp aligned]
    rfl
  | cons pair pairs ih =>
    intro consumed vals front back enough aligned
    obtain ⟨slot, back, rfl⟩ : ∃ slot rest, back = slot :: rest :=
      List.exists_cons_of_length_eq_add_one aligned
    by_cases routedHere : route pair.index = s
    · simp only [positionsFor, routedHere, if_true, List.length_cons] at enough ⊢
      obtain ⟨val, vals, rfl⟩ : ∃ val rest, vals = val :: rest :=
        List.exists_cons_of_length_eq_add_one enough
      have rest := ih (consumed ++ [(front.length : Int)]) vals (front ++ [some val]) back
        (by simpa using enough) (by simpa using aligned)
      simp only [List.length_append, List.length_singleton, List.append_assoc, List.singleton_append]
        at rest
      simp only [scatterReplies, goIndex_append_length, goSet_append_length, Outcome.returns_bind, scatterAligned, routedHere,
        if_true, List.head?_cons, List.tail_cons, List.append_assoc, List.singleton_append]
      exact rest
    · simp only [positionsFor, routedHere, if_false] at enough ⊢
      have rest := ih consumed vals (front ++ [slot]) back (by simpa using enough)
        (by simpa using aligned)
      simp only [List.length_append, List.length_singleton, List.append_assoc, List.singleton_append]
        at rest
      simp only [scatterAligned, routedHere, if_false]
      exact rest

/-- Scattering server `s`'s replies fills in the slots of its pairs. -/
theorem scatterAligned_repliesFrom (replies : Int → List Reply) (s : Int) (done : List Int) :
    ∀ (counts : Int → Nat) (pairs : List (IndexActionPair Action)),
      scatterAligned route s pairs ((replies s).drop (counts s))
        (repliesFrom route replies done counts pairs) = repliesFrom route replies (s :: done) counts pairs
  | _, [] => rfl
  | counts, pair :: pairs => by
    by_cases routedHere : route pair.index = s
    · subst routedHere
      have rest := scatterAligned_repliesFrom replies (route pair.index) done
        (Function.update counts (route pair.index) (counts (route pair.index) + 1)) pairs
      simp only [Function.update_same] at rest
      simp only [scatterAligned, repliesFrom, if_true, List.mem_cons_self, List.head?_drop,
        List.tail_drop, rest]
    · have rest := scatterAligned_repliesFrom replies s done
        (Function.update counts (route pair.index) (counts (route pair.index) + 1)) pairs
      simp only [Function.update_noteq (Ne.symm routedHere)] at rest
      simp only [scatterAligned, repliesFrom, routedHere, if_false, List.mem_cons, rest]
      simp [Ne.symm routedHere]

theorem length_repliesFrom (replies : Int → List Reply) (done : List Int) :
    ∀ (counts : Int → Nat) (pairs : List (IndexActionPair Action)),
      (repliesFrom route replies done counts pairs).length = pairs.length
  | _, [] => rfl
  | _, _ :: pairs => by simp [repliesFrom, length_repliesFrom replies done _ pairs]

/-- Before any server's replies are in, every slot is empty. -/
theorem repliesFrom_nil (replies : Int → List Reply) :
    ∀ (counts : Int → Nat) (pairs : List (IndexActionPair Action)),
      repliesFrom route replies [] counts pairs = List.replicate pairs.length none
  | _, [] => rfl
  | _, _ :: pairs => by simp [repliesFrom, repliesFrom_nil replies _ pairs, List.replicate_succ]

/-- Once every pair's server has its replies in, the slots are
`orderedReplies`, counted from `counts`. -/
theorem repliesFrom_of_done (replies : Int → List Reply) (done : List Int) :
    ∀ (counts : Int → Nat) (pairs : List (IndexActionPair Action)),
      (∀ pair ∈ pairs, route pair.index ∈ done) →
      repliesFrom route replies done counts pairs =
        pairs.mapIdx fun i pair => (replies (route pair.index))[counts (route pair.index) +
          batchRank route pairs i (route pair.index)]?
  | _, [], _ => rfl
  | counts, pair :: pairs, allDone => by
    have shifted : ∀ (i : Nat) (other : IndexActionPair Action),
        counts (route other.index) + batchRank route (pair :: pairs) (i + 1) (route other.index) =
          Function.update counts (route pair.index) (counts (route pair.index) + 1) (route other.index) +
            batchRank route pairs i (route other.index) := by
      intro i other
      by_cases same : route other.index = route pair.index
      · rw [same]
        simp [batchRank, List.filter_cons]
        omega
      · simp [batchRank, List.filter_cons, same, Ne.symm same, Function.update_noteq same]
    rw [repliesFrom, repliesFrom_of_done replies done _ pairs
      (fun other member => allDone other (List.mem_cons_of_mem _ member)), List.mapIdx_cons]
    simp only [allDone pair (List.mem_cons_self _ _), if_true, shifted]
    simp [batchRank]

/-- The walk of `repliesFrom` from no counts is `orderedReplies`. -/
theorem orderedReplies_eq_repliesFrom (replies : Int → List Reply) (done : List Int)
    (pairs : List (IndexActionPair Action)) (allDone : ∀ pair ∈ pairs, route pair.index ∈ done) :
    orderedReplies route replies pairs = repliesFrom route replies done (fun _ => 0) pairs := by
  rw [repliesFrom_of_done route replies done _ pairs allDone, orderedReplies]
  simp

/-- When every pair goes to `s`, its scatter fills the slots in order. -/
theorem scatterAligned_of_single (s : Int) :
    ∀ (pairs : List (IndexActionPair Action)) (vals : List Reply) (acc : List (Option Reply)),
      (∀ pair ∈ pairs, route pair.index = s) → vals.length = pairs.length →
      acc.length = pairs.length → scatterAligned route s pairs vals acc = vals.map some
  | [], [], [], _, _, _ => rfl
  | pair :: pairs, val :: vals, _ :: acc, single, enough, aligned => by
    rw [scatterAligned, if_pos (single pair (List.mem_cons_self _ _)), List.head?_cons,
      List.tail_cons, scatterAligned_of_single s pairs vals acc (fun other member => single other
        (List.mem_cons_of_mem _ member)) (by simpa using enough) (by simpa using aligned)]
    rfl

/-- When every pair goes to one server whose batch is answered in full, the
replies in input order are that server's replies as they came. -/
theorem orderedReplies_of_single {s : Int} {replies : Int → List Reply} {pairs : List (IndexActionPair Action)}
    (single : ∀ pair ∈ pairs, route pair.index = s) (complete : (replies s).length = (batchFor route pairs s).length) :
    (replies s).map some = orderedReplies route replies pairs := by
  have oneBatch : (batchFor route pairs s).length = pairs.length := by
    rw [batchFor, List.filter_eq_self.mpr fun pair member => decide_eq_true (single pair member),
      List.length_map]
  rw [orderedReplies_eq_repliesFrom route replies [s] pairs (fun pair member => by simp [single pair member]),
    ← scatterAligned_repliesFrom, repliesFrom_nil, List.drop_zero]
  exact (scatterAligned_of_single route s pairs (replies s) (List.replicate pairs.length none)
    single (complete.trans oneBatch) (List.length_replicate _ _)).symm

end Scatter

/-! ## The collecting loop and the goroutines -/

section Collect

variable (route : Int → Int)

/-- When every result is a success, the collecting loop scatters each in the
order it arrives, and the servers that arrived have their replies in. -/
theorem collectReplies_of_ok (servers : ServerMaps Action) (replies : Int → List Reply)
    (pairs : List (IndexActionPair Action))
    (grouped : ∀ s, (servers.maps s).indices = positionsFor route s 0 pairs) :
    ∀ (arrived done : List Int),
      (∀ s ∈ arrived, (replies s).length = (batchFor route pairs s).length) →
      collectReplies servers (arrived.map fun s => (s, .ok (replies s)))
          (repliesFrom route replies done (fun _ => 0) pairs) =
        .returns (.ok (repliesFrom route replies (arrived.reverse ++ done) (fun _ => 0) pairs))
  | [], _, _ => rfl
  | s :: arrived, done, complete => by
    have scattered := scatterReplies_positionsFor route s pairs [] (replies s) []
      (repliesFrom route replies done (fun _ => 0) pairs)
      (by simpa [length_positionsFor] using complete s (List.mem_cons_self _ _))
      (length_repliesFrom route replies done _ pairs)
    simp only [List.nil_append, List.length_nil] at scattered
    have filled := scatterAligned_repliesFrom route replies s done (fun _ => 0) pairs
    simp only [List.drop_zero] at filled
    rw [List.map_cons, collectReplies, grouped, scattered, Outcome.returns_bind, filled,
      collectReplies_of_ok servers replies pairs grouped arrived (s :: done)
        (fun other member => complete other (List.mem_cons_of_mem _ member))]
    simp

/-- The replies of a batch that succeeds on a pipelined server are one per
action. -/
theorem length_of_doBatchAt {cluster : Cluster} {server : ServerBehaviour Action Reply}
    (pipelined : server.Pipelined) {serverIndex : Int} {actions : List Action}
    {replies : List Reply}
    (succeeded : cluster.doBatchAt server serverIndex actions = .returns (.ok replies)) :
    replies.length = actions.length := by
  simp only [Cluster.doBatchAt] at succeeded
  cases found : goIndex cluster.servers serverIndex with
  | returns cfg =>
    rw [found, Outcome.returns_bind] at succeeded
    exact pipelined cfg actions replies (Outcome.returns.inj succeeded)
  | panics => rw [found] at succeeded; cases succeeded
  | hangs => rw [found] at succeeded; cases succeeded

/-- When every batch succeeds, the goroutines deliver each server's replies,
in the order of the schedule. -/
theorem batchResults_of_batched (cluster : Cluster) (server : ServerBehaviour Action Reply)
    (schedule : List Int → List Int) (servers : ServerMaps Action) (replies : Int → List Reply)
    (batched : ∀ s ∈ schedule servers.keys,
      cluster.doBatchAt server s (servers.maps s).actions = .returns (.ok (replies s))) :
    cluster.batchResults server schedule servers =
      .returns ((schedule servers.keys).map fun s => (s, .ok (replies s))) := by
  rw [Cluster.batchResults]
  generalize schedule servers.keys = arrived at batched ⊢
  induction arrived with
  | nil => rfl
  | cons s arrived ih =>
    rw [List.mapM_cons, batched s (List.mem_cons_self _ _), Outcome.returns_bind,
      ih (fun other member => batched other (List.mem_cons_of_mem _ member))]
    rfl

end Collect

/-! ## `DoForAll` -/

/-- `Cluster.DoForAll` on any list of pairs but a single one, for every order
in which the goroutines deliver: when every pair routes to the server
`route` gives it and every server's batch, the actions routed to it in input
order, succeeds with `replies`, the answer has one reply per pair, and pair
`i`'s reply is the reply at its place in its server's batch. -/
theorem cluster_doForAll_keeps_input_order (cluster : Cluster)
    (server : ServerBehaviour Action Reply) (schedule : List Int → List Int) (route : Int → Int)
    (replies : Int → List Reply) (pairs : List (IndexActionPair Action))
    (notOnePair : pairs.length ≠ 1) (pipelined : server.Pipelined)
    (scheduled : ∀ keys, (schedule keys).Perm keys)
    (routed : ∀ pair ∈ pairs, computeServerIndex cluster.serverCount pair.index
      cluster.serverOperational = .returns (route pair.index, none))
    (batched : ∀ pair ∈ pairs, cluster.doBatchAt server (route pair.index)
      (batchFor route pairs (route pair.index)) = .returns (.ok (replies (route pair.index)))) :
    cluster.doForAll server schedule pairs = .returns (.ok (orderedReplies route replies pairs)) := by
  match pairs, notOnePair, routed, batched with
  | [], _, _, _ => rfl
  | [_], notOne, _, _ => exact absurd rfl notOne
  | first :: second :: rest, _, routed, batched =>
    set pairs := first :: second :: rest
    have grouped : ∀ s, (groupPairs route 0 pairs .empty).maps s =
        ⟨positionsFor route s 0 pairs, batchFor route pairs s⟩ := fun s => by
      simpa [ServerMaps.empty] using maps_groupPairs route 0 pairs .empty s
    have routedTo : ∀ s ∈ (groupPairs route 0 pairs .empty).keys,
        ∃ pair ∈ pairs, route pair.index = s := fun s member => by
      simpa [mem_keys_groupPairs, ServerMaps.empty] using member
    have keyed : ∀ pair ∈ pairs, route pair.index ∈ (groupPairs route 0 pairs .empty).keys :=
      fun pair member => (mem_keys_groupPairs route 0 pairs .empty _).mpr (.inr ⟨pair, member, rfl⟩)
    have batchedAt : ∀ s ∈ (groupPairs route 0 pairs .empty).keys,
        cluster.doBatchAt server s ((groupPairs route 0 pairs .empty).maps s).actions =
          .returns (.ok (replies s)) := fun s member => by
      obtain ⟨pair, paired, rfl⟩ := routedTo s member
      rw [grouped]
      exact batched pair paired
    have complete : ∀ s ∈ (groupPairs route 0 pairs .empty).keys,
        (replies s).length = (batchFor route pairs s).length := fun s member => by
      simpa [grouped] using length_of_doBatchAt pipelined (batchedAt s member)
    rw [Cluster.doForAll, routePairs_of_routed route cluster routed 0 .empty, Outcome.returns_bind]
    rotate_left
    · exact List.cons_ne_nil _ _
    · exact fun _ oneElement => List.cons_ne_nil _ _ (List.cons.inj oneElement).2
    dsimp only
    split
    · next s single =>
      -- one server: its batch is every action, and its replies come back as they are
      have allToS : ∀ pair ∈ pairs, route pair.index = s := fun pair member => by
        simpa [single] using keyed pair member
      rw [batchedAt s (by simp [single]), Outcome.returns_bind,
        ← orderedReplies_of_single route allToS (complete s (by simp [single]))]
      rfl
    · -- several servers: the replies are scattered in the order the results arrive
      have arrivedAll : ∀ pair ∈ pairs, route pair.index ∈
          (schedule (groupPairs route 0 pairs .empty).keys).reverse ++ [] := fun pair member => by
        simpa using (scheduled _).symm.subset (keyed pair member)
      rw [batchResults_of_batched cluster server schedule _ replies
        (fun s member => batchedAt s ((scheduled _).subset member)), Outcome.returns_bind,
        ← repliesFrom_nil route replies (fun _ => 0),
        collectReplies_of_ok route _ replies pairs (fun s => by rw [grouped])
          _ [] (fun s member => complete s ((scheduled _).subset member)),
        ← orderedReplies_eq_repliesFrom route replies _ pairs arrivedAll]

/-- A cluster of two online servers. -/
def twoServerCluster : Cluster :=
  ⟨[⟨"localhost:16379", 0, .online⟩, ⟨"localhost:16380", 0, .online⟩], 2, 2⟩

/-- Servers that answer each action with its successor. -/
def incrementServer : ServerBehaviour Nat Nat :=
  ⟨fun _ action => .ok (action + 1), fun _ actions => .ok (actions.map (· + 1))⟩

/-- Three pairs whose indices route to the servers `0`, `1` and `0`. -/
def threePairs : List (IndexActionPair Nat) := [⟨0, 10⟩, ⟨1, 20⟩, ⟨2, 30⟩]

/-- Three pairs over two servers come back in input order, each reply at its
place in its server's batch `[10, 30]` or `[20]`. -/
theorem threePairs_in_input_order :
    (∀ pair ∈ threePairs, computeServerIndex twoServerCluster.serverCount pair.index
      twoServerCluster.serverOperational = .returns (pair.index % 2, none)) ∧
    twoServerCluster.doForAll incrementServer id threePairs = .returns (.ok [some 11, some 21, some 31]) :=
  have routed : ∀ pair ∈ threePairs, computeServerIndex twoServerCluster.serverCount pair.index
      twoServerCluster.serverOperational = .returns (pair.index % 2, none) := by decide
  ⟨routed, cluster_doForAll_keeps_input_order twoServerCluster incrementServer id (· % 2)
    (fun s => (batchFor (· % 2) threePairs s).map (· + 1)) threePairs (by decide)
    (fun _ _ _ batch => by cases batch; simp) (fun keys => List.Perm.refl keys) routed
    (fun pair member => by
      simp only [threePairs, List.mem_cons, List.not_mem_nil, or_false] at member
      rcases member with rfl | rfl | rfl <;> rfl)⟩

end Ardb
end Zerodisk
