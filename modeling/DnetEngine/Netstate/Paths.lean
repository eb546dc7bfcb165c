import DnetEngine.Core.PathMonitor

/-! The machine's ways out, from the interfaces and default routes the system lists. -/

namespace DnetEngine.Paths

open Lib Failover

structure RawInterface where
  luid : UInt64
  name : String
  ifType : Nat
  hardware : Bool
  up : Bool

/-- An IPv4 default route; one with no gateway is on-link. -/
structure RawDefaultRoute where
  luid : UInt64
  gateway : Option Ipv4Addr
  metric : Nat
  deriving DecidableEq

def ownAdapterPrefix : String := "dnet-"

def kindOf : Nat → PathKind
  | 71 => .wifi
  | 6 => .ethernet
  | 243 | 244 => .cellular
  | _ => .other

def defaultPreference : PathKind → Int
  | .ethernet => 20
  | .wifi => 10
  | .cellular | .other => 0

def isOwn (i : RawInterface) : Bool :=
  ownAdapterPrefix.toList.isPrefixOf (i.name.toList.map Char.toLower)

def isWayOut (i : RawInterface) : Bool := i.hardware && !isOwn i

def bestRoute (routes : List RawDefaultRoute) (luid : UInt64) : Option RawDefaultRoute :=
  minBy (fun left right => compare left.metric right.metric)
    (routes.filter fun route => route.luid == luid)

variable {Loss : Type}

def sortKey (entry : Nat × ListedPath Loss) : Bool ×ₗ Nat ×ₗ Nat :=
  toLex (decide (entry.2.role = .unusable), toLex (entry.1, entry.2.interfaceId.luid.toNat))

theorem sortKey_le {before after : Nat × ListedPath Loss} (le : sortKey before ≤ sortKey after) :
    (before.2.role = .unusable → after.2.role = .unusable) ∧
      (before.2.role ≠ .unusable → after.2.role ≠ .unusable → before.1 ≤ after.1) := by
  simp only [sortKey, Prod.Lex.toLex_le_toLex] at le
  by_cases one : before.2.role = .unusable <;> by_cases other : after.2.role = .unusable <;>
    simp [one, other] at le ⊢
  · cases le
  · omega

variable [Field Loss]

def pathOf (routes : List RawDefaultRoute) (i : RawInterface) : Nat × ListedPath Loss :=
  let route := bestRoute routes i.luid
  let kind := kindOf i.ifType
  (route.elim u32Max RawDefaultRoute.metric, {
    interfaceId := ⟨i.luid⟩
    kind
    gateway := (route.bind RawDefaultRoute.gateway).map .v4
    quality := .unmeasured
    role := if i.up && route.isSome then .standby else .unusable
    preference := defaultPreference kind })

def project (interfaces : List RawInterface) (routes : List RawDefaultRoute) :
    List (ListedPath Loss) :=
  (sortByKey sortKey ((interfaces.filter isWayOut).map (pathOf routes))).map Prod.snd

/-- One of the interface's default routes of lowest metric. -/
def Lowest (routes : List RawDefaultRoute) (luid : UInt64) (route : RawDefaultRoute) : Prop :=
  route ∈ routes ∧ route.luid = luid ∧
    ∀ other ∈ routes, other.luid = luid → route.metric ≤ other.metric

/-- No interface that may be listed has two lowest routes with different gateways. -/
def OneGateway (interfaces : List RawInterface) (routes : List RawDefaultRoute) : Prop :=
  ∀ i ∈ interfaces, isWayOut i = true → ∀ one other,
    Lowest routes i.luid one → Lowest routes i.luid other → one.gateway = other.gateway

structure WellListed (interfaces : List RawInterface) (routes : List RawDefaultRoute)
    (paths : List (ListedPath Loss)) : Prop where
  once : (paths.map fun path => path.interfaceId).Nodup
  wayOut : ∀ path ∈ paths, ∃ i ∈ interfaces, i.luid = path.interfaceId.luid ∧
    i.hardware = true ∧ isOwn i = false
  usableFirst : paths.Pairwise fun before after => before.role = .unusable → after.role = .unusable
  lowerFirst : paths.Pairwise fun before after =>
    before.role ≠ .unusable → after.role ≠ .unusable → ∀ one other,
      Lowest routes before.interfaceId.luid one → Lowest routes after.interfaceId.luid other →
        one.metric ≤ other.metric

variable {interfaces : List RawInterface} {routes routes' : List RawDefaultRoute}
  {luid : UInt64} {route : RawDefaultRoute}

theorem mem_own : route ∈ routes.filter (fun route => route.luid == luid) ↔
    route ∈ routes ∧ route.luid = luid := by simp

theorem bestRoute_lowest (best : bestRoute routes luid = some route) : Lowest routes luid route := by
  obtain ⟨before, after, split, first⟩ := minBy_first
    (fun _ _ _ => by simpa [compare_gt_iff_gt] using Nat.le_trans)
    (fun _ _ => by simpa [compare_gt_iff_gt] using Nat.le_of_lt) best
  obtain ⟨member, same⟩ := mem_own.mp (minBy_mem _ _ _ best)
  refine ⟨member, same, fun other member same => ?_⟩
  have inside := mem_own.mpr ⟨member, same⟩
  rw [split, List.mem_append, List.mem_cons] at inside
  rcases inside with early | rfl | late
  · exact (compare_gt_iff_gt.mp (first.before other early)).le
  · exact le_rfl
  · simpa [compare_gt_iff_gt] using first.after other late

theorem bestRoute_of_lowest (lowest : Lowest routes luid route) :
    ∃ best, bestRoute routes luid = some best ∧ Lowest routes luid best ∧
      best.metric = route.metric := by
  cases taken : bestRoute routes luid with
  | none =>
    have inside := mem_own.mpr ⟨lowest.1, lowest.2.1⟩
    unfold bestRoute at taken
    cases own : routes.filter fun route => route.luid == luid with
    | nil => simp [own] at inside
    | cons => simp [own, minBy] at taken
  | some best =>
    have mine := bestRoute_lowest taken
    exact ⟨best, rfl, mine, le_antisymm (mine.2.2 _ lowest.1 lowest.2.1)
      (lowest.2.2 _ mine.1 mine.2.1)⟩

theorem bestRoute_first (lowest : Lowest (route :: routes) luid route) :
    bestRoute (route :: routes) luid = some route := by
  rw [bestRoute, List.filter_cons_of_pos (by simpa using lowest.2.1)]
  refine minBy_head fun other member => ?_
  obtain ⟨member, same⟩ := mem_own.mp member
  simpa [compare_gt_iff_gt] using lowest.2.2 other (.tail _ member) same

theorem pathOf_metric {i : RawInterface} (lowest : Lowest routes i.luid route) :
    (pathOf routes i : Nat × ListedPath Loss).1 = route.metric := by
  obtain ⟨best, taken, _, metric⟩ := bestRoute_of_lowest lowest
  simp only [pathOf, taken, Option.elim, metric]

theorem pathOf_perm {i : RawInterface} (same : routes'.Perm routes)
    (one : ∀ one other, Lowest routes i.luid one → Lowest routes i.luid other →
      one.gateway = other.gateway) :
    (pathOf routes' i : Nat × ListedPath Loss) = pathOf routes i := by
  have listed (route : RawDefaultRoute) : Lowest routes' i.luid route ↔ Lowest routes i.luid route := by
    unfold Lowest
    simp only [same.mem_iff]
  unfold pathOf
  cases taken : bestRoute routes i.luid with
  | none =>
    cases taken' : bestRoute routes' i.luid with
    | none => rfl
    | some route =>
      obtain ⟨_, found, _⟩ := bestRoute_of_lowest ((listed route).mp (bestRoute_lowest taken'))
      rw [taken] at found
      cases found
  | some route =>
    have mine := bestRoute_lowest taken
    obtain ⟨best, taken', lowest, metric⟩ := bestRoute_of_lowest ((listed route).mpr mine)
    simp only [taken', Option.elim, Option.bind_some, Option.isSome_some, metric,
      one best route ((listed best).mp lowest) mine]

theorem luids_nodup (distinct : (interfaces.map RawInterface.luid).Nodup) :
    ((interfaces.filter isWayOut).map RawInterface.luid).Nodup :=
  (List.filter_sublist.map _).nodup distinct

theorem keys_nodup (routes : List RawDefaultRoute)
    (distinct : (interfaces.map RawInterface.luid).Nodup) :
    (((interfaces.filter isWayOut).map (pathOf routes : _ → Nat × ListedPath Loss)).map
      sortKey).Nodup := by
  have ids := (luids_nodup distinct).map fun _ _ => UInt64.toNat_inj.mp
  rw [List.map_map] at ids
  refine List.Nodup.of_map (fun key => (ofLex (ofLex key).2).2) ?_
  rw [List.map_map, List.map_map]
  exact ids

theorem project_perm {interfaces' : List RawInterface}
    (distinct : (interfaces.map RawInterface.luid).Nodup) (one : OneGateway interfaces routes)
    (same : interfaces'.Perm interfaces) (sameRoutes : routes'.Perm routes) :
    (project interfaces' routes' : List (ListedPath Loss)) = project interfaces routes := by
  have paths : (interfaces'.filter isWayOut).map (pathOf routes') =
      (interfaces'.filter isWayOut).map (pathOf routes : _ → Nat × ListedPath Loss) := by
    refine List.map_congr_left fun i member => ?_
    obtain ⟨member, wayOut⟩ := List.mem_filter.mp member
    exact pathOf_perm sameRoutes (one i (same.mem_iff.mp member) wayOut)
  unfold project
  rw [paths]
  exact congrArg _ (sortByKey_perm ((same.filter _).map _)
    (keys_nodup routes ((same.map RawInterface.luid).nodup_iff.mpr distinct)))

theorem mem_project {path : ListedPath Loss} : path ∈ project interfaces routes ↔
    ∃ i ∈ interfaces, isWayOut i = true ∧ (pathOf routes i).2 = path := by
  simp only [project, List.mem_map, mem_sortByKey, List.mem_filter]
  constructor
  · rintro ⟨_, ⟨i, ⟨member, wayOut⟩, rfl⟩, rfl⟩
    exact ⟨i, member, wayOut, rfl⟩
  · rintro ⟨i, member, wayOut, rfl⟩
    exact ⟨_, ⟨i, ⟨member, wayOut⟩, rfl⟩, rfl⟩

theorem project_wellListed (distinct : (interfaces.map RawInterface.luid).Nodup) :
    WellListed interfaces routes (project interfaces routes : List (ListedPath Loss)) := by
  have sorted := List.pairwise_insertionSort
    (fun left right : Nat × ListedPath Loss => sortKey left ≤ sortKey right)
    ((interfaces.filter isWayOut).map (pathOf routes))
  have listed := mem_sortByKey sortKey
    ((interfaces.filter isWayOut).map (pathOf routes : _ → Nat × ListedPath Loss))
  refine ⟨?_, ?_, ?_, ?_⟩
  · have perm : (project interfaces routes : List (ListedPath Loss)).Perm _ :=
      (List.perm_insertionSort _ _).map _
    rw [(perm.map _).nodup_iff, List.map_map, List.map_map]
    have ids := (luids_nodup distinct).map fun _ _ => InterfaceId.mk.inj
    rw [List.map_map] at ids
    exact ids
  · intro path member
    obtain ⟨i, inside, wayOut, rfl⟩ := mem_project.mp member
    simp only [isWayOut, Bool.and_eq_true, Bool.not_eq_true'] at wayOut
    exact ⟨i, inside, rfl, wayOut⟩
  · exact List.pairwise_map.mpr (sorted.imp fun le => (sortKey_le le).1)
  · refine List.pairwise_map.mpr (sorted.imp_of_mem fun left right le => ?_)
    obtain ⟨i, _, rfl⟩ := List.mem_map.mp ((listed _).mp left)
    obtain ⟨j, _, rfl⟩ := List.mem_map.mp ((listed _).mp right)
    intro usable usable' one other lowest lowest'
    have lower := (sortKey_le le).2 usable usable'
    rwa [pathOf_metric lowest, pathOf_metric lowest'] at lower

/-- One Ethernet adapter with two default routes of one metric. -/
def twoGateways : List RawDefaultRoute :=
  [⟨1, some (.ofOctets 10 0 0 1), 25⟩, ⟨1, some (.ofOctets 10 0 0 2), 25⟩]

def wired : RawInterface := ⟨1, "Ethernet", 6, true, true⟩

end DnetEngine.Paths
