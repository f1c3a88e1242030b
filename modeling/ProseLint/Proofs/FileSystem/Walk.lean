import Mathlib.Data.List.Nodup
import Mathlib.Data.Set.Card
import ProseLint.FileSystem

/-!
# Walks through a file system

A walk from a path lists what it comes by. Here the things that it comes by are described without a
list: `Reached` follows the entries of directories that can be opened and are not passed over, and
names each thing by its route, the positions of the entries on the way to it. A walk that keeps
these routes (`routedWalk`) shows that the list has each file and each directory that cannot be
opened exactly once (`mem_routedWalk_iff`, `nodup_routes`), however the entries are ordered.
-/

namespace ProseLint

open FileTree (Visit join skippedNames)

/-- The visit is of a directory that cannot be opened. -/
def FileTree.Visit.isClosed : Visit → Bool
  | file _ => false
  | closed .. => true

namespace FileNode

theorem sizeOf_lt_of_mem_entries {entries : List (String × FileNode)} {e : String × FileNode}
    (h : e ∈ entries) : sizeOf e.2 < sizeOf (directory entries) := by
  obtain ⟨name, node⟩ := e
  have := List.sizeOf_lt_of_mem h
  simp only [Prod.mk.sizeOf_spec] at this
  simp only [directory.sizeOf_spec]
  omega

/-- What holds of everything but directories, and of these if it holds of their entries, holds of
everything. -/
@[elab_as_elim]
theorem entriesInduction {P : FileNode → Prop} (file : ∀ bytes, P (file bytes))
    (link : ∀ target, P (link target)) (locked : P locked)
    (directory : ∀ entries, (∀ e ∈ entries, P e.2) → P (directory entries)) : ∀ node, P node
  | .file bytes => file bytes
  | .link target => link target
  | .locked => locked
  | .directory entries => directory entries fun e _ =>
    entriesInduction file link locked directory e.2
termination_by node => sizeOf node
decreasing_by exact sizeOf_lt_of_mem_entries ‹_›

/-! ## What is reached -/

/-- The entry of a directory is passed over. -/
def passedOver (name : String) (node : FileNode) : Bool :=
  node.isDirectory && (name == "node_modules" || name == ".git")

/-- The names that are passed over are those that a walk skips. -/
theorem passedOver_eq (name : String) (node : FileNode) :
    passedOver name node = (node.isDirectory && skippedNames.contains name) := by
  simp only [passedOver, skippedNames, List.contains_cons, List.contains_nil, Bool.or_false]

/-- A directory with this path can be opened, unless it is locked. -/
def Openable (path : String) : Prop := path.utf8ByteSize < pathLimit

instance (path : String) : Decidable (Openable path) := Nat.decLt ..

/-- A directory that cannot be opened. -/
def Unopenable (path : String) : FileNode → Prop
  | locked => True
  | directory _ => ¬ Openable path
  | file _ | link _ => False

/-- From a thing at a path a walk comes to another one at its path. The route leads there: it has
the positions of the entries on the way. Links lead nowhere. -/
inductive Reached : String → FileNode → List Nat → String → FileNode → Prop where
  | here (path : String) (node : FileNode) : Reached path node [] path node
  | entry {path entries i name node route target reached} : Openable path →
    entries[i]? = some (name, node) → ¬ passedOver name node →
    Reached (join path name) node route target reached →
    Reached path (directory entries) (i :: route) target reached

/-- Only directories that can be opened have more to reach than themselves. -/
theorem eq_of_reached {path target : String} {node reached : FileNode} {route : List Nat}
    (h : Reached path node route target reached)
    (hnode : ∀ entries, node = directory entries → ¬ Openable path) :
    route = [] ∧ target = path ∧ reached = node := by
  cases h with
  | here => exact ⟨rfl, rfl, rfl⟩
  | entry hopen => exact absurd hopen (hnode _ rfl)

theorem eq_of_reached_of_isLink {path target : String} {node reached : FileNode} {route : List Nat}
    (hnode : node.isLink) (h : Reached path node route target reached) : reached = node :=
  (eq_of_reached h fun entries he => by rw [he] at hnode; cases hnode).2.2

/-- What a walk notes of a thing itself, without what is below it. -/
def visit? (path : String) : FileNode → Option Visit
  | file _ => some (.file path)
  | link _ => none
  | locked => some (.closed path .permissionDenied)
  | directory _ => if Openable path then none else some (.closed path .nameTooLong)

/-! ## A walk that keeps routes -/

mutual

/-- What a walk comes by, each with the route to it. -/
def routedWalk (path : String) : FileNode → List (List Nat × Visit)
  | file _ => [([], .file path)]
  | link _ => []
  | locked => [([], .closed path .permissionDenied)]
  | directory entries =>
    if Openable path then routedEntries path 0 entries else [([], .closed path .nameTooLong)]

/-- The same below the entries of a directory from a position on. -/
def routedEntries (path : String) (i : Nat) :
    List (String × FileNode) → List (List Nat × Visit)
  | [] => []
  | (name, node) :: entries =>
    (if passedOver name node then []
      else (routedWalk (join path name) node).map fun v => (i :: v.1, v.2)) ++
    routedEntries path (i + 1) entries

end

/-- The part of a walk below one of the entries. -/
def routedEntry (path : String) (e : (String × FileNode) × Nat) : List (List Nat × Visit) :=
  if passedOver e.1.1 e.1.2 then []
  else (routedWalk (join path e.1.1) e.1.2).map fun v => (e.2 :: v.1, v.2)

theorem routedEntries_eq_flatMap (path : String) (i : Nat) (entries : List (String × FileNode)) :
    routedEntries path i entries = (entries.zipIdx i).flatMap (routedEntry path) := by
  induction entries generalizing i with
  | nil => rfl
  | cons e entries ih =>
    rw [routedEntries, ih, List.zipIdx_cons, List.flatMap_cons]
    rfl

theorem isDirectory_see (path : String) (node : FileNode) :
    (see path node).isDirectory = node.isDirectory := by
  cases node with
  | directory entries =>
    rw [see]
    split <;> rfl
  | file | link | locked => rfl

/-- Without the routes, it is the walk through what is seen. -/
theorem map_routedWalk (path : String) (node : FileNode) :
    (routedWalk path node).map Prod.snd = (see path node).walk path := by
  induction node using entriesInduction generalizing path with
  | file | link | locked => rfl
  | directory entries ih =>
    rw [routedWalk, see]
    by_cases hopen : Openable path
    · rw [if_pos hopen, if_neg (Nat.not_le.2 hopen), FileTree.walk]
      generalize 0 = i
      induction entries generalizing i with
      | nil => rfl
      | cons e entries ihentries =>
        obtain ⟨name, node⟩ := e
        rw [routedEntries, seeEntries, FileTree.walkEntries, List.map_append,
          ihentries fun e he => ih e (List.mem_cons_of_mem _ he), isDirectory_see, ← passedOver_eq]
        split
        · rfl
        · rw [List.map_map, ← ih (name, node) List.mem_cons_self]
          rfl
    · rw [if_neg hopen, if_pos (Nat.not_lt.1 hopen)]
      rfl

/-- A walk that notes only the thing itself comes by what is reached if there is nothing below. -/
theorem mem_singleton_iff_reached (path : String) (node : FileNode)
    (hnode : ∀ entries, node = directory entries → ¬ Openable path) {v : List Nat × Visit} :
    v ∈ (node.visit? path).toList.map (([], ·)) ↔
      ∃ target reached, Reached path node v.1 target reached ∧
        reached.visit? target = some v.2 := by
  constructor
  · intro h
    obtain ⟨visit, hvisit, rfl⟩ := List.mem_map.1 h
    exact ⟨path, node, .here path node, Option.mem_toList.1 hvisit⟩
  · rintro ⟨target, reached, hreached, hvisit⟩
    obtain ⟨hroute, rfl, rfl⟩ := eq_of_reached hreached hnode
    refine List.mem_map.2 ⟨v.2, Option.mem_toList.2 hvisit, ?_⟩
    rw [← hroute]

/-- A walk comes by exactly the reached files and the reached directories that cannot be opened. -/
theorem mem_routedWalk_iff {path : String} {node : FileNode} {v : List Nat × Visit} :
    v ∈ routedWalk path node ↔
      ∃ target reached, Reached path node v.1 target reached ∧
        reached.visit? target = some v.2 := by
  induction node using entriesInduction generalizing path v with
  | file bytes => exact mem_singleton_iff_reached path (file bytes) nofun
  | link target => exact mem_singleton_iff_reached path (link target) nofun
  | locked => exact mem_singleton_iff_reached path locked nofun
  | directory entries ih =>
    rw [routedWalk]
    by_cases hopen : Openable path
    · rw [if_pos hopen, routedEntries_eq_flatMap]
      constructor
      · intro h
        obtain ⟨⟨⟨name, node⟩, i⟩, he, hv⟩ := List.mem_flatMap.1 h
        rw [List.mem_zipIdx_iff_getElem?] at he
        simp only [routedEntry] at hv
        split at hv
        · simp at hv
        · next hpassed =>
          obtain ⟨w, hw, rfl⟩ := List.mem_map.1 hv
          obtain ⟨target, reached, hreached, hvisit⟩ :=
            (ih (name, node) (List.mem_of_getElem? he)).1 hw
          exact ⟨target, reached, .entry hopen he hpassed hreached, hvisit⟩
      · rintro ⟨target, reached, hreached, hvisit⟩
        obtain ⟨route, visit⟩ := v
        cases hreached with
        | here => simp [visit?, hopen] at hvisit
        | @entry _ _ i name node route _ _ _ he hpassed hreached =>
          refine List.mem_flatMap.2 ⟨((name, node), i), List.mem_zipIdx_iff_getElem?.2 he, ?_⟩
          rw [routedEntry, if_neg hpassed]
          refine List.mem_map.2 ⟨(route, visit), ?_, rfl⟩
          exact (ih (name, node) (List.mem_of_getElem? he)).2 ⟨target, reached, hreached, hvisit⟩
    · rw [if_neg hopen]
      have h := mem_singleton_iff_reached path (directory entries) (fun _ _ => hopen) (v := v)
      rwa [visit?, if_neg hopen] at h

theorem head?_of_mem_routes {path : String} {e : (String × FileNode) × Nat} {route : List Nat}
    (h : route ∈ (routedEntry path e).map Prod.fst) : route.head? = some e.2 := by
  obtain ⟨v, hv, rfl⟩ := List.mem_map.1 h
  unfold routedEntry at hv
  split at hv
  · simp at hv
  · obtain ⟨w, -, rfl⟩ := List.mem_map.1 hv
    rfl

/-- No two things are reached on the same route. -/
theorem nodup_routes (path : String) (node : FileNode) :
    ((routedWalk path node).map Prod.fst).Nodup := by
  induction node using entriesInduction generalizing path with
  | file | link | locked => simp [routedWalk]
  | directory entries ih =>
    rw [routedWalk]
    split
    · rw [routedEntries_eq_flatMap, List.map_flatMap, List.nodup_flatMap]
      constructor
      · rintro ⟨⟨name, node⟩, i⟩ he
        simp only [routedEntry]
        split
        · simp
        · have hnode := ih (name, node) (List.mem_of_getElem? (List.mem_zipIdx_iff_getElem?.1 he))
            (join path name)
          simpa [Function.comp_def] using hnode.map (List.cons_injective (a := i))
      · -- a route begins with the position of the entry that it goes through
        have hpositions : (entries.zipIdx.map Prod.snd).Nodup := by
          rw [List.zipIdx_map_snd]
          exact List.nodup_range'
        refine (List.pairwise_map.1 hpositions).imp fun {d e} hne route hd he => hne ?_
        exact Option.some.inj ((head?_of_mem_routes hd).symm.trans (head?_of_mem_routes he))
    · simp

/-! ## Files and directories that cannot be opened -/

theorem visit?_eq_file_iff {path target : String} {node : FileNode} :
    node.visit? path = some (.file target) ↔ target = path ∧ ∃ bytes, node = file bytes := by
  cases node with
  | directory entries =>
    rw [visit?]
    split <;> simp
  | _ => simp [visit?, eq_comm]

theorem visit?_eq_closed_iff {path : String} {node : FileNode} :
    (∃ v, node.visit? path = some v ∧ v.isClosed) ↔ node.Unopenable path := by
  cases node with
  | directory entries =>
    rw [visit?, Unopenable]
    split <;> simp [Visit.isClosed, *]
  | _ => simp [visit?, Unopenable, Visit.isClosed]

/-- A walk comes by the path of a file exactly if the file is reached. -/
theorem file_mem_walk_iff {path target : String} {node : FileNode} :
    .file target ∈ (see path node).walk path ↔
      ∃ route bytes, Reached path node route target (file bytes) := by
  rw [← map_routedWalk, List.mem_map]
  constructor
  · rintro ⟨v, hv, hfile⟩
    obtain ⟨target', reached, hreached, hvisit⟩ := mem_routedWalk_iff.1 hv
    rw [hfile] at hvisit
    obtain ⟨rfl, bytes, rfl⟩ := visit?_eq_file_iff.1 hvisit
    exact ⟨v.1, bytes, hreached⟩
  · rintro ⟨route, bytes, hreached⟩
    exact ⟨(route, .file target), mem_routedWalk_iff.2 ⟨target, _, hreached, rfl⟩, rfl⟩

/-- The routes to the directories that are reached and cannot be opened. -/
def unopenableRoutes (path : String) (node : FileNode) : Set (List Nat) :=
  {route | ∃ target reached, Reached path node route target reached ∧ reached.Unopenable target}

/-- A walk comes by as many closed directories as are reached and cannot be opened. -/
theorem countP_isClosed_walk (path : String) (node : FileNode) :
    ((see path node).walk path).countP Visit.isClosed = (unopenableRoutes path node).ncard := by
  let closed := (routedWalk path node).filter fun v => v.2.isClosed
  have hnodup : (closed.map Prod.fst).Nodup :=
    (nodup_routes path node).sublist (List.filter_sublist.map Prod.fst)
  have hroutes : unopenableRoutes path node = (closed.map Prod.fst).toFinset := by
    ext route
    simp only [unopenableRoutes, ← visit?_eq_closed_iff, List.coe_toFinset, List.mem_map]
    constructor
    · rintro ⟨target, reached, hreached, v, hvisit, hclosed⟩
      exact ⟨(route, v), List.mem_filter.2
        ⟨mem_routedWalk_iff.2 ⟨target, reached, hreached, hvisit⟩, hclosed⟩, rfl⟩
    · rintro ⟨v, hv, rfl⟩
      obtain ⟨hmem, hclosed⟩ := List.mem_filter.1 hv
      obtain ⟨target, reached, hreached, hvisit⟩ := mem_routedWalk_iff.1 hmem
      exact ⟨target, reached, hreached, v.2, hvisit, hclosed⟩
  rw [hroutes, Set.ncard_coe_finset, List.toFinset_card_of_nodup hnodup, List.length_map,
    ← map_routedWalk, List.countP_map, List.countP_eq_length_filter]
  rfl

/-! ## Where a walk starts -/

/-- Where steps lead somewhere, something is there before the last link is followed: the same thing,
or a link. This is so if it is so behind every link on the way. -/
theorem along_false_of_along_true
    {goOn goOn' : String → List FileNode → List String → Except FileError FileNode}
    (hgoOn : ∀ goal here rest target, goOn goal here rest = .ok target →
      ∃ node, goOn' goal here rest = .ok node ∧ (node = target ∨ node.isLink))
    {here : List FileNode} {names : List String} {target : FileNode}
    (h : along true goOn here names = .ok target) :
    ∃ node, along false goOn' here names = .ok node ∧ (node = target ∨ node.isLink) := by
  induction names generalizing here with
  | nil => exact ⟨target, h, .inl rfl⟩
  | cons name rest ih =>
    rw [along] at h ⊢
    split at h
    · next there hstep => exact ih h
    · next goal hstep =>
      rw [Bool.not_true, Bool.and_false, if_neg Bool.false_ne_true] at h
      -- a link at the end is what is there; one on the way is followed in both cases
      by_cases hlast : rest.isEmpty && !false
      · exact ⟨link goal, if_pos hlast, .inr rfl⟩
      · rw [if_neg hlast]
        exact hgoOn goal here rest target h
    · cases h

theorem lookup_false_of_lookup_true {root : FileNode} {links : Nat} {here : List FileNode}
    {names : List String} {target : FileNode}
    (h : lookup root true links here names = .ok target) :
    ∃ node, lookup root false links here names = .ok node ∧ (node = target ∨ node.isLink) := by
  induction links generalizing here names target with
  | zero =>
    refine along_false_of_along_true (fun goal here rest target hlink => ?_) h
    cases hlink
  | succ links ih => exact along_false_of_along_true (fun _ _ _ _ hlink => ih hlink) h

end FileNode

namespace FileSystem

open FileNode

/-- The path leads to something, links followed. -/
def Exists (fs : FileSystem) (path : String) : Prop := ∃ target, fs.at? true path = .ok target

instance (fs : FileSystem) (path : String) : Decidable (fs.Exists path) :=
  match h : fs.at? true path with
  | .ok target => .isTrue ⟨target, h⟩
  | .error _ => .isFalse fun ⟨_, hok⟩ => by rw [h] at hok; cases hok

/-- A walk from the path starts at this thing: the path leads to it, and if it is no directory,
without following a link at the end. -/
def StartsAt (fs : FileSystem) (path : String) (node : FileNode) : Prop :=
  fs.at? true path = .ok node ∧ (node.isDirectory ∨ fs.at? false path = .ok node)

theorem at?_false_of_at?_true {fs : FileSystem} {path : String} {target : FileNode}
    (h : fs.at? true path = .ok target) :
    ∃ node, fs.at? false path = .ok node ∧ (node = target ∨ node.isLink) := by
  unfold at? at h ⊢
  split at h
  · cases h
  · split at h
    · cases h
    · split at h
      · cases h
      · simp only [*]
        exact lookup_false_of_lookup_true h

theorem tree?_eq_none_iff {fs : FileSystem} {path : String} :
    fs.tree? path = none ↔ ¬ fs.Exists path := by
  unfold tree? Exists
  cases h : fs.at? true path with
  | error error => simp
  | ok target =>
    obtain ⟨node, hnode, -⟩ := at?_false_of_at?_true h
    simp [hnode]

theorem startsAt_unique {fs : FileSystem} {path : String} {node other : FileNode}
    (h : fs.StartsAt path node) (hother : fs.StartsAt path other) : other = node :=
  Except.ok.inj (hother.1.symm.trans h.1)

/-- What is seen from a path is what is seen of the thing where the walk starts. From a link to
something that is no directory nothing is seen, and no walk starts. -/
theorem tree?_eq_some_cases {fs : FileSystem} {path : String} {tree : FileTree}
    (h : fs.tree? path = some tree) :
    (∃ node, fs.StartsAt path node ∧ tree = see path node) ∨
      tree = .other ∧ ∀ node, fs.StartsAt path node → node.isLink := by
  unfold tree? at h
  split at h
  · next target node htarget hnode =>
    obtain ⟨node', hnode', hsame⟩ := at?_false_of_at?_true htarget
    obtain rfl : node = node' := Except.ok.inj (hnode.symm.trans hnode')
    cases Option.some.inj h
    split
    · next hother =>
      rw [Bool.and_eq_true, Bool.not_eq_true'] at hother
      refine .inr ⟨rfl, fun start hstart => ?_⟩
      obtain rfl : target = start := Except.ok.inj (htarget.symm.trans hstart.1)
      rcases hstart.2 with hdirectory | hfalse
      · rw [hother.2] at hdirectory
        cases hdirectory
      · exact Except.ok.inj (hnode.symm.trans hfalse) ▸ hother.1
    · next hother =>
      refine .inl ⟨target, ⟨htarget, ?_⟩, rfl⟩
      rcases hsame with rfl | hlink
      · exact .inr hnode
      · exact .inl (by simpa [hlink] using hother)
  · cases h

/-- A file is at the end of a walk from a path. -/
def HasFile (fs : FileSystem) (path target : String) : Prop :=
  ∃ node route bytes, fs.StartsAt path node ∧ Reached path node route target (file bytes)

/-- The routes from a path to directories that cannot be opened. -/
def closedRoutes (fs : FileSystem) (path : String) : Set (List Nat) :=
  {route | ∃ node, fs.StartsAt path node ∧ route ∈ unopenableRoutes path node}

section Start

variable {fs : FileSystem} {path : String} {tree : FileTree} (h : fs.tree? path = some tree)

include h in
theorem file_mem_walk_tree?_iff {target : String} :
    .file target ∈ tree.walk path ↔ fs.HasFile path target := by
  rcases tree?_eq_some_cases h with ⟨node, hstart, rfl⟩ | ⟨rfl, hlink⟩
  · rw [file_mem_walk_iff]
    constructor
    · rintro ⟨route, bytes, hreached⟩
      exact ⟨node, route, bytes, hstart, hreached⟩
    · rintro ⟨other, route, bytes, hother, hreached⟩
      exact ⟨route, bytes, startsAt_unique hstart hother ▸ hreached⟩
  · refine ⟨fun hmem => absurd hmem List.not_mem_nil, ?_⟩
    rintro ⟨node, route, bytes, hstart, hreached⟩
    have hnode := hlink node hstart
    cases eq_of_reached_of_isLink hnode hreached
    cases hnode

include h in
theorem countP_isClosed_walk_tree? :
    (tree.walk path).countP Visit.isClosed = (fs.closedRoutes path).ncard := by
  rcases tree?_eq_some_cases h with ⟨node, hstart, rfl⟩ | ⟨rfl, hlink⟩
  · have hroutes : fs.closedRoutes path = unopenableRoutes path node := by
      ext route
      constructor
      · rintro ⟨other, hother, hroute⟩
        exact startsAt_unique hstart hother ▸ hroute
      · exact fun hroute => ⟨node, hstart, hroute⟩
    rw [hroutes, countP_isClosed_walk]
  · have hroutes : fs.closedRoutes path = ∅ := by
      refine Set.eq_empty_of_forall_notMem ?_
      rintro route ⟨node, hstart, target, reached, hreached, hclosed⟩
      have hnode := hlink node hstart
      obtain rfl := eq_of_reached_of_isLink hnode hreached
      cases reached with
      | link goal => exact hclosed
      | _ => cases hnode
    rw [hroutes, Set.ncard_empty]
    rfl

end Start

end FileSystem

end ProseLint
