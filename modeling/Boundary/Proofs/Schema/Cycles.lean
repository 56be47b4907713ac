import Mathlib.Data.List.Chain
import Mathlib.Data.List.Perm.Subperm
import Mathlib.Logic.Relation
import Boundary.Proofs.Fallible
import Boundary.Schema.Recursion

/-!
# The search for a way back

The search follows all ways of one length by one step before it looks at longer ones, and gives up
a way at a type that has been reached before. It finds a shortest way from a type back to itself,
also where ways meet, split or go round elsewhere.

* `IsWay`: a way from a type, written backwards.
* `IsCycle`: a way from a type back to itself, in reading order.
* `Frontier.Followed`: what a frontier gains when ways are followed.
* `Frontier.Level`: what holds when all ways of a length have been followed.
* `Frontier.Finds`: the same search one way after another, with the longer ways in a queue.
* `Frontier.isShortestCycle_search`, `Frontier.not_isCycle_of_search`: what is found is a shortest
  way back, and there is none if nothing is found.
* `Frontier.finds_search`: the queue runs empty or a way back is found, with the same outcome.
-/

namespace Boundary

variable {start : TypeId} {step : TypeId → List TypeId}

/-! ## Ways -/

/-- A way from `start`, one step after the other, written backwards. -/
inductive IsWay (start : TypeId) (step : TypeId → List TypeId) : List TypeId → Prop
  | start : IsWay start step [start]
  | next {v next : TypeId} {way : List TypeId} (hway : IsWay start step (v :: way))
    (hnext : next ∈ step v) : IsWay start step (next :: v :: way)

/-- The steps by `step` that `way` can be followed by. -/
def nextSteps (step : TypeId → List TypeId) (way : List TypeId) : List TypeId :=
  (way.head?.map step).getD []

theorem IsWay.ne_nil {way : List TypeId} (h : IsWay start step way) : way ≠ [] := by
  cases h <;> simp

theorem IsWay.concat {way : List TypeId} {next : TypeId} (h : IsWay start step way)
    (hnext : next ∈ nextSteps step way) : IsWay start step (next :: way) := by
  cases h with
  | start => exact .next .start hnext
  | next hway hv => exact .next (.next hway hv) hnext

/-- Every type on a way has a further step, except for the last one `v`. -/
theorem IsWay.step_ne_nil {v : TypeId} {way : List TypeId} (h : IsWay start step (v :: way)) :
    ∀ u ∈ way, step u ≠ [] := by
  generalize hvway : v :: way = full at h
  induction h generalizing v way with
  | start =>
    cases hvway
    simp
  | next hway hnext ih =>
    cases hvway
    intro u hu
    obtain rfl | hu := List.mem_cons.mp hu
    · exact List.ne_nil_of_mem hnext
    · exact ih rfl u hu

/-- The ways from a type are the steps that follow one another from there. -/
theorem IsWay.iff_reverse {way : List TypeId} : IsWay start step way ↔
    way.reverse.head? = some start ∧ way.reverse.IsChain fun v next => next ∈ step v := by
  rw [List.head?_reverse, List.isChain_reverse]
  constructor
  · intro h
    induction h with
    | start => exact ⟨rfl, .singleton _⟩
    | next hway hnext ih => exact ⟨by rw [List.getLast?_cons_cons, ih.1], ih.2.cons_cons hnext⟩
  · rintro ⟨hlast, hchain⟩
    induction way with
    | nil => cases hlast
    | cons v way ih =>
      cases way with
      | nil =>
        cases hlast
        exact .start
      | cons u way =>
        obtain ⟨hnext, hrest⟩ := List.isChain_cons_cons.mp hchain
        exact .next (ih (by rwa [List.getLast?_cons_cons] at hlast) hrest) hnext

/-! ## Ways back -/

/-- A way `path` from the type `id` back to itself: at least one step, and each along `r`. -/
structure IsCycle (r : TypeId → TypeId → Prop) (id : TypeId) (path : List TypeId) : Prop where
  head_eq : path.head? = some id
  last_eq : path.getLast? = some id
  two_le : 2 ≤ path.length
  follows : path.IsChain r

/-- A way from `id` back to itself that no other one is shorter than. -/
structure IsShortestCycle (r : TypeId → TypeId → Prop) (id : TypeId) (path : List TypeId) :
    Prop extends IsCycle r id path where
  length_le : ∀ other, IsCycle r id other → path.length ≤ other.length

theorem IsCycle.iff_way {path : List TypeId} :
    IsCycle (fun v next => next ∈ step v) start path ↔
      ∃ way, way ≠ [] ∧ IsWay start step (start :: way) ∧ path = (start :: way).reverse := by
  constructor
  · rintro ⟨hhead, hlast, htwo, hchain⟩
    have hway : IsWay start step path.reverse := by
      rw [IsWay.iff_reverse, List.reverse_reverse]
      exact ⟨hhead, hchain⟩
    rw [← List.head?_reverse] at hlast
    obtain ⟨way, hpath⟩ := List.head?_eq_some_iff.mp hlast
    refine ⟨way, ?_, hpath ▸ hway, by rw [← hpath, List.reverse_reverse]⟩
    rintro rfl
    have hlength := congrArg List.length hpath
    rw [List.length_reverse, List.length_singleton] at hlength
    omega
  · rintro ⟨way, hne, hway, rfl⟩
    obtain ⟨hhead, hchain⟩ := IsWay.iff_reverse.mp hway
    refine ⟨hhead, by rw [List.getLast?_reverse, List.head?_cons], ?_, hchain⟩
    have := List.length_pos_iff.mpr hne
    rw [List.length_reverse, List.length_cons]
    omega

theorem IsWay.exists_iff_transGen {v : TypeId} :
    (∃ way, way ≠ [] ∧ IsWay start step (v :: way)) ↔
      Relation.TransGen (fun v next => next ∈ step v) start v := by
  constructor
  · rintro ⟨way, hne, hway⟩
    generalize hvway : v :: way = full at hway
    induction hway generalizing v way with
    | start =>
      cases hvway
      exact absurd rfl hne
    | @next u _ rest hrest hnext ih =>
      cases hvway
      cases rest with
      | nil =>
        cases hrest
        exact .single hnext
      | cons w rest => exact .tail (ih _ (List.cons_ne_nil _ _) rfl) hnext
  · intro h
    induction h with
    | single hnext => exact ⟨[start], List.cons_ne_nil _ _, .next .start hnext⟩
    | tail _ hnext ih =>
      obtain ⟨way, -, hway⟩ := ih
      exact ⟨_ :: way, List.cons_ne_nil _ _, .next hway hnext⟩

/-- There is a way back exactly if the type is related to itself in some steps. -/
theorem exists_isCycle_iff_transGen :
    (∃ path, IsCycle (fun v next => next ∈ step v) start path) ↔
      Relation.TransGen (fun v next => next ∈ step v) start start := by
  simp only [← IsWay.exists_iff_transGen, IsCycle.iff_way]
  constructor
  · rintro ⟨path, way, hne, hway, -⟩
    exact ⟨way, hne, hway⟩
  · rintro ⟨way, hne, hway⟩
    exact ⟨_, way, hne, hway, rfl⟩

namespace Frontier

/-! ## Steps of the search -/

/-- What the frontier `f` gains on the way to `g` when each of the given ways is followed by the
given step. -/
structure Followed (start : TypeId) (steps : List (List TypeId × TypeId)) (f g : Frontier) :
    Prop where
  visited_mono : f.visited ⊆ g.visited
  ways_mono : f.ways ⊆ g.ways
  step_visited : ∀ p ∈ steps, p.2 ≠ start ∧ p.2 ∈ g.visited
  new_way : ∀ w ∈ g.ways, w ∈ f.ways ∨ ∃ p ∈ steps, w = p.2 :: p.1 ∧ p.2 ∉ f.visited
  new_visited : ∀ v ∈ g.visited, v ∈ f.visited ∨ ∃ w ∈ g.ways, w.head? = some v

theorem Followed.nil (f : Frontier) : Followed start [] f f :=
  ⟨List.Subset.refl _, List.Subset.refl _, by simp, fun _ hw => .inl hw, fun _ hv => .inl hv⟩

theorem Followed.append {f g h : Frontier} {steps steps' : List (List TypeId × TypeId)}
    (hfg : Followed start steps f g) (hgh : Followed start steps' g h) :
    Followed start (steps ++ steps') f h := by
  refine ⟨List.Subset.trans hfg.visited_mono hgh.visited_mono,
    List.Subset.trans hfg.ways_mono hgh.ways_mono, ?_, ?_, ?_⟩
  · intro p hp
    obtain hp | hp := List.mem_append.mp hp
    · exact (hfg.step_visited p hp).imp_right fun hv => hgh.visited_mono hv
    · exact hgh.step_visited p hp
  · intro w hw
    obtain hw | ⟨p, hp, hwp, hnew⟩ := hgh.new_way w hw
    · exact (hfg.new_way w hw).imp_right fun ⟨p, hp, hnew⟩ => ⟨p, List.mem_append_left _ hp, hnew⟩
    · exact .inr ⟨p, List.mem_append_right _ hp, hwp, fun hv => hnew (hfg.visited_mono hv)⟩
  · intro v hv
    obtain hv | hnew := hgh.new_visited v hv
    · exact (hfg.new_visited v hv).imp_right fun ⟨w, hw, hhead⟩ => ⟨w, hgh.ways_mono hw, hhead⟩
    · exact .inr hnew

private theorem followed_reach {way : List TypeId} {next : TypeId} (f : Frontier)
    (hnext : next ≠ start) : Followed start [(way, next)] f (f.reach way next) := by
  unfold Frontier.reach
  split
  · rename_i hvisited
    have hmem : next ∈ f.visited := List.contains_iff_mem.mp hvisited
    exact ⟨List.Subset.refl _, List.Subset.refl _, by simp [hnext, hmem], fun _ hw => .inl hw,
      fun _ hv => .inl hv⟩
  · rename_i hvisited
    have hmem : next ∉ f.visited := fun h => hvisited (List.contains_iff_mem.mpr h)
    refine ⟨List.subset_append_left _ _, List.subset_append_left _ _, by simp [hnext], ?_, ?_⟩
    · intro w hw
      simpa [hmem] using hw
    · intro v hv
      obtain hv | rfl : v ∈ f.visited ∨ v = next := by simpa using hv
      · exact .inl hv
      · exact .inr ⟨v :: way, by simp, rfl⟩

private theorem followed_of_follow {way nexts : List TypeId} {f g : Frontier}
    (h : f.follow start way nexts = .ok g) : Followed start (nexts.map (way, ·)) f g := by
  induction nexts generalizing f with
  | nil =>
    cases h
    exact .nil _
  | cons next rest ih =>
    rw [Frontier.follow] at h
    split at h
    · cases h
    · rename_i hnext
      exact (followed_reach f hnext).append (ih h)

private theorem follow_error {way nexts back : List TypeId} {f : Frontier}
    (h : f.follow start way nexts = .error back) : start ∈ nexts ∧ back = start :: way := by
  induction nexts generalizing f with
  | nil => cases h
  | cons next rest ih =>
    rw [Frontier.follow] at h
    split at h
    · rename_i hnext
      cases h
      exact ⟨by simp [hnext], by rw [hnext]⟩
    · exact (ih h).imp_left (List.mem_cons_of_mem _)

/-- The steps by which `ways` can be followed, each with its way. -/
def allSteps (step : TypeId → List TypeId) (ways : List (List TypeId)) :
    List (List TypeId × TypeId) :=
  ways.flatMap fun way => (nextSteps step way).map (way, ·)

theorem mem_allSteps {ways : List (List TypeId)} {p : List TypeId × TypeId} :
    p ∈ allSteps step ways ↔ p.1 ∈ ways ∧ p.2 ∈ nextSteps step p.1 := by
  obtain ⟨way, next⟩ := p
  simp [allSteps]

theorem followed_of_followAll {ways : List (List TypeId)} {f g : Frontier}
    (h : f.followAll start step ways = .ok g) : Followed start (allSteps step ways) f g := by
  induction ways generalizing f with
  | nil =>
    cases h
    exact .nil _
  | cons way rest ih =>
    rw [Frontier.followAll] at h
    obtain ⟨f', hfollow, hrest⟩ := Fallible.bind_eq_ok_iff.mp h
    exact (followed_of_follow hfollow).append (ih hrest)

private theorem followAll_error {ways : List (List TypeId)} {f : Frontier} {back : List TypeId}
    (h : f.followAll start step ways = .error back) :
    ∃ way ∈ ways, start ∈ nextSteps step way ∧ back = start :: way := by
  induction ways generalizing f with
  | nil => cases h
  | cons way rest ih =>
    rw [Frontier.followAll] at h
    cases hfollow : f.follow start way ((way.head?.map step).getD []) with
    | error back' =>
      rw [hfollow] at h
      cases h
      exact ⟨way, List.mem_cons_self, follow_error hfollow⟩
    | ok f' =>
      rw [hfollow] at h
      obtain ⟨way', hway', hback⟩ := ih h
      exact ⟨way', List.mem_cons_of_mem _ hway', hback⟩

/-! ## Levels -/

/-- What holds when all ways of `k` steps are still to be followed. -/
structure Level (start : TypeId) (step : TypeId → List TypeId) (k : Nat) (f : Frontier) : Prop where
  way : ∀ w ∈ f.ways, IsWay start step w
  length_eq : ∀ w ∈ f.ways, w.length = k + 1
  nodup : ∀ w ∈ f.ways, w.Nodup
  mem_visited : ∀ w ∈ f.ways, ∀ v ∈ w, v = start ∨ v ∈ f.visited
  /-- A type that has been reached is the last one of a way or has been followed already. -/
  followed : ∀ v, v = start ∨ v ∈ f.visited →
    (∃ w ∈ f.ways, w.head? = some v) ∨ ∀ next ∈ step v, next ≠ start ∧ next ∈ f.visited
  reached : ∀ v way, IsWay start step (v :: way) → way.length ≤ k → v = start ∨ v ∈ f.visited
  /-- A way back takes more than `k` steps. -/
  lt_length : ∀ way, way ≠ [] → IsWay start step (start :: way) → k < way.length

theorem Level.init : Level start step 0 ⟨[], [[start]]⟩ := by
  refine ⟨?_, by simp, by simp, by simp, ?_, ?_, fun way hne _ => List.length_pos_iff.mpr hne⟩
  · intro w hw
    obtain rfl := List.mem_singleton.mp hw
    exact .start
  · rintro v (rfl | hv)
    · exact .inl ⟨[v], List.mem_singleton_self _, rfl⟩
    · cases hv
  · intro v way hway hlength
    obtain rfl := List.length_eq_zero_iff.mp (Nat.le_zero.mp hlength)
    cases hway
    exact .inl rfl

/-- A type that is a further step from a type reached in `k` steps has been reached at the next
level, and is not where the search started. -/
theorem Level.step_visited {k : Nat} {f g : Frontier} (h : Level start step k f)
    (hg : Followed start (allSteps step f.ways) ⟨f.visited, []⟩ g) {v next : TypeId}
    (hv : v = start ∨ v ∈ f.visited) (hnext : next ∈ step v) :
    next ≠ start ∧ next ∈ g.visited := by
  obtain ⟨w, hw, hhead⟩ | hfollowed := h.followed v hv
  · have hstep : next ∈ nextSteps step w := by
      rw [nextSteps, hhead]
      exact hnext
    exact hg.step_visited (w, next) (mem_allSteps.mpr ⟨hw, hstep⟩)
  · exact (hfollowed next hnext).imp_right fun hvisited => hg.visited_mono hvisited

/-- Following all ways of `f` leads to the level `k + 1`. -/
theorem Level.next {k : Nat} {f g : Frontier} (h : Level start step k f)
    (hg : Followed start (allSteps step f.ways) ⟨f.visited, []⟩ g) :
    Level start step (k + 1) g := by
  -- A new way goes one step further than a way of this level, to a type that is new.
  have hnew : ∀ w ∈ g.ways, ∃ way ∈ f.ways, ∃ next ∈ nextSteps step way, w = next :: way ∧
      next ≠ start ∧ next ∈ g.visited ∧ next ∉ f.visited := by
    intro w hw
    obtain hw | ⟨⟨way, next⟩, hp, rfl, hfresh⟩ := hg.new_way w hw
    · cases hw
    · obtain ⟨hway, hnext⟩ := mem_allSteps.mp hp
      obtain ⟨hne, hvisited⟩ := hg.step_visited _ hp
      exact ⟨way, hway, next, hnext, rfl, hne, hvisited, hfresh⟩
  refine ⟨?_, ?_, ?_, ?_, ?_, ?_, ?_⟩
  · intro w hw
    obtain ⟨way, hway, next, hnext, rfl, -⟩ := hnew w hw
    exact (h.way way hway).concat hnext
  · intro w hw
    obtain ⟨way, hway, next, -, rfl, -⟩ := hnew w hw
    rw [List.length_cons, h.length_eq way hway]
  · intro w hw
    obtain ⟨way, hway, next, -, rfl, hne, -, hfresh⟩ := hnew w hw
    refine List.nodup_cons.mpr ⟨fun hmem => ?_, h.nodup way hway⟩
    exact (h.mem_visited way hway next hmem).elim hne hfresh
  · intro w hw v hv
    obtain ⟨way, hway, next, -, rfl, -, hvisited, -⟩ := hnew w hw
    obtain rfl | hv := List.mem_cons.mp hv
    · exact .inr hvisited
    · exact (h.mem_visited way hway v hv).imp_right fun hv => hg.visited_mono hv
  · intro v hv
    by_cases hold : v = start ∨ v ∈ f.visited
    · exact .inr fun next hnext => h.step_visited hg hold hnext
    · obtain ⟨hne, hfresh⟩ := not_or.mp hold
      exact .inl (((hg.new_visited v (hv.resolve_left hne)).resolve_left hfresh))
  · intro v way hway hlength
    cases hway with
    | start => exact .inl rfl
    | next hrest hnext =>
      exact .inr (h.step_visited hg
        (h.reached _ _ hrest (Nat.le_of_succ_le_succ hlength)) hnext).2
  · intro way hne hway
    have hlt := h.lt_length way hne hway
    -- A way back of one step more would have been met.
    refine Nat.lt_of_le_of_ne hlt fun heq => ?_
    cases hway with
    | start => exact hne rfl
    | next hrest hback =>
      have hreached := h.reached _ _ hrest (Nat.le_of_succ_le_succ (Nat.le_of_eq heq.symm))
      exact (h.step_visited hg hreached hback).1 rfl

/-! ## The search by levels -/

/-- What `search` finds is a way back, and no way back is shorter. -/
theorem Level.of_search_eq_some {k bound : Nat} {f : Frontier} {path : List TypeId}
    (h : Level start step k f) (hpath : f.search start step bound = some path) :
    IsShortestCycle (fun v next => next ∈ step v) start path := by
  induction bound generalizing k f with
  | zero => cases hpath
  | succ bound ih =>
    rw [Frontier.search] at hpath
    split at hpath
    · rename_i back hback
      cases hpath
      obtain ⟨way, hway, hstart, rfl⟩ := followAll_error hback
      have hclosed : IsWay start step (start :: way) := (h.way way hway).concat hstart
      refine ⟨IsCycle.iff_way.mpr ⟨way, (h.way way hway).ne_nil, hclosed, rfl⟩, ?_⟩
      intro other hother
      obtain ⟨way', hne', hway', rfl⟩ := IsCycle.iff_way.mp hother
      have := h.lt_length way' hne' hway'
      simp only [List.length_reverse, List.length_cons, h.length_eq way hway]
      omega
    · rename_i g hg
      exact ih (h.next (followed_of_followAll hg)) hpath

/-- If `search` finds nothing, as many levels as `bound` allows have been gone through. -/
theorem Level.of_search_eq_none {k bound : Nat} {f : Frontier} (h : Level start step k f)
    (hnone : f.search start step bound = none) : ∃ g, Level start step (k + bound) g := by
  induction bound generalizing k f with
  | zero => exact ⟨f, h⟩
  | succ bound ih =>
    rw [Frontier.search] at hnone
    split at hnone
    · cases hnone
    · rename_i g hg
      obtain ⟨g', hg'⟩ := ih (h.next (followed_of_followAll hg)) hnone
      exact ⟨g', by rwa [Nat.add_right_comm] at hg'⟩

/-- With as many levels as there are types with a step, no way can be followed further: its types
differ, and all but the last have a step. -/
theorem Level.nextSteps_eq_nil {k : Nat} {f : Frontier} (h : Level start step k f)
    {ids : List TypeId} (hids : ∀ v, step v ≠ [] → v ∈ ids) (hk : ids.length ≤ k) :
    ∀ w ∈ f.ways, nextSteps step w = [] := by
  intro w hw
  have hlength := h.length_eq w hw
  cases w with
  | nil => cases hlength
  | cons v way =>
    by_contra hne
    have hsub : v :: way ⊆ ids := by
      intro u hu
      obtain rfl | hu := List.mem_cons.mp hu
      · exact hids u hne
      · exact hids u ((h.way _ hw).step_ne_nil u hu)
    have := ((h.nodup _ hw).subperm hsub).length_le
    omega

/-- If no way can be followed further, there is no way back. -/
theorem Level.not_isCycle {k : Nat} {f : Frontier} (h : Level start step k f)
    (hend : ∀ w ∈ f.ways, nextSteps step w = []) (path : List TypeId) :
    ¬ IsCycle (fun v next => next ∈ step v) start path := by
  have hfollowed : ∀ v, v = start ∨ v ∈ f.visited →
      ∀ next ∈ step v, next ≠ start ∧ next ∈ f.visited := by
    intro v hv next hnext
    obtain ⟨w, hw, hhead⟩ | hfollowed := h.followed v hv
    · have hnil := hend w hw
      rw [nextSteps, hhead, Option.map_some, Option.getD_some] at hnil
      rw [hnil] at hnext
      cases hnext
    · exact hfollowed next hnext
  have hreached : ∀ way, IsWay start step way →
      ∀ v, way.head? = some v → v = start ∨ v ∈ f.visited := by
    intro way hway
    induction hway with
    | start =>
      rintro v ⟨⟩
      exact .inl rfl
    | next _ hnext ih =>
      rintro v ⟨⟩
      exact .inr (hfollowed _ (ih _ rfl) _ hnext).2
  intro hpath
  obtain ⟨way, hne, hway, -⟩ := IsCycle.iff_way.mp hpath
  cases hway with
  | start => exact hne rfl
  | next hrest hback => exact (hfollowed _ (hreached _ hrest _ rfl) _ hback).1 rfl

/-! ## The search with a queue -/

/-- The frontier `f` with the ways `front` before its own. -/
def behind (front : List (List TypeId)) (f : Frontier) : Frontier := ⟨f.visited, front ++ f.ways⟩

/-- The search one way after another: the first way of the queue is followed, and the longer ways
go to its end. It finds nothing if the queue runs empty. -/
inductive Finds (start : TypeId) (step : TypeId → List TypeId) :
    Frontier → Option (List TypeId) → Prop
  | nothing {visited : List TypeId} : Finds start step ⟨visited, []⟩ none
  | back {visited : List TypeId} {way back : List TypeId} {rest : List (List TypeId)}
    (h : (⟨visited, rest⟩ : Frontier).follow start way (nextSteps step way) = .error back) :
    Finds start step ⟨visited, way :: rest⟩ (some back.reverse)
  | onward {visited : List TypeId} {way : List TypeId} {rest : List (List TypeId)} {f : Frontier}
    {found : Option (List TypeId)}
    (h : (⟨visited, rest⟩ : Frontier).follow start way (nextSteps step way) = .ok f)
    (hf : Finds start step f found) : Finds start step ⟨visited, way :: rest⟩ found

/-- `follow` treats a way alike behind other ways. -/
theorem follow_behind (front : List (List TypeId)) (way nexts : List TypeId) (f : Frontier) :
    (f.behind front).follow start way nexts = (f.follow start way nexts).map (behind front) := by
  induction nexts generalizing f with
  | nil => rfl
  | cons next rest ih =>
    have hreach : (f.behind front).reach way next = (f.reach way next).behind front := by
      unfold Frontier.reach
      split
      · rename_i hvisited
        rw [if_pos (show f.visited.contains next from hvisited)]
      · rename_i hvisited
        rw [if_neg (show ¬ f.visited.contains next from hvisited)]
        simp [behind]
    rw [Frontier.follow, Frontier.follow]
    split
    · rfl
    · rw [hreach, ih]

/-- The queue gets through the ways of a level before it takes up longer ones. -/
theorem Finds.of_followAll {ways : List (List TypeId)} {f g : Frontier}
    {found : Option (List TypeId)} (h : f.followAll start step ways = .ok g)
    (hg : Finds start step g found) : Finds start step (f.behind ways) found := by
  induction ways generalizing f with
  | nil =>
    cases h
    exact hg
  | cons way rest ih =>
    rw [Frontier.followAll] at h
    obtain ⟨f', hfollow, hrest⟩ := Fallible.bind_eq_ok_iff.mp h
    refine .onward (f := f'.behind rest) ?_ (ih hrest)
    have hbehind := @follow_behind start rest way (nextSteps step way) f
    rw [nextSteps, hfollow] at hbehind
    exact hbehind

theorem Finds.of_followAll_error {ways : List (List TypeId)} {f : Frontier} {back : List TypeId}
    (h : f.followAll start step ways = .error back) :
    Finds start step (f.behind ways) (some back.reverse) := by
  induction ways generalizing f with
  | nil => cases h
  | cons way rest ih =>
    have hbehind := @follow_behind start rest way (nextSteps step way) f
    rw [Frontier.followAll] at h
    cases hfollow : f.follow start way ((way.head?.map step).getD []) with
    | error back' =>
      rw [hfollow] at h
      cases h
      rw [nextSteps, hfollow] at hbehind
      exact .back hbehind
    | ok f' =>
      rw [hfollow] at h
      rw [nextSteps, hfollow] at hbehind
      exact .onward (f := f'.behind rest) hbehind (ih h)

/-- The queue runs empty if no way of `f` can be followed further. -/
theorem Finds.of_nextSteps_eq_nil {f : Frontier} (h : ∀ w ∈ f.ways, nextSteps step w = []) :
    Finds start step f none := by
  obtain ⟨visited, ways⟩ := f
  induction ways with
  | nil => exact .nothing
  | cons way rest ih =>
    refine .onward (f := ⟨visited, rest⟩) ?_ (ih fun w hw => h w (List.mem_cons_of_mem _ hw))
    rw [h way List.mem_cons_self]
    rfl

/-- The queue has the outcome of `search`, if that goes through enough levels. -/
theorem Level.finds_search {k bound : Nat} {f : Frontier} (h : Level start step k f)
    {ids : List TypeId} (hids : ∀ v, step v ≠ [] → v ∈ ids) (hbound : ids.length ≤ k + bound) :
    Finds start step f (f.search start step bound) := by
  induction bound generalizing k f with
  | zero => exact .of_nextSteps_eq_nil (h.nextSteps_eq_nil hids hbound)
  | succ bound ih =>
    have hf : (⟨f.visited, []⟩ : Frontier).behind f.ways = f := by simp [behind]
    rw [Frontier.search]
    split
    · rename_i back hback
      exact hf ▸ Finds.of_followAll_error hback
    · rename_i g hg
      refine hf ▸ Finds.of_followAll hg (ih (h.next (followed_of_followAll hg)) ?_)
      rwa [Nat.add_assoc, Nat.add_comm 1]

/-! ## The whole search -/

section Whole

variable {ids : List TypeId} {bound : Nat}

theorem isShortestCycle_search {path : List TypeId}
    (h : search start step bound ⟨[], [[start]]⟩ = some path) :
    IsShortestCycle (fun v next => next ∈ step v) start path :=
  Level.init.of_search_eq_some h

/-- Types that go round among themselves do not keep the search from the way back. -/
example : search ⟨0⟩ (fun v => [[⟨1⟩, ⟨1⟩], [⟨1⟩, ⟨2⟩], [⟨1⟩, ⟨0⟩]].getD v.index []) 3
    ⟨[], [[⟨0⟩]]⟩ = some [⟨0⟩, ⟨1⟩, ⟨2⟩, ⟨0⟩] := by decide

theorem not_isCycle_of_search (hids : ∀ v, step v ≠ [] → v ∈ ids) (hbound : ids.length ≤ bound)
    (h : search start step bound ⟨[], [[start]]⟩ = none) (path : List TypeId) :
    ¬ IsCycle (fun v next => next ∈ step v) start path := by
  obtain ⟨g, hg⟩ := Level.init.of_search_eq_none h
  refine hg.not_isCycle (hg.nextSteps_eq_nil hids ?_) path
  rwa [Nat.zero_add]

/-- The queue comes to an end, with the outcome of `search`. -/
theorem finds_search (hids : ∀ v, step v ≠ [] → v ∈ ids) (hbound : ids.length ≤ bound) :
    Finds start step ⟨[], [[start]]⟩ (search start step bound ⟨[], [[start]]⟩) :=
  Level.init.finds_search hids (by rwa [Nat.zero_add])

end Whole

end Frontier

end Boundary
