import Mathlib.Data.List.Chain
import Mathlib.Data.List.Nodup
import Mathlib.Logic.Relation
import SheetCompiler.Dependency.Cycle

/-!
# Searching breadth first

Searches go along a list of nodes that follow each node. What is met when a node is looked at is
said once, in `Visits`. From that follows what a search meets that looks at everything: the nodes
that can be reached. And from that follows what a search finds that stops as soon as a way leads
back to its start. Its invariant, `Frontier`, speaks of walks by their number of steps: a node at
the end of a short walk is already settled, one at the end of a walk of the current length is
settled or waits in the queue. No way leads from a settled node straight back to the start, so the
first chain that closes is a shortest one; and when the queue runs dry, no walk leads back at all.
-/

namespace SheetCompiler.Dependency

open Relation

/-- A walk of the given number of steps leads from `start` to an element. -/
inductive Walk {α : Type} (R : α → α → Prop) (start : α) : Nat → α → Prop
  | refl : Walk R start 0 start
  | step {n a b} : Walk R start n a → R a b → Walk R start (n + 1) b

namespace Walk

variable {α : Type} {R : α → α → Prop} {start a b : α} {n : Nat}

/-- The last step of a walk that takes at least one. -/
theorem exists_last (h : Walk R start (n + 1) b) : ∃ a, Walk R start n a ∧ R a b := by
  cases h with
  | step earlier last => exact ⟨_, earlier, last⟩

theorem follow (h : Walk R start n a) (rest : List α) (chain : (a :: (rest ++ [b])).IsChain R) :
    Walk R start (n + rest.length + 1) b := by
  induction rest generalizing n a with
  | nil => exact h.step (List.isChain_pair.mp chain)
  | cons next rest ih =>
      obtain ⟨first, later⟩ := List.isChain_cons_cons.mp chain
      have longer := ih (h.step first) later
      rw [List.length_cons, Nat.add_comm rest.length 1, ← Nat.add_assoc n 1]
      exact longer

theorem transGen (h : Walk R start (n + 1) b) : TransGen R start b := by
  induction n generalizing b with
  | zero =>
      obtain ⟨a, earlier, last⟩ := h.exists_last
      cases earlier
      exact .single last
  | succ n ih =>
      obtain ⟨a, earlier, last⟩ := h.exists_last
      exact (ih earlier).tail last

theorem reflTransGen (h : Walk R start n a) : ReflTransGen R start a := by
  induction h with
  | refl => exact .refl
  | step _ last ih => exact ih.tail last

theorem exists_of_transGen (h : TransGen R a b) : ∃ n, Walk R a (n + 1) b := by
  induction h with
  | single step => exact ⟨0, refl.step step⟩
  | tail _ step ih =>
      obtain ⟨n, walk⟩ := ih
      exact ⟨n + 1, walk.step step⟩

end Walk

namespace Search

variable {s s' : Search} {current i j : Nat} {next : List Nat}

section Visiting

/-- What becomes of a search when these nodes are met from a node: the unseen ones wait at the end
of the queue, as its children. -/
structure Visits (s : Search) (current : Nat) (next : List Nat) (s' : Search) (new : List Nat) :
    Prop where
  queue : s'.queue = s.queue ++ new
  mem_new : ∀ i, i ∈ new ↔ i ∈ next ∧ i ∈ s.unseen
  nodup : new.Nodup
  unseen : ∀ i, i ∈ s'.unseen ↔ i ∈ s.unseen ∧ i ∉ next
  /-- The nodes that have been met before keep their parents. -/
  seen : ∀ i, i ∉ s.unseen → ancestors s'.parents i = ancestors s.parents i
  child : current ∉ s.unseen → ∀ i ∈ new,
    ancestors s'.parents i = i :: ancestors s.parents current

namespace Visits

variable {new : List Nat}

theorem mem_queue_iff (h : Visits s current next s' new) :
    i ∈ s'.queue ↔ i ∈ s.queue ∨ i ∈ next ∧ i ∈ s.unseen := by
  rw [h.queue, List.mem_append, h.mem_new]

/-- A node that has been seen changes nothing. -/
theorem cons_of_seen (seen : i ∉ s.unseen) (h : Visits s current next s' new) :
    Visits s current (i :: next) s' new where
  queue := h.queue
  mem_new := by
    intro k
    rw [h.mem_new, List.mem_cons]
    grind
  nodup := h.nodup
  unseen := by
    intro k
    rw [h.unseen, List.mem_cons]
    grind
  seen := h.seen
  child := h.child

/-- An unseen node is put into the queue first. -/
theorem cons_of_unseen (unseen : i ∈ s.unseen)
    (h : Visits ⟨s.unseen.filter (· ≠ i), (i, current) :: s.parents, s.queue ++ [i]⟩ current next
      s' new) :
    Visits s current (i :: next) s' (i :: new) := by
  have older {k : Nat} (other : i ≠ k) :
      ancestors ((i, current) :: s.parents) k = ancestors s.parents k := by
    rw [ancestors, if_neg other]
  have gone : i ∉ s.unseen.filter (· ≠ i) := by simp
  have fewer {k : Nat} (seen : k ∉ s.unseen) : k ∉ s.unseen.filter (· ≠ i) :=
    fun inside => seen (List.mem_of_mem_filter inside)
  have other {k : Nat} (seen : k ∉ s.unseen) : i ≠ k := by
    rintro rfl
    exact seen unseen
  constructor
  case queue =>
    rw [h.queue, List.append_assoc]
    rfl
  case mem_new =>
    intro k
    rw [List.mem_cons, h.mem_new, List.mem_cons, List.mem_filter]
    grind
  case nodup =>
    refine List.nodup_cons.mpr ⟨fun again => ?_, h.nodup⟩
    exact gone ((h.mem_new i).mp again).2
  case unseen =>
    intro k
    rw [h.unseen, List.mem_filter, List.mem_cons]
    grind
  case seen =>
    intro k seen
    rw [h.seen k (fewer seen), older (other seen)]
  case child =>
    intro seen k member
    rcases List.mem_cons.mp member with rfl | added
    · rw [h.seen k gone, ancestors, if_pos rfl]
    · rw [h.child (fewer seen) k added, older (other seen)]

end Visits

theorem exists_visits (s : Search) (current : Nat) (next : List Nat) :
    ∃ new, Visits s current next (s.visit current next) new := by
  induction next generalizing s with
  | nil => exact ⟨[], by simp [visit], by simp, .nil, by simp [visit], fun _ _ => rfl, by simp⟩
  | cons i rest ih =>
      obtain ⟨new, later⟩ := ih (s.meet current i)
      change Visits (s.meet current i) current rest (s.visit current (i :: rest)) new at later
      by_cases unseen : i ∈ s.unseen
      · rw [meet, if_pos (List.contains_iff_mem.mpr unseen)] at later
        exact ⟨i :: new, later.cons_of_unseen unseen⟩
      · rw [meet, if_neg (mt List.contains_iff_mem.mp unseen)] at later
        exact ⟨new, later.cons_of_seen unseen⟩

end Visiting

section Reaching

variable {follow : Nat → List Nat}

theorem mem_reached_of_mem_queue (h : i ∈ s.queue) : i ∈ s.reached follow := by
  fun_induction s.reached follow with
  | case1 s empty => simp [empty] at h
  | case2 s current queue split smaller ih =>
      obtain ⟨new, visits⟩ := exists_visits { s with queue } current (follow current)
      rw [split] at h
      rcases List.mem_cons.mp h with rfl | later
      · exact List.mem_cons_self
      · exact List.mem_cons_of_mem _ (ih (visits.mem_queue_iff.mpr (.inl later)))

/-- What is reached can be reached. -/
theorem exists_reflTransGen_of_mem_reached (h : i ∈ s.reached follow) :
    ∃ k ∈ s.queue, ReflTransGen (fun a b => b ∈ follow a) k i := by
  fun_induction s.reached follow with
  | case1 s empty => cases h
  | case2 s current queue split smaller ih =>
      obtain ⟨new, visits⟩ := exists_visits { s with queue } current (follow current)
      rw [split]
      rcases List.mem_cons.mp h with rfl | later
      · exact ⟨i, List.mem_cons_self, .refl⟩
      obtain ⟨k, member, path⟩ := ih later
      rcases visits.mem_queue_iff.mp member with old | ⟨step, -⟩
      · exact ⟨k, List.mem_cons_of_mem _ old, path⟩
      · exact ⟨current, List.mem_cons_self, .head step path⟩

/-- What follows a node that is reached is reached, or has been seen before. -/
theorem mem_reached_of_follow (h : i ∈ s.reached follow) (step : j ∈ follow i) :
    j ∈ s.reached follow ∨ j ∉ s.unseen := by
  fun_induction s.reached follow with
  | case1 s empty => cases h
  | case2 s current queue split smaller ih =>
      obtain ⟨new, visits⟩ := exists_visits { s with queue } current (follow current)
      by_cases unseen : j ∈ s.unseen
      case neg => exact .inr unseen
      have onward (read : j ∈ follow current) :
          j ∈ ({ s with queue }.visit current (follow current)).reached follow :=
        mem_reached_of_mem_queue (visits.mem_queue_iff.mpr (.inr ⟨read, unseen⟩))
      refine .inl (List.mem_cons_of_mem _ ?_)
      rcases List.mem_cons.mp h with rfl | later
      · exact onward step
      rcases ih later with there | seen
      · exact there
      · refine onward ?_
        by_contra other
        exact seen ((visits.unseen j).mpr ⟨unseen, other⟩)

/-- A search from a node meets what can be reached from it. -/
theorem mem_reached_start_iff {numbers : List Nat}
    (closed : ∀ i j, j ∈ follow i → j ∈ numbers) :
    j ∈ (start numbers i).reached follow ↔ ReflTransGen (fun a b => b ∈ follow a) i j := by
  constructor
  · intro h
    obtain ⟨k, member, path⟩ := exists_reflTransGen_of_mem_reached h
    obtain rfl := List.mem_singleton.mp member
    exact path
  · intro path
    have first : i ∈ (start numbers i).reached follow :=
      mem_reached_of_mem_queue List.mem_cons_self
    induction path with
    | refl => exact first
    | @tail k j _ step ih =>
        rcases mem_reached_of_follow ih step with there | seen
        · exact there
        · obtain rfl : j = i := by
            by_contra other
            exact seen (List.mem_filter.mpr ⟨closed k j step, decide_eq_true other⟩)
          exact first

theorem mem_queue_or_unseen_of_mem_reached (h : i ∈ s.reached follow) :
    i ∈ s.queue ∨ i ∈ s.unseen := by
  fun_induction s.reached follow with
  | case1 s empty => cases h
  | case2 s current queue split smaller ih =>
      obtain ⟨new, visits⟩ := exists_visits { s with queue } current (follow current)
      rw [split]
      rcases List.mem_cons.mp h with rfl | later
      · exact .inl List.mem_cons_self
      rcases ih later with waits | unseen
      · rcases visits.mem_queue_iff.mp waits with old | ⟨-, unseen⟩
        · exact .inl (List.mem_cons_of_mem _ old)
        · exact .inr unseen
      · exact .inr ((visits.unseen i).mp unseen).1

/-- No node is looked at twice. -/
theorem nodup_reached (once : s.queue.Nodup) (seen : ∀ i ∈ s.queue, i ∉ s.unseen) :
    (s.reached follow).Nodup := by
  fun_induction s.reached follow with
  | case1 s empty => exact List.nodup_nil
  | case2 s current queue split smaller ih =>
      obtain ⟨new, visits⟩ := exists_visits { s with queue } current (follow current)
      rw [split] at once seen
      obtain ⟨other, once⟩ := List.nodup_cons.mp once
      rw [List.forall_mem_cons] at seen
      refine List.nodup_cons.mpr ⟨fun again => ?_, ih ?_ ?_⟩
      · rcases mem_queue_or_unseen_of_mem_reached again with waits | unseen
        · rcases visits.mem_queue_iff.mp waits with old | ⟨-, unseen⟩
          · exact other old
          · exact seen.1 unseen
        · exact seen.1 ((visits.unseen current).mp unseen).1
      · rw [visits.queue]
        refine once.append visits.nodup fun i old added => ?_
        exact seen.2 i old ((visits.mem_new i).mp added).2
      · intro i waits unseen
        obtain ⟨before, other⟩ := (visits.unseen i).mp unseen
        rcases visits.mem_queue_iff.mp waits with old | ⟨step, -⟩
        · exact seen.2 i old before
        · exact other step

end Reaching

section Returning

variable {follow : Nat → List Nat} {numbers : List Nat} {home n : Nat}
variable {near far : List Nat} {settled : Nat → Prop}

theorem head?_ancestors (parents : List (Nat × Nat)) (i : Nat) :
    (ancestors parents i).head? = some i := by
  induction parents with
  | nil => rfl
  | cons entry earlier ih =>
      rw [ancestors]
      split
      · rfl
      · exact ih

/-- A chain that goes from `home` along what follows each node, its last node in front. It meets no
node twice and none of the unseen ones. -/
structure Trail (follow : Nat → List Nat) (home : Nat) (unseen chain : List Nat) : Prop where
  first : chain.getLast? = some home
  steps : chain.reverse.IsChain fun a b => b ∈ follow a
  nodup : chain.Nodup
  seen : ∀ i ∈ chain, i ∉ unseen

theorem Trail.mono {unseen unseen' chain : List Nat} (h : Trail follow home unseen chain)
    (fewer : ∀ i ∈ unseen', i ∈ unseen) : Trail follow home unseen' chain :=
  ⟨h.first, h.steps, h.nodup, fun i member still => h.seen i member (fewer i still)⟩

/-- A trail goes on to an unseen node. -/
theorem Trail.cons {unseen unseen' chain : List Nat} (h : Trail follow home unseen chain)
    (fewer : ∀ i ∈ unseen', i ∈ unseen) (last : chain.head? = some current) (new : i ∈ unseen)
    (met : i ∉ unseen') (step : i ∈ follow current) : Trail follow home unseen' (i :: chain) where
  first := by
    rw [List.getLast?_cons, h.first]
    rfl
  steps := by
    rw [List.reverse_cons]
    refine h.steps.append (List.isChain_singleton i) ?_
    simpa [last] using step
  nodup := List.nodup_cons.mpr ⟨fun member => h.seen i member new, h.nodup⟩
  seen := by
    intro j member
    rcases List.mem_cons.mp member with rfl | earlier
    · exact met
    · exact (h.mono fewer).seen j earlier

/-- The state of the search after `n` full rounds. The queue holds first the nodes at the end of
trails of `n` steps, then those at the end of one step more; `settled` nodes have been looked at,
and no way leads from them straight home. -/
structure Frontier (follow : Nat → List Nat) (numbers : List Nat) (home : Nat) (s : Search)
    (n : Nat) (near far : List Nat) (settled : Nat → Prop) : Prop where
  queue : s.queue = near ++ far
  trail : ∀ i ∈ near ++ far, Trail follow home s.unseen (ancestors s.parents i)
  near_length : ∀ i ∈ near, (ancestors s.parents i).length = n + 1
  far_length : ∀ i ∈ far, (ancestors s.parents i).length = n + 2
  /-- A node that has been met is settled or waits. -/
  met : ∀ i ∈ numbers, i ∉ s.unseen → settled i ∨ i ∈ near ++ far
  not_back : ∀ i, settled i → home ∉ follow i
  follow_met : ∀ i j, settled i → j ∈ follow i → j ∉ s.unseen
  short_walk : ∀ m i, m < n → Walk (fun a b => b ∈ follow a) home m i → settled i
  walk : ∀ i, Walk (fun a b => b ∈ follow a) home n i → settled i ∨ i ∈ near

namespace Frontier

/-- The search starts with the trail of no steps. -/
theorem init (follow : Nat → List Nat) (numbers : List Nat) (home : Nat) :
    Frontier follow numbers home (start numbers home) 0 [home] [] fun _ => False where
  queue := rfl
  trail := by
    intro i member
    obtain rfl : i = home := by simpa using member
    exact ⟨rfl, List.isChain_singleton i, List.nodup_singleton i, by simp [start, ancestors]⟩
  near_length := by simp [start, ancestors]
  far_length := by simp
  met := by
    intro i member seen
    refine .inr (List.mem_singleton.mpr ?_)
    by_contra other
    exact seen (List.mem_filter.mpr ⟨member, decide_eq_true other⟩)
  not_back := fun i none => none.elim
  follow_met := fun i j none => none.elim
  short_walk := fun m i negative => absurd negative (Nat.not_lt_zero m)
  walk := by
    intro i h
    cases h
    exact .inr List.mem_cons_self

/-- When the trails of one length are used up, the next round begins. -/
theorem nextRound (closed : ∀ i j, j ∈ follow i → j ∈ numbers)
    (h : Frontier follow numbers home s n [] far settled) :
    Frontier follow numbers home s (n + 1) far [] settled where
  queue := by rw [h.queue, List.nil_append, List.append_nil]
  trail := by simpa using h.trail
  near_length := h.far_length
  far_length := by simp
  met := by simpa using h.met
  not_back := h.not_back
  follow_met := h.follow_met
  short_walk := by
    intro m i bound walk
    rcases Nat.lt_succ_iff_lt_or_eq.mp bound with less | rfl
    · exact h.short_walk m i less walk
    · simpa using h.walk i walk
  walk := by
    intro j walk
    obtain ⟨i, earlier, step⟩ := walk.exists_last
    have before : settled i := by simpa using h.walk i earlier
    simpa using h.met j (closed i j step) (h.follow_met i j before step)

/-- A nonempty queue can be read as one that starts with a node at the current distance. -/
theorem exists_near (closed : ∀ i j, j ∈ follow i → j ∈ numbers) {queue : List Nat}
    (h : Frontier follow numbers home s n near far settled) (split : s.queue = current :: queue) :
    ∃ m rest far', queue = rest ++ far' ∧
      Frontier follow numbers home s m (current :: rest) far' settled := by
  have whole := h.queue
  rw [split] at whole
  cases near with
  | cons first rest =>
      obtain ⟨rfl, rfl⟩ := List.cons.inj whole
      exact ⟨n, rest, far, rfl, h⟩
  | nil =>
      rw [List.nil_append] at whole
      subst whole
      exact ⟨n + 1, queue, [], by simp, h.nextRound closed⟩

/-- Looking at a node from which no way leads straight home settles it; the unseen nodes that follow
it wait at the end of longer trails. -/
theorem settle {queue : List Nat} (split : queue = near ++ far)
    (h : Frontier follow numbers home s n (current :: near) far settled)
    (not_back : home ∉ follow current) :
    ∃ new, Frontier follow numbers home ({ s with queue }.visit current (follow current)) n near
      (far ++ new) fun i => settled i ∨ i = current := by
  obtain ⟨new, visits⟩ := exists_visits { s with queue } current (follow current)
  have trail := h.trail current (by simp)
  have seen : current ∉ s.unseen := by
    refine trail.seen current (List.mem_of_head? (head?_ancestors _ _))
  have fewer : ∀ i ∈ ({ s with queue }.visit current (follow current)).unseen, i ∈ s.unseen :=
    fun i still => ((visits.unseen i).mp still).1
  -- The nodes that wait already have been met, so their trails stay as they are.
  have kept : ∀ i ∈ near ++ far,
      ancestors ({ s with queue }.visit current (follow current)).parents i =
      ancestors s.parents i := by
    intro i waits
    refine visits.seen i ?_
    exact (h.trail i (by simp_all)).seen i (List.mem_of_head? (head?_ancestors _ _))
  refine ⟨new, ?_⟩
  constructor
  case queue => rw [visits.queue, split, List.append_assoc]
  case trail =>
    intro i member
    rw [← List.append_assoc] at member
    rcases List.mem_append.mp member with old | added
    · rw [kept i old]
      exact (h.trail i (by simp_all)).mono fewer
    · obtain ⟨step, unseen⟩ := (visits.mem_new i).mp added
      rw [visits.child seen i added]
      refine trail.cons fewer (head?_ancestors _ _) unseen (fun still => ?_) step
      exact ((visits.unseen i).mp still).2 step
  case near_length =>
    intro i member
    rw [kept i (List.mem_append_left _ member)]
    exact h.near_length i (List.mem_cons_of_mem _ member)
  case far_length =>
    intro i member
    rcases List.mem_append.mp member with old | added
    · rw [kept i (List.mem_append_right _ old)]
      exact h.far_length i old
    · rw [visits.child seen i added, List.length_cons, h.near_length current List.mem_cons_self]
  case met =>
    intro i member seen
    by_cases unseen : i ∈ s.unseen
    · have read : i ∈ follow current := by
        by_contra other
        exact seen ((visits.unseen i).mpr ⟨unseen, other⟩)
      refine .inr (List.mem_append_right _ (List.mem_append_right _ ?_))
      exact (visits.mem_new i).mpr ⟨read, unseen⟩
    · rcases h.met i member unseen with old | waits
      · exact .inl (.inl old)
      rcases List.mem_cons.mp waits with rfl | later
      · exact .inl (.inr rfl)
      · refine .inr ?_
        rw [← List.append_assoc]
        exact List.mem_append_left _ later
  case not_back =>
    rintro i (old | rfl)
    · exact h.not_back i old
    · exact not_back
  case follow_met =>
    rintro i j (old | rfl) step still
    · exact h.follow_met i j old step (fewer j still)
    · exact ((visits.unseen j).mp still).2 step
  case short_walk => exact fun m i bound walk => .inl (h.short_walk m i bound walk)
  case walk =>
    intro i walk
    rcases h.walk i walk with old | waits
    · exact .inl (.inl old)
    rcases List.mem_cons.mp waits with rfl | later
    · exact .inl (.inr rfl)
    · exact .inr later

/-- With an empty queue every node that a walk from home reaches is settled. -/
theorem settled_of_reaches (closed : ∀ i j, j ∈ follow i → j ∈ numbers)
    (h : Frontier follow numbers home s n [] [] settled) (member : home ∈ numbers)
    (seen : home ∉ s.unseen) (reach : ReflTransGen (fun a b => b ∈ follow a) home i) :
    settled i := by
  induction reach with
  | refl => simpa using h.met home member seen
  | @tail i j _ step ih => simpa using h.met j (closed i j step) (h.follow_met i j ih step)

end Frontier

/-- A chain that starts at `home` and closes there, without repetition, that no walk back to `home`
undercuts. -/
structure Closest (follow : Nat → List Nat) (home : Nat) (chain : List Nat) : Prop where
  head : chain.head? = some home
  closed : (chain ++ [home]).IsChain fun a b => b ∈ follow a
  nodup : chain.Nodup
  le_walk : ∀ n, Walk (fun a b => b ∈ follow a) home (n + 1) home → chain.length ≤ n + 1

/-- The first trail that closes is a closest circle, and a search that ends without one shows that
there is none. -/
theorem back?_spec (closed : ∀ i j, j ∈ follow i → j ∈ numbers) (member : home ∈ numbers)
    (seen : home ∉ s.unseen) (frontier : Frontier follow numbers home s n near far settled) :
    match s.back? follow home with
    | none => ¬ TransGen (fun a b => b ∈ follow a) home home
    | some (last, parents) => Closest follow home (ancestors parents last).reverse := by
  fun_induction s.back? follow home generalizing n near far settled with
  | case1 s empty =>
      have whole := frontier.queue
      rw [empty] at whole
      obtain ⟨rfl, rfl⟩ := List.append_eq_nil_iff.mp whole.symm
      intro circular
      obtain ⟨last, reach, back⟩ := TransGen.tail'_iff.mp circular
      exact frontier.not_back last (frontier.settled_of_reaches closed member seen reach) back
  | case2 s current queue split back =>
      obtain ⟨m, rest, far', -, now⟩ := frontier.exists_near closed split
      have trail := now.trail current List.mem_cons_self
      have step : home ∈ follow current := List.contains_iff_mem.mp back
      refine ⟨by rw [List.head?_reverse, trail.first], ?_, List.nodup_reverse.mpr trail.nodup,
        fun k walk => ?_⟩
      · refine trail.steps.append (List.isChain_singleton home) ?_
        simpa [head?_ancestors] using step
      · -- The node before a return is not settled, so the walk to it is long enough.
        obtain ⟨last, walk, returns⟩ := walk.exists_last
        have long : ¬ k < m := fun short =>
          now.not_back last (now.short_walk k last short walk) returns
        rw [List.length_reverse, now.near_length current List.mem_cons_self]
        omega
  | case3 s current queue split onward smaller ih =>
      obtain ⟨m, rest, far', whole, now⟩ := frontier.exists_near closed split
      have not_back : home ∉ follow current := mt List.contains_iff_mem.mpr onward
      obtain ⟨new, later⟩ := now.settle whole not_back
      refine ih (fun still => seen ?_) later
      obtain ⟨added, visits⟩ := exists_visits { s with queue } current (follow current)
      exact ((visits.unseen home).mp still).1

/-- A search from a node among others finds a shortest way back, or there is none. -/
theorem back?_start_spec (closed : ∀ i j, j ∈ follow i → j ∈ numbers) (member : home ∈ numbers) :
    match (start numbers home).back? follow home with
    | none => ¬ TransGen (fun a b => b ∈ follow a) home home
    | some (last, parents) => Closest follow home (ancestors parents last).reverse :=
  back?_spec closed member (by simp [start]) (Frontier.init follow numbers home)

end Returning

end Search

end SheetCompiler.Dependency
