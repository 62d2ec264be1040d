/-
# Merged dispatches

Dispatches can be merged, merged dispatches can be merged again, and each can have been polled
before.  However a dispatch was put together (`Assembly`), polling it is polling the replies
of all its handlers side by side (`merged_eq_flat`): the same replies are polled in the same
order, poll after poll, until both end with the same result.

The tree of a dispatch is compared with its leaves.  One poll of the leaves is one poll of the
tree (`poll_leaves`), where a join that ended stands for as many finished replies as it counts.
-/
import ViewKit.Proofs.Event.Polling

namespace ViewKit

namespace Dispatch

/-! ## Leaves -/

mutual

/-- The parts that a dispatch consists of when all joins are undone, from left to right. -/
def leaves : Dispatch → List Dispatch
  | reply r => [reply r]
  | finished count => List.replicate count (finished 1)
  | join parts => leavesOf parts

def leavesOf : List Dispatch → List Dispatch
  | [] => []
  | d :: ds => leaves d ++ leavesOf ds

end

@[simp] lemma leaves_part (k : Nat) (r : Reply) : (r.part k).leaves = [r.part k] := by
  rw [Reply.part]
  split <;> rfl

lemma leavesOf_replies (rs : List Reply) : leavesOf (rs.map reply) = rs.map reply := by
  induction rs with
  | nil => rfl
  | cons r rs ih =>
    rw [List.map_cons, leavesOf, ih]
    rfl

/-- A leaf is a finished part or the part of a reply. -/
def IsLeaf (d : Dispatch) : Prop := d = finished 1 ∨ ∃ r, d = reply r

mutual

theorem isLeaf_of_mem_leaves : ∀ d : Dispatch, ∀ e ∈ d.leaves, IsLeaf e
  | reply r, _, h => .inr ⟨r, List.mem_singleton.1 h⟩
  | finished _, _, h => .inl (List.eq_of_mem_replicate h)
  | join parts, e, h => isLeaf_of_mem_leavesOf parts e h

theorem isLeaf_of_mem_leavesOf : ∀ ds : List Dispatch, ∀ e ∈ leavesOf ds, IsLeaf e
  | [], _, h => absurd h List.not_mem_nil
  | d :: ds, e, h => (List.mem_append.1 h).elim (isLeaf_of_mem_leaves d e)
      (isLeaf_of_mem_leavesOf ds e)

end

/-- A leaf that is neither pending nor failed counts as one finished handler. -/
lemma IsLeaf.poll {d : Dispatch} (h : IsLeaf d) (hpending : d.poll.progress ≠ .pending)
    (hholds : d.poll.progress.Holds) :
    d.poll.progress = .resolved 1 ∧ d.poll.left = finished 1 := by
  rcases h with rfl | ⟨r, rfl⟩
  · exact ⟨rfl, rfl⟩
  · rcases pollReply_cases r with ⟨-, hp, -⟩ | ⟨-, hdone⟩ | ⟨message, hp, -⟩
    · exact absurd hp hpending
    · exact hdone
    · exact absurd hp (hholds message)

/-- Where all leaves are finished, as many finished leaves are left as are counted. -/
lemma left_of_resolved {ds : List Dispatch} {count : Nat} (hleaves : ∀ d ∈ ds, IsLeaf d)
    (h : (pollAll ds).progress = .resolved count) :
    (pollAll ds).left = List.replicate count (finished 1) := by
  have hholds : ∀ d ∈ ds, (poll d).progress.Holds :=
    holds_of_holds_pollAll (by rw [h]; exact Progress.holds_resolved count)
  rw [progress_pollAll] at h
  have hpending : ∀ d ∈ ds, (poll d).progress ≠ .pending := by
    intro d hd hp
    rw [Progress.joint_eq_pending (List.forall_mem_map.2 hholds)
      (List.mem_map.2 ⟨d, hd, hp⟩)] at h
    cases h
  have hdone : ∀ d ∈ ds, (poll d).progress = .resolved 1 ∧ (poll d).left = finished 1 :=
    fun d hd => (hleaves d hd).poll (hpending d hd) (hholds d hd)
  have hcount : ds.length = count := by
    rw [Progress.joint_eq_resolved (List.forall_mem_map.2 fun d hd => (hdone d hd).1)] at h
    simpa using h
  rw [(pollAll_of_holds hholds).1, List.map_congr_left fun d hd => (hdone d hd).2,
    List.map_const', hcount]

lemma pollAll_finished (count : Nat) :
    pollAll (List.replicate count (finished 1)) =
      ⟨.resolved count, List.replicate count (finished 1), []⟩ := by
  induction count with
  | zero => rfl
  | succ count ih =>
    have hone : (poll (finished 1)).progress.Holds := Progress.holds_resolved 1
    rw [List.replicate_succ, pollAll_cons_of_holds hone, ih, Nat.add_comm]
    rfl

/-! ## One poll -/

/-- One poll of some leaves comes to the same as one poll of what they are the leaves of. -/
structure SameAs {δ : Type} (leaves : δ → List Dispatch) (flat : Polled (List Dispatch))
    (p : Polled δ) : Prop where
  progress : flat.progress = p.progress
  replies : flat.replies = p.replies
  left : p.progress.Holds → flat.left = leaves p.left

lemma pollAll_leaves_reply (r : Reply) : SameAs leaves (pollAll [reply r]) (poll (reply r)) := by
  rcases (poll (reply r)).progress.failed_or_holds with ⟨message, h⟩ | h
  · rw [pollAll_cons_of_failed h]
    exact ⟨h.symm, rfl, fun hholds => absurd h (hholds message)⟩
  · rw [pollAll_cons_of_holds h]
    refine ⟨Progress.and_resolved_zero _, List.append_nil _, fun _ => ?_⟩
    rw [poll] at h ⊢
    rw [left_pollReply h, leaves_part]
    rfl

lemma SameAs.join {parts : List Dispatch}
    (h : SameAs leavesOf (pollAll (leavesOf parts)) (pollAll parts)) :
    SameAs leaves (pollAll (leavesOf parts)) (poll (join parts)) := by
  refine ⟨?_, ?_, fun hholds => ?_⟩
  · rw [progress_poll_join, h.progress]
  · rw [replies_poll_join, h.replies]
  · rw [progress_poll_join] at hholds
    cases hp : (pollAll parts).progress with
    | failed message => exact absurd hp (hholds message)
    | pending =>
      rw [left_poll_join_of_pending hp, h.left hholds]
      rfl
    | resolved count =>
      -- the join becomes one finished part, its leaves as many as it counts
      rw [left_poll_join_of_resolved hp,
        left_of_resolved (isLeaf_of_mem_leavesOf parts) (h.progress.trans hp)]
      rfl

lemma SameAs.cons {d : Dispatch} {ds : List Dispatch}
    (h : SameAs leaves (pollAll d.leaves) (poll d))
    (hs : SameAs leavesOf (pollAll (leavesOf ds)) (pollAll ds)) :
    SameAs leavesOf (pollAll (leavesOf (d :: ds))) (pollAll (d :: ds)) := by
  rw [leavesOf, pollAll_append]
  -- where `d` fails, the parts behind it are polled neither in the tree nor among the leaves
  rcases (poll d).progress.failed_or_holds with ⟨message, hd⟩ | hd
  · rw [Polled.append_of_failed (h.progress.trans hd), pollAll_cons_of_failed hd]
    exact ⟨h.progress.trans hd, h.replies, fun hholds => absurd rfl (hholds message)⟩
  · rw [Polled.append_of_holds (h.progress ▸ hd), pollAll_cons_of_holds hd, h.progress,
      h.replies, hs.progress, hs.replies]
    refine ⟨rfl, rfl, fun hholds => ?_⟩
    obtain ⟨-, hds⟩ := Progress.holds_and_iff.1 hholds
    rw [h.left hd, hs.left hds]
    rfl

mutual

theorem poll_leaves : ∀ d : Dispatch, SameAs leaves (pollAll d.leaves) (poll d)
  | reply r => pollAll_leaves_reply r
  | finished count => by
    rw [leaves, pollAll_finished]
    exact ⟨rfl, rfl, fun _ => rfl⟩
  | join parts => (pollAll_leavesOf parts).join

theorem pollAll_leavesOf :
    ∀ ds : List Dispatch, SameAs leavesOf (pollAll (leavesOf ds)) (pollAll ds)
  | [] => ⟨rfl, rfl, fun _ => rfl⟩
  | d :: ds => (poll_leaves d).cons (pollAll_leavesOf ds)

end

/-! ## Poll after poll -/

/-- A dispatch and the join of its leaves stay together until both end with nothing left. -/
lemma after_leaves (d : Dispatch) (k : Nat) :
    (join d.leaves).after k = join (d.after k).leaves ∨ (join d.leaves).after k = d.after k := by
  induction k with
  | zero => exact .inl rfl
  | succ k ih =>
    rw [after, after]
    rcases ih with ih | ih
    -- both are pending after this poll, or it ends both and leaves the same of them
    · have h := poll_leaves (d.after k)
      rw [ih]
      cases hp : (poll (d.after k)).progress with
      | pending =>
        refine .inl ?_
        rw [left_poll_join_of_pending (h.progress.trans hp), h.left (by rw [hp]; nofun)]
      | resolved count =>
        refine .inr ?_
        rw [left_poll_of_resolved hp, left_poll_join_of_resolved (h.progress.trans hp)]
      | failed message =>
        refine .inr ?_
        rw [left_poll_of_failed hp, left_poll_join_of_failed (h.progress.trans hp)]
    · exact .inr (by rw [ih])

lemma pollAt_leaves (d : Dispatch) (k : Nat) :
    ((join d.leaves).pollAt k).progress = (d.pollAt k).progress ∧
      ((join d.leaves).pollAt k).replies = (d.pollAt k).replies := by
  rw [pollAt, pollAt]
  rcases after_leaves d k with h | h
  · have hsame := poll_leaves (d.after k)
    rw [h, progress_poll_join, replies_poll_join]
    exact ⟨hsame.progress, hsame.replies⟩
  · rw [h]
    exact ⟨rfl, rfl⟩

/-! ## Handlers that are done at once -/

/-- Where every leaf is the reply of a handler that is done, the first poll finds their
number. -/
lemma complete_of_done {d : Dispatch} {rs : List Reply} (hleaves : d.leaves = rs.map reply)
    (h : ∀ r ∈ rs, r = .done) : d.complete = ⟨.resolved rs.length, 1, []⟩ := by
  have hreplies : rs = List.replicate rs.length .done := List.eq_replicate_iff.2 ⟨rfl, h⟩
  have hpoll : ∀ e ∈ d.leaves, (poll e).progress = .resolved 1 ∧ (poll e).replies = [.done] := by
    rw [hleaves, hreplies, List.map_replicate]
    intro e he
    rw [List.eq_of_mem_replicate he]
    exact ⟨rfl, rfl⟩
  have hsame := poll_leaves d
  have hprogress : (poll d).progress = .resolved rs.length := by
    rw [← hsame.progress, progress_pollAll,
      Progress.joint_eq_resolved (List.forall_mem_map.2 fun e he => (hpoll e he).1), hleaves,
      List.length_map, List.length_map]
  have hfinished : (poll d).finished = [] := by
    have hholds : ∀ e ∈ d.leaves, (poll e).progress.Holds :=
      fun e he => (hpoll e he).1 ▸ Progress.holds_resolved 1
    rw [Polled.finished, ← hsame.replies, (pollAll_of_holds hholds).2,
      List.filterMap_eq_nil_iff]
    intro r hr
    obtain ⟨e, he, hr⟩ := List.mem_flatMap.1 hr
    rw [(hpoll e he).2, List.mem_singleton] at hr
    rw [hr]
    rfl
  rw [complete, completeWithin]
  simp only [hprogress, hfinished]

end Dispatch

/-! ## Putting dispatches together -/

/-- How a dispatch was put together. -/
inductive Assembly where
  /-- The dispatch of an event, with the replies of its handlers. -/
  | event (rs : List Reply)
  /-- Several dispatches merged into one, or none at all. -/
  | all (parts : List Assembly)
  /-- A dispatch that was polled once more. -/
  | polled (part : Assembly)

namespace Assembly

mutual

/-- The dispatch that was put together. -/
def dispatch : Assembly → Dispatch
  | event rs => .ofReplies rs
  | all parts => .all (dispatches parts)
  | polled part => part.dispatch.poll.left

def dispatches : List Assembly → List Dispatch
  | [] => []
  | a :: as => a.dispatch :: dispatches as

end

mutual

/-- No dispatch had ended before it was polled for the last time. -/
def Unresolved : Assembly → Prop
  | event _ => True
  | all parts => UnresolvedAll parts
  | polled part => part.Unresolved ∧ part.dispatch.poll.progress = .pending

def UnresolvedAll : List Assembly → Prop
  | [] => True
  | a :: as => a.Unresolved ∧ UnresolvedAll as

end

mutual

/-- The replies of all handlers from left to right, each with the number of polls that its
dispatch has seen. -/
def replies : Assembly → List (Nat × Reply)
  | event rs => rs.map (0, ·)
  | all parts => repliesOf parts
  | polled part => part.replies.map fun (k, r) => (k + 1, r)

def repliesOf : List Assembly → List (Nat × Reply)
  | [] => []
  | a :: as => a.replies ++ repliesOf as

end

/-- The flat dispatch of all replies, as they stand. -/
def flat (a : Assembly) : Dispatch := .join (a.replies.map fun (k, r) => r.part k)

open Dispatch (poll pollAll leaves leavesOf)

/-- One poll that does not fail takes the parts of all replies one poll further. -/
lemma left_pollAll_parts {rs : List (Nat × Reply)}
    (h : (pollAll (rs.map fun (k, r) => r.part k)).progress.Holds) :
    (pollAll (rs.map fun (k, r) => r.part k)).left = rs.map fun (k, r) => r.part (k + 1) := by
  have hholds := Dispatch.holds_of_holds_pollAll h
  rw [(Dispatch.pollAll_of_holds hholds).1, List.map_map]
  refine List.map_congr_left fun (k, r) hr => Dispatch.left_poll_part k r ?_
  rw [← Dispatch.progress_poll_part]
  exact hholds _ (List.mem_map_of_mem hr)

mutual

theorem leaves_dispatch : ∀ a : Assembly, a.Unresolved →
    a.dispatch.leaves = a.replies.map fun (k, r) => r.part k
  | event rs, _ => by
    rw [dispatch, Dispatch.ofReplies, leaves, Dispatch.leavesOf_replies, replies, List.map_map]
    exact List.map_congr_left fun r _ => r.part_zero.symm
  | all parts, h => leavesOf_dispatches parts h
  | polled part, h => by
    obtain ⟨hpart, hpending⟩ := h
    have hsame := Dispatch.poll_leaves part.dispatch
    rw [leaves_dispatch part hpart] at hsame
    have hholds : part.dispatch.poll.progress.Holds := by rw [hpending]; nofun
    rw [dispatch, ← hsame.left hholds, left_pollAll_parts (hsame.progress ▸ hholds), replies,
      List.map_map]
    rfl

theorem leavesOf_dispatches : ∀ as : List Assembly, UnresolvedAll as →
    leavesOf (dispatches as) = (repliesOf as).map fun (k, r) => r.part k
  | [], _ => rfl
  | a :: as, h => by
    rw [dispatches, leavesOf, leaves_dispatch a h.1, leavesOf_dispatches as h.2, repliesOf,
      List.map_append]

end

/-- Polling a merged dispatch is polling the replies of all its handlers in one flat dispatch:
each poll asks the same replies in the same order and finds the same progress. -/
theorem merged_eq_flat (a : Assembly) (h : a.Unresolved) (k : Nat) :
    (a.dispatch.pollAt k).progress = (a.flat.pollAt k).progress ∧
      (a.dispatch.pollAt k).replies = (a.flat.pollAt k).replies := by
  obtain ⟨hprogress, hreplies⟩ := Dispatch.pollAt_leaves a.dispatch k
  rw [leaves_dispatch a h] at hprogress hreplies
  exact ⟨hprogress.symm, hreplies.symm⟩

/-- Two merges, one inside the other and both polled before they were merged further. -/
def nestedMerge : Assembly :=
  .all [.polled (.all [.event [.pending "a" 0 none, .done], .all [],
      .polled (.event [.pending "b" 3 none, .pending "c" 4 (some "late")])]),
    .event [.pending "d" 0 none, .pending "e" 2 (some "first"), .pending "f" 2 (some "second")]]

theorem nestedMerge_eq_flat :
    nestedMerge.Unresolved ∧
      (nestedMerge.dispatch.pollAt 2).progress = (nestedMerge.flat.pollAt 2).progress ∧
      (nestedMerge.dispatch.pollAt 2).replies = (nestedMerge.flat.pollAt 2).replies ∧
      (nestedMerge.flat.pollAt 2).progress = .failed "late" := by
  have h : nestedMerge.Unresolved :=
    ⟨⟨⟨trivial, trivial, ⟨trivial, rfl⟩, trivial⟩, rfl⟩, trivial, trivial⟩
  obtain ⟨hprogress, hreplies⟩ := merged_eq_flat nestedMerge h 2
  exact ⟨h, hprogress, hreplies, rfl⟩

end Assembly
end ViewKit
