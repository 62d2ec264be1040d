/-
# Completion of a dispatch

The dispatch of an event joins the replies of the handlers that ran.  How it ends is known
from the replies alone (`Ending`): if none of them fails, it is pending as long as the slowest
one and then resolves to their number; if some fail, it is pending as long as the quickest of
these and then fails with the first one that is due.

As long as nothing failed the parts of the dispatch stand for the replies after the polls made
so far (`after_ofReplies`), so that one poll can be read off them.  In particular no reply is
polled again after it was found finished.

Polling any dispatch to the end needs no more polls than its slowest part (`exists_end`), so
that the bound in `complete` is never what ends it (`complete_eq`).
-/
import Mathlib.Data.Nat.Find
import ViewKit.Proofs.Event.Polling

namespace ViewKit

/-! ## What is awaited -/

namespace Reply

/-- The number of polls for which one of some replies is pending. -/
def longestDelay (rs : List Reply) : Nat := (rs.map delay).foldr max 0

/-- What is polled of some replies after `k` polls: those that were pending up to then, in
order.  A reply with delay `n` is finished by the poll after `n` others. -/
def awaited (k : Nat) (rs : List Reply) : List Reply :=
  (rs.filter fun r => k ≤ r.delay).map (aged k)

lemma delay_le_longestDelay {rs : List Reply} {r : Reply} (h : r ∈ rs) :
    r.delay ≤ longestDelay rs := by
  induction rs with
  | nil => exact absurd h List.not_mem_nil
  | cons s rs ih =>
    rcases List.mem_cons.1 h with rfl | h
    · exact Nat.le_max_left _ _
    · exact Nat.le_trans (ih h) (Nat.le_max_right _ _)

lemma exists_delay_eq_longestDelay {rs : List Reply} (h : longestDelay rs ≠ 0) :
    ∃ r ∈ rs, r.delay = longestDelay rs := by
  induction rs with
  | nil => exact absurd rfl h
  | cons s rs ih =>
    have hmax : longestDelay (s :: rs) = max s.delay (longestDelay rs) := rfl
    rcases Nat.le_total (longestDelay rs) s.delay with hle | hle
    · exact ⟨s, List.mem_cons_self, by omega⟩
    · obtain ⟨r, hr, heq⟩ := ih (by omega)
      exact ⟨r, List.mem_cons_of_mem s hr, by omega⟩

lemma awaited_eq_flatMap (k : Nat) (rs : List Reply) :
    awaited k rs = rs.flatMap fun r => if k ≤ r.delay then [r.aged k] else [] := by
  induction rs with
  | nil => rfl
  | cons r rs ih =>
    rw [List.flatMap_cons, ← ih, awaited, List.filter_cons]
    by_cases h : k ≤ r.delay
    · simp [h, awaited]
    · simp [h, awaited]

end Reply

open Reply (awaited longestDelay)

/-- How the dispatch of some replies ends: for how many polls it is pending, what the next poll
finds, and the replies behind which that poll does not go. -/
inductive Ending (rs : List Reply) : Nat → Progress → List Reply → Prop where
  | resolved (hnone : ∀ r ∈ rs, r.failure? = none) :
    Ending rs (longestDelay rs) (.resolved rs.length) rs
  /-- No failing reply has a shorter delay, and none in front of this one has the same. -/
  | failed {before behind : List Reply} {r : Reply} {message : String}
      (hrs : rs = before ++ r :: behind) (hr : r.failure? = some message)
      (hleast : ∀ x ∈ rs, x.failure? ≠ none → r.delay ≤ x.delay)
      (hfirst : ∀ x ∈ before, x.failure? ≠ none → x.delay ≠ r.delay) :
    Ending rs r.delay (.failed message) (before ++ [r])

lemma exists_ending (rs : List Reply) :
    ∃ polls result reached, Ending rs polls result reached := by
  by_cases hnone : ∀ r ∈ rs, r.failure? = none
  · exact ⟨_, _, _, .resolved hnone⟩
  · have hexists : ∃ n, ∃ r ∈ rs, r.failure? ≠ none ∧ r.delay = n := by
      simp only [Classical.not_forall] at hnone
      obtain ⟨r, hr, hfails⟩ := hnone
      exact ⟨r.delay, r, hr, hfails, rfl⟩
    have hleast : ∀ x ∈ rs, x.failure? ≠ none → Nat.find hexists ≤ x.delay :=
      fun x hx hfails => Nat.find_min' hexists ⟨x, hx, hfails, rfl⟩
    obtain ⟨s, hs, hsfails, hsdelay⟩ := Nat.find_spec hexists
    -- `s` is one of the replies that fail with the least delay, `r` is the first of them
    let due : Reply → Bool := fun x => decide (x.failure? ≠ none ∧ x.delay = Nat.find hexists)
    obtain ⟨r, before, behind, hbefore, hdue, hrs, -⟩ :=
      List.exists_of_eraseP hs (show due s = true from decide_eq_true ⟨hsfails, hsdelay⟩)
    obtain ⟨hfails, hdelay⟩ := of_decide_eq_true hdue
    obtain ⟨message, hmessage⟩ := Option.ne_none_iff_exists'.1 hfails
    refine ⟨_, _, _, .failed hrs hmessage (fun x hx hxfails => ?_) (fun x hx hxfails heq => ?_)⟩
    · rw [hdelay]
      exact hleast x hx hxfails
    · exact hbefore x hx (decide_eq_true ⟨hxfails, heq.trans hdelay⟩)

namespace Dispatch

/-! ## One poll -/

variable {rs : List Reply} {k : Nat}

lemma progress_pollAll_parts (rs : List Reply) (k : Nat) :
    (pollAll (rs.map (·.part k))).progress = .joint (rs.map (·.progressAt k)) := by
  rw [progress_pollAll, List.map_map]
  congr 1
  exact List.map_congr_left fun r _ => progress_poll_part k r

lemma holds_parts (h : ∀ r ∈ rs, (r.progressAt k).Holds) :
    ∀ d ∈ rs.map (·.part k), (poll d).progress.Holds := by
  refine List.forall_mem_map.2 fun r hr => ?_
  rw [progress_poll_part]
  exact h r hr

lemma left_pollAll_parts (h : ∀ r ∈ rs, (r.progressAt k).Holds) :
    (pollAll (rs.map (·.part k))).left = rs.map (·.part (k + 1)) := by
  rw [(pollAll_of_holds (holds_parts h)).1, List.map_map]
  exact List.map_congr_left fun r hr => left_poll_part k r (h r hr)

lemma replies_parts (rs : List Reply) (k : Nat) :
    (rs.map (·.part k)).flatMap (fun d => (poll d).replies) = awaited k rs := by
  rw [List.flatMap_map, Reply.awaited_eq_flatMap]
  congr 1
  funext r
  exact replies_poll_part k r

lemma replies_pollAll_parts (h : ∀ r ∈ rs, (r.progressAt k).Holds) :
    (pollAll (rs.map (·.part k))).replies = awaited k rs := by
  rw [(pollAll_of_holds (holds_parts h)).2, replies_parts]

/-! ## Poll after poll -/

/-- As long as nothing failed and something is pending, the parts of a dispatch stand for its
replies after the polls made so far. -/
lemma after_ofReplies (h : ∀ j < k, Progress.joint (rs.map (·.progressAt j)) = .pending) :
    (ofReplies rs).after k = join (rs.map (·.part k)) := by
  induction k with
  | zero =>
    simp only [Reply.part_zero]
    rfl
  | succ k ih =>
    have hpending : Progress.joint (rs.map (·.progressAt k)) = .pending := h k (Nat.lt_succ_self k)
    -- a poll that finds the whole pending finds no part failed
    have hholds : ∀ r ∈ rs, (r.progressAt k).Holds := by
      refine List.forall_mem_map.1 (Progress.holds_joint_iff.1 ?_)
      rw [hpending]
      exact Progress.holds_pending
    rw [after, ih fun j hj => h j (Nat.lt_succ_of_lt hj),
      left_poll_join_of_pending (by rw [progress_pollAll_parts, hpending]),
      left_pollAll_parts hholds]

/-- A dispatch that ended has nothing left to poll. -/
def Settled (d : Dispatch) : Prop := d = none ∨ ∃ count, d = finished count

lemma settled_left {d : Dispatch} (h : d.poll.progress ≠ .pending) : Settled d.poll.left := by
  cases hp : d.poll.progress with
  | pending => exact absurd hp h
  | resolved count => exact .inr ⟨count, left_poll_of_resolved hp⟩
  | failed message => exact .inl (left_poll_of_failed hp)

lemma Settled.poll {d : Dispatch} (h : Settled d) : d.poll.replies = [] ∧ Settled d.poll.left := by
  rcases h with rfl | ⟨count, rfl⟩
  · exact ⟨rfl, .inr ⟨0, rfl⟩⟩
  · exact ⟨rfl, .inr ⟨count, rfl⟩⟩

lemma Settled.after {d : Dispatch} {n : Nat} (h : Settled (d.after n)) (hk : n ≤ k) :
    Settled (d.after k) := by
  induction k, hk using Nat.le_induction with
  | base => exact h
  | succ k _ ih => exact ih.poll.2

end Dispatch

namespace Ending

variable {rs reached : List Reply} {polls : Nat} {result : Progress}

/-- Before the end no reply has failed. -/
lemma holds (h : Ending rs polls result reached) {k : Nat} (hk : k < polls) :
    ∀ r ∈ rs, (r.progressAt k).Holds := by
  intro x hx
  refine Reply.holds_progressAt fun hfails => ?_
  cases h with
  | resolved hnone => exact absurd (hnone x hx) hfails
  | failed hrs hr hleast hfirst =>
    have := hleast x hx hfails
    omega

/-- Before the end some reply is pending. -/
lemma exists_pending (h : Ending rs polls result reached) {k : Nat} (hk : k < polls) :
    ∃ r ∈ rs, k < r.delay := by
  cases h with
  | resolved hnone =>
    have hpositive : longestDelay rs ≠ 0 := Nat.ne_of_gt (Nat.zero_lt_of_lt hk)
    obtain ⟨r, hr, hdelay⟩ := Reply.exists_delay_eq_longestDelay hpositive
    exact ⟨r, hr, hdelay.symm ▸ hk⟩
  | failed hrs hr hleast hfirst => exact ⟨_, by rw [hrs]; simp, hk⟩

lemma joint_eq_pending (h : Ending rs polls result reached) {k : Nat} (hk : k < polls) :
    Progress.joint (rs.map (·.progressAt k)) = .pending := by
  obtain ⟨r, hr, hdelay⟩ := h.exists_pending hk
  refine Progress.joint_eq_pending (List.forall_mem_map.2 (h.holds hk)) ?_
  exact List.mem_map.2 ⟨r, hr, Reply.progressAt_of_lt hdelay⟩

/-- The poll in which the dispatch ends. -/
lemma pollAll_parts (h : Ending rs polls result reached) :
    (Dispatch.pollAll (rs.map (·.part polls))).progress = result ∧
      (Dispatch.pollAll (rs.map (·.part polls))).replies = awaited polls reached := by
  rw [Dispatch.progress_pollAll_parts]
  cases h with
  | resolved hnone =>
    have hresolved : ∀ r ∈ rs, r.progressAt (longestDelay rs) = .resolved 1 := fun r hr =>
      Reply.progressAt_eq_resolved (Reply.delay_le_longestDelay hr) (hnone r hr)
    constructor
    · rw [Progress.joint_eq_resolved (List.forall_mem_map.2 hresolved), List.length_map]
    · refine Dispatch.replies_pollAll_parts fun r hr => ?_
      rw [hresolved r hr]
      exact Progress.holds_resolved 1
  | @failed before behind r message hrs hr hleast hfirst =>
    have hfailed := Reply.progressAt_of_failure? hr
    have hbefore : ∀ x ∈ before, (x.progressAt r.delay).Holds := fun x hx =>
      Reply.holds_progressAt (hfirst x hx)
    rw [hrs, List.map_append, List.map_append, List.map_cons, List.map_cons, hfailed]
    constructor
    · exact Progress.joint_eq_failed (List.forall_mem_map.2 hbefore) message
    · rw [Dispatch.replies_pollAll_of_failed (Dispatch.holds_parts hbefore)
        ((Dispatch.progress_poll_part _ _).trans hfailed), ← Dispatch.replies_parts]
      simp

lemma result_ne_pending (h : Ending rs polls result reached) : result ≠ .pending := by
  cases h <;> nofun

end Ending

/-- A dispatch is pending for as many polls as its replies tell, and each of these polls all
replies that were pending up to then; the next poll finds the end, going no further than the
first reply that fails; after it nothing is polled any more. -/
theorem Dispatch.completion (rs : List Reply) :
    ∃ polls result reached, Ending rs polls result reached ∧
      (∀ k < polls, ((ofReplies rs).pollAt k).progress = .pending ∧
        ((ofReplies rs).pollAt k).replies = awaited k rs) ∧
      ((ofReplies rs).pollAt polls).progress = result ∧
      ((ofReplies rs).pollAt polls).replies = awaited polls reached ∧
      ∀ k > polls, ((ofReplies rs).pollAt k).replies = [] := by
  obtain ⟨polls, result, reached, h⟩ := exists_ending rs
  -- up to the end each poll can be read off the replies
  have hafter : ∀ k ≤ polls, (ofReplies rs).pollAt k = poll (join (rs.map (·.part k))) := by
    intro k hk
    rw [pollAt, after_ofReplies fun j hj => h.joint_eq_pending (Nat.lt_of_lt_of_le hj hk)]
  obtain ⟨hresult, hreplies⟩ := h.pollAll_parts
  refine ⟨polls, result, reached, h, fun k hk => ⟨?_, ?_⟩, ?_, ?_, fun k hk => ?_⟩
  · rw [hafter k (Nat.le_of_lt hk), progress_poll_join, progress_pollAll_parts,
      h.joint_eq_pending hk]
  · rw [hafter k (Nat.le_of_lt hk), replies_poll_join, replies_pollAll_parts (h.holds hk)]
  · rw [hafter polls (Nat.le_refl polls), progress_poll_join, hresult]
  · rw [hafter polls (Nat.le_refl polls), replies_poll_join, hreplies]
  · have hend : Settled ((ofReplies rs).after (polls + 1)) := by
      have hleft : (ofReplies rs).after (polls + 1) = (poll (join (rs.map (·.part polls)))).left :=
        congrArg Polled.left (hafter polls (Nat.le_refl polls))
      rw [hleft]
      refine settled_left ?_
      rw [progress_poll_join, hresult]
      exact h.result_ne_pending
    exact (hend.after hk).poll.1

/-! ## Polling to the end -/

namespace Dispatch

lemma longest_reply (r : Reply) : (reply r).longest = r.delay := by
  cases r <;> rfl

mutual

/-- A poll takes one off what the slowest part is still pending for. -/
theorem longest_left : ∀ d : Dispatch, d.poll.left.longest ≤ d.longest - 1
  | reply r => by
    rw [poll, longest_reply]
    rcases pollReply_cases r with ⟨-, -, hleft⟩ | ⟨-, -, hleft⟩ | ⟨_, -, hleft⟩
    · rw [hleft, longest_reply, Reply.delay_aged]
    · rw [hleft]
      exact Nat.zero_le _
    · rw [hleft]
      exact Nat.zero_le _
  | finished _ => Nat.zero_le _
  | join parts => by
    have hparts := longestOf_left parts
    cases hp : (pollAll parts).progress with
    | pending =>
      rw [left_poll_join_of_pending hp]
      exact hparts
    | resolved count =>
      rw [left_poll_join_of_resolved hp]
      exact Nat.zero_le _
    | failed message =>
      rw [left_poll_join_of_failed hp]
      exact Nat.zero_le _

theorem longestOf_left : ∀ ds : List Dispatch, longestOf (pollAll ds).left ≤ longestOf ds - 1
  | [] => Nat.zero_le _
  | d :: ds => by
    rcases d.poll.progress.failed_or_holds with ⟨message, hd⟩ | hd
    · rw [pollAll_cons_of_failed hd]
      exact Nat.zero_le _
    · have hfirst := longest_left d
      have hrest := longestOf_left ds
      rw [pollAll_cons_of_holds hd, longestOf, longestOf]
      omega

end

mutual

theorem longest_pos : ∀ d : Dispatch, d.poll.progress = .pending → 0 < d.longest
  | reply r, h => by
    rw [poll] at h
    rw [longest_reply]
    rcases pollReply_cases r with ⟨hdelay, -⟩ | ⟨-, hp, -⟩ | ⟨_, hp, -⟩
    · exact hdelay
    · exact absurd (hp.symm.trans h) nofun
    · exact absurd (hp.symm.trans h) nofun
  | finished _, h => nomatch h
  | join parts, h => longestOf_pos parts (progress_poll_join parts ▸ h)

theorem longestOf_pos : ∀ ds : List Dispatch, (pollAll ds).progress = .pending → 0 < longestOf ds
  | [], h => nomatch h
  | d :: ds, h => by
    rcases d.poll.progress.failed_or_holds with ⟨message, hd⟩ | hd
    · rw [pollAll_cons_of_failed hd] at h
      cases h
    · rw [pollAll_cons_of_holds hd] at h
      rw [longestOf]
      rcases Progress.eq_pending_of_and h with hp | hp
      · have := longest_pos d hp
        omega
      · have := longestOf_pos ds hp
        omega

end

lemma longest_after (d : Dispatch) (k : Nat) : (d.after k).longest ≤ d.longest - k := by
  induction k with
  | zero => exact Nat.le_refl _
  | succ k ih =>
    have := longest_left (d.after k)
    rw [after]
    omega

/-- A dispatch is pending no longer than its slowest part. -/
lemma exists_end (d : Dispatch) : ∃ n ≤ d.longest, (d.pollAt n).progress ≠ .pending ∧
    ∀ k < n, (d.pollAt k).progress = .pending := by
  have hlast : (d.pollAt d.longest).progress ≠ .pending := by
    intro hp
    have hpositive := longest_pos _ hp
    have hleast := longest_after d d.longest
    omega
  classical
  have hends : ∃ n, (d.pollAt n).progress ≠ .pending := ⟨_, hlast⟩
  exact ⟨Nat.find hends, Nat.find_min' hends hlast, Nat.find_spec hends,
    fun k hk => not_not.1 (Nat.find_min hends hk)⟩

lemma after_left (d : Dispatch) (k : Nat) : d.poll.left.after k = d.after (k + 1) := by
  induction k with
  | zero => rfl
  | succ k ih => exact congrArg (fun e => e.poll.left) ih

lemma pollAt_left (d : Dispatch) (k : Nat) : d.poll.left.pollAt k = d.pollAt (k + 1) :=
  congrArg poll (after_left d k)

lemma completeWithin_of_pending {d : Dispatch} (h : d.poll.progress = .pending) (room : Nat) :
    completeWithin (room + 1) d =
      ⟨(completeWithin room d.poll.left).progress, (completeWithin room d.poll.left).polls + 1,
        d.poll.finished ++ (completeWithin room d.poll.left).finished⟩ := by
  rw [completeWithin, h]

lemma completeWithin_of_ended {d : Dispatch} (h : d.poll.progress ≠ .pending) (room : Nat) :
    completeWithin (room + 1) d = ⟨d.poll.progress, 1, d.poll.finished⟩ := by
  rw [completeWithin]
  cases hp : d.poll.progress with
  | pending => exact absurd hp h
  | _ => rfl

lemma completeWithin_eq {d : Dispatch} {n room : Nat}
    (hpending : ∀ k < n, (d.pollAt k).progress = .pending)
    (hend : (d.pollAt n).progress ≠ .pending) (hroom : n < room) :
    completeWithin room d =
      ⟨(d.pollAt n).progress, n + 1,
        (List.range (n + 1)).flatMap fun k => (d.pollAt k).finished⟩ := by
  induction n generalizing d room with
  | zero =>
    obtain ⟨room, rfl⟩ := Nat.exists_eq_add_one.2 hroom
    have hfirst : d.poll.progress ≠ .pending := hend
    rw [completeWithin_of_ended hfirst]
    simp [pollAt, after]
  | succ n ih =>
    obtain ⟨room, rfl⟩ := Nat.exists_eq_add_one.2 (Nat.zero_lt_of_lt hroom)
    -- the polls of what the first one leaves are those that follow the first one
    have hrest : ∀ k < n, (d.poll.left.pollAt k).progress = .pending := fun k hk => by
      rw [pollAt_left]
      exact hpending (k + 1) (Nat.succ_lt_succ hk)
    have hfirst : d.poll.progress = .pending := hpending 0 (Nat.succ_pos n)
    have hfinished : (List.range (n + 1 + 1)).flatMap (fun k => (d.pollAt k).finished) =
        d.poll.finished ++ (List.range (n + 1)).flatMap fun k => (d.pollAt (k + 1)).finished := by
      rw [List.range_succ_eq_map, List.flatMap_cons, List.flatMap_map]
      rfl
    rw [completeWithin_of_pending hfirst,
      ih hrest (by rwa [pollAt_left]) (Nat.lt_of_succ_lt_succ hroom), hfinished]
    simp only [pollAt_left]

/-- Polling to the end takes as many polls as there are up to the end, tells what the last one
finds, and reports all work that was finished on the way. -/
theorem complete_eq (d : Dispatch) : ∃ n,
    (∀ k < n, (d.pollAt k).progress = .pending) ∧ (d.pollAt n).progress ≠ .pending ∧
      d.complete = ⟨(d.pollAt n).progress, n + 1,
        (List.range (n + 1)).flatMap fun k => (d.pollAt k).finished⟩ := by
  obtain ⟨n, hle, hend, hpending⟩ := exists_end d
  exact ⟨n, hpending, hend, completeWithin_eq hpending hend (Nat.lt_succ_of_le hle)⟩

end Dispatch
end ViewKit
