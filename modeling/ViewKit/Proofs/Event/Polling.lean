/-
# Polling parts

One poll of several parts is put together from the polls of the parts: their progress from
first to last, what is left of them, and the replies that were polled, where the parts behind
one that fails are not polled (`pollAll_append`).

The part that stands for the reply of a handler is known after any number of polls from the
reply and that number (`Reply.part`); one poll leads from a part to the next (`left_poll_part`)
as long as it does not fail.
-/
import Mathlib.Tactic.Lemma
import ViewKit.Event.Dispatch

namespace ViewKit

/-! ## Progress -/

namespace Progress

/-- A part has not failed. -/
def Holds (p : Progress) : Prop := ∀ message, p ≠ failed message

lemma holds_pending : pending.Holds := nofun

lemma holds_resolved (count : Nat) : (resolved count).Holds := nofun

lemma not_holds_failed (message : String) : ¬ (failed message).Holds := fun h => h message rfl

lemma failed_or_holds (p : Progress) : (∃ message, p = failed message) ∨ p.Holds := by
  cases p with
  | failed message => exact .inl ⟨message, rfl⟩
  | _ => exact .inr nofun

@[simp] lemma failed_and (message : String) (p : Progress) :
    (failed message).and p = failed message := rfl

@[simp] lemma resolved_zero_and (p : Progress) : (resolved 0).and p = p := by
  cases p <;> simp [Progress.and]

@[simp] lemma and_resolved_zero (p : Progress) : p.and (resolved 0) = p := by
  cases p <;> simp [Progress.and]

lemma and_assoc (p q r : Progress) : (p.and q).and r = p.and (q.and r) := by
  cases p <;> cases q <;> cases r <;> simp [Progress.and, Nat.add_assoc]

lemma and_failed {p : Progress} (h : p.Holds) (message : String) :
    p.and (failed message) = failed message := by
  cases p with
  | pending => rfl
  | resolved count => rfl
  | failed m => exact absurd h (not_holds_failed m)

lemma holds_and_iff {p q : Progress} : (p.and q).Holds ↔ p.Holds ∧ q.Holds := by
  cases p <;> cases q <;> simp [Progress.and, Holds]

lemma eq_pending_of_and {p q : Progress} (h : p.and q = pending) : p = pending ∨ q = pending := by
  cases p <;> cases q <;> simp_all [Progress.and]

/-- The progress of several parts together. -/
def joint (ps : List Progress) : Progress := ps.foldr Progress.and (resolved 0)

@[simp] lemma joint_nil : joint [] = resolved 0 := rfl

@[simp] lemma joint_cons (p : Progress) (ps : List Progress) :
    joint (p :: ps) = p.and (joint ps) := rfl

lemma joint_append (ps qs : List Progress) : joint (ps ++ qs) = (joint ps).and (joint qs) := by
  induction ps with
  | nil => simp
  | cons p ps ih => rw [List.cons_append, joint_cons, ih, joint_cons, and_assoc]

lemma holds_joint_iff {ps : List Progress} : (joint ps).Holds ↔ ∀ p ∈ ps, p.Holds := by
  induction ps with
  | nil => simp [Holds]
  | cons p ps ih => rw [joint_cons, holds_and_iff, ih, List.forall_mem_cons]

/-- The first part that fails decides. -/
lemma joint_eq_failed {before behind : List Progress} (h : ∀ p ∈ before, p.Holds)
    (message : String) : joint (before ++ failed message :: behind) = failed message := by
  rw [joint_append, joint_cons, failed_and, and_failed (holds_joint_iff.2 h)]

lemma joint_eq_pending {ps : List Progress} (h : ∀ p ∈ ps, p.Holds) (hp : pending ∈ ps) :
    joint ps = pending := by
  have hcases : ∀ q : Progress, q.Holds → pending.and q = pending ∧ q.and pending = pending := by
    intro q hq
    cases q with
    | failed message => exact absurd hq (not_holds_failed message)
    | _ => exact ⟨rfl, rfl⟩
  induction ps with
  | nil => exact absurd hp List.not_mem_nil
  | cons p ps ih =>
    obtain ⟨hfirst, hrest⟩ := List.forall_mem_cons.1 h
    rw [joint_cons]
    rcases List.mem_cons.1 hp with rfl | hp
    · exact (hcases _ (holds_joint_iff.2 hrest)).1
    · rw [ih hrest hp]
      exact (hcases p hfirst).2

lemma joint_eq_resolved {ps : List Progress} (h : ∀ p ∈ ps, p = resolved 1) :
    joint ps = resolved ps.length := by
  induction ps with
  | nil => rfl
  | cons p ps ih =>
    obtain ⟨rfl, hrest⟩ := List.forall_mem_cons.1 h
    rw [joint_cons, ih hrest, List.length_cons, Nat.add_comm]
    rfl

end Progress

/-! ## Several parts -/

/-- What comes of polling some parts and then, unless one of them failed, some others. -/
def Polled.append (p q : Polled (List Dispatch)) : Polled (List Dispatch) :=
  match p.progress with
  | .failed _ => p
  | progress => ⟨progress.and q.progress, p.left ++ q.left, p.replies ++ q.replies⟩

lemma Polled.append_of_failed {p : Polled (List Dispatch)} {message : String}
    (h : p.progress = .failed message) (q : Polled (List Dispatch)) : p.append q = p := by
  rw [append, h]

lemma Polled.append_of_holds {p : Polled (List Dispatch)} (h : p.progress.Holds)
    (q : Polled (List Dispatch)) :
    p.append q = ⟨p.progress.and q.progress, p.left ++ q.left, p.replies ++ q.replies⟩ := by
  rw [append]
  split
  · next message hfailed => exact absurd hfailed (h message)
  · rfl

namespace Dispatch

lemma pollAll_cons_of_failed {d : Dispatch} {message : String}
    (h : (poll d).progress = .failed message) (ds : List Dispatch) :
    pollAll (d :: ds) = ⟨.failed message, [], (poll d).replies⟩ := by
  rw [pollAll, h]

lemma pollAll_cons_of_holds {d : Dispatch} (h : (poll d).progress.Holds) (ds : List Dispatch) :
    pollAll (d :: ds) = ⟨(poll d).progress.and (pollAll ds).progress,
      (poll d).left :: (pollAll ds).left, (poll d).replies ++ (pollAll ds).replies⟩ := by
  rw [pollAll]
  split
  · next message hfailed => exact absurd hfailed (h message)
  · rfl

lemma pollAll_append (ds es : List Dispatch) :
    pollAll (ds ++ es) = (pollAll ds).append (pollAll es) := by
  induction ds with
  | nil =>
    rw [List.nil_append, pollAll, Polled.append_of_holds (Progress.holds_resolved 0)]
    simp
  | cons d ds ih =>
    rw [List.cons_append]
    rcases (poll d).progress.failed_or_holds with ⟨message, hd⟩ | hd
    · rw [pollAll_cons_of_failed hd, pollAll_cons_of_failed hd, Polled.append_of_failed rfl]
    · rw [pollAll_cons_of_holds hd, pollAll_cons_of_holds hd, ih]
      rcases (pollAll ds).progress.failed_or_holds with ⟨message, hds⟩ | hds
      · -- the parts behind the one that fails are not polled on either side
        have hand : (poll d).progress.and (pollAll ds).progress = .failed message := by
          rw [hds, Progress.and_failed hd]
        rw [Polled.append_of_failed hds, hand, Polled.append_of_failed rfl]
      · have hboth := Progress.holds_and_iff.2 ⟨hd, hds⟩
        rw [Polled.append_of_holds hds, Polled.append_of_holds hboth]
        simp [Progress.and_assoc]

/-- The progress of parts that are polled together. -/
lemma progress_pollAll (ds : List Dispatch) :
    (pollAll ds).progress = Progress.joint (ds.map fun d => (poll d).progress) := by
  induction ds with
  | nil => rfl
  | cons d ds ih =>
    rw [List.map_cons, Progress.joint_cons]
    rcases (poll d).progress.failed_or_holds with ⟨message, hd⟩ | hd
    · rw [pollAll_cons_of_failed hd, hd, Progress.failed_and]
    · rw [pollAll_cons_of_holds hd, ih]

/-- Where no part fails each one is polled. -/
lemma pollAll_of_holds {ds : List Dispatch} (h : ∀ d ∈ ds, (poll d).progress.Holds) :
    (pollAll ds).left = ds.map (fun d => (poll d).left) ∧
      (pollAll ds).replies = ds.flatMap fun d => (poll d).replies := by
  induction ds with
  | nil => exact ⟨rfl, rfl⟩
  | cons d ds ih =>
    obtain ⟨hd, hds⟩ := List.forall_mem_cons.1 h
    obtain ⟨hleft, hreplies⟩ := ih hds
    rw [pollAll_cons_of_holds hd, hleft, hreplies]
    exact ⟨rfl, rfl⟩

/-- The parts behind the first one that fails are not polled. -/
lemma replies_pollAll_of_failed {before behind : List Dispatch} {d : Dispatch}
    {message : String} (h : ∀ e ∈ before, (poll e).progress.Holds)
    (hd : (poll d).progress = .failed message) :
    (pollAll (before ++ d :: behind)).replies =
      (before ++ [d]).flatMap fun e => (poll e).replies := by
  have hbefore : (pollAll before).progress.Holds := by
    rw [progress_pollAll, Progress.holds_joint_iff]
    exact List.forall_mem_map.2 h
  rw [pollAll_append, Polled.append_of_holds hbefore, pollAll_cons_of_failed hd,
    (pollAll_of_holds h).2, List.flatMap_append, List.flatMap_singleton]

lemma holds_of_holds_pollAll {ds : List Dispatch} (h : (pollAll ds).progress.Holds) :
    ∀ d ∈ ds, (poll d).progress.Holds := by
  rw [progress_pollAll, Progress.holds_joint_iff] at h
  exact List.forall_mem_map.1 h

/-! ## Joined parts -/

lemma progress_poll_join (parts : List Dispatch) :
    (poll (join parts)).progress = (pollAll parts).progress := by
  rw [poll]
  cases h : (pollAll parts).progress <;> rfl

lemma replies_poll_join (parts : List Dispatch) :
    (poll (join parts)).replies = (pollAll parts).replies := by
  rw [poll]
  cases h : (pollAll parts).progress <;> rfl

lemma left_poll_join_of_pending {parts : List Dispatch}
    (h : (pollAll parts).progress = .pending) :
    (poll (join parts)).left = join (pollAll parts).left := by
  rw [poll, h]

lemma left_poll_join_of_resolved {parts : List Dispatch} {count : Nat}
    (h : (pollAll parts).progress = .resolved count) :
    (poll (join parts)).left = finished count := by
  rw [poll, h]

lemma left_poll_join_of_failed {parts : List Dispatch} {message : String}
    (h : (pollAll parts).progress = .failed message) : (poll (join parts)).left = none := by
  rw [poll, h]

end Dispatch

/-! ## Replies -/

namespace Reply

/-- The number of polls for which a reply is pending. -/
def delay : Reply → Nat
  | pending _ polls _ => polls
  | _ => 0

/-- The message with which a reply fails, at once or later. -/
def failure? : Reply → Option String
  | done => none
  | failed message => some message
  | pending _ _ failure => failure

/-- A reply that was pending for so many polls. -/
def aged (k : Nat) : Reply → Reply
  | pending handler polls failure => pending handler (polls - k) failure
  | r => r

/-- The part that stands for a reply in a dispatch that was polled so many times without
failing. -/
def part (k : Nat) (r : Reply) : Dispatch :=
  if r.delay < k then .finished 1 else .reply (r.aged k)

/-- What the poll that comes after `k` others finds of a reply. -/
def progressAt (k : Nat) (r : Reply) : Progress :=
  if k < r.delay then .pending
  else if r.delay < k then .resolved 1
  else match r.failure? with
    | some message => .failed message
    | none => .resolved 1

variable (k : Nat) (r : Reply)

@[simp] lemma delay_aged : (r.aged k).delay = r.delay - k := by
  cases r <;> simp [aged, delay]

@[simp] lemma failure?_aged : (r.aged k).failure? = r.failure? := by
  cases r <;> rfl

lemma aged_aged : (r.aged k).aged 1 = r.aged (k + 1) := by
  cases r with
  | pending handler polls failure => rw [aged, aged, aged, Nat.sub_sub]
  | _ => rfl

@[simp] lemma part_zero : r.part 0 = .reply r := by
  cases r <;> simp [part, aged]

variable {k r}

lemma part_of_lt (h : r.delay < k) : r.part k = .finished 1 := if_pos h

lemma part_of_le (h : k ≤ r.delay) : r.part k = .reply (r.aged k) := if_neg (Nat.not_lt.2 h)

lemma part_aged (h : k ≤ r.delay) : (r.aged k).part 1 = r.part (k + 1) := by
  rcases Nat.lt_or_eq_of_le h with hlt | rfl
  · rw [part_of_le hlt, part_of_le (by rw [delay_aged]; omega), aged_aged]
  · rw [part_of_lt (Nat.lt_succ_self r.delay), part_of_lt (by rw [delay_aged]; omega)]

lemma progressAt_aged (h : k ≤ r.delay) : (r.aged k).progressAt 0 = r.progressAt k := by
  have hlt : 0 < r.delay - k ↔ k < r.delay := by omega
  simp [progressAt, hlt, Nat.not_lt.2 h]

lemma progressAt_of_lt (h : k < r.delay) : r.progressAt k = .pending := if_pos h

lemma progressAt_of_failure? {message : String} (h : r.failure? = some message) :
    r.progressAt r.delay = .failed message := by
  simp [progressAt, h]

lemma progressAt_eq_resolved (h : r.delay ≤ k) (hr : r.failure? = none) :
    r.progressAt k = .resolved 1 := by
  rw [progressAt, if_neg (Nat.not_lt.2 h), hr]
  split <;> rfl

lemma holds_progressAt (h : r.failure? ≠ none → r.delay ≠ k) : (r.progressAt k).Holds := by
  rcases Nat.lt_trichotomy k r.delay with hlt | rfl | hlt
  · rw [progressAt_of_lt hlt]
    exact Progress.holds_pending
  · have hr : r.failure? = none := by
      cases hr : r.failure? with
      | none => rfl
      | some message => exact absurd rfl (h (by rw [hr]; nofun))
    rw [progressAt_eq_resolved (Nat.le_refl _) hr]
    exact Progress.holds_resolved 1
  · rw [progressAt, if_neg (Nat.lt_asymm hlt), if_pos hlt]
    exact Progress.holds_resolved 1

end Reply

namespace Dispatch

lemma progress_pollReply (r : Reply) : (pollReply r).progress = r.progressAt 0 := by
  cases r with
  | pending handler polls failure => cases polls <;> cases failure <;> rfl
  | _ => rfl

lemma replies_pollReply (r : Reply) : (pollReply r).replies = [r] := by
  cases r with
  | pending handler polls failure => cases polls <;> cases failure <;> rfl
  | _ => rfl

/-- All that one poll of a reply can come to. -/
lemma pollReply_cases (r : Reply) :
    (0 < r.delay ∧ (pollReply r).progress = .pending ∧
        (pollReply r).left = .reply (r.aged 1)) ∨
      (r.delay = 0 ∧ (pollReply r).progress = .resolved 1 ∧
        (pollReply r).left = .finished 1) ∨
      ∃ message, (pollReply r).progress = .failed message ∧ (pollReply r).left = none := by
  cases r with
  | done => exact .inr (.inl ⟨rfl, rfl, rfl⟩)
  | failed message => exact .inr (.inr ⟨message, rfl, rfl⟩)
  | pending handler polls failure =>
    cases polls with
    | succ polls => exact .inl ⟨Nat.succ_pos polls, rfl, rfl⟩
    | zero =>
      cases failure with
      | none => exact .inr (.inl ⟨rfl, rfl, rfl⟩)
      | some message => exact .inr (.inr ⟨message, rfl, rfl⟩)

lemma left_pollReply {r : Reply} (h : (pollReply r).progress.Holds) :
    (pollReply r).left = r.part 1 := by
  rcases pollReply_cases r with ⟨hdelay, -, hleft⟩ | ⟨hdelay, -, hleft⟩ | ⟨message, hp, -⟩
  · rw [hleft, Reply.part_of_le hdelay]
  · rw [hleft, Reply.part_of_lt (Nat.lt_one_iff.2 hdelay)]
  · exact absurd hp (h message)

variable {k : Nat} {r : Reply}

/-- A reply that is finished is not polled. -/
lemma poll_part_of_lt (h : r.delay < k) : poll (r.part k) = ⟨.resolved 1, .finished 1, []⟩ := by
  rw [Reply.part_of_lt h, poll]

lemma poll_part_of_le (h : k ≤ r.delay) : poll (r.part k) = pollReply (r.aged k) := by
  rw [Reply.part_of_le h, poll]

variable (k r)

lemma progress_poll_part : (poll (r.part k)).progress = r.progressAt k := by
  rcases Nat.lt_or_ge r.delay k with h | h
  · rw [poll_part_of_lt h, Reply.progressAt, if_neg (Nat.lt_asymm h), if_pos h]
  · rw [poll_part_of_le h, progress_pollReply, Reply.progressAt_aged h]

lemma replies_poll_part :
    (poll (r.part k)).replies = if k ≤ r.delay then [r.aged k] else [] := by
  split
  · next h => rw [poll_part_of_le h, replies_pollReply]
  · next h => rw [poll_part_of_lt (Nat.not_le.1 h)]

/-- A poll that does not fail leads from the part that stands for a reply to the next one. -/
lemma left_poll_part (h : (r.progressAt k).Holds) : (poll (r.part k)).left = r.part (k + 1) := by
  rcases Nat.lt_or_ge r.delay k with hlt | hle
  · rw [poll_part_of_lt hlt, Reply.part_of_lt (Nat.lt_succ_of_lt hlt)]
  · have hholds : (pollReply (r.aged k)).progress.Holds := by
      rwa [progress_pollReply, Reply.progressAt_aged hle]
    rw [poll_part_of_le hle, left_pollReply hholds, Reply.part_aged hle]

/-! ## The end of a dispatch -/

lemma left_poll_of_resolved {d : Dispatch} {count : Nat} (h : d.poll.progress = .resolved count) :
    d.poll.left = .finished count := by
  cases d with
  | finished n => rw [← Progress.resolved.inj h, poll]
  | join parts => exact left_poll_join_of_resolved (progress_poll_join parts ▸ h)
  | reply r =>
    rw [poll] at h ⊢
    rcases pollReply_cases r with ⟨-, hp, -⟩ | ⟨-, hp, hleft⟩ | ⟨message, hp, -⟩
    · exact absurd (hp.symm.trans h) nofun
    · rw [hleft, Progress.resolved.inj (hp.symm.trans h)]
    · exact absurd (hp.symm.trans h) nofun

lemma left_poll_of_failed {d : Dispatch} {message : String}
    (h : d.poll.progress = .failed message) : d.poll.left = none := by
  cases d with
  | finished n => exact absurd h nofun
  | join parts => exact left_poll_join_of_failed (progress_poll_join parts ▸ h)
  | reply r =>
    rw [poll] at h ⊢
    rcases pollReply_cases r with ⟨-, hp, -⟩ | ⟨-, hp, -⟩ | ⟨_, -, hleft⟩
    · exact absurd (hp.symm.trans h) nofun
    · exact absurd (hp.symm.trans h) nofun
    · exact hleft

/-! ## Poll after poll -/

/-- What is left of a dispatch after so many polls. -/
def after (d : Dispatch) : Nat → Dispatch
  | 0 => d
  | k + 1 => (poll (d.after k)).left

/-- The poll that comes after `k` others. -/
def pollAt (d : Dispatch) (k : Nat) : Polled Dispatch := poll (d.after k)

end Dispatch
end ViewKit
