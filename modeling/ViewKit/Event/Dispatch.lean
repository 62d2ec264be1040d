/-
# Completion of handlers

A handler that runs replies at once or leaves work behind, which makes progress only when it
is polled.  A dispatch joins the replies of several handlers, or several dispatches.  One
poll of a dispatch polls every part that is not finished, in order, and stops at the first
one that fails; when all parts are finished it resolves to the number of handlers.
-/
import ViewKit.Fields

namespace ViewKit

/-- How a handler is told from others. -/
abbrev HandlerId := String

/-- The reply of a handler. -/
inductive Reply where
  | done
  | failed (message : String)
  /-- Work of the given handler that is not finished for some more polls; then it succeeds,
  or fails with a message. -/
  | pending (handler : HandlerId) (polls : Nat) (failure : Option String)
deriving DecidableEq

/-- The message for a handler that failed. -/
def Reply.failureMessage (message : String) : String := "event handler failed: " ++ message

/-- The completion of handlers. -/
inductive Dispatch where
  /-- The reply of one handler. -/
  | reply (r : Reply)
  /-- A part in which this many handlers have finished. -/
  | finished (count : Nat)
  /-- Several parts. -/
  | join (parts : List Dispatch)

/-- What one poll finds. -/
inductive Progress where
  | pending
  | resolved (count : Nat)
  | failed (message : String)
deriving DecidableEq

/-- The progress of two parts together; of two failures the first one counts. -/
def Progress.and : Progress → Progress → Progress
  | failed message, _ => failed message
  | _, failed message => failed message
  | resolved m, resolved n => resolved (m + n)
  | _, _ => pending

/-- What comes of one poll: the progress, what is left to poll, and the replies that were
polled, in order and each as it was before. -/
structure Polled (δ : Type) where
  progress : Progress
  left : δ
  replies : List Reply

/-- The handler whose work is finished when its reply is polled. -/
def Reply.finishes? : Reply → Option HandlerId
  | pending handler 0 _ => some handler
  | _ => none

/-- The handlers whose work was finished by a poll, in order. -/
def Polled.finished {δ : Type} (p : Polled δ) : List HandlerId :=
  p.replies.filterMap Reply.finishes?

namespace Dispatch

/-- A dispatch that reached no handler. -/
def none : Dispatch := join []

/-- Several dispatches as one. -/
def all (ds : List Dispatch) : Dispatch := join ds

/-- The dispatch of some replies. -/
def ofReplies (rs : List Reply) : Dispatch := join (rs.map reply)

/-- Polls the reply of one handler.  Nothing is left of a reply that fails. -/
def pollReply (r : Reply) : Polled Dispatch :=
  match r with
  | .done => ⟨.resolved 1, finished 1, [r]⟩
  | .failed message => ⟨.failed message, none, [r]⟩
  | .pending handler (polls + 1) failure =>
    ⟨.pending, reply (.pending handler polls failure), [r]⟩
  | .pending _ 0 failure =>
    match failure with
    | some message => ⟨.failed message, none, [r]⟩
    | Option.none => ⟨.resolved 1, finished 1, [r]⟩

mutual

/-- Polls a dispatch once.  One that fails lets go of all its parts. -/
def poll : Dispatch → Polled Dispatch
  | reply r => pollReply r
  | finished count => ⟨.resolved count, finished count, []⟩
  | join parts =>
    let p := pollAll parts
    match p.progress with
    | .pending => ⟨.pending, join p.left, p.replies⟩
    | .resolved count => ⟨.resolved count, finished count, p.replies⟩
    | .failed message => ⟨.failed message, none, p.replies⟩

/-- Polls parts from left to right up to the first one that fails. -/
def pollAll : List Dispatch → Polled (List Dispatch)
  | [] => ⟨.resolved 0, [], []⟩
  | d :: ds =>
    let first := poll d
    match first.progress with
    | .failed message => ⟨.failed message, [], first.replies⟩
    | progress =>
      let rest := pollAll ds
      ⟨progress.and rest.progress, first.left :: rest.left, first.replies ++ rest.replies⟩

end

mutual

/-- The greatest number of polls for which a part is pending. -/
def longest : Dispatch → Nat
  | reply (.pending _ polls _) => polls
  | reply _ => 0
  | finished _ => 0
  | join parts => longestOf parts

/-- The greatest number of polls for which one of some parts is pending. -/
def longestOf : List Dispatch → Nat
  | [] => 0
  | d :: ds => max (longest d) (longestOf ds)

end

/-- What polling to the end comes to: the progress of the last poll, the number of polls and
the handlers whose work was finished. -/
structure Completion where
  progress : Progress
  polls : Nat
  finished : List HandlerId

/-- Polls until a dispatch resolves or fails, at most `room` times. -/
def completeWithin : Nat → Dispatch → Completion
  | 0, _ => ⟨.pending, 0, []⟩
  | room + 1, d =>
    let p := poll d
    match p.progress with
    | .pending =>
      let next := completeWithin room p.left
      ⟨next.progress, next.polls + 1, p.finished ++ next.finished⟩
    | progress => ⟨progress, 1, p.finished⟩

/-- Polls until a dispatch resolves or fails. -/
def complete (d : Dispatch) : Completion := completeWithin (d.longest + 1) d

end Dispatch
end ViewKit
