import FormUpload.Log

/-!
# Notifiers

A notifier receives the messages of failed uploads, at most one for each.  What
becomes of a message is its `Notice`: the messages that reach somebody, and the log
records that are written instead or besides.
-/

namespace FormUpload

/-- What became of a message. -/
structure Notice where
  delivered : List String
  logs : List Log.Record
deriving DecidableEq, Repr

/-- Nothing to tell. -/
def Notice.none : Notice := ⟨[], []⟩

/-- Who receives failure messages. -/
inductive Notifier where
  /-- Whoever it is does with a message as `handle` says. -/
  | custom (handle : String → Notice)
  /-- Every message is logged as an error. -/
  | log
  /-- Messages are put into a queue, which may have nobody at its other end. -/
  | channel (receiving : Bool)

namespace Notifier

/-- Every message is handed on. -/
def direct : Notifier := .custom fun message => ⟨[message], []⟩

/-- Hands a message to a notifier. -/
def notify (n : Notifier) (message : String) : Notice :=
  match n with
  | .custom handle => handle message
  | .log => ⟨[], [⟨.error, message⟩]⟩
  | .channel true => ⟨[message], []⟩
  | .channel false => ⟨[], [⟨.warn, "notification dropped, receiver closed: " ++ message⟩]⟩

/-- The notifier after whoever receives from a queue has left. -/
def unattended : Notifier → Notifier
  | .channel _ => .channel false
  | n => n

end Notifier

end FormUpload
