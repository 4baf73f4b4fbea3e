/-!
# Announcements

What a browser tells those who watch it, and the mailboxes in which they receive it. A
mailbox that its owner has closed is struck off the list when the next announcement would
have gone into it.
-/

namespace ClassDiagram

/-- A change that those who watch are told of. -/
inductive Announcement where
  /-- There are these assemblies now. -/
  | assemblies (names : List String)
  /-- The assembly that is selected now has these classes. -/
  | classes (names : List String)
  /-- There is no diagram any more. -/
  | noDiagram
  /-- There is this diagram now. -/
  | diagram (text : String)
deriving DecidableEq

/-- The mailbox of someone who watches. -/
structure Mailbox where
  /-- Whether its owner still reads it. -/
  isOpen : Bool := true
  /-- Whether it is still written to. -/
  isListed : Bool := true
  /-- Everything received, the oldest first. -/
  received : List Announcement := []

namespace Mailbox

/-- Puts an announcement into the mailbox. A closed one is struck off the list instead. -/
def deliver (mailbox : Mailbox) (announcement : Announcement) : Mailbox :=
  if !mailbox.isListed then mailbox
  else if mailbox.isOpen then
    { mailbox with received := mailbox.received ++ [announcement] }
  else { mailbox with isListed := false }

/-- The mailbox after its owner has closed it. -/
def close (mailbox : Mailbox) : Mailbox :=
  { mailbox with isOpen := false }

end Mailbox

end ClassDiagram
