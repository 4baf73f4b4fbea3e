/-!
# Clipboards

A clipboard is offered texts and does with them as it likes. What it does may depend on the
texts offered before; whoever offers does not depend on what it does.
-/

namespace ClassDiagram

/-- What a clipboard does with a text that it is offered. -/
inductive Reception where
  | kept
  | discarded
  | refused
deriving DecidableEq

/-- A clipboard. -/
structure Clipboard where
  /-- What it does with a text, given the texts that it was offered before. -/
  receive : List String → String → Reception
  /-- Every text it was offered, the oldest first. -/
  offered : List String := []
  /-- Every text it has kept, the oldest first. -/
  entries : List String := []

namespace Clipboard

/-- The clipboard that discards everything. -/
def discarding : Clipboard where
  receive _ _ := .discarded

/-- The clipboard that keeps everything. -/
def keeping : Clipboard where
  receive _ _ := .kept

/-- The clipboard that refuses everything. -/
def refusing : Clipboard where
  receive _ _ := .refused

/-- Offers a text to the clipboard. -/
def offer (clipboard : Clipboard) (text : String) : Clipboard :=
  { clipboard with
    offered := clipboard.offered ++ [text]
    entries :=
      if clipboard.receive clipboard.offered text = .kept then clipboard.entries ++ [text]
      else clipboard.entries }

end Clipboard

end ClassDiagram
